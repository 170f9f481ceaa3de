import Clearance.Ability.Basic

/-!
# Building abilities

Rules are appended one by one and then frozen into an ability. An empty condition constrains
nothing and is dropped, so that it does not keep a rule from applying to bare types.
-/

namespace Clearance

structure AbilityBuilder where
  rules : List Rule
  config : AbilityConfig
deriving DecidableEq, Repr

namespace AbilityBuilder

/-- A builder without rules. -/
def new (config : AbilityConfig) : AbilityBuilder := ⟨[], config⟩

/-- Drops an empty condition. -/
def normalize (condition : Option Condition) : Option Condition :=
  condition.filter fun c => !c.isEmpty

def push (b : AbilityBuilder) (r : Rule) : AbilityBuilder :=
  { b with rules := b.rules ++ [r] }

def allow (b : AbilityBuilder) (action : Action) (subject : SubjectMatcher)
    (condition : Option Condition) : AbilityBuilder :=
  b.push ⟨action, subject, normalize condition, false, none⟩

def deny (b : AbilityBuilder) (action : Action) (subject : SubjectMatcher)
    (condition : Option Condition) : AbilityBuilder :=
  b.push ⟨action, subject, normalize condition, true, none⟩

/-- Changes the last element of a list. -/
def modifyLast {α : Type} (f : α → α) : List α → List α
  | [] => []
  | [x] => [f x]
  | x :: y :: rest => x :: modifyLast f (y :: rest)

/-- Gives the last rule a reason. -/
def because (b : AbilityBuilder) (reason : String) : AbilityBuilder :=
  { b with rules := modifyLast (fun r => { r with reason := some reason }) b.rules }

def size (b : AbilityBuilder) : Nat :=
  b.rules.length

def build (b : AbilityBuilder) (resolver : Resolver) : Ability :=
  ⟨b.rules, resolver, b.config⟩

end AbilityBuilder

end Clearance
