import Clearance.Error
import Clearance.Log.Notice
import Clearance.Rule.Basic

/-!
# Abilities

An ability answers queries against an ordered list of rules. The last rule that applies decides;
where none applies the action is denied. A query is about a bare type or about an instance, whose
type the resolver tells; an error of the resolver is the answer to every query about it.
-/

namespace Clearance

abbrev Resolver := Subject → Except AbilityError SubjectType

/-- The type of an instance is that of its variant. -/
def Resolver.byVariant : Resolver := fun s => .ok s.subjectType

inductive Target where
  | type (type : SubjectType)
  | subject (subject : Subject)
deriving DecidableEq, Repr

def Target.instance? : Target → Option Subject
  | type _ => none
  | subject s => some s

inductive Decision where
  | allowed
  | denied (reason : Option String)
deriving DecidableEq, Repr

namespace Decision

def isAllowed : Decision → Bool
  | allowed => true
  | denied _ => false

def isDenied (d : Decision) : Bool :=
  !d.isAllowed

def reason? : Decision → Option String
  | allowed => none
  | denied reason => reason

end Decision

/-- The index of the last element that satisfies a predicate; later elements are looked at first. -/
def lastIndex? {α : Type} (p : α → Bool) : List α → Option Nat
  | [] => none
  | x :: xs =>
      match lastIndex? p xs with
      | some i => some (i + 1)
      | none => if p x then some 0 else none

structure Ability where
  rules : List Rule
  resolver : Resolver
  config : AbilityConfig

namespace Ability

def typeOf (a : Ability) : Target → Except AbilityError SubjectType
  | .type t => .ok t
  | .subject s => a.resolver s

/-- The index of the last rule that applies. -/
def lastApplicable? (rules : List Rule) (action : Action) (t : SubjectType)
    (instance? : Option Subject) : Option Nat :=
  lastIndex? (fun r => r.applies action t instance?) rules

/-- The type a query is about and the index of the rule that decides it. -/
def find (a : Ability) (action : Action) (target : Target) :
    Except AbilityError (SubjectType × Option Nat) := do
  let t ← a.typeOf target
  return (t, lastApplicable? a.rules action t target.instance?)

/-- The outcome that a rule gives, or the lack of one. -/
def outcome : Option Rule → Decision
  | some r => if r.allows then .allowed else .denied r.reason
  | none => .denied none

def decide (a : Ability) (action : Action) (target : Target) : Except AbilityError Decision := do
  let (_, index) ← a.find action target
  return outcome (index.bind (a.rules[·]?))

def can (a : Ability) (action : Action) (target : Target) : Except AbilityError Bool := do
  return (← a.decide action target).isAllowed

def cannot (a : Ability) (action : Action) (target : Target) : Except AbilityError Bool := do
  return !(← a.can action target)

def relevantRule (a : Ability) (action : Action) (target : Target) :
    Except AbilityError (Option Rule) := do
  let (_, index) ← a.find action target
  return index.bind (a.rules[·]?)

/-- What a decision tells the log: nothing unless decisions are logged, and nothing about a query
that could not be decided. -/
def decisionNotices (a : Ability) (action : Action) (target : Target) : List Notice :=
  match a.find action target with
  | .error _ => []
  | .ok (t, index) =>
      if a.config.logDecisions then
        [.decision action t target.instance?.isSome
          (outcome (index.bind (a.rules[·]?))).isAllowed index]
      else []

end Ability

inductive Question where
  | can
  | cannot
  | decide
  | relevantRule
deriving DecidableEq, Repr

inductive Answer where
  | truth (value : Bool)
  | decision (value : Decision)
  | rule (value : Option Rule)
deriving DecidableEq, Repr

/-- What ends with a result or with the error of the resolver, and tells the log on its way. -/
abbrev Told (α : Type) := ExceptT AbilityError (StateM (List Notice)) α

namespace Ability

/-- Decides a query and tells the log about the decision. -/
def tellDecide (a : Ability) (action : Action) (target : Target) : Told Decision := do
  let decision ← a.decide action target
  modify (· ++ a.decisionNotices action target)
  return decision

def tellCan (a : Ability) (action : Action) (target : Target) : Told Bool := do
  return (← a.tellDecide action target).isAllowed

def tellCannot (a : Ability) (action : Action) (target : Target) : Told Bool := do
  return !(← a.tellCan action target)

/-- Answers a question, and tells the log what arises. -/
def tellAnswer (a : Ability) (q : Question) (action : Action) (target : Target) : Told Answer := do
  match q with
  | .can => return .truth (← a.tellCan action target)
  | .cannot => return .truth (← a.tellCannot action target)
  | .decide => return .decision (← a.tellDecide action target)
  | .relevantRule => return .rule (← a.relevantRule action target)

/-- Answers a question, and gives the notices that arise. -/
def ask (a : Ability) (q : Question) (action : Action) (target : Target) :
    Except AbilityError Answer × List Notice :=
  (a.tellAnswer q action target).run.run []

end Ability

end Clearance
