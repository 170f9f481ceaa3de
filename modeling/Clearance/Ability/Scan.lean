import Clearance.Ability.Basic

/-!
# The forward scan

The same answers from a single pass over the rules in their order: every rule that applies
replaces the outcome so far. This is the reading of a rule list that its authors have in mind.
-/

namespace Clearance

namespace Scan

/-- The outcome so far, and the rule it comes from with its index. -/
structure State where
  result : Bool
  remembered : Option (Nat × Rule)
deriving DecidableEq, Repr

def start : State := ⟨false, none⟩

/-- Whether every constrained attribute of a condition has its value on the instance. Without an
instance no condition is met. -/
def conditionMet : Option Condition → Option Subject → Bool
  | none, _ => true
  | some _, none => false
  | some c, some s => Attribute.all.all fun a => (c.get? a).all fun v => s.lookup a = some v

def speaks (action : Action) (t : SubjectType) (instance? : Option Subject) (r : Rule) : Bool :=
  r.subject.covers t && (r.action = .manage || r.action = action) &&
    conditionMet r.condition instance?

def step (action : Action) (t : SubjectType) (instance? : Option Subject) (state : State)
    (r : Rule) (index : Nat) : State :=
  if speaks action t instance? r then ⟨!r.inverted, some (index, r)⟩ else state

/-- The pass over rules, the first of which has the given index. -/
def run (action : Action) (t : SubjectType) (instance? : Option Subject) :
    State → Nat → List Rule → State
  | state, _, [] => state
  | state, index, r :: rest =>
      run action t instance? (step action t instance? state r index) (index + 1) rest

end Scan

def scan (rules : List Rule) (action : Action) (t : SubjectType) (instance? : Option Subject) :
    Scan.State :=
  Scan.run action t instance? Scan.start 0 rules

def Scan.State.decision (state : Scan.State) : Decision :=
  if state.result then .allowed
  else .denied (state.remembered.bind fun (_, r) => r.reason)

end Clearance
