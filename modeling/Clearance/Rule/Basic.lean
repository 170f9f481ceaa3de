import Clearance.Rule.Condition

/-!
# Rules

A rule grants or denies an action on the subjects of some types, perhaps only where a condition
holds.
-/

namespace Clearance

inductive SubjectMatcher where
  | all
  | type (type : SubjectType)
  | anyOf (types : List SubjectType)
deriving DecidableEq, Repr

def SubjectMatcher.covers : SubjectMatcher → SubjectType → Bool
  | all, _ => true
  | type t, asked => t = asked
  | anyOf types, asked => types.contains asked

/-- A grant, or a denial if `inverted`. -/
structure Rule where
  action : Action
  subject : SubjectMatcher
  condition : Option Condition
  inverted : Bool
  reason : Option String
deriving DecidableEq, Repr

namespace Rule

/-- Whether a condition that may be missing holds. Where there is no instance there are no
attributes, so that no condition holds, not even an empty one. -/
def conditionHolds : Option Condition → Option Subject → Bool
  | none, _ => true
  | some _, none => false
  | some c, some s => c.holds s

def applies (r : Rule) (a : Action) (t : SubjectType) (instance? : Option Subject) : Bool :=
  r.subject.covers t && r.action.covers a && conditionHolds r.condition instance?

def allows (r : Rule) : Bool :=
  !r.inverted

end Rule

end Clearance
