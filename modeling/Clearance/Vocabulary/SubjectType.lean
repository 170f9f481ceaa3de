import Clearance.Vocabulary.Action

/-!
# Subject types

The types of resources that rules are declared for, each with the actions that make sense on it.
-/

namespace Clearance

inductive SubjectType where
  | user
  | project
  | organization
  | invite
  | billing
deriving DecidableEq, Repr

namespace SubjectType

/-- The types in order. -/
def all : List SubjectType := [user, project, organization, invite, billing]

theorem mem_all (t : SubjectType) : t ∈ all := by
  cases t <;> decide

def text : SubjectType → String
  | user => "User"
  | project => "Project"
  | organization => "Organization"
  | invite => "Invite"
  | billing => "Billing"

def ofText? (s : String) : Option SubjectType :=
  all.find? fun t => t.text = s

/-- The actions that make sense on a type, the wildcard first. -/
def actions : SubjectType → List Action
  | user => [.manage, .get, .update, .delete]
  | project => [.manage, .get, .create, .update, .delete]
  | organization => [.manage, .update, .delete, .transferOwnership]
  | invite => [.manage, .get, .create, .delete]
  | billing => [.manage, .get, .exportData]

def supports (t : SubjectType) (a : Action) : Bool :=
  t.actions.contains a

def rank : SubjectType → Nat
  | user => 0
  | project => 1
  | organization => 2
  | invite => 3
  | billing => 4

def compare (s t : SubjectType) : Ordering :=
  Ord.compare s.rank t.rank

end SubjectType

end Clearance
