import Clearance.Subject.Basic

/-!
# Conditions

A condition constrains attributes to values. It holds on a subject that has every constrained
attribute with an equal value.
-/

namespace Clearance

structure Condition where
  id : Option AttrValue
  ownerId : Option AttrValue
  organizationId : Option AttrValue
  authorId : Option AttrValue
deriving DecidableEq, Repr

namespace Condition

/-- The condition that constrains nothing. -/
def empty : Condition := ⟨none, none, none, none⟩

def get? (c : Condition) : Attribute → Option AttrValue
  | .id => c.id
  | .ownerId => c.ownerId
  | .organizationId => c.organizationId
  | .authorId => c.authorId

/-- Constrains an attribute, whatever it was constrained to before. -/
def insert (c : Condition) (a : Attribute) (v : AttrValue) : Condition :=
  match a with
  | .id => { c with id := some v }
  | .ownerId => { c with ownerId := some v }
  | .organizationId => { c with organizationId := some v }
  | .authorId => { c with authorId := some v }

@[simp] theorem get?_empty (a : Attribute) : empty.get? a = none := by
  cases a <;> rfl

@[simp] theorem get?_insert (c : Condition) (a b : Attribute) (v : AttrValue) :
    (c.insert a v).get? b = if a = b then some v else c.get? b := by
  cases a <;> cases b <;> rfl

/-- The condition of a list of constraints; of several for one attribute the last counts. -/
def ofList (constraints : List (Attribute × AttrValue)) : Condition :=
  constraints.foldl (fun c (a, v) => c.insert a v) empty

def entries (c : Condition) : List (Attribute × AttrValue) :=
  Attribute.all.filterMap fun a => (c.get? a).map fun v => (a, v)

/-- Whether nothing is constrained. -/
def isEmpty (c : Condition) : Bool :=
  c.entries.isEmpty

def ownedBy (u : UserId) : Condition :=
  empty.insert .ownerId (.ofId u)

def holds (c : Condition) (s : Subject) : Bool :=
  c.entries.all fun (a, v) => s.lookup a = some v

end Condition

end Clearance
