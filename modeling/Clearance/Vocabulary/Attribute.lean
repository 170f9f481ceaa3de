import Clearance.Identity.Id
import Clearance.Number.Integer
import Clearance.Text.Quoted

/-!
# Attributes

The attributes of a resource that conditions constrain, and the values they are compared with. The
kind of a value counts: an identifier never equals the text that spells it.
-/

namespace Clearance

inductive Attribute where
  | id
  | ownerId
  | organizationId
  | authorId
deriving DecidableEq, Repr

namespace Attribute

/-- The attributes in order. -/
def all : List Attribute := [id, ownerId, organizationId, authorId]

theorem mem_all (a : Attribute) : a ∈ all := by
  cases a <;> decide

def text : Attribute → String
  | id => "id"
  | ownerId => "ownerId"
  | organizationId => "organizationId"
  | authorId => "authorId"

def rank : Attribute → Nat
  | id => 0
  | ownerId => 1
  | organizationId => 2
  | authorId => 3

def compare (a b : Attribute) : Ordering :=
  Ord.compare a.rank b.rank

end Attribute

inductive AttrValue where
  | id (value : Uuid)
  | text (value : String)
  | bool (value : Bool)
  | int (value : Integer)
deriving DecidableEq, Repr

namespace AttrValue

def ofId {entity : Entity} (i : Id entity) : AttrValue :=
  id i.uuid

/-- The shown form of a value: only a text stands in quotes. -/
def display : AttrValue → String
  | id u => u.text
  | text s => Quoted.text s
  | bool b => if b then "true" else "false"
  | int n => intText n.val

end AttrValue

end Clearance
