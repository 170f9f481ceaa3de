import Clearance.Number.Binary64

/-!
# Documents

The tree that JSON and TOML texts are read into and that records are written from. Reading a text
never fails: where it stops being well formed the tree holds a `cut`, and decoding reports the
first thing that is wrong, be it a cut or a value of the wrong shape. Documents that were built in
memory have no cuts.
-/

namespace Clearance

/-- What could not be read at a cut. -/
inductive Cut where
  /-- The name of a member, or the mark in front of it; nothing follows. -/
  | key
  /-- A value; nothing follows. -/
  | value
  /-- A value that has an end but no meaning, so that it can be passed over. -/
  | token
deriving DecidableEq, Repr

/-- A document; the members of a table are in the order of the text. -/
inductive Document where
  | null
  | bool (value : Bool)
  | int (value : Int)
  | float (value : Binary64)
  | text (value : String)
  | list (items : List Document)
  | table (members : List (String × Document))
  | cut (place : Cut)
deriving Repr, Inhabited

namespace Document

/-- The value of the first member with a name. -/
def member? (name : String) : Document → Option Document
  | table members => members.lookup name
  | _ => none

mutual

/-- Whether the document can be passed over: no cut that ends the text lies in it. -/
def skippable : Document → Bool
  | cut .token => true
  | cut _ => false
  | list items => skippableItems items
  | table members => skippableMembers members
  | _ => true

def skippableItems : List Document → Bool
  | [] => true
  | d :: rest => skippable d && skippableItems rest

def skippableMembers : List (String × Document) → Bool
  | [] => true
  | (_, d) :: rest => skippable d && skippableMembers rest

end

mutual

/-- Whether the document has no cut and its lists and tables are nested at most `depth` deep. -/
def storable : Nat → Document → Bool
  | _, cut _ => false
  | depth, list items => 0 < depth && storableItems (depth - 1) items
  | depth, table members => 0 < depth && storableMembers (depth - 1) members
  | _, _ => true

def storableItems : Nat → List Document → Bool
  | _, [] => true
  | depth, d :: rest => storable depth d && storableItems depth rest

def storableMembers : Nat → List (String × Document) → Bool
  | _, [] => true
  | depth, (_, d) :: rest => storable depth d && storableMembers depth rest

end

/-- Puts a member in its place in the order of names, unless its name is there already. -/
def insertMember (name : String) (value : Document) :
    List (String × Document) → List (String × Document)
  | [] => [(name, value)]
  | (other, v) :: rest =>
      if name < other then (name, value) :: (other, v) :: rest
      else if name = other then (other, v) :: rest
      else (other, v) :: insertMember name value rest

mutual

/-- The document as a value: the members of a table in the order of their names, and of members
with one name the last. -/
def canonical : Document → Document
  | list items => list (canonicalItems items)
  | table members => table (canonicalMembers members)
  | d => d

def canonicalItems : List Document → List Document
  | [] => []
  | d :: rest => canonical d :: canonicalItems rest

/-- The members as values, in the order of their names. -/
def canonicalMembers : List (String × Document) → List (String × Document)
  | [] => []
  | (name, d) :: rest => insertMember name (canonical d) (canonicalMembers rest)

end

end Document

end Clearance
