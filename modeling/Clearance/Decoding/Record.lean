import Clearance.Decoding.Basic

/-!
# Decoding a record

A record is written as a table with a member for each field, or as a list with the fields in their
order. The fields are decoded in the order in which they stand; a member of another name is passed
over. Only then is it a fault that a field is missing.
-/

namespace Clearance

/-- A field of a record: its name, whether it has to be there, and the faults of its value. -/
structure FieldSpec where
  name : String
  required : Bool
  check : Document → Decoded Unit

namespace FieldSpec

def needed {α : Type} (name : String) (decode : Document → Decoded α) : FieldSpec :=
  ⟨name, true, fun d => (decode d).map fun _ => ()⟩

def optional {α : Type} (name : String) (decode : Document → Decoded α) : FieldSpec :=
  ⟨name, false, fun d => (d.asOptional decode).map fun _ => ()⟩

end FieldSpec

namespace Document

/-- Goes through the members of a table; `seen` are the names of the fields so far. -/
def visitMembers (medium : Medium) (specs : List FieldSpec) :
    List String → List (String × Document) → Decoded Unit
  | _, [] => .ok ()
  | seen, (name, d) :: rest =>
      match specs.find? (·.name = name) with
      | none => do
          passOver medium d
          visitMembers medium specs seen rest
      | some spec => do
          if name ∈ seen then throw (.repeatedMember name)
          spec.check d
          visitMembers medium specs (name :: seen) rest

def surplusFault (medium : Medium) (total fields : Nat) : Option Fault :=
  match medium with
  | .memory => some (.wrongLength total .fewerItems)
  | .stored => some (.wrongLength total (.items fields))
  | .json => some .malformed
  | .toml => none

/-- Goes through the items of a list; `index` fields have been dealt with. -/
def visitItems (tooShort : Nat → Fault) (index : Nat) :
    List FieldSpec → List Document → Decoded Unit
  | [], _ => .ok ()
  | spec :: specs, [] =>
      if spec.required then .error (tooShort index) else visitItems tooShort (index + 1) specs []
  | spec :: specs, d :: rest => do
      spec.check d
      visitItems tooShort (index + 1) specs rest

/-- The values of a record's fields by name, once none of them has a fault. -/
def asRecord (name : String) (specs : List FieldSpec) (medium : Medium) :
    Document → Decoded (List (String × Document))
  | table members => do
      visitMembers medium specs [] members
      match specs.find? (fun spec => spec.required && (members.lookup spec.name).isNone) with
      | some spec => throw (.missingMember spec.name)
      | none => return members
  | list items => do
      visitItems (fun index => .wrongLength index (.recordItems name specs.length)) 0 specs items
      match if specs.length < items.length then surplusFault medium items.length specs.length
          else none with
      | some fault => throw fault
      | none => return (specs.map FieldSpec.name).zip items
  | d => .error (d.unexpected (.record name))

def neededField {α : Type} (fields : List (String × Document)) (name : String)
    (decode : Document → Decoded α) : Decoded α :=
  match fields.lookup name with
  | some d => decode d
  | none => .error (.missingMember name)

def optionalField {α : Type} (fields : List (String × Document)) (name : String)
    (decode : Document → Decoded α) : Decoded (Option α) :=
  match fields.lookup name with
  | some d => d.asOptional decode
  | none => .ok none

end Document

end Clearance
