import Clearance.Decoding.Fault
import Clearance.Document.Json.Reader
import Clearance.Identity.Id
import Clearance.Number.Integer

/-!
# Decoding

A decoder takes a document to a value or to the first fault on the way through it. Decoding a
value and decoding the text of a value differ only in what counts as a fault of the text, which
the medium tells.
-/

namespace Clearance

inductive Medium where
  /-- A value in memory: members in the order of their names, each name once. -/
  | memory
  | json
  /-- A part of either that was set aside until the type to decode it as was known. -/
  | stored
  | toml
deriving DecidableEq, Repr

abbrev Decoded (α : Type) := Except Fault α

abbrev Decoder (α : Type) := Medium → Document → Decoded α

namespace Document

def found? : Document → Option Found
  | null => some .null
  | bool b => some (.bool b)
  | int n => some (.int n)
  | float x => some (.float x)
  | text s => some (.text s)
  | list _ => some .list
  | table _ => some .table
  | cut _ => none

/-- The fault of a document that is not what was expected. -/
def unexpected (d : Document) (expected : Expectation) : Fault :=
  match d.found? with
  | some found => .wrongType found expected
  | none => .malformed

def asBool : Document → Decoded Bool
  | bool b => .ok b
  | d => .error (d.unexpected .bool)

def asText : Document → Decoded String
  | text s => .ok s
  | d => .error (d.unexpected .text)

def asInt : Document → Decoded Integer
  | int n =>
      match Integer.ofInt? n with
      | some i => .ok i
      | none => .error (.wrongValue (.int n) .int)
  | d => .error (d.unexpected .int)

def asUuid : Document → Decoded Uuid
  | text s => (Uuid.read s).mapError Fault.uuid
  | d => .error (d.unexpected .uuid)

def asId (entity : Entity) (d : Document) : Decoded (Id entity) :=
  d.asUuid.map Id.mk

def asOptional {α : Type} (decode : Document → Decoded α) : Document → Decoded (Option α)
  | null => .ok none
  | d => (decode d).map some

def asListOf {α : Type} (decode : Document → Decoded α) : Document → Decoded (List α)
  | list items => items.mapM decode
  | d => .error (d.unexpected .list)

/-- Passes over a value that nobody asked for: in a text it has to be well formed. -/
def passOver (medium : Medium) (d : Document) : Decoded Unit :=
  if medium = .json ∧ ¬ d.skippable then .error .malformed else .ok ()

/-- How deep a value that is set aside may be nested inside the one it belongs to. -/
def greatestDepth : Nat := 126

/-- Sets a value aside: in a text it has to be well formed and not nested too deep. -/
def store (medium : Medium) (d : Document) : Decoded Unit :=
  if medium = .json ∧ ¬ d.storable greatestDepth then .error .malformed else .ok ()

end Document

namespace Decoder

def value {α : Type} (decode : Decoder α) (d : Document) : Decoded α :=
  decode .memory d.canonical

def text {α : Type} (decode : Decoder α) (s : String) : Decoded α := do
  let (d, complete) := Json.read s
  let x ← decode .json d
  if complete then return x else throw .malformed

end Decoder

end Clearance
