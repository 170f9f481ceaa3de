import Clearance.Decoding.Basic

/-!
# Decoding a choice

A value that is one of several named alternatives is written as the name alone, or as a table
whose only member has the name and holds the payload.
-/

namespace Clearance

namespace Document

/-- Decodes the payload of the chosen alternative; `read` is given the name and the payload, if
there is one. -/
def choose {α : Type} (known : List String) (read : String → Option Document → Decoded α)
    (name : String) (payload : Option Document) : Decoded α :=
  if name ∈ known then read name payload else .error (.unknownName name known)

/-- Decodes one of several named alternatives. A text breaks off where anything but one name
stands. -/
def asChoice {α : Type} (known : List String) (read : String → Option Document → Decoded α)
    (medium : Medium) : Document → Decoded α
  | text name => choose known read name none
  | table members =>
      match medium, members with
      | .json, [] => .error .malformed
      | .json, (_, cut .key) :: _ => .error .malformed
      | .json, (name, payload) :: rest => do
          let x ← choose known read name (some payload)
          if rest.isEmpty then return x else throw .malformed
      | _, [(name, payload)] => choose known read name (some payload)
      | _, _ => .error (.wrongValue .table .singleMember)
  | d => if medium = .json then .error .malformed else .error (d.unexpected .name)

/-- The payload of an alternative that has none: nothing or null. -/
def asNothing : Option Document → Decoded Unit
  | none => .ok ()
  | some null => .ok ()
  | some d => .error (d.unexpected .nothing)

def asPayload {α : Type} (decode : Document → Decoded α) : Option Document → Decoded α
  | none => .error (.wrongType .bareName .payload)
  | some d => decode d

/-- Decodes one of several names without payloads, by the table of their meanings. -/
def asName {α : Type} (spellings : List (String × α)) (medium : Medium) (d : Document) :
    Decoded α :=
  let known := spellings.map Prod.fst
  d.asChoice known (fun name payload => do
    asNothing payload
    match spellings.lookup name with
    | some x => return x
    | none => throw (.unknownName name known)) medium

end Document

end Clearance
