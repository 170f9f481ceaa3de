import Clearance.Document.Json.Writer
import Clearance.Rule.Basic
import Clearance.Vocabulary.Codec

/-!
# Rules as documents

How matchers, conditions and rules are written for an audit and read back.
-/

namespace Clearance

namespace SubjectMatcher

def document : SubjectMatcher → Document
  | all => .text "all"
  | type t => .table [("type", t.document)]
  | anyOf types => .table [("any_of", .list (types.map SubjectType.document))]

def names : List String := ["all", "type", "any_of"]

def decode : Decoder SubjectMatcher := fun medium =>
  Document.asChoice names (fun name payload =>
    match name with
    | "type" => (Document.asPayload (SubjectType.decode medium) payload).map type
    | "any_of" =>
        (Document.asPayload (Document.asListOf (SubjectType.decode medium)) payload).map anyOf
    | _ => (Document.asNothing payload).map fun _ => all) medium

end SubjectMatcher

namespace Condition

/-- The document of a condition: a member for each constrained attribute. -/
def document (c : Condition) : Document :=
  .table (c.entries.map fun (a, v) => (a.name, v.document))

theorem document_eq (c : Condition) :
    c.document = .table (c.entries.map fun (a, v) => (a.text, v.document)) := by
  simp only [document, Attribute.name_eq_text]

def decodeMembers (medium : Medium) : Condition → List (String × Document) → Decoded Condition
  | c, [] => .ok c
  | _, (_, .cut .key) :: _ => .error .malformed
  | c, (name, d) :: rest =>
      match Attribute.spellings.lookup name with
      | none => .error (.unknownName name (Attribute.spellings.map Prod.fst))
      | some a => do
          let v ← AttrValue.decode medium d
          decodeMembers medium (c.insert a v) rest

def decode : Decoder Condition
  | medium, .table members => decodeMembers medium empty members
  | _, d => .error (d.unexpected .table)

end Condition

namespace Rule

/-- The document of a rule; a missing condition or reason is left out. -/
def document (r : Rule) : Document :=
  .table ([("action", r.action.document), ("subject", r.subject.document)] ++
    (r.condition.map fun c => ("condition", c.document)).toList ++
    [("inverted", .bool r.inverted)] ++
    (r.reason.map fun reason => ("reason", Document.text reason)).toList)

def text (r : Rule) : String :=
  r.document.jsonText

def specs (medium : Medium) : List FieldSpec :=
  [.needed "action" (Action.decode medium), .needed "subject" (SubjectMatcher.decode medium),
    .optional "condition" (Condition.decode medium), .needed "inverted" Document.asBool,
    .optional "reason" Document.asText]

def decode : Decoder Rule := fun medium d => do
  let fields ← d.asRecord "Rule" (specs medium) medium
  return {
    action := ← Document.neededField fields "action" (Action.decode medium)
    subject := ← Document.neededField fields "subject" (SubjectMatcher.decode medium)
    condition := ← Document.optionalField fields "condition" (Condition.decode medium)
    inverted := ← Document.neededField fields "inverted" Document.asBool
    reason := ← Document.optionalField fields "reason" Document.asText }

end Rule

end Clearance
