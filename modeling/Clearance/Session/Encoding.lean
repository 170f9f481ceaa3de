import Clearance.Rule.Codec
import Clearance.Session.Basic
import Clearance.Settings.Codec

/-!
# Sessions from outside

How the resolvers of a session are given, and how decisions and the answers to steps are written.
-/

namespace Clearance

/-- The entry of a table of types for variants that have none of their own. -/
def Resolver.otherwise : String := "*"

/-- The type of an instance is looked up by the name of its variant. An entry without a name says
that the instance has no discriminator; where there is no entry the variant decides. -/
def Resolver.ofTable (table : List (String × Option String)) : Resolver := fun s =>
  match (table.lookup s.subjectType.text).or (table.lookup otherwise) with
  | none => .ok s.subjectType
  | some none => .error .missingDiscriminator
  | some (some name) => SubjectType.parse name

def Decision.document : Decision → Document
  | allowed => .table [("decision", .text "allowed")]
  | denied reason =>
      .table [("decision", .text "denied"), ("reason", optionalDocument Document.text reason)]

def Decision.text (d : Decision) : String :=
  d.document.jsonText

def Verdict.letter : Verdict → Char
  | allowed => 'A'
  | denied => 'D'
  | failed => 'E'

/-- The document of an answer; rules and decisions are shown by their texts. -/
def Answer.document : Answer → Document
  | truth b => .bool b
  | decision d => .text d.text
  | rule r => optionalDocument (fun r => .text r.text) r

/-- The document of the answers to every question about one query. -/
def QueryReport.document (r : QueryReport) : Document :=
  .table [("can", .bool r.can), ("cannot", .bool r.cannot), ("decision", .text r.decision.text),
    ("allowed", .bool r.decision.isAllowed), ("denied", .bool r.decision.isDenied),
    ("reason", optionalDocument Document.text r.decision.reason?),
    ("rule", optionalDocument (fun i : Nat => .int i) r.rule)]

def StepAnswer.document : StepAnswer → Document
  | nothing => .null
  | count n => .int n
  | size n => .table [("len", .int n), ("is_empty", .bool (n = 0))]
  | text s => .text s
  | config c => .text c.document.jsonText
  | rules rs => .list (rs.map fun r => .text r.text)
  | answer a => a.document
  | report r => r.document
  | matrix rows => .list (rows.map fun row => .text (String.ofList (row.map Verdict.letter)))

end Clearance
