import Clearance.Document.Json.Writer
import Clearance.Log.Level
import Clearance.Log.Notice
import Clearance.Text.Quoted

/-!
# Log entries

The form in which notices reach the log: a level, the target they come from, a message with
fields, and the span they arise in.
-/

namespace Clearance

inductive FieldValue where
  | shown (text : String)
  | text (text : String)
  | int (value : Int)
  | bool (value : Bool)
deriving DecidableEq, Repr

structure LogSpan where
  level : Level
  target : String
  name : String
  fields : List (String × String)
deriving DecidableEq, Repr

structure LogEntry where
  level : Level
  target : String
  message : String
  fields : List (String × FieldValue)
  span : Option LogSpan
deriving DecidableEq, Repr

def messageField : String := "message"

def LogEntry.fieldNames (e : LogEntry) : List String :=
  messageField :: e.fields.map Prod.fst

def LogSpan.fieldNames (s : LogSpan) : List String :=
  s.fields.map Prod.fst

namespace LogTarget

def policy : String := "saas_auth::policy"

def engine : String := "saas_auth::ability::engine"

def config : String := "saas_auth_config"

def sources : String := "saas_auth_config::sources"

end LogTarget

def indexText : Option Nat → String
  | none => "None"
  | some i => "Some(" ++ natText i ++ ")"

def Notice.entry : Notice → LogEntry
  | builtAbility role user rules =>
      { level := .debug
        target := LogTarget.policy
        message := "built ability"
        fields := [("rules", .int rules)]
        span := some {
          level := .debug
          target := LogTarget.policy
          name := "build_ability"
          fields := [("role", role.text), ("user_id", user.text)] } }
  | decision action type onInstance allowed rule =>
      { level := .debug
        target := LogTarget.engine
        message := "ability decision"
        fields := [("action", .shown action.text), ("subject_type", .shown type.text),
          ("instance", .bool onInstance), ("allowed", .bool allowed),
          ("rule_index", .shown (indexText rule))]
        span := none }
  | loadingSource name =>
      ⟨.debug, LogTarget.config, "loading configuration source", [("source", .text name)], none⟩
  | configurationLoaded c =>
      { level := .info
        target := LogTarget.config
        message := "Auth configuration loaded"
        fields := [("log_decisions", .bool c.ability.logDecisions),
          ("log_level", .shown c.logging.level), ("log_json", .bool c.logging.json)]
        span := none }
  | loadingDefaults => ⟨.debug, LogTarget.sources, "loading defaults", [], none⟩
  | fileNotFound path =>
      ⟨.debug, LogTarget.sources, "config file not found, skipping", [("path", .shown path)], none⟩
  | loadingFile path =>
      ⟨.debug, LogTarget.sources, "loading config file", [("path", .shown path)], none⟩
  | fileParsed => ⟨.trace, LogTarget.sources, "parsed config layer from TOML", [], none⟩
  | loadingEnvironment =>
      ⟨.debug, LogTarget.sources, "loading environment variables", [], none⟩

namespace FieldValue

def document : FieldValue → Document
  | shown s => .text s
  | text s => .text s
  | int n => .int n
  | bool b => .bool b

def lineText : FieldValue → String
  | shown s => s
  | text s => Quoted.text s
  | int n => intText n
  | bool b => if b then "true" else "false"

end FieldValue

namespace LogEntry

def fieldsDocument (e : LogEntry) : Document :=
  .table ((messageField, .text e.message) ::
    e.fields.map fun (name, value) => (name, value.document))

/-- The document of an entry, with the spans around it from the outermost to the innermost. -/
def document (e : LogEntry) : Document :=
  let spans := e.span.toList.map fun s =>
    Document.table [("name", .text s.name),
      ("fields", .table (s.fields.map fun (name, value) => (name, .text value)))]
  .table [("level", .text e.level.text), ("target", .text e.target),
    ("fields", e.fieldsDocument), ("spans", .list spans)]

def jsonLine (e : LogEntry) : Document :=
  let spans := e.span.toList.map fun s =>
    Document.table (("name", .text s.name) :: s.fields.map fun (name, value) => (name, .text value))
  .table ([("level", .text e.level.text), ("fields", e.fieldsDocument),
      ("target", .text e.target)] ++
    (spans.getLast?.map fun s => ("span", s)).toList ++
    (if spans.isEmpty then [] else [("spans", .list spans)]))

/-- Names with values, with blanks between them. -/
def pairsText (pairs : List (String × String)) : String :=
  " ".intercalate (pairs.map fun (name, value) => name ++ "=" ++ value)

def textLine (e : LogEntry) : String :=
  let scope := match e.span with
    | none => ""
    | some s => s.name ++ "\x7b" ++ pairsText s.fields ++ "\x7d: "
  e.level.text ++ " " ++ scope ++ e.target ++ ": " ++
    " ".intercalate (e.message :: e.fields.map fun (name, value) => name ++ "=" ++ value.lineText)

end LogEntry

end Clearance
