import Clearance.Settings.Error
import Clearance.Settings.Layer

/-!
# Settings in the environment

Three variables of the process. A variable counts as set if it is text and not empty; nothing is
trimmed.
-/

namespace Clearance

/-- The bytes of a variable, if there is one. -/
abbrev Variable := Option ByteArray

def Variable.text? (v : Variable) : Option String :=
  (v.bind String.fromUTF8?).filter fun s => s ≠ ""

structure Environment where
  logDecisions : Variable
  logLevel : Variable
  logJson : Variable

namespace Environment

def empty : Environment := ⟨none, none, none⟩

/-- The name of the variable that says whether decisions are logged. -/
def logDecisionsName : String := "SAAS_AUTH_LOG_DECISIONS"

/-- The name of the variable that holds the directives of the log filter. -/
def logLevelName : String := "SAAS_AUTH_LOG_LEVEL"

/-- The name of the variable that says whether log lines are JSON. -/
def logJsonName : String := "SAAS_AUTH_LOG_JSON"

/-- The truth value of a text: a word in any letter case or a digit. -/
def boolOf? (s : String) : Option Bool :=
  let word := String.ofList (s.toList.map Char.toLower)
  if word = "true" ∨ s = "1" then some true
  else if word = "false" ∨ s = "0" then some false
  else none

/-- Why a text is refused where a truth value is asked for. -/
def notBoolean (s : String) : String :=
  "invalid boolean value '" ++ s ++ "'"

/-- The truth value of a variable, if it is set. -/
def readBool (name : String) (v : Variable) : Except ConfigError (Option Bool) :=
  match v.text? with
  | none => .ok none
  | some s =>
      match boolOf? s with
      | some b => .ok (some b)
      | none => .error (.invalidValue name (notBoolean s))

/-- What the environment says. Both sections are there, whether a variable is set or not. -/
def layer (e : Environment) : Except ConfigError ConfigLayer := do
  let logDecisions ← readBool logDecisionsName e.logDecisions
  let json ← readBool logJsonName e.logJson
  return ⟨some ⟨logDecisions⟩, some ⟨e.logLevel.text?, json⟩⟩

end Environment

end Clearance
