import Clearance.Decoding.Fault

/-!
# Errors of the configuration

Why a configuration could not be put together or put into force.
-/

namespace Clearance

/-- Why a file could not be read as text. -/
inductive ReadFailure where
  | notText
  | directory
  /-- The system refuses to read the file, in its own words. -/
  | refused (reason : String)
deriving DecidableEq, Repr

def ReadFailure.message : ReadFailure → String
  | notText => "stream did not contain valid UTF-8"
  | directory => "Is a directory (os error 21)"
  | refused reason => reason

/-- Why a configuration was not accepted as a whole. -/
inductive Objection where
  | source (text : String)
  | layer (fault : Fault)
  | installed
deriving DecidableEq, Repr

def Objection.message : Objection → String
  | source text => text
  | layer fault => fault.message .json
  | installed =>
      "cannot install tracing subscriber: a global default trace dispatcher has already been set"

/-- Why a configuration could not be put together or put into force. -/
inductive ConfigError where
  | fileRead (path : String) (failure : ReadFailure)
  | tomlSyntax (path : String)
  | tomlFault (path : String) (fault : Fault)
  /-- The value of a setting is refused, for a reason in words. -/
  | invalidValue (key : String) (reason : String)
  | validation (objection : Objection)
deriving DecidableEq, Repr

/-- The wording of an error. TOML files write numbers without exponents. -/
def ConfigError.message : ConfigError → String
  | fileRead path failure => "failed to read config file " ++ path ++ ": " ++ failure.message
  | tomlSyntax path => "TOML parse error in " ++ path
  | tomlFault _ fault => fault.message .plain
  | invalidValue key reason => "invalid value for " ++ key ++ ": " ++ reason
  | validation objection => "validation error: " ++ objection.message

end Clearance
