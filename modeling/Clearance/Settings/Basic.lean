/-!
# Settings

The settings of abilities and of logging, with their defaults.
-/

namespace Clearance

structure AbilityConfig where
  logDecisions : Bool
deriving DecidableEq, Repr

/-- Decisions are not logged. -/
def AbilityConfig.default : AbilityConfig := ⟨false⟩

structure LoggingConfig where
  level : String
  json : Bool
deriving DecidableEq, Repr

/-- Events of level `info` and above are logged as text. -/
def LoggingConfig.default : LoggingConfig := ⟨"info", false⟩

structure AuthConfig where
  ability : AbilityConfig
  logging : LoggingConfig
deriving DecidableEq, Repr

/-- The defaults of all settings. -/
def AuthConfig.default : AuthConfig := ⟨AbilityConfig.default, LoggingConfig.default⟩

end Clearance
