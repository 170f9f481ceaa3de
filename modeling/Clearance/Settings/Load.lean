import Clearance.Ability.Policy
import Clearance.Log.Filter
import Clearance.Settings.Environment
import Clearance.Settings.File

/-!
# Loading the configuration

The sources of a configuration are read in the order of their precedence, those of one precedence
in the order of the list. Each is laid over those before it, and the first that fails ends the
loading. The configuration is in force only if its log filter can be read.
-/

namespace Clearance

/-- The rank of a source: what stands higher counts more. -/
inductive Precedence where
  | defaults
  | file
  | environment
deriving DecidableEq, Repr

namespace Precedence

/-- The precedences, the lowest first. -/
def all : List Precedence := [defaults, file, environment]

def rank : Precedence → Nat
  | defaults => 10
  | file => 20
  | environment => 50

end Precedence

/-- A source of settings, with what it says or why it fails, and what it tells the log. -/
structure ConfigSource where
  name : String
  precedence : Precedence
  layer : Except ConfigError ConfigLayer
  notices : List Notice

namespace ConfigSource

/-- The source that says nothing, so that defaults remain. -/
def defaults : ConfigSource :=
  ⟨"defaults", .defaults, .ok ConfigLayer.empty, [.loadingDefaults]⟩

/-- A file as a source. -/
def ofFile (f : ConfigFile) : ConfigSource :=
  ⟨"toml-config", .file, f.layer, f.notices⟩

def ofEnvironment (e : Environment) : ConfigSource :=
  ⟨"environment", .environment, e.layer, [.loadingEnvironment]⟩

def fixed (precedence : Precedence) (layer : Except ConfigError ConfigLayer) : ConfigSource :=
  ⟨"fixed", precedence, layer, []⟩

/-- The sources in the order of their precedence, those of one precedence in the order given. -/
def inOrder (sources : List ConfigSource) : List ConfigSource :=
  Precedence.all.flatMap fun p => sources.filter fun s => s.precedence = p

/-- Lays the sources of a list over a layer, one after another, up to the first that fails. -/
def gather : ConfigLayer → List ConfigSource → Except ConfigError ConfigLayer × List Notice
  | layer, [] => (.ok layer, [])
  | layer, s :: rest =>
      match s.layer with
      | .error e => (.error e, .loadingSource s.name :: s.notices)
      | .ok upper =>
          let (result, notices) := gather (layer.merge upper) rest
          (result, .loadingSource s.name :: s.notices ++ notices)

end ConfigSource

namespace LoggingConfig

def levelKey : String := "logging.level"

def filter (c : LoggingConfig) : Except ConfigError Filter :=
  (Filter.read c.level).mapError fun fault => .invalidValue levelKey fault.message

end LoggingConfig

namespace AuthConfig

/-- The configuration of a layer, if its log filter can be read. -/
def ofLayer (layer : ConfigLayer) : Except ConfigError AuthConfig := do
  let config := layer.finalize
  let _ ← config.logging.filter
  return config

/-- Loads the configuration from sources, and gives what that tells the log. -/
def load (sources : List ConfigSource) : Except ConfigError AuthConfig × List Notice :=
  match ConfigSource.gather ConfigLayer.empty (ConfigSource.inOrder sources) with
  | (.error e, notices) => (.error e, notices)
  | (.ok layer, notices) =>
      match ofLayer layer with
      | .error e => (.error e, notices)
      | .ok config => (.ok config, notices ++ [.configurationLoaded config])

/-- Loads the configuration from the defaults, a file and the environment. -/
def loadWithFile (f : ConfigFile) (e : Environment) : Except ConfigError AuthConfig × List Notice :=
  load [.defaults, .ofFile f, .ofEnvironment e]

/-- Loads the configuration from the defaults and the environment. -/
def loadFromEnvironment (e : Environment) : Except ConfigError AuthConfig × List Notice :=
  load [.defaults, .ofEnvironment e]

def registry (c : AuthConfig) : PolicyRegistry :=
  PolicyRegistry.new c.ability

end AuthConfig

end Clearance
