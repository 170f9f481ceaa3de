import Clearance.Settings.Basic

/-!
# Layers of settings

What one source says about the settings. A layer may lack a section, and a section may lack a
setting. Layers are laid over one another setting by setting, so that a section of the upper layer
hides nothing that it does not set itself; what no layer sets takes its default.
-/

namespace Clearance

/-- The upper of two settings that may be missing, or the lower where the upper is missing. -/
def override {α : Type} (lower upper : Option α) : Option α :=
  upper.or lower

structure AbilityLayer where
  logDecisions : Option Bool
deriving DecidableEq, Repr

namespace AbilityLayer

def empty : AbilityLayer := ⟨none⟩

def merge (lower upper : AbilityLayer) : AbilityLayer :=
  ⟨override lower.logDecisions upper.logDecisions⟩

/-- The settings, with defaults for those that are missing. -/
def finalize (l : AbilityLayer) : AbilityConfig :=
  ⟨l.logDecisions.getD AbilityConfig.default.logDecisions⟩

end AbilityLayer

structure LoggingLayer where
  level : Option String
  json : Option Bool
deriving DecidableEq, Repr

namespace LoggingLayer

def empty : LoggingLayer := ⟨none, none⟩

def merge (lower upper : LoggingLayer) : LoggingLayer :=
  ⟨override lower.level upper.level, override lower.json upper.json⟩

/-- The settings, with defaults for those that are missing. -/
def finalize (l : LoggingLayer) : LoggingConfig :=
  ⟨l.level.getD LoggingConfig.default.level, l.json.getD LoggingConfig.default.json⟩

end LoggingLayer

structure ConfigLayer where
  ability : Option AbilityLayer
  logging : Option LoggingLayer
deriving DecidableEq, Repr

namespace ConfigLayer

def empty : ConfigLayer := ⟨none, none⟩

def mergeSection {α : Type} (merge : α → α → α) : Option α → Option α → Option α
  | some lower, some upper => some (merge lower upper)
  | some lower, none => some lower
  | none, upper => upper

def merge (lower upper : ConfigLayer) : ConfigLayer where
  ability := mergeSection AbilityLayer.merge lower.ability upper.ability
  logging := mergeSection LoggingLayer.merge lower.logging upper.logging

/-- The settings, with defaults for those that are missing. -/
def finalize (l : ConfigLayer) : AuthConfig where
  ability := (l.ability.getD AbilityLayer.empty).finalize
  logging := (l.logging.getD LoggingLayer.empty).finalize

/-- Whether decisions are logged, as far as the layer says. -/
def logDecisions? (l : ConfigLayer) : Option Bool :=
  l.ability.bind AbilityLayer.logDecisions

/-- The directives of the log filter, as far as the layer says. -/
def level? (l : ConfigLayer) : Option String :=
  l.logging.bind LoggingLayer.level

/-- Whether log lines are JSON, as far as the layer says. -/
def json? (l : ConfigLayer) : Option Bool :=
  l.logging.bind LoggingLayer.json

end ConfigLayer

end Clearance
