import Clearance.Ability.Policy
import Clearance.Decoding.Record
import Clearance.Document.Json.Writer
import Clearance.Settings.Layer
import Clearance.Vocabulary.Codec

/-!
# Settings as documents

How settings, their layers and the user of a policy are written as documents and read from them.
-/

namespace Clearance

def optionalDocument {α : Type} (document : α → Document) : Option α → Document
  | none => .null
  | some x => document x

namespace AbilityConfig

def document (c : AbilityConfig) : Document :=
  .table [("log_decisions", .bool c.logDecisions)]

def decode : Decoder AbilityConfig := fun medium d => do
  let specs : List FieldSpec := [.needed "log_decisions" Document.asBool]
  let fields ← d.asRecord "AbilityConfig" specs medium
  return ⟨← Document.neededField fields "log_decisions" Document.asBool⟩

end AbilityConfig

namespace LoggingConfig

def document (c : LoggingConfig) : Document :=
  .table [("level", .text c.level), ("json", .bool c.json)]

def decode : Decoder LoggingConfig := fun medium d => do
  let specs : List FieldSpec :=
    [.needed "level" Document.asText, .needed "json" Document.asBool]
  let fields ← d.asRecord "LoggingConfig" specs medium
  return ⟨← Document.neededField fields "level" Document.asText,
    ← Document.neededField fields "json" Document.asBool⟩

end LoggingConfig

namespace AbilityLayer

def document (l : AbilityLayer) : Document :=
  .table [("log_decisions", optionalDocument Document.bool l.logDecisions)]

def decode : Decoder AbilityLayer := fun medium d => do
  let specs : List FieldSpec := [.optional "log_decisions" Document.asBool]
  let fields ← d.asRecord "AbilityConfigLayer" specs medium
  return ⟨← Document.optionalField fields "log_decisions" Document.asBool⟩

end AbilityLayer

namespace LoggingLayer

def document (l : LoggingLayer) : Document :=
  .table [("level", optionalDocument Document.text l.level),
    ("json", optionalDocument Document.bool l.json)]

def decode : Decoder LoggingLayer := fun medium d => do
  let specs : List FieldSpec :=
    [.optional "level" Document.asText, .optional "json" Document.asBool]
  let fields ← d.asRecord "LoggingConfigLayer" specs medium
  return ⟨← Document.optionalField fields "level" Document.asText,
    ← Document.optionalField fields "json" Document.asBool⟩

end LoggingLayer

namespace ConfigLayer

def document (l : ConfigLayer) : Document :=
  .table [("ability", optionalDocument AbilityLayer.document l.ability),
    ("logging", optionalDocument LoggingLayer.document l.logging)]

def text (l : ConfigLayer) : String :=
  l.document.jsonText

def decode : Decoder ConfigLayer := fun medium d => do
  let specs : List FieldSpec :=
    [.optional "ability" (AbilityLayer.decode medium),
      .optional "logging" (LoggingLayer.decode medium)]
  let fields ← d.asRecord "AuthConfigLayer" specs medium
  return ⟨← Document.optionalField fields "ability" (AbilityLayer.decode medium),
    ← Document.optionalField fields "logging" (LoggingLayer.decode medium)⟩

end ConfigLayer

namespace UserContext

def document (u : UserContext) : Document :=
  .table [("user_id", u.userId.document)]

def decode : Decoder UserContext := fun medium d => do
  let specs : List FieldSpec := [.needed "user_id" (Document.asId .user)]
  let fields ← d.asRecord "UserContext" specs medium
  return ⟨← Document.neededField fields "user_id" (Document.asId .user)⟩

end UserContext

end Clearance
