import Clearance.Proofs.Settings.Codec
import Clearance.Proofs.Settings.Environment
import Clearance.Proofs.Settings.Load

/-!
# How loading at startup ends

At startup a file and the environment are read, and each can be wrong in several ways at once. Here
is the order in which that counts: the file before the environment, a file that cannot be read
before one that says nothing sensible, the log of decisions before the form of log lines, and the
directives of the log filter last, whichever of the two they come from. Where nothing is wrong the
environment goes before the file setting by setting.
-/

namespace Clearance

open Decoded

/-! ### The file -/

namespace ConfigFile

/-- What a file says. One that is not there says nothing; one with a text says the layer that the
text is written as in TOML. -/
inductive Says (f : ConfigFile) : ConfigLayer → Prop where
  | absent (content : f.content = .absent) : Says f .empty
  | text {s : String} {d : Document} {l : ConfigLayer} (content : f.content = .bytes s.toUTF8)
      (document : Toml.read s = some d) (layer : l.WrittenAs d) : Says f l

/-- Why a file that is there says nothing: it cannot be read as a text, the text is no TOML, or
there is no layer that it is written as. -/
inductive Fails (f : ConfigFile) : ConfigError → Prop where
  | directory (content : f.content = .directory) : Fails f (.fileRead f.path .directory)
  | refused {reason : String} (content : f.content = .closed reason) :
      Fails f (.fileRead f.path (.refused reason))
  | notText {bytes : ByteArray} (content : f.content = .bytes bytes)
      (noText : ∀ s : String, bytes ≠ s.toUTF8) : Fails f (.fileRead f.path .notText)
  | notToml {s : String} (content : f.content = .bytes s.toUTF8)
      (noDocument : Toml.read s = none) : Fails f (.tomlSyntax f.path)
  | notLayer {s : String} {d : Document} {fault : Fault} (content : f.content = .bytes s.toUTF8)
      (document : Toml.read s = some d) (noLayer : ∀ l : ConfigLayer, ¬ l.WrittenAs d)
      (first : ConfigLayer.decode .toml d = .error fault) : Fails f (.tomlFault f.path fault)

theorem layer_of_text {f : ConfigFile} {s : String} (h : f.content = .bytes s.toUTF8) :
    f.layer = layerOfText f.path s := by
  rw [layer, h]
  simp only [fromUTF8?_eq_some_iff.mpr rfl]

theorem layerOfText_of_read {path s : String} {d : Document} (h : Toml.read s = some d) :
    layerOfText path s = (ConfigLayer.decode .toml d).mapError (.tomlFault path) := by
  rw [layerOfText, h]

theorem Says.layer_eq {f : ConfigFile} {l : ConfigLayer} (h : f.Says l) : f.layer = .ok l := by
  cases h with
  | absent content => rw [layer, content]
  | text content document written =>
    rw [layer_of_text content, layerOfText_of_read document,
      ConfigLayer.decode_eq_ok.mpr written, mapError_ok]

theorem Fails.layer_eq {f : ConfigFile} {fault : ConfigError} (h : f.Fails fault) :
    f.layer = .error fault := by
  cases h with
  | directory content => rw [layer, content]
  | refused content => rw [layer, content]
  | notText content noText =>
    rw [layer, content]
    simp only [fromUTF8?_eq_none_iff.mpr noText]
  | notToml content noDocument => rw [layer_of_text content, layerOfText, noDocument]
  | notLayer content document noLayer first =>
    rw [layer_of_text content, layerOfText_of_read document, first, mapError_error]

/-- A file says something or fails; no state of it is left out. -/
theorem says_or_fails (f : ConfigFile) : (∃ l, f.Says l) ∨ ∃ fault, f.Fails fault := by
  cases content : f.content with
  | absent => exact .inl ⟨_, .absent content⟩
  | directory => exact .inr ⟨_, .directory content⟩
  | closed reason => exact .inr ⟨_, .refused content⟩
  | bytes bytes =>
    cases htext : String.fromUTF8? bytes with
    | none => exact .inr ⟨_, .notText content (fromUTF8?_eq_none_iff.mp htext)⟩
    | some s =>
      obtain rfl := fromUTF8?_eq_some_iff.mp htext
      cases document : Toml.read s with
      | none => exact .inr ⟨_, .notToml content document⟩
      | some d =>
        cases hlayer : ConfigLayer.decode .toml d with
        | ok l => exact .inl ⟨l, .text content document (ConfigLayer.decode_eq_ok.mp hlayer)⟩
        | error fault =>
          refine .inr ⟨_, .notLayer content document (fun l hl => ?_) hlayer⟩
          rw [ConfigLayer.decode_eq_ok.mpr hl] at hlayer
          cases hlayer

theorem layer_eq_ok_iff {f : ConfigFile} {l : ConfigLayer} : f.layer = .ok l ↔ f.Says l := by
  refine ⟨fun h => ?_, Says.layer_eq⟩
  rcases f.says_or_fails with ⟨l', hl'⟩ | ⟨fault, hfault⟩
  · obtain rfl := Except.ok.inj (hl'.layer_eq.symm.trans h)
    exact hl'
  · rw [hfault.layer_eq] at h
    cases h

theorem layer_eq_error_iff {f : ConfigFile} {fault : ConfigError} :
    f.layer = .error fault ↔ f.Fails fault := by
  refine ⟨fun h => ?_, Fails.layer_eq⟩
  rcases f.says_or_fails with ⟨l, hl⟩ | ⟨fault', hfault'⟩
  · rw [hl.layer_eq] at h
    cases h
  · obtain rfl := Except.error.inj (hfault'.layer_eq.symm.trans h)
    exact hfault'

end ConfigFile

/-! ### The file and the environment -/

namespace AuthConfig

open Environment

/-- Each setting is that of the environment if it is set there, else that of the file, else the
default. -/
inductive Settled (f : ConfigFile) (e : Environment) : AuthConfig → Prop where
  | intro {l : ConfigLayer} {log? json? : Option Bool} {level? : Option String}
      (file : f.Says l) (logDecisions : e.logDecisions.Says Spells log?)
      (level : e.logLevel.Says Eq level?) (json : e.logJson.Says Spells json?) :
      Settled f e ⟨⟨(log?.or l.logDecisions?).getD false⟩,
        ⟨(level?.or l.level?).getD "info", (json?.or l.json?).getD false⟩⟩

/-- The ways in which loading ends; what is asked for in one of them rules out those before it. -/
inductive Ends (f : ConfigFile) (e : Environment) : Except ConfigError AuthConfig → Prop where
  | file {fault : ConfigError} (fails : f.Fails fault) : Ends f e (.error fault)
  | logDecisions {l : ConfigLayer} {s : String} (file : f.Says l)
      (bad : IsNoBool e.logDecisions s) :
      Ends f e (.error (.invalidValue "SAAS_AUTH_LOG_DECISIONS" (notBoolean s)))
  | logJson {l : ConfigLayer} {log? : Option Bool} {s : String} (file : f.Says l)
      (logDecisions : e.logDecisions.Says Spells log?) (bad : IsNoBool e.logJson s) :
      Ends f e (.error (.invalidValue "SAAS_AUTH_LOG_JSON" (notBoolean s)))
  | level {c : AuthConfig} {fault : FilterFault} (settled : Settled f e c)
      (rejected : Filter.read c.logging.level = .error fault) :
      Ends f e (.error (.invalidValue "logging.level" fault.message))
  | loaded {c : AuthConfig} {filter : Filter} (settled : Settled f e c)
      (accepted : Filter.read c.logging.level = .ok filter) : Ends f e (.ok c)

/-- The settings of two layers, with defaults for what neither has. -/
def settle (lower upper : ConfigLayer) : AuthConfig :=
  ⟨⟨(upper.logDecisions?.or lower.logDecisions?).getD false⟩,
    ⟨(upper.level?.or lower.level?).getD "info", (upper.json?.or lower.json?).getD false⟩⟩

theorem finalize_merge (lower upper : ConfigLayer) :
    ((ConfigLayer.empty.merge lower).merge upper).finalize = settle lower upper := by
  have hget : ∀ {α : Type} (setting : Setting α),
      setting.get ((ConfigLayer.empty.merge lower).merge upper) =
        (setting.get upper).or (setting.get lower) := by
    intro α setting
    rw [setting.get_merge, setting.get_merge, setting.get_empty, Option.or_none]
  have hlog := hget Setting.logDecisions
  have hlevel := hget Setting.level
  have hjson := hget Setting.json
  simp only [Setting.logDecisions, Setting.level, Setting.json] at hlog hlevel hjson
  rw [ConfigLayer.finalize_eq, settle, hlog, hlevel, hjson]

theorem loadWithFile_eq (f : ConfigFile) (e : Environment) :
    (loadWithFile f e).1 =
      f.layer.bind fun lower => e.layer.bind fun upper =>
        ConfigSource.accept (settle lower upper) := by
  have horder : ConfigSource.inOrder [.defaults, .ofFile f, .ofEnvironment e] =
      [.defaults, .ofFile f, .ofEnvironment e] := rfl
  rw [loadWithFile, ConfigSource.load_eq_bind, horder, ConfigSource.gather_cons,
    ConfigSource.defaults, Except.bind, ConfigSource.gather_cons, ConfigSource.ofFile]
  cases f.layer with
  | error fault => rfl
  | ok lower =>
    rw [Except.bind, ConfigSource.gather_cons, ConfigSource.ofEnvironment]
    cases e.layer with
    | error fault => rfl
    | ok upper =>
      change ofLayer ((ConfigLayer.empty.merge lower).merge upper) = _
      rw [ConfigSource.ofLayer_eq_accept, finalize_merge]
      rfl

/-- Without a file nothing is found out but what the environment says. -/
theorem loadWithFile_absent (path : String) (e : Environment) :
    (loadWithFile ⟨path, .absent⟩ e).1 = (loadFromEnvironment e).1 :=
  ConfigSource.load_congr rfl rfl rfl rfl

theorem settled_iff {f : ConfigFile} {e : Environment} {c : AuthConfig} :
    Settled f e c ↔ ∃ lower upper, f.layer = .ok lower ∧ e.layer = .ok upper ∧
      settle lower upper = c := by
  simp only [ConfigFile.layer_eq_ok_iff, Environment.layer_eq_ok_iff]
  constructor
  · rintro ⟨file, logDecisions, level, json⟩
    exact ⟨_, _, file, ⟨_, _, _, logDecisions, level, json, rfl⟩, rfl⟩
  · rintro ⟨l, _, file, ⟨log?, level?, json?, logDecisions, level, json, rfl⟩, rfl⟩
    exact .intro file logDecisions level json

theorem ends_of_loadWithFile (f : ConfigFile) (e : Environment) :
    Ends f e (loadWithFile f e).1 := by
  rw [loadWithFile_eq]
  cases hfile : f.layer with
  | error fault => exact .file (ConfigFile.layer_eq_error_iff.mp hfile)
  | ok lower =>
    have file := ConfigFile.layer_eq_ok_iff.mp hfile
    cases henvironment : e.layer with
    | error fault =>
      rcases Environment.layer_eq_error_iff.mp henvironment with
        ⟨s, bad, rfl⟩ | ⟨log?, s, logDecisions, bad, rfl⟩
      · exact .logDecisions file bad
      · exact .logJson file logDecisions bad
    | ok upper =>
      have settled : Settled f e (settle lower upper) :=
        settled_iff.mpr ⟨lower, upper, hfile, henvironment, rfl⟩
      change Ends f e (ConfigSource.accept (settle lower upper))
      rw [ConfigSource.accept]
      cases hread : Filter.read (settle lower upper).logging.level with
      | error fault => exact .level settled hread
      | ok filter => exact .loaded settled hread

theorem loadWithFile_of_ends {f : ConfigFile} {e : Environment}
    {result : Except ConfigError AuthConfig} (h : Ends f e result) :
    (loadWithFile f e).1 = result := by
  rw [loadWithFile_eq]
  cases h with
  | file fails => rw [fails.layer_eq, Except.bind]
  | logDecisions file bad =>
    have henvironment := Environment.layer_eq_error_iff.mpr (.inl ⟨_, bad, rfl⟩)
    rw [file.layer_eq, Except.bind, henvironment, Except.bind]
  | logJson file logDecisions bad =>
    have henvironment := Environment.layer_eq_error_iff.mpr (.inr ⟨_, _, logDecisions, bad, rfl⟩)
    rw [file.layer_eq, Except.bind, henvironment, Except.bind]
  | level settled rejected =>
    obtain ⟨lower, upper, hfile, henvironment, rfl⟩ := settled_iff.mp settled
    rw [hfile, Except.bind, henvironment, Except.bind, ConfigSource.accept, rejected]
  | loaded settled accepted =>
    obtain ⟨lower, upper, hfile, henvironment, rfl⟩ := settled_iff.mp settled
    rw [hfile, Except.bind, henvironment, Except.bind, ConfigSource.accept, accepted]

/-- **How loading at startup ends.** Loading from a file and the environment ends in the first of
the ways in which something can be wrong, and else with the settings of the environment over those
of the file; there is no other end. Without a file the environment decides as it does alone. -/
theorem loadWithFile_ending (e : Environment) :
    (∀ f result, (loadWithFile f e).1 = result ↔ Ends f e result) ∧
    ∀ path, (loadFromEnvironment e).1 = (loadWithFile ⟨path, .absent⟩ e).1 := by
  refine ⟨fun f result => ⟨?_, loadWithFile_of_ends⟩, fun path => (loadWithFile_absent path e).symm⟩
  rintro rfl
  exact ends_of_loadWithFile f e

/-- A file that asks for JSON and lets nothing into the log. -/
example :
    (loadWithFile ⟨"auth.toml", .bytes "[logging]\njson = true\nlevel = ''".toUTF8⟩ .empty).1 =
      .ok ⟨⟨false⟩, ⟨"", true⟩⟩ := by
  cbv

/-- A file that is no TOML. -/
example : (loadWithFile ⟨"auth.toml", .bytes "x = ".toUTF8⟩ .empty).1 =
    .error (.tomlSyntax "auth.toml") := by
  cbv

end AuthConfig

end Clearance
