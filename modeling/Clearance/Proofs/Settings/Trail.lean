import Clearance.Proofs.Settings.Load
import Clearance.Log.Entry

/-!
# What loading tells the log

Loading announces a source and then loads it, one source after another, and tells at the end that
the configuration is loaded. What is told can be wrong in two ways: a source is announced that is
never loaded, or a configuration that is never in force. The course of a loading says which sources
are loaded and how that ends, by the order of the sources and the failure of single ones; what the
log is told follows the course source by source, and closes with the configuration exactly when
there is one.
-/

namespace Clearance

namespace ConfigSource

/-! ### The course -/

/-- The sources that are loaded, in their order, and what comes of it. A source that fails is the
last one, and its error is the result; else all sources are loaded, and it is left to the log filter
whether the configuration that they resolve to is in force. -/
inductive Course (sources : List ConfigSource) :
    List ConfigSource → Except ConfigError AuthConfig → Prop where
  | failed {before rest : List ConfigSource} {s : ConfigSource} {e : ConfigError}
      (order : Ordered sources (before ++ s :: rest)) (sound : ∀ x ∈ before, x.error? = none)
      (fails : s.error? = some e) : Course sources (before ++ [s]) (.error e)
  | refused {all : List ConfigSource} {c : AuthConfig} {fault : FilterFault}
      (order : Ordered sources all) (resolves : Resolves sources c)
      (rejected : Filter.read c.logging.level = .error fault) :
      Course sources all (.error (.invalidValue "logging.level" fault.message))
  | loaded {all : List ConfigSource} {c : AuthConfig} {filter : Filter}
      (order : Ordered sources all) (resolves : Resolves sources c)
      (accepted : Filter.read c.logging.level = .ok filter) : Course sources all (.ok c)

/-- The sources up to the first that fails, which is one of them. -/
def upToFailure : List ConfigSource → List ConfigSource
  | [] => []
  | s :: rest => if s.error? = none then s :: upToFailure rest else [s]

theorem upToFailure_of_sound {sources : List ConfigSource} (h : ∀ s ∈ sources, s.error? = none) :
    upToFailure sources = sources := by
  induction sources with
  | nil => rfl
  | cons s rest ih =>
    obtain ⟨hs, hrest⟩ := List.forall_mem_cons.mp h
    rw [upToFailure, if_pos hs, ih hrest]

theorem upToFailure_of_fails {before rest : List ConfigSource} {s : ConfigSource} {e : ConfigError}
    (sound : ∀ x ∈ before, x.error? = none) (fails : s.error? = some e) :
    upToFailure (before ++ s :: rest) = before ++ [s] := by
  induction before with
  | nil => rw [List.nil_append, upToFailure, if_neg (by simp [fails]), List.nil_append]
  | cons x before ih =>
    obtain ⟨hx, hbefore⟩ := List.forall_mem_cons.mp sound
    rw [List.cons_append, upToFailure, if_pos hx, ih hbefore, List.cons_append]

theorem exists_course (sources : List ConfigSource) :
    ∃ loaded, Course sources loaded (AuthConfig.load sources).1 := by
  have order : Ordered sources (inOrder sources) := inOrder_eq_iff.mp rfl
  cases hfirst : firstError? sources with
  | some e =>
    obtain ⟨before, s, rest, hsplit, fails, sound⟩ := List.findSome?_eq_some_iff.mp hfirst
    rw [load_eq, hfirst]
    rw [hsplit] at order
    exact ⟨_, .failed order sound fails⟩
  | none =>
    have resolves : Resolves sources (settledConfig sources) := resolves_iff.mpr ⟨hfirst, rfl⟩
    rw [load_eq, hfirst, accept]
    refine ⟨inOrder sources, ?_⟩
    cases hread : Filter.read (settledConfig sources).logging.level with
    | error fault => exact .refused order resolves hread
    | ok filter => exact .loaded order resolves hread

namespace Course

variable {sources loaded : List ConfigSource} {result : Except ConfigError AuthConfig}

theorem loaded_eq (h : Course sources loaded result) :
    loaded = upToFailure (inOrder sources) := by
  have hall : ∀ {all c}, Ordered sources all → Resolves sources c →
      all = upToFailure (inOrder sources) := by
    intro all c order resolves
    rw [inOrder_eq_iff.mpr order]
    refine (upToFailure_of_sound fun s hs => resolves.sound s ?_).symm
    exact order.perm.mem_iff.mp hs
  cases h with
  | failed order sound fails => rw [inOrder_eq_iff.mpr order, upToFailure_of_fails sound fails]
  | refused order resolves rejected => exact hall order resolves
  | loaded order resolves accepted => exact hall order resolves

theorem result_eq (h : Course sources loaded result) : (AuthConfig.load sources).1 = result := by
  cases h with
  | @failed before rest s e order sound fails =>
    have hfirst : firstError? sources = some e := by
      rw [firstError?, inOrder_eq_iff.mpr order]
      exact List.findSome?_eq_some_iff.mpr ⟨_, _, _, rfl, fails, sound⟩
    rw [load_eq, hfirst]
  | refused order resolves rejected => exact load_iff_loads.mpr (.refused resolves rejected)
  | loaded order resolves accepted => exact load_iff_loads.mpr (.loaded resolves accepted)

/-- No source is loaded more often than it stands in the list. -/
theorem subperm (h : Course sources loaded result) : loaded.Subperm sources := by
  cases h with
  | failed order sound fails =>
    refine List.Subperm.trans ?_ order.perm.subperm
    exact ((List.singleton_sublist.mpr List.mem_cons_self).append_left _).subperm
  | refused order resolves rejected => exact order.perm.subperm
  | loaded order resolves accepted => exact order.perm.subperm

end Course

/-! ### What is told -/

/-- A source is announced; then comes what loading it tells. -/
def told (s : ConfigSource) : List Notice :=
  .loadingSource s.name :: s.notices

/-- The configuration is told if there is one. -/
def closing : Except ConfigError AuthConfig → List Notice
  | .ok c => [.configurationLoaded c]
  | .error _ => []

theorem gather_notices (layer : ConfigLayer) (sources : List ConfigSource) :
    (gather layer sources).2 = (upToFailure sources).flatMap told := by
  induction sources generalizing layer with
  | nil => rfl
  | cons s rest ih =>
    cases h : s.layer with
    | error e => simp [gather, upToFailure, told, error?, h]
    | ok upper => simp [gather, upToFailure, told, error?, h, ih]

theorem load_notices (sources : List ConfigSource) :
    (AuthConfig.load sources).2 =
      (upToFailure (inOrder sources)).flatMap told ++ closing (AuthConfig.load sources).1 := by
  have hgather := gather_notices ConfigLayer.empty (inOrder sources)
  rw [AuthConfig.load]
  generalize gather ConfigLayer.empty (inOrder sources) = gathered at hgather ⊢
  obtain ⟨e | layer, notices⟩ := gathered
  · simpa [closing] using hgather
  · cases h : AuthConfig.ofLayer layer <;> simpa [closing, h] using hgather

/-! ### What loading itself tells -/

/-- The entry that announces a source. -/
def announcement (s : ConfigSource) : LogEntry :=
  ⟨.debug, LogTarget.config, "loading configuration source", [("source", .text s.name)], none⟩

/-- The entry that tells which configuration is loaded. -/
def report (c : AuthConfig) : LogEntry where
  level := .info
  target := LogTarget.config
  message := "Auth configuration loaded"
  fields := [("log_decisions", .bool c.ability.logDecisions),
    ("log_level", .shown c.logging.level), ("log_json", .bool c.logging.json)]
  span := none

/-- What loading the source tells does not stand under the target of loading itself. -/
def SpeaksForItself (s : ConfigSource) : Prop :=
  ∀ n ∈ s.notices, n.entry.target ≠ LogTarget.config

theorem speaksForItself_defaults : defaults.SpeaksForItself := by
  simp [SpeaksForItself, defaults, Notice.entry, LogTarget.sources, LogTarget.config]

theorem speaksForItself_ofFile (f : ConfigFile) : (ofFile f).SpeaksForItself := by
  simp only [SpeaksForItself, ofFile, ConfigFile.notices]
  cases f.content <;> cases f.layer <;>
    simp [Notice.entry, LogTarget.sources, LogTarget.config]

theorem speaksForItself_ofEnvironment (e : Environment) : (ofEnvironment e).SpeaksForItself := by
  simp [SpeaksForItself, ofEnvironment, Notice.entry, LogTarget.sources, LogTarget.config]

theorem speaksForItself_fixed (p : Precedence) (layer : Except ConfigError ConfigLayer) :
    (fixed p layer).SpeaksForItself := by
  simp [SpeaksForItself, fixed]

/-- The entries under the target of loading itself. -/
def ownEntries (notices : List Notice) : List LogEntry :=
  (notices.map Notice.entry).filter (·.target = LogTarget.config)

theorem ownEntries_append (xs ys : List Notice) :
    ownEntries (xs ++ ys) = ownEntries xs ++ ownEntries ys := by
  rw [ownEntries, List.map_append, List.filter_append]
  rfl

theorem ownEntries_told {s : ConfigSource} (h : s.SpeaksForItself) :
    ownEntries s.told = [announcement s] := by
  have hrest : (s.notices.map Notice.entry).filter (·.target = LogTarget.config) = [] := by
    simpa [List.filter_eq_nil_iff, SpeaksForItself] using h
  rw [ownEntries, told, List.map_cons, List.filter_cons_of_pos (by rfl), hrest]
  rfl

theorem ownEntries_flatMap_told {sources : List ConfigSource}
    (h : ∀ s ∈ sources, s.SpeaksForItself) :
    ownEntries (sources.flatMap told) = sources.map announcement := by
  induction sources with
  | nil => rfl
  | cons s rest ih =>
    obtain ⟨hs, hrest⟩ := List.forall_mem_cons.mp h
    rw [List.flatMap_cons, ownEntries_append, ownEntries_told hs, ih hrest]
    rfl

theorem ownEntries_closing (result : Except ConfigError AuthConfig) :
    ownEntries (closing result) = result.toOption.toList.map report := by
  cases result <;> rfl

/-- **What loading tells the log.** Loading takes one course. It loads the sources by precedence, in
the order of the list where that is equal, up to the first that fails, and none more often than it
stands in the list. Each is announced before what loading it tells, and at the end the log is told
of the configuration exactly when there is one, so not where its directives cannot be read. Where
what the sources tell has targets of its own, which holds of every kind of source, loading itself
tells of the sources loaded and of that configuration, and of nothing else. -/
theorem loading_told (sources : List ConfigSource) :
    ∃ loaded,
      (∀ taken result, Course sources taken result ↔
        taken = loaded ∧ result = (AuthConfig.load sources).1) ∧
      loaded.Subperm sources ∧
      (AuthConfig.load sources).2 = loaded.flatMap told ++ closing (AuthConfig.load sources).1 ∧
      ((∀ s ∈ sources, s.SpeaksForItself) →
        ownEntries (AuthConfig.load sources).2 =
          loaded.map announcement ++ (AuthConfig.load sources).1.toOption.toList.map report) := by
  obtain ⟨loaded, hcourse⟩ := exists_course sources
  have hnotices : (AuthConfig.load sources).2 =
      loaded.flatMap told ++ closing (AuthConfig.load sources).1 := by
    rw [load_notices, hcourse.loaded_eq]
  refine ⟨loaded, fun taken result => ⟨fun h => ?_, ?_⟩, hcourse.subperm, hnotices,
    fun hspeaks => ?_⟩
  · exact ⟨h.loaded_eq.trans hcourse.loaded_eq.symm, h.result_eq.symm⟩
  · rintro ⟨rfl, rfl⟩
    exact hcourse
  · have hloaded : ∀ s ∈ loaded, s.SpeaksForItself := fun s hs =>
      hspeaks s (hcourse.subperm.subset hs)
    rw [hnotices, ownEntries_append, ownEntries_flatMap_told hloaded, ownEntries_closing]

/-- A file that cannot be read stands twice in the list and is loaded once; the environment is
stronger and stands in front, but it is not loaded at all. -/
theorem loading_told_unreadable_file :
    let file := ofFile ⟨"auth.toml", .directory⟩
    let environment := fixed .environment (.ok ⟨none, some ⟨some "debug", none⟩⟩)
    let sources := [environment, file, defaults, file]
    (∀ s ∈ sources, s.SpeaksForItself) ∧
      ownEntries (AuthConfig.load sources).2 = [announcement defaults, announcement file] := by
  intro file environment sources
  have hspeaks : ∀ s ∈ sources, s.SpeaksForItself := by
    simp only [sources, List.forall_mem_cons]
    exact ⟨speaksForItself_fixed _ _, speaksForItself_ofFile _, speaksForItself_defaults,
      speaksForItself_ofFile _, by simp⟩
  have order : Ordered sources ([defaults] ++ file :: [file, environment]) :=
    inOrder_eq_iff.mp rfl
  have course : Course sources ([defaults] ++ [file]) (.error (.fileRead "auth.toml" .directory)) :=
    .failed order (by simp [error?, defaults]) rfl
  obtain ⟨loaded, hcourse, -, -, hown⟩ := loading_told sources
  obtain ⟨rfl, hresult⟩ := (hcourse _ _).mp course
  refine ⟨hspeaks, ?_⟩
  rw [hown hspeaks, ← hresult]
  rfl

end ConfigSource

end Clearance
