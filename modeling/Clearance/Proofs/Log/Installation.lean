import Clearance.Log.Installation
import Clearance.Proofs.Settings.Environment
import Clearance.Proofs.Settings.Load

/-!
# One log for a process

A process may try any number of times to install a log, each time with settings and an override of
its own. An attempt fails for its settings where no filter can be read, and that is found out before
anything else; of the others the first installs its log and those after it are too late. So the log
is that of the first attempt with a filter, whatever comes later.
-/

namespace Clearance

namespace InstalledLog

/-! ### The filter of an attempt -/

/-- The override is set to a text that a filter can be read from. -/
def Overrides (given : Variable) (f : Filter) : Prop :=
  ∃ s : String, given = some s.toUTF8 ∧ Filter.read s = .ok f

/-- The filter of an attempt is that of the override, or that of the settings where the override has
none. -/
inductive Chooses (given : Variable) (c : LoggingConfig) : Filter → Prop where
  | override {f : Filter} (reads : Overrides given f) : Chooses given c f
  | settings {f : Filter} (noOverride : ∀ g, ¬ Overrides given g)
      (reads : Filter.read c.level = .ok f) : Chooses given c f

/-- Neither the override nor the settings have a filter; the settings are at fault. -/
structure Rejected (given : Variable) (c : LoggingConfig) (fault : FilterFault) : Prop where
  noOverride : ∀ f, ¬ Overrides given f
  settings : Filter.read c.level = .error fault

variable {given : Variable} {c : LoggingConfig}

theorem toOption_read_eq_some_iff {s : String} {f : Filter} :
    (Filter.read s).toOption = some f ↔ Filter.read s = .ok f := by
  cases Filter.read s <;> simp [Except.toOption]

theorem overrideFilter?_eq_some_iff {f : Filter} :
    overrideFilter? given = some f ↔ Overrides given f := by
  rw [overrideFilter?, Overrides]
  cases given with
  | none => simp
  | some bytes => simp [Option.bind_eq_some_iff, fromUTF8?_eq_some_iff, toOption_read_eq_some_iff]

theorem overrideFilter?_eq_none_iff :
    overrideFilter? given = none ↔ ∀ f, ¬ Overrides given f := by
  simp only [Option.eq_none_iff_forall_ne_some, ne_eq, overrideFilter?_eq_some_iff]

theorem Chooses.chooseFilter_eq {f : Filter} (h : Chooses given c f) :
    chooseFilter given c = .ok f := by
  cases h with
  | override reads => rw [chooseFilter, overrideFilter?_eq_some_iff.mpr reads]
  | settings noOverride reads =>
    rw [chooseFilter, overrideFilter?_eq_none_iff.mpr noOverride]
    simp only [LoggingConfig.filter, reads, Except.mapError]

theorem Rejected.chooseFilter_eq {fault : FilterFault} (h : Rejected given c fault) :
    chooseFilter given c = .error (.invalidValue "logging.level" fault.message) := by
  rw [chooseFilter, overrideFilter?_eq_none_iff.mpr h.noOverride]
  simp only [LoggingConfig.filter, h.settings, Except.mapError, LoggingConfig.levelKey]

/-- An attempt has a filter or is rejected. -/
theorem chooses_or_rejected (given : Variable) (c : LoggingConfig) :
    (∃ f, Chooses given c f) ∨ ∃ fault, Rejected given c fault := by
  cases hoverride : overrideFilter? given with
  | some f => exact .inl ⟨f, .override (overrideFilter?_eq_some_iff.mp hoverride)⟩
  | none =>
    have hnone := overrideFilter?_eq_none_iff.mp hoverride
    cases hread : Filter.read c.level with
    | ok f => exact .inl ⟨f, .settings hnone hread⟩
    | error fault => exact .inr ⟨fault, hnone, hread⟩

/-! ### One attempt -/

theorem install_of_rejected {fault : FilterFault} (h : Rejected given c fault)
    (installed : Option InstalledLog) :
    install installed given c =
      (.error (.invalidValue "logging.level" fault.message), installed) := by
  rw [install, h.chooseFilter_eq]

theorem install_none {f : Filter} (h : Chooses given c f) :
    install none given c = (.ok (), some ⟨f, c.json⟩) := by
  rw [install, h.chooseFilter_eq]

theorem install_some {f : Filter} (h : Chooses given c f) (log : InstalledLog) :
    install (some log) given c = (.error (.validation .installed), some log) := by
  rw [install, h.chooseFilter_eq]

/-- A log that is installed stays as it is. -/
theorem install_some_log (log : InstalledLog) : (install (some log) given c).2 = some log := by
  rcases chooses_or_rejected given c with ⟨f, hf⟩ | ⟨fault, hfault⟩
  · rw [install_some hf]
  · rw [install_of_rejected hfault]

/-! ### Any number of attempts -/

abbrev Attempt := Variable × LoggingConfig

/-- Neither the override nor the settings of an attempt have a filter. -/
def Refused (x : Attempt) : Prop :=
  ∃ fault, Rejected x.1 x.2 fault

/-- The log after some attempts: that of the first that has a filter. -/
inductive Holds (attempts : List Attempt) : Option InstalledLog → Prop where
  | nothing (refused : ∀ x ∈ attempts, Refused x) : Holds attempts none
  | first {before after : List Attempt} {given : Variable} {c : LoggingConfig} {f : Filter}
      (split : attempts = before ++ (given, c) :: after) (refused : ∀ x ∈ before, Refused x)
      (chooses : Chooses given c f) : Holds attempts (some ⟨f, c.json⟩)

/-- How an attempt ends after others. -/
inductive Ends (earlier : List Attempt) (given : Variable) (c : LoggingConfig) :
    Except ConfigError Unit → Prop where
  | rejected {fault : FilterFault} (rejected : Rejected given c fault) :
      Ends earlier given c (.error (.invalidValue "logging.level" fault.message))
  | installed {f : Filter} (chooses : Chooses given c f) (refused : ∀ x ∈ earlier, Refused x) :
      Ends earlier given c (.ok ())
  | tooLate {f g : Filter} {x : Attempt} (chooses : Chooses given c f) (before : x ∈ earlier)
      (taken : Chooses x.1 x.2 g) : Ends earlier given c (.error (.validation .installed))

theorem installAll_cons (installed : Option InstalledLog) (given : Variable) (c : LoggingConfig)
    (rest : List Attempt) :
    installAll installed ((given, c) :: rest) =
      ((install installed given c).1 :: (installAll (install installed given c).2 rest).1,
        (installAll (install installed given c).2 rest).2) :=
  rfl

theorem installAll_append (installed : Option InstalledLog) (xs ys : List Attempt) :
    installAll installed (xs ++ ys) =
      ((installAll installed xs).1 ++ (installAll (installAll installed xs).2 ys).1,
        (installAll (installAll installed xs).2 ys).2) := by
  induction xs generalizing installed with
  | nil => rfl
  | cons x xs ih =>
    obtain ⟨given, c⟩ := x
    rw [List.cons_append, installAll_cons, ih, installAll_cons, List.cons_append]

theorem length_installAll (installed : Option InstalledLog) (attempts : List Attempt) :
    (installAll installed attempts).1.length = attempts.length := by
  induction attempts generalizing installed with
  | nil => rfl
  | cons x rest ih =>
    obtain ⟨given, c⟩ := x
    rw [installAll_cons, List.length_cons, ih, List.length_cons]

theorem installAll_of_refused (installed : Option InstalledLog) {attempts : List Attempt}
    (h : ∀ x ∈ attempts, Refused x) : (installAll installed attempts).2 = installed := by
  induction attempts with
  | nil => rfl
  | cons x rest ih =>
    obtain ⟨given, c⟩ := x
    obtain ⟨⟨fault, hfault⟩, hrest⟩ := List.forall_mem_cons.mp h
    rw [installAll_cons, install_of_rejected hfault]
    exact ih hrest

theorem installAll_some (log : InstalledLog) (attempts : List Attempt) :
    (installAll (some log) attempts).2 = some log := by
  induction attempts with
  | nil => rfl
  | cons x rest ih =>
    obtain ⟨given, c⟩ := x
    rw [installAll_cons, install_some_log]
    exact ih

theorem Holds.installAll_eq {attempts : List Attempt} {log : Option InstalledLog}
    (h : Holds attempts log) : (installAll none attempts).2 = log := by
  cases h with
  | nothing refused => exact installAll_of_refused none refused
  | first split refused chooses =>
    rw [split, installAll_append, installAll_of_refused none refused, installAll_cons,
      install_none chooses]
    exact installAll_some _ _

theorem exists_holds (attempts : List Attempt) : ∃ log, Holds attempts log := by
  induction attempts with
  | nil => exact ⟨none, .nothing (by simp)⟩
  | cons x rest ih =>
    obtain ⟨given, c⟩ := x
    rcases chooses_or_rejected given c with ⟨f, hf⟩ | hrejected
    · exact ⟨_, .first (List.nil_append _).symm (by simp) hf⟩
    · have hrefused : Refused (given, c) := hrejected
      obtain ⟨log, hlog⟩ := ih
      cases hlog with
      | nothing refused => exact ⟨none, .nothing (List.forall_mem_cons.mpr ⟨hrefused, refused⟩)⟩
      | first split refused chooses =>
        exact ⟨_, .first (congrArg (List.cons _) split)
          (List.forall_mem_cons.mpr ⟨hrefused, refused⟩) chooses⟩

theorem holds_iff {attempts : List Attempt} {log : Option InstalledLog} :
    (installAll none attempts).2 = log ↔ Holds attempts log := by
  refine ⟨?_, Holds.installAll_eq⟩
  rintro rfl
  obtain ⟨log, hlog⟩ := exists_holds attempts
  rw [hlog.installAll_eq]
  exact hlog

theorem Ends.result_eq {earlier : List Attempt} {result : Except ConfigError Unit}
    (h : Ends earlier given c result) :
    (install (installAll none earlier).2 given c).1 = result := by
  cases h with
  | rejected rejected => rw [install_of_rejected rejected]
  | installed chooses refused => rw [installAll_of_refused none refused, install_none chooses]
  | tooLate chooses before taken =>
    cases hlog : (installAll none earlier).2 with
    | some log => rw [install_some chooses]
    | none =>
      cases holds_iff.mp hlog with
      | nothing refused =>
        obtain ⟨fault, hfault⟩ := refused _ before
        have := taken.chooseFilter_eq.symm.trans hfault.chooseFilter_eq
        cases this

theorem exists_ends (earlier : List Attempt) (given : Variable) (c : LoggingConfig) :
    ∃ result, Ends earlier given c result := by
  rcases chooses_or_rejected given c with ⟨f, hf⟩ | ⟨fault, hfault⟩
  · obtain ⟨log, hlog⟩ := exists_holds earlier
    cases hlog with
    | nothing refused => exact ⟨_, .installed hf refused⟩
    | @first before after given' c' g split refused chooses =>
      have hmem : (given', c') ∈ earlier := by
        rw [split]
        exact List.mem_append_right _ List.mem_cons_self
      exact ⟨_, .tooLate hf hmem chooses⟩
  · exact ⟨_, .rejected hfault⟩

theorem getElem?_installAll (before after : List Attempt) (given : Variable) (c : LoggingConfig) :
    (installAll none (before ++ (given, c) :: after)).1[before.length]? =
      some (install (installAll none before).2 given c).1 := by
  rw [installAll_append, installAll_cons]
  have hlength : (installAll none before).1.length ≤ before.length :=
    Nat.le_of_eq (length_installAll none before)
  rw [List.getElem?_append_right hlength, length_installAll, Nat.sub_self]
  rfl

theorem ends_iff {before after : List Attempt} {result : Except ConfigError Unit} :
    (installAll none (before ++ (given, c) :: after)).1[before.length]? = some result ↔
      Ends before given c result := by
  rw [getElem?_installAll, Option.some.injEq]
  refine ⟨?_, Ends.result_eq⟩
  rintro rfl
  obtain ⟨result, hresult⟩ := exists_ends before given c
  rw [hresult.result_eq]
  exact hresult

/-! ### What lasts -/

theorem installAll_append_log (xs ys : List Attempt) :
    (installAll none (xs ++ ys)).2 = (installAll none xs).2.or (installAll none ys).2 := by
  rw [installAll_append]
  cases (installAll none xs).2 with
  | none => rfl
  | some log => exact installAll_some log ys

theorem countP_isOk_some (log : InstalledLog) (attempts : List Attempt) :
    (installAll (some log) attempts).1.countP Except.isOk = 0 := by
  induction attempts with
  | nil => rfl
  | cons x rest ih =>
    obtain ⟨given, c⟩ := x
    rw [installAll_cons, install_some_log]
    rcases chooses_or_rejected given c with ⟨f, hf⟩ | ⟨fault, hfault⟩
    · rw [install_some hf]
      exact ih
    · rw [install_of_rejected hfault]
      exact ih

theorem countP_isOk_le_one (attempts : List Attempt) :
    (installAll none attempts).1.countP Except.isOk ≤ 1 := by
  induction attempts with
  | nil => exact Nat.zero_le 1
  | cons x rest ih =>
    obtain ⟨given, c⟩ := x
    rw [installAll_cons]
    rcases chooses_or_rejected given c with ⟨f, hf⟩ | ⟨fault, hfault⟩
    · rw [install_none hf, List.countP_cons_of_pos rfl, countP_isOk_some]
    · rw [install_of_rejected hfault]
      exact ih

/-- A configuration that was loaded has directives that can be read, so that its attempts are never
rejected. -/
theorem install_of_loaded {sources : List ConfigSource} {c : AuthConfig}
    (h : (AuthConfig.load sources).1 = .ok c) (installed : Option InstalledLog) (given : Variable)
    (key reason : String) :
    (install installed given c.logging).1 ≠ .error (.invalidValue key reason) := by
  rcases chooses_or_rejected given c.logging with ⟨f, hf⟩ | ⟨fault, hfault⟩
  · cases installed with
    | none =>
      rw [install_none hf]
      exact fun h => nomatch h
    | some log =>
      rw [install_some hf]
      exact fun h => nomatch h
  · cases ConfigSource.load_iff_loads.mp h with
    | loaded resolves accepted =>
      have := hfault.settings.symm.trans accepted
      cases this

/-- **One log for a process.** After any attempts the log is that of the first that had a filter,
and each attempt ends as it has to after those before it; one that is rejected changes nothing. So
at most one of them succeeds, its log stays, and settings that were loaded are never at fault. -/
theorem installs_once :
    (∀ attempts log, (installAll none attempts).2 = log ↔ Holds attempts log) ∧
    (∀ attempts, (installAll none attempts).1.length = attempts.length) ∧
    (∀ before given c after result,
      (installAll none (before ++ (given, c) :: after)).1[before.length]? = some result ↔
        Ends before given c result) ∧
    (∀ installed given c fault, Rejected given c fault →
      (install installed given c).2 = installed) ∧
    (∀ attempts, (installAll none attempts).1.countP Except.isOk ≤ 1) ∧
    (∀ xs ys, (installAll none (xs ++ ys)).2 =
      (installAll none xs).2.or (installAll none ys).2) ∧
    ∀ sources c, (AuthConfig.load sources).1 = .ok c → ∀ installed given key reason,
      (install installed given c.logging).1 ≠ .error (.invalidValue key reason) := by
  refine ⟨fun _ _ => holds_iff, length_installAll none, fun _ _ _ _ _ => ends_iff, ?_,
    countP_isOk_le_one, installAll_append_log, fun _ _ h => install_of_loaded h⟩
  intro installed given c fault h
  rw [install_of_rejected h]

/-- Directives that cannot be read install nothing; the defaults, which can be loaded, are never at
fault. -/
theorem installs_once_defaults :
    (Rejected none ⟨"]", false⟩ .shape ∧
      ∀ installed, (install installed none ⟨"]", false⟩).2 = installed) ∧
    (AuthConfig.load [.defaults]).1 = .ok .default ∧
      ∀ installed given key reason, (install installed given AuthConfig.default.logging).1 ≠
        .error (.invalidValue key reason) := by
  have hrejected : Rejected none ⟨"]", false⟩ .shape :=
    ⟨by simp [Overrides], by cbv⟩
  have hloaded : (AuthConfig.load [.defaults]).1 = .ok .default := by cbv
  obtain ⟨-, -, -, hnothing, -, -, hnever⟩ := installs_once
  exact ⟨⟨hrejected, fun installed => hnothing installed none _ _ hrejected⟩, hloaded,
    hnever [.defaults] .default hloaded⟩

end InstalledLog

end Clearance
