import Clearance.Proofs.Settings.Layer
import Clearance.Proofs.Settings.Order
import Mathlib.Data.List.Basic

/-!
# What loading comes to

Loading sorts sources, lays layers over one another and stops at the first failure. None of that is
in what it comes to: the weakest source that fails, if any does, and else for every setting by
itself the strongest source that has it. `gather_error_iff` and `gather_settings` follow the loop;
all else is read off the four things that the loop finds.
-/

namespace Clearance

namespace ConfigSource

/-! ### The loop -/

/-- Why a source fails, if it does. -/
def error? (s : ConfigSource) : Option ConfigError :=
  match s.layer with
  | .error e => some e
  | .ok _ => none

/-- What a source says about a setting. -/
def setting? {α : Type} (get : ConfigLayer → Option α) (s : ConfigSource) : Option α :=
  s.layer.toOption.bind get

theorem gather_cons (layer : ConfigLayer) (s : ConfigSource) (rest : List ConfigSource) :
    (gather layer (s :: rest)).1 =
      s.layer.bind fun upper => (gather (layer.merge upper) rest).1 := by
  rw [gather]
  cases s.layer <;> rfl

theorem gather_error_iff (layer : ConfigLayer) (sources : List ConfigSource) (e : ConfigError) :
    (gather layer sources).1 = .error e ↔ sources.findSome? error? = some e := by
  induction sources generalizing layer with
  | nil => simp [gather]
  | cons s rest ih =>
    cases h : s.layer with
    | error e' => simp [gather, error?, h]
    | ok upper =>
      have hnone : s.error? = none := by rw [error?, h]
      rw [gather, h, List.findSome?_cons, hnone]
      exact ih (layer.merge upper)

/-- Where no source fails, every setting of what is gathered is that of the last source that has it,
or else that of the layer at the start. -/
theorem gather_settings (layer : ConfigLayer) (sources : List ConfigSource)
    (h : sources.findSome? error? = none) :
    ∃ merged, (gather layer sources).1 = .ok merged ∧ ∀ {α : Type} (setting : Setting α),
      setting.get merged =
        (sources.reverse.findSome? (setting? setting.get)).or (setting.get layer) := by
  induction sources generalizing layer with
  | nil => exact ⟨layer, rfl, fun setting => by simp⟩
  | cons s rest ih =>
    cases hs : s.layer with
    | error e => simp [error?, hs] at h
    | ok upper =>
      have hrest : rest.findSome? error? = none := by simpa [error?, hs] using h
      obtain ⟨merged, hmerged, hsettings⟩ := ih (layer.merge upper) hrest
      refine ⟨merged, by rw [gather, hs]; exact hmerged, fun setting => ?_⟩
      have hown : setting? setting.get s = setting.get upper := by
        rw [setting?, hs]
        rfl
      rw [hsettings, setting.get_merge, List.reverse_cons, List.findSome?_append,
        List.findSome?_singleton, hown, Option.or_assoc]

/-! ### The four findings -/

/-- The error that ends the loading, if any does. -/
def firstError? (sources : List ConfigSource) : Option ConfigError :=
  (inOrder sources).findSome? error?

/-- A setting as the sources leave it. -/
def settled? {α : Type} (get : ConfigLayer → Option α) (sources : List ConfigSource) : Option α :=
  (inOrder sources).reverse.findSome? (setting? get)

/-- The configuration that the sources leave, with defaults for what none of them says. -/
def settledConfig (sources : List ConfigSource) : AuthConfig :=
  ⟨⟨(settled? ConfigLayer.logDecisions? sources).getD false⟩,
    ⟨(settled? ConfigLayer.level? sources).getD "info",
      (settled? ConfigLayer.json? sources).getD false⟩⟩

/-- A configuration if its log filter can be read. -/
def accept (c : AuthConfig) : Except ConfigError AuthConfig :=
  match Filter.read c.logging.level with
  | .error fault => .error (.invalidValue "logging.level" fault.message)
  | .ok _ => .ok c

theorem ofLayer_eq_accept (layer : ConfigLayer) :
    AuthConfig.ofLayer layer = accept layer.finalize := by
  rw [AuthConfig.ofLayer, accept, LoggingConfig.filter]
  cases Filter.read layer.finalize.logging.level <;> rfl

theorem load_eq_bind (sources : List ConfigSource) :
    (AuthConfig.load sources).1 =
      (gather ConfigLayer.empty (inOrder sources)).1.bind AuthConfig.ofLayer := by
  rw [AuthConfig.load]
  rcases gather ConfigLayer.empty (inOrder sources) with ⟨e | layer, notices⟩
  · rfl
  · cases h : AuthConfig.ofLayer layer <;> simp [Except.bind, h]

theorem load_eq (sources : List ConfigSource) :
    (AuthConfig.load sources).1 =
      match firstError? sources with
      | some e => .error e
      | none => accept (settledConfig sources) := by
  rw [load_eq_bind]
  cases h : firstError? sources with
  | some e =>
    rw [(gather_error_iff ConfigLayer.empty (inOrder sources) e).mpr h]
    rfl
  | none =>
    obtain ⟨merged, hmerged, hsettings⟩ := gather_settings ConfigLayer.empty (inOrder sources) h
    have hsettled : ∀ {α : Type} (setting : Setting α),
        setting.get merged = settled? setting.get sources := by
      intro α setting
      rw [hsettings, setting.get_empty, Option.or_none, settled?]
    have hlog : merged.logDecisions? = settled? ConfigLayer.logDecisions? sources :=
      hsettled Setting.logDecisions
    have hlevel : merged.level? = settled? ConfigLayer.level? sources := hsettled Setting.level
    have hjson : merged.json? = settled? ConfigLayer.json? sources := hsettled Setting.json
    have hconfig : merged.finalize = settledConfig sources := by
      rw [ConfigLayer.finalize_eq, settledConfig, hlog, hlevel, hjson]
    rw [hmerged, ← hconfig]
    exact ofLayer_eq_accept merged

/-! ### The findings without the order -/

/-- A setting has the value of the strongest source that has it, and its default if none has. -/
def Settles {α : Type} (get : ConfigLayer → Option α) (default : α) (sources : List ConfigSource)
    (v : α) : Prop :=
  Strongest (setting? get) sources v ∨ (∀ s ∈ sources, s.setting? get = none) ∧ v = default

/-- No source fails, and every setting by itself is that of the strongest source that has it. -/
structure Resolves (sources : List ConfigSource) (c : AuthConfig) : Prop where
  sound : ∀ s ∈ sources, s.error? = none
  logDecisions : Settles ConfigLayer.logDecisions? false sources c.ability.logDecisions
  level : Settles ConfigLayer.level? "info" sources c.logging.level
  json : Settles ConfigLayer.json? false sources c.logging.json

/-- The ways in which loading ends. -/
inductive Loads (sources : List ConfigSource) : Except ConfigError AuthConfig → Prop where
  | failed {e : ConfigError} (weakest : Weakest error? sources e) : Loads sources (.error e)
  | refused {c : AuthConfig} {fault : FilterFault} (resolves : Resolves sources c)
      (rejected : Filter.read c.logging.level = .error fault) :
      Loads sources (.error (.invalidValue "logging.level" fault.message))
  | loaded {c : AuthConfig} {filter : Filter} (resolves : Resolves sources c)
      (accepted : Filter.read c.logging.level = .ok filter) : Loads sources (.ok c)

theorem firstError?_eq_none_iff {sources : List ConfigSource} :
    firstError? sources = none ↔ ∀ s ∈ sources, s.error? = none := by
  simp only [firstError?, List.findSome?_eq_none_iff, mem_inOrder]

theorem settles_iff {α : Type} {get : ConfigLayer → Option α} {default : α}
    {sources : List ConfigSource} {v : α} :
    Settles get default sources v ↔ (settled? get sources).getD default = v := by
  rw [Settles, ← findSome?_reverse_inOrder_iff, settled?]
  cases h : (inOrder sources).reverse.findSome? (setting? get) with
  | none =>
    have hnone : ∀ s ∈ sources, s.setting? get = none := fun s hs =>
      List.findSome?_eq_none_iff.mp h s (List.mem_reverse.mpr (mem_inOrder.mpr hs))
    constructor
    · intro h
      rcases h with hw | ⟨-, rfl⟩
      · cases hw
      · rfl
    · intro hv
      exact Or.inr ⟨hnone, hv.symm⟩
  | some w =>
    obtain ⟨s, hs, hgives⟩ := List.exists_of_findSome?_eq_some h
    have hmem : s ∈ sources := mem_inOrder.mp (List.mem_reverse.mp hs)
    constructor
    · intro h
      rcases h with hw | ⟨hnone, -⟩
      · exact Option.some.inj hw
      · simp [hnone s hmem] at hgives
    · intro hw
      exact Or.inl (congrArg some hw)

theorem resolves_iff {sources : List ConfigSource} {c : AuthConfig} :
    Resolves sources c ↔ firstError? sources = none ∧ settledConfig sources = c := by
  obtain ⟨⟨logDecisions⟩, ⟨level, json⟩⟩ := c
  constructor
  · intro h
    obtain ⟨hsound, hlog, hlevel, hjson⟩ := h
    refine ⟨firstError?_eq_none_iff.mpr hsound, ?_⟩
    rw [settledConfig, settles_iff.mp hlog, settles_iff.mp hlevel, settles_iff.mp hjson]
  · intro h
    obtain ⟨hsound, hconfig⟩ := h
    simp only [settledConfig, AuthConfig.mk.injEq, AbilityConfig.mk.injEq,
      LoggingConfig.mk.injEq] at hconfig
    exact ⟨firstError?_eq_none_iff.mp hsound, settles_iff.mpr hconfig.1,
      settles_iff.mpr hconfig.2.1, settles_iff.mpr hconfig.2.2⟩

theorem load_iff_loads {sources : List ConfigSource} {result : Except ConfigError AuthConfig} :
    (AuthConfig.load sources).1 = result ↔ Loads sources result := by
  rw [load_eq]
  constructor
  · intro hsame
    subst hsame
    cases hfirst : firstError? sources with
    | some e => exact .failed (findSome?_inOrder_iff.mp hfirst)
    | none =>
      have hresolves : Resolves sources (settledConfig sources) := resolves_iff.mpr ⟨hfirst, rfl⟩
      rw [accept]
      cases hread : Filter.read (settledConfig sources).logging.level with
      | error fault => exact .refused hresolves hread
      | ok filter => exact .loaded hresolves hread
  · intro h
    rcases h with hweakest | ⟨hresolves, hread⟩ | ⟨hresolves, hread⟩
    · rw [firstError?, findSome?_inOrder_iff.mpr hweakest]
    · obtain ⟨hfirst, rfl⟩ := resolves_iff.mp hresolves
      rw [hfirst, accept, hread]
    · obtain ⟨hfirst, rfl⟩ := resolves_iff.mp hresolves
      rw [hfirst, accept, hread]

/-! ### What makes no difference -/

section Congruence

variable {β : Type} {give : ConfigSource → Option β} {xs ys : List ConfigSource}

theorem map_inOrder (give : ConfigSource → β) (sources : List ConfigSource) :
    (inOrder sources).map give = Precedence.all.flatMap fun p =>
      ((sources.map fun s => (s.precedence, give s)).filter (·.1 = p)).map Prod.snd := by
  simp [inOrder, List.map_flatMap, List.filter_map, Function.comp_def]

theorem map_inOrder_congr {give : ConfigSource → β} (h : (xs.map fun s => (s.precedence, give s)) =
    ys.map fun s => (s.precedence, give s)) :
    (inOrder xs).map give = (inOrder ys).map give := by
  rw [map_inOrder, map_inOrder, h]

theorem findSome?_eq_of_map_eq (h : xs.map give = ys.map give) :
    xs.findSome? give = ys.findSome? give := by
  have hfind : ∀ zs : List ConfigSource, zs.findSome? give = (zs.map give).findSome? id := by
    intro zs
    rw [List.findSome?_map, Function.id_comp]
  rw [hfind, hfind, h]

theorem firstError?_congr (h : (xs.map fun s => (s.precedence, s.error?)) =
    ys.map fun s => (s.precedence, s.error?)) : firstError? xs = firstError? ys :=
  findSome?_eq_of_map_eq (map_inOrder_congr h)

theorem settled?_congr {get : ConfigLayer → Option β}
    (h : (xs.map fun s => (s.precedence, s.setting? get)) =
      ys.map fun s => (s.precedence, s.setting? get)) : settled? get xs = settled? get ys := by
  refine findSome?_eq_of_map_eq ?_
  rw [List.map_reverse, List.map_reverse, map_inOrder_congr h]

theorem load_congr (herror : firstError? xs = firstError? ys)
    (hlog : settled? ConfigLayer.logDecisions? xs = settled? ConfigLayer.logDecisions? ys)
    (hlevel : settled? ConfigLayer.level? xs = settled? ConfigLayer.level? ys)
    (hjson : settled? ConfigLayer.json? xs = settled? ConfigLayer.json? ys) :
    (AuthConfig.load xs).1 = (AuthConfig.load ys).1 := by
  rw [load_eq, load_eq, settledConfig, settledConfig, herror, hlog, hlevel, hjson]

end Congruence

/-- A source whose layer is changed, unless it fails. -/
def mapLayer (f : ConfigLayer → ConfigLayer) (s : ConfigSource) : ConfigSource :=
  { s with layer := s.layer.map f }

theorem error?_mapLayer (f : ConfigLayer → ConfigLayer) (s : ConfigSource) :
    (s.mapLayer f).error? = s.error? := by
  rw [error?, error?, mapLayer]
  cases s.layer <;> rfl

theorem setting?_mapLayer {α : Type} {get : ConfigLayer → Option α} {f : ConfigLayer → ConfigLayer}
    (h : ∀ l, get (f l) = get l) (s : ConfigSource) :
    (s.mapLayer f).setting? get = s.setting? get := by
  rw [setting?, setting?, mapLayer]
  cases s.layer with
  | error e => rfl
  | ok l => exact h l

theorem load_trim (sources : List ConfigSource) :
    (AuthConfig.load (sources.map (mapLayer ConfigLayer.trim))).1 =
      (AuthConfig.load sources).1 := by
  have hsame : ∀ {β : Type} (give : ConfigSource → β),
      (∀ s, give (s.mapLayer ConfigLayer.trim) = give s) →
        ((sources.map (mapLayer ConfigLayer.trim)).map fun s => (s.precedence, give s)) =
          sources.map fun s => (s.precedence, give s) := by
    intro β give hgive
    rw [List.map_map]
    exact List.map_congr_left fun s _ => congrArg (Prod.mk s.precedence) (hgive s)
  exact load_congr
    (firstError?_congr (hsame error? (error?_mapLayer _)))
    (settled?_congr (hsame _ (setting?_mapLayer ConfigLayer.logDecisions?_trim)))
    (settled?_congr (hsame _ (setting?_mapLayer ConfigLayer.level?_trim)))
    (settled?_congr (hsame _ (setting?_mapLayer ConfigLayer.json?_trim)))

/-- A source has something to say that stands above what `s` says between `before` and `after`. -/
def Overridden {β : Type} (give : ConfigSource → Option β) (before : List ConfigSource)
    (s : ConfigSource) (after : List ConfigSource) : Prop :=
  (∃ x ∈ before, give x ≠ none ∧ s.precedence.rank < x.precedence.rank) ∨
    ∃ x ∈ after, give x ≠ none ∧ s.precedence.rank ≤ x.precedence.rank

theorem mem_all (p : Precedence) : p ∈ Precedence.all := by
  cases p <;> decide

/-- A source has its place in the order by its precedence; what overrides it stands behind it. -/
theorem inOrder_append_cons (before : List ConfigSource) (s : ConfigSource)
    (after : List ConfigSource) :
    ∃ front back, (∀ s', s'.precedence = s.precedence →
        inOrder (before ++ s' :: after) = front ++ s' :: back) ∧
      (∀ x ∈ before, s.precedence.rank < x.precedence.rank → x ∈ back) ∧
      ∀ x ∈ after, s.precedence.rank ≤ x.precedence.rank → x ∈ back := by
  have hrising : Precedence.all.Pairwise fun p q => p.rank < q.rank := by decide
  obtain ⟨lower, upper, hall⟩ := List.append_of_mem (mem_all s.precedence)
  rw [hall, List.pairwise_append, List.pairwise_cons] at hrising
  obtain ⟨-, ⟨hupper, -⟩, hlower⟩ := hrising
  have hplace : ∀ x : ConfigSource, s.precedence.rank ≤ x.precedence.rank →
      x.precedence = s.precedence ∨ x.precedence ∈ upper := by
    intro x hle
    have hmem := mem_all x.precedence
    rw [hall, List.mem_append, List.mem_cons] at hmem
    rcases hmem with hmem | hmem
    · have := hlower _ hmem s.precedence (by simp)
      omega
    · exact hmem
  refine ⟨(lower.flatMap fun p => (before ++ after).filter (·.precedence = p)) ++
      before.filter (·.precedence = s.precedence),
    after.filter (·.precedence = s.precedence) ++
      upper.flatMap fun p => (before ++ after).filter (·.precedence = p), ?_, ?_, ?_⟩
  · intro s' hs'
    have hother : ∀ p, p.rank ≠ s.precedence.rank →
        (before ++ s' :: after).filter (·.precedence = p) =
          (before ++ after).filter (·.precedence = p) := by
      intro p hp
      have hne : ¬ s'.precedence = p := by
        intro hsame
        subst hsame
        exact hp (by rw [hs'])
      rw [List.filter_append, List.filter_append, List.filter_cons_of_neg (by simp [hne])]
    have hown : (before ++ s' :: after).filter (·.precedence = s.precedence) =
        before.filter (·.precedence = s.precedence) ++
          s' :: after.filter (·.precedence = s.precedence) := by
      rw [List.filter_append, List.filter_cons_of_pos (by simp [hs'])]
    have hlow := List.flatMap_congr fun p hp =>
      hother p (Nat.ne_of_lt (hlower p hp s.precedence (by simp)))
    have hup := List.flatMap_congr fun p hp => hother p (Nat.ne_of_gt (hupper p hp))
    rw [inOrder, hall, List.flatMap_append, List.flatMap_cons, hown, hlow, hup]
    simp
  · intro x hx hlt
    rcases hplace x (Nat.le_of_lt hlt) with heq | hmem
    · rw [heq] at hlt
      exact absurd hlt (Nat.lt_irrefl _)
    · exact List.mem_append_right _ (List.mem_flatMap.mpr ⟨_, hmem, by simp [hx]⟩)
  · intro x hx hle
    rcases hplace x hle with heq | hmem
    · exact List.mem_append_left _ (by simp [hx, heq])
    · exact List.mem_append_right _ (List.mem_flatMap.mpr ⟨_, hmem, by simp [hx]⟩)

/-- What is settled does not hang on a source that is overridden. -/
theorem settled?_of_overridden {α : Type} {get : ConfigLayer → Option α}
    {before after : List ConfigSource} {s s' : ConfigSource}
    (hsame : s'.precedence = s.precedence) (hover : Overridden (setting? get) before s after) :
    settled? get (before ++ s' :: after) = settled? get (before ++ s :: after) := by
  obtain ⟨front, back, horder, hbefore, hafter⟩ := inOrder_append_cons before s after
  obtain ⟨x, hx, hgives⟩ : ∃ x ∈ back, x.setting? get ≠ none := by
    rcases hover with ⟨x, hx, hgives, hrank⟩ | ⟨x, hx, hgives, hrank⟩
    · exact ⟨x, hbefore x hx hrank, hgives⟩
    · exact ⟨x, hafter x hx hrank, hgives⟩
  have hback : back.reverse.findSome? (setting? get) ≠ none := by
    intro hnone
    exact hgives (List.findSome?_eq_none_iff.mp hnone x (List.mem_reverse.mpr hx))
  obtain ⟨v, hv⟩ := Option.ne_none_iff_exists'.mp hback
  rw [settled?, settled?, horder s' hsame, horder s rfl]
  simp [hv]

theorem load_of_overridden {before after : List ConfigSource} {s : ConfigSource}
    (level : Option String) (h : Overridden (setting? ConfigLayer.level?) before s after) :
    (AuthConfig.load (before ++ s.mapLayer (ConfigLayer.withLevel level) :: after)).1 =
      (AuthConfig.load (before ++ s :: after)).1 := by
  have hsame : ∀ {β : Type} (give : ConfigSource → β),
      give (s.mapLayer (ConfigLayer.withLevel level)) = give s →
        ((before ++ s.mapLayer (ConfigLayer.withLevel level) :: after).map
          fun x => (x.precedence, give x)) =
          (before ++ s :: after).map fun x => (x.precedence, give x) := by
    intro β give hgive
    rw [List.map_append, List.map_cons, hgive, List.map_append, List.map_cons]
    rfl
  exact load_congr
    (firstError?_congr (hsame error? (error?_mapLayer _ s)))
    (settled?_congr (hsame _ (setting?_mapLayer (ConfigLayer.logDecisions?_withLevel level) s)))
    (settled?_of_overridden rfl h)
    (settled?_congr (hsame _ (setting?_mapLayer (ConfigLayer.json?_withLevel level) s)))

/-- **What loading comes to.** The result is the error of the weakest source that fails, or else the
configuration that takes every setting from the strongest source that has it, if its directives can
be read. So sources of different precedence may change places, a section that sets nothing is as
good as none, and directives that are overridden are not even read. -/
theorem load_resolution :
    (∀ sources result, (AuthConfig.load sources).1 = result ↔ Loads sources result) ∧
    (∀ xs ys : List ConfigSource,
      (∀ p, xs.filter (·.precedence = p) = ys.filter (·.precedence = p)) →
        AuthConfig.load xs = AuthConfig.load ys) ∧
    (∀ sources, (AuthConfig.load (sources.map (mapLayer ConfigLayer.trim))).1 =
      (AuthConfig.load sources).1) ∧
    ∀ before s after level, Overridden (setting? ConfigLayer.level?) before s after →
      (AuthConfig.load (before ++ s.mapLayer (ConfigLayer.withLevel level) :: after)).1 =
        (AuthConfig.load (before ++ s :: after)).1 := by
  refine ⟨fun _ _ => load_iff_loads, fun xs ys h => ?_, load_trim,
    fun _ _ _ level h => load_of_overridden level h⟩
  rw [AuthConfig.load, AuthConfig.load, inOrder_congr h]

/-- The environment's directives stand above those of a file, which may then be anything, and the
two sources may change places. -/
theorem load_resolution_file_and_environment :
    let file := fixed .file (.ok ⟨none, some ⟨some "saas_auth=loud", none⟩⟩)
    let environment := fixed .environment (.ok ⟨some ⟨some true⟩, some ⟨some "debug", none⟩⟩)
    (Overridden (setting? ConfigLayer.level?) [] file [environment] ∧
      (AuthConfig.load [file.mapLayer (ConfigLayer.withLevel none), environment]).1 =
        (AuthConfig.load [file, environment]).1) ∧
    (∀ p, [environment, file].filter (·.precedence = p) =
      [file, environment].filter (·.precedence = p)) ∧
      AuthConfig.load [environment, file] = AuthConfig.load [file, environment] := by
  intro file environment
  have hover : Overridden (setting? ConfigLayer.level?) [] file [environment] :=
    Or.inr ⟨environment, by simp, by simp [environment, fixed, setting?, ConfigLayer.level?,
      Except.toOption], by decide⟩
  have hswap : ∀ p, [environment, file].filter (·.precedence = p) =
      [file, environment].filter (·.precedence = p) := by
    intro p
    cases p <;> rfl
  exact ⟨⟨hover, load_resolution.2.2.2 [] file [environment] none hover⟩, hswap,
    load_resolution.2.1 _ _ hswap⟩

end ConfigSource

end Clearance
