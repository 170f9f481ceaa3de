import Clearance.Settings.Layer

/-!
# Settings of merged layers

A layer is looked at one setting at a time, through its sections: what a section is missing and what
it leaves unset come to the same. Seen so, laying one layer over another is taking the upper setting
where there is one, and that is all that loading needs to know about layers.
-/

namespace Clearance

namespace ConfigLayer

/-- A layer without the sections that set nothing. -/
def trim (l : ConfigLayer) : ConfigLayer :=
  ⟨l.ability.filter (· ≠ AbilityLayer.empty), l.logging.filter (· ≠ LoggingLayer.empty)⟩

/-- A layer that says something else about the directives of the log filter. -/
def withLevel (level : Option String) (l : ConfigLayer) : ConfigLayer :=
  { l with logging := some { l.logging.getD LoggingLayer.empty with level := level } }

theorem bind_filter_ne {σ α : Type} [DecidableEq σ] {get : σ → Option α} (empty : σ)
    (hempty : get empty = none) (section? : Option σ) :
    (section?.filter (· ≠ empty)).bind get = section?.bind get := by
  cases section? with
  | none => rfl
  | some x =>
    by_cases hx : x = empty
    · simp [hx, hempty]
    · rw [Option.filter_some, if_pos (by simp [hx])]

theorem logDecisions?_trim (l : ConfigLayer) : l.trim.logDecisions? = l.logDecisions? :=
  bind_filter_ne AbilityLayer.empty rfl l.ability

theorem level?_trim (l : ConfigLayer) : l.trim.level? = l.level? :=
  bind_filter_ne LoggingLayer.empty rfl l.logging

theorem json?_trim (l : ConfigLayer) : l.trim.json? = l.json? :=
  bind_filter_ne LoggingLayer.empty rfl l.logging

theorem logDecisions?_withLevel (level : Option String) (l : ConfigLayer) :
    (l.withLevel level).logDecisions? = l.logDecisions? :=
  rfl

theorem json?_withLevel (level : Option String) (l : ConfigLayer) :
    (l.withLevel level).json? = l.json? := by
  rcases l with ⟨ability, _ | logging⟩ <;> rfl

theorem bind_mergeSection {σ α : Type} (merge : σ → σ → σ) (get : σ → Option α)
    (hmerge : ∀ lower upper, get (merge lower upper) = override (get lower) (get upper))
    (lower upper : Option σ) :
    (mergeSection merge lower upper).bind get = (upper.bind get).or (lower.bind get) := by
  cases lower with
  | none => cases upper <;> simp [mergeSection]
  | some l =>
    cases upper with
    | none => simp [mergeSection]
    | some u => simp [mergeSection, hmerge, override]

end ConfigLayer

/-- A setting that layers may hold: the empty layer does not, and a layer over another one holds its
own where it has one and else that of the lower layer. -/
structure Setting (α : Type) where
  get : ConfigLayer → Option α
  get_empty : get ConfigLayer.empty = none
  get_merge : ∀ lower upper : ConfigLayer, get (lower.merge upper) = (get upper).or (get lower)

namespace Setting

/-- Whether decisions are logged. -/
def logDecisions : Setting Bool where
  get := ConfigLayer.logDecisions?
  get_empty := rfl
  get_merge lower upper :=
    ConfigLayer.bind_mergeSection AbilityLayer.merge AbilityLayer.logDecisions (fun _ _ => rfl)
      lower.ability upper.ability

/-- The directives of the log filter. -/
def level : Setting String where
  get := ConfigLayer.level?
  get_empty := rfl
  get_merge lower upper :=
    ConfigLayer.bind_mergeSection LoggingLayer.merge LoggingLayer.level (fun _ _ => rfl)
      lower.logging upper.logging

/-- Whether log lines are JSON. -/
def json : Setting Bool where
  get := ConfigLayer.json?
  get_empty := rfl
  get_merge lower upper :=
    ConfigLayer.bind_mergeSection LoggingLayer.merge LoggingLayer.json (fun _ _ => rfl)
      lower.logging upper.logging

end Setting

/-- The final settings are those of the layer, or the defaults for what it does not hold. -/
theorem ConfigLayer.finalize_eq (l : ConfigLayer) :
    l.finalize = ⟨⟨l.logDecisions?.getD false⟩, ⟨l.level?.getD "info", l.json?.getD false⟩⟩ := by
  rcases l with ⟨_ | ability, _ | logging⟩ <;> rfl

end Clearance
