import Clearance.Proofs.Settings.Load
import Mathlib.Data.List.Dedup

/-!
# Layers as an override monoid

Laying one thing over another has the same laws on every level: on a setting that may be missing, on
a section that may be missing and whose settings may be, and on a layer with its two sections. They
are proved for the innermost level and carried outwards (`Overrides`). From the laws alone it
follows that in a list of layers only the last occurrence of each counts.
-/

namespace Clearance

/-- What is laid over something replaces what it says itself and keeps the rest. -/
structure Overrides {α : Type} (merge : α → α → α) : Prop where
  assoc : ∀ a b c, merge (merge a b) c = merge a (merge b c)
  self : ∀ a, merge a a = a
  /-- What is laid on top again had no effect further down. -/
  again : ∀ a b, merge (merge a b) a = merge b a

/-! ### Level by level -/

theorem overrides_override {α : Type} : Overrides (override (α := α)) where
  assoc _ _ _ := (Option.or_assoc ..).symm
  self _ := Option.or_self
  again a b := by cases a <;> simp [override]

theorem AbilityLayer.overrides_merge : Overrides AbilityLayer.merge where
  assoc _ _ _ := congrArg mk (overrides_override.assoc ..)
  self _ := congrArg mk (overrides_override.self _)
  again _ _ := congrArg mk (overrides_override.again ..)

theorem LoggingLayer.overrides_merge : Overrides LoggingLayer.merge where
  assoc _ _ _ := congrArg₂ mk (overrides_override.assoc ..) (overrides_override.assoc ..)
  self _ := congrArg₂ mk (overrides_override.self _) (overrides_override.self _)
  again _ _ := congrArg₂ mk (overrides_override.again ..) (overrides_override.again ..)

namespace ConfigLayer

/-- A section that may be missing takes over the laws of its settings. -/
theorem overrides_mergeSection {α : Type} {merge : α → α → α} (h : Overrides merge) :
    Overrides (mergeSection merge) where
  assoc a b c := by cases a <;> cases b <;> cases c <;> simp [mergeSection, h.assoc]
  self a := by cases a <;> simp [mergeSection, h.self]
  again a b := by cases a <;> cases b <;> simp [mergeSection, h.self, h.again]

theorem overrides_merge : Overrides ConfigLayer.merge where
  assoc _ _ _ := congrArg₂ mk
    ((overrides_mergeSection AbilityLayer.overrides_merge).assoc ..)
    ((overrides_mergeSection LoggingLayer.overrides_merge).assoc ..)
  self _ := congrArg₂ mk
    ((overrides_mergeSection AbilityLayer.overrides_merge).self _)
    ((overrides_mergeSection LoggingLayer.overrides_merge).self _)
  again _ _ := congrArg₂ mk
    ((overrides_mergeSection AbilityLayer.overrides_merge).again ..)
    ((overrides_mergeSection LoggingLayer.overrides_merge).again ..)

theorem isSome_mergeSection {α : Type} (merge : α → α → α) (lower upper : Option α) :
    (mergeSection merge lower upper).isSome = (lower.isSome || upper.isSome) := by
  cases lower <;> cases upper <;> rfl

theorem empty_merge (l : ConfigLayer) : empty.merge l = l :=
  rfl

theorem merge_empty (l : ConfigLayer) : l.merge empty = l := by
  rcases l with ⟨_ | ability, _ | logging⟩ <;> rfl

end ConfigLayer

/-! ### Lists in which something comes again -/

namespace Overrides

variable {α : Type} {merge : α → α → α} (h : Overrides merge)

include h

/-- What comes again further on can be left out. -/
theorem foldl_of_mem {x : α} {xs : List α} (hx : x ∈ xs) (start : α) :
    xs.foldl merge (merge start x) = xs.foldl merge start := by
  induction xs generalizing start with
  | nil => cases hx
  | cons y ys ih =>
    rw [List.foldl_cons, List.foldl_cons]
    rcases List.mem_cons.mp hx with rfl | hx
    · rw [h.assoc, h.self]
    · -- on either side `x` may be laid on once more, and then the `x` under `y` is of no account
      rw [← ih hx (merge (merge start x) y), ← ih hx (merge start y), h.assoc start x y,
        h.assoc start, h.again, h.assoc start]

theorem foldl_dedup [DecidableEq α] (xs : List α) (start : α) :
    xs.dedup.foldl merge start = xs.foldl merge start := by
  induction xs generalizing start with
  | nil => rfl
  | cons x xs ih =>
    by_cases hx : x ∈ xs
    · rw [List.dedup_cons_of_mem hx, ih, List.foldl_cons, h.foldl_of_mem hx]
    · rw [List.dedup_cons_of_notMem hx, List.foldl_cons, ih, List.foldl_cons]

/-- In front of something that is laid on, the same can be left out wherever it stands. -/
theorem foldl_filter_ne [DecidableEq α] (xs ys : List α) (x start : α) :
    (xs.filter (· ≠ x) ++ x :: ys).foldl merge start = (xs ++ x :: ys).foldl merge start := by
  induction xs generalizing start with
  | nil => rfl
  | cons z xs ih =>
    by_cases hz : z = x
    · subst hz
      have hmem : z ∈ xs ++ z :: ys := by simp
      rw [List.filter_cons_of_neg (by simp), ih, List.cons_append, List.foldl_cons,
        h.foldl_of_mem hmem]
    · rw [List.filter_cons_of_pos (by simpa using hz), List.cons_append, List.foldl_cons, ih,
        List.cons_append, List.foldl_cons]

end Overrides

namespace ConfigLayer

/-- The layer that comes of laying the layers of a list over one another. -/
def mergeAll (layers : List ConfigLayer) : ConfigLayer :=
  layers.foldl merge empty

end ConfigLayer

/-- Sources that do not fail are gathered into their merged layers. -/
theorem ConfigSource.gather_fixed (p : Precedence) (layer : ConfigLayer)
    (layers : List ConfigLayer) :
    (gather layer (layers.map fun l => fixed p (.ok l))).1 =
      .ok (layers.foldl ConfigLayer.merge layer) := by
  induction layers generalizing layer with
  | nil => rfl
  | cons l layers ih => exact (gather_cons ..).trans (ih (layer.merge l))

namespace ConfigLayer

/-- **The override monoid of layers.** Laying layers over one another is associative, has the empty
layer as its unit, and something laid on again changes nothing and has no effect further down. A
section is there where either layer has it, and every setting is that of the upper layer where it
has one and else that of the lower. So of a layer that is laid on repeatedly, and of all such layers
at once, only the last occurrence counts, which is how sources are gathered. -/
theorem override_monoid :
    (∀ a b c : ConfigLayer, (a.merge b).merge c = a.merge (b.merge c)) ∧
    (∀ a : ConfigLayer, empty.merge a = a ∧ a.merge empty = a ∧ a.merge a = a) ∧
    (∀ a b : ConfigLayer, (a.merge b).merge a = b.merge a) ∧
    (∀ a b : ConfigLayer,
      (a.merge b).ability.isSome = (a.ability.isSome || b.ability.isSome) ∧
      (a.merge b).logging.isSome = (a.logging.isSome || b.logging.isSome) ∧
      (a.merge b).logDecisions? = b.logDecisions?.or a.logDecisions? ∧
      (a.merge b).level? = b.level?.or a.level? ∧
      (a.merge b).json? = b.json?.or a.json?) ∧
    (∀ (l : ConfigLayer) (xs ys : List ConfigLayer),
      mergeAll (xs.filter (· ≠ l) ++ l :: ys) = mergeAll (xs ++ l :: ys)) ∧
    ∀ (p : Precedence) (layers : List ConfigLayer),
      mergeAll layers.dedup = mergeAll layers ∧
      (ConfigSource.gather empty (layers.map fun l => .fixed p (.ok l))).1 =
        .ok (mergeAll layers) := by
  refine ⟨overrides_merge.assoc, fun a => ⟨empty_merge a, merge_empty a, overrides_merge.self a⟩,
    overrides_merge.again, fun a b => ?_, fun l xs ys => overrides_merge.foldl_filter_ne xs ys l _,
    fun p layers => ⟨overrides_merge.foldl_dedup layers _, ConfigSource.gather_fixed p _ layers⟩⟩
  exact ⟨isSome_mergeSection .., isSome_mergeSection .., Setting.logDecisions.get_merge a b,
    Setting.level.get_merge a b, Setting.json.get_merge a b⟩

-- an empty section stays, and is not taken for a missing one
example : ConfigLayer.merge ⟨some ⟨none⟩, none⟩ empty ≠ empty := by decide

end ConfigLayer

end Clearance
