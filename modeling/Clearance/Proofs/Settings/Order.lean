import Clearance.Settings.Load
import Mathlib.Data.List.Count
import Mathlib.Data.Nat.Basic
import Mathlib.Order.OrderDual

/-!
# The order of loading

Sources are loaded by rising precedence, and those of one precedence as they stand in the list. No
other order has both properties. Here is what it means without sorting anything: what the first
source in it gives comes from the weakest source that gives anything, and the earliest of several;
what the last one gives comes from the strongest, and the latest of several. The two are one fact
about lists, read forwards and backwards.
-/

namespace Clearance

/-! ### Sorting without changing the order of equals -/

section Sorted

variable {α ι γ : Type} [PartialOrder ι] [DecidableEq γ] {cls : α → γ} {xs ys : List α}

/-- Lists with the same classes have the same elements, each as often. -/
theorem perm_of_classes (h : ∀ c, xs.filter (cls · = c) = ys.filter (cls · = c)) : xs.Perm ys := by
  classical
  rw [List.perm_iff_count]
  intro z
  have hclass : ∀ zs : List α, (zs.filter (cls · = cls z)).count z = zs.count z := fun zs =>
    List.count_filter (by simp)
  rw [← hclass xs, h, hclass]

/-- A list that is sorted by the key is told by its classes alone, each in its order. -/
theorem eq_of_sorted_of_classes {key : α → ι} (hclass : ∀ a b, key a = key b → cls a = cls b)
    (hxs : xs.Pairwise fun a b => key a ≤ key b) (hys : ys.Pairwise fun a b => key a ≤ key b)
    (h : ∀ c, xs.filter (cls · = c) = ys.filter (cls · = c)) : xs = ys := by
  induction xs generalizing ys with
  | nil => exact (perm_of_classes h).nil_eq
  | cons x xs ih =>
    cases ys with
    | nil => exact (perm_of_classes h).eq_nil
    | cons y ys =>
      -- each head stands in both lists, so that it has the least key of both
      have hleast : ∀ {z : α} {zs : List α}, (z :: zs).Pairwise (fun a b => key a ≤ key b) →
          ∀ a ∈ z :: zs, key z ≤ key a := by
        intro z zs hsorted a ha
        rcases List.mem_cons.mp ha with rfl | ha
        · exact le_refl _
        · exact List.rel_of_pairwise_cons hsorted ha
      have hmem : ∀ {a : α}, a ∈ x :: xs ↔ a ∈ y :: ys := (perm_of_classes h).mem_iff
      have hxy : key x ≤ key y := hleast hxs y (hmem.mpr List.mem_cons_self)
      have hyx : key y ≤ key x := hleast hys x (hmem.mp List.mem_cons_self)
      have hcls : cls x = cls y := hclass x y (le_antisymm hxy hyx)
      have hhead := h (cls x)
      rw [List.filter_cons_of_pos (by simp), List.filter_cons_of_pos (by simp [hcls])] at hhead
      obtain ⟨rfl, -⟩ := List.cons.inj hhead
      refine congrArg (List.cons x) (ih hxs.of_cons hys.of_cons fun c => ?_)
      have hc := h c
      rw [List.filter_cons, List.filter_cons] at hc
      split at hc
      · exact (List.cons.inj hc).2
      · exact hc

end Sorted

/-! ### The first element by a key -/

section First

variable {α β ι γ : Type} [PartialOrder ι] [DecidableEq γ]

/-- What the element with the least key gives, among those that give anything; of several with that
key the one that stands first. -/
def First (key : α → ι) (give : α → Option β) (xs : List α) (y : β) : Prop :=
  ∃ before x after, xs = before ++ x :: after ∧ give x = some y ∧
    (∀ z ∈ before, give z ≠ none → key x < key z) ∧ ∀ z ∈ after, give z ≠ none → key x ≤ key z

theorem First.unique {key : α → ι} {give : α → Option β} {xs : List α} {y y' : β}
    (h : First key give xs y) (h' : First key give xs y') : y = y' := by
  obtain ⟨before, x, after, rfl, hx, hbefore, hafter⟩ := h
  obtain ⟨before', x', after', hsplit, hx', hbefore', hafter'⟩ := h'
  have hgives : give x ≠ none := by simp [hx]
  have hgives' : give x' ≠ none := by simp [hx']
  rcases List.append_eq_append_iff.mp hsplit with ⟨gap, hlonger, hrest⟩ | ⟨gap, hshorter, hrest⟩
  · cases gap with
    | nil =>
      obtain ⟨rfl, -⟩ : x = x' ∧ after = after' := by simpa using hrest
      exact Option.some.inj (hx.symm.trans hx')
    | cons z gap =>
      -- `x` stands before `x'`, so that each has the smaller key
      obtain ⟨rfl, rfl⟩ : x = z ∧ after = gap ++ x' :: after' := by simpa using hrest
      have hlt : key x' < key x := hbefore' x (by simp [hlonger]) hgives
      exact absurd (hafter x' (by simp) hgives') (not_le_of_gt hlt)
  · cases gap with
    | nil =>
      obtain ⟨rfl, -⟩ : x' = x ∧ after' = after := by simpa using hrest
      exact Option.some.inj (hx.symm.trans hx')
    | cons z gap =>
      obtain ⟨rfl, rfl⟩ : x' = z ∧ after' = gap ++ x :: after := by simpa using hrest
      have hlt : key x < key x' := hbefore x' (by simp [hshorter]) hgives'
      exact absurd (hafter' x (by simp) hgives) (not_le_of_gt hlt)

variable {key : α → ι} (cls : α → γ) {give : α → Option β} {sorted given : List α} {y : β}
  (hclass : ∀ a b, key a = key b → cls a = cls b)
  (hsorted : sorted.Pairwise fun a b => key a ≤ key b)
  (hstable : ∀ c, sorted.filter (cls · = c) = given.filter (cls · = c))

include hclass hsorted hstable

/-- In a list that is sorted by the key and keeps the elements of each class in their order, the
first element that gives anything is the first by the key in the list as it was. -/
theorem First.of_findSome? (h : sorted.findSome? give = some y) : First key give given y := by
  obtain ⟨front, x, back, rfl, hx, hfront⟩ := List.findSome?_eq_some_iff.mp h
  have hmem : ∀ z ∈ given, z ∈ front ++ x :: back := fun z hz =>
    (perm_of_classes hstable).mem_iff.mpr hz
  have hleast : ∀ z ∈ given, give z ≠ none → key x ≤ key z := by
    intro z hz hgives
    rcases List.mem_append.mp (hmem z hz) with hz | hz
    · exact absurd (hfront z hz) hgives
    · rcases List.mem_cons.mp hz with rfl | hz
      · exact le_refl _
      · exact List.rel_of_pairwise_cons (List.pairwise_append.mp hsorted).2.1 hz
  -- the class of `x` cuts the given list at `x`: what stands before it there stands in `front`
  have hcut : given.filter (cls · = cls x) =
      front.filter (cls · = cls x) ++ x :: back.filter (cls · = cls x) := by
    rw [← hstable, List.filter_append, List.filter_cons_of_pos (by simp)]
  obtain ⟨left, right, rfl, hleft, hright⟩ := List.filter_eq_append_iff.mp hcut
  obtain ⟨gap, after, rfl, hgap, -, -⟩ := List.filter_eq_cons_iff.mp hright
  refine ⟨left ++ gap, x, after, by simp, hx, ?_, fun z hz => hleast z (by simp [hz])⟩
  intro z hz hgives
  have hz' : z ∈ left ++ (gap ++ x :: after) := by
    rcases List.mem_append.mp hz with hz | hz <;> simp [hz]
  refine lt_of_le_of_ne (hleast z hz' hgives) fun hkey => ?_
  have hcls : cls z = cls x := (hclass x z hkey).symm
  rcases List.mem_append.mp hz with hz | hz
  · have hz : z ∈ front.filter (cls · = cls x) := by
      rw [← hleft]
      exact List.mem_filter.mpr ⟨hz, by simp [hcls]⟩
    exact hgives (hfront z (List.mem_filter.mp hz).1)
  · exact hgap z hz (by simp [hcls])

theorem First.findSome?_iff : sorted.findSome? give = some y ↔ First key give given y := by
  have hfirst : ∀ y', sorted.findSome? give = some y' → First key give given y' := fun _ =>
    First.of_findSome? cls hclass hsorted hstable
  refine ⟨hfirst y, fun h => ?_⟩
  cases hfound : sorted.findSome? give with
  | some y' => exact congrArg some (First.unique (hfirst y' hfound) h)
  | none =>
    obtain ⟨before, x, after, rfl, hx, -⟩ := h
    have hmem : x ∈ sorted := (perm_of_classes hstable).mem_iff.mpr (by simp)
    have hnone := List.findSome?_eq_none_iff.mp hfound x hmem
    simp [hx] at hnone

end First

namespace ConfigSource

/-! ### The order of sources -/

theorem filter_inOrder (p : Precedence) (sources : List ConfigSource) :
    (inOrder sources).filter (·.precedence = p) = sources.filter (·.precedence = p) := by
  simp only [inOrder, Precedence.all, List.flatMap_cons, List.flatMap_nil, List.append_nil,
    List.filter_append, List.filter_filter]
  have hself : ∀ q : Precedence, sources.filter
      (fun s => decide (s.precedence = q) && decide (s.precedence = q)) =
        sources.filter (·.precedence = q) := by
    intro q
    simp only [Bool.and_self]
  have hother : ∀ q, p ≠ q → sources.filter
      (fun s => decide (s.precedence = p) && decide (s.precedence = q)) = [] := by
    intro q hne
    rw [List.filter_eq_nil_iff]
    intro s _ h
    simp only [Bool.and_eq_true, decide_eq_true_eq] at h
    exact hne (h.1.symm.trans h.2)
  cases p with
  | defaults => rw [hself, hother .file (by decide), hother .environment (by decide)]; simp
  | file => rw [hself, hother .defaults (by decide), hother .environment (by decide)]; simp
  | environment => rw [hself, hother .defaults (by decide), hother .file (by decide)]; simp

theorem mem_inOrder {s : ConfigSource} {sources : List ConfigSource} :
    s ∈ inOrder sources ↔ s ∈ sources :=
  (perm_of_classes fun p => filter_inOrder p sources).mem_iff

theorem inOrder_pairwise (sources : List ConfigSource) :
    (inOrder sources).Pairwise fun a b => a.precedence.rank ≤ b.precedence.rank := by
  rw [inOrder, List.pairwise_flatMap]
  constructor
  · intro p _
    rw [List.pairwise_filter]
    refine List.pairwise_of_forall fun a b ha hb => ?_
    simp only [decide_eq_true_eq] at ha hb
    rw [ha, hb]
  · have hrising : Precedence.all.Pairwise fun p q => p.rank ≤ q.rank := by decide
    refine hrising.imp fun {p q} hpq a ha b hb => ?_
    simp only [List.mem_filter, decide_eq_true_eq] at ha hb
    rw [ha.2, hb.2]
    exact hpq

/-- Lists that have the same sources of each precedence in the same order are loaded alike. -/
theorem inOrder_congr {xs ys : List ConfigSource}
    (h : ∀ p, xs.filter (·.precedence = p) = ys.filter (·.precedence = p)) :
    inOrder xs = inOrder ys := by
  simp only [inOrder, h]

theorem precedence_of_rank {p q : Precedence} (h : p.rank = q.rank) : p = q := by
  cases p <;> cases q <;> simp_all [Precedence.rank]

/-- The second list holds the sources of the first by rising precedence, and those of one precedence
as they stand in the first. -/
structure Ordered (sources ordered : List ConfigSource) : Prop where
  rising : ordered.Pairwise fun a b => a.precedence.rank ≤ b.precedence.rank
  stable : ∀ p, ordered.filter (·.precedence = p) = sources.filter (·.precedence = p)

theorem Ordered.perm {sources ordered : List ConfigSource} (h : Ordered sources ordered) :
    ordered.Perm sources :=
  perm_of_classes h.stable

theorem inOrder_eq_iff {sources ordered : List ConfigSource} :
    inOrder sources = ordered ↔ Ordered sources ordered := by
  constructor
  · intro h
    subst h
    exact ⟨inOrder_pairwise sources, fun p => filter_inOrder p sources⟩
  · intro h
    refine eq_of_sorted_of_classes (fun _ _ => precedence_of_rank) (inOrder_pairwise sources)
      h.rising fun p => ?_
    rw [filter_inOrder, h.stable]

/-! ### The weakest and the strongest source -/

section Extreme

variable {β : Type} {give : ConfigSource → Option β} {sources : List ConfigSource} {y : β}

/-- What the weakest source gives among those that give anything; of several as weak the one that
stands first. -/
def Weakest (give : ConfigSource → Option β) (sources : List ConfigSource) (y : β) : Prop :=
  ∃ before s after, sources = before ++ s :: after ∧ give s = some y ∧
    (∀ x ∈ before, give x ≠ none → s.precedence.rank < x.precedence.rank) ∧
    ∀ x ∈ after, give x ≠ none → s.precedence.rank ≤ x.precedence.rank

/-- What the strongest source gives among those that give anything; of several as strong the one
that stands last. -/
def Strongest (give : ConfigSource → Option β) (sources : List ConfigSource) (y : β) : Prop :=
  ∃ before s after, sources = before ++ s :: after ∧ give s = some y ∧
    (∀ x ∈ before, give x ≠ none → x.precedence.rank ≤ s.precedence.rank) ∧
    ∀ x ∈ after, give x ≠ none → x.precedence.rank < s.precedence.rank

theorem strongest_iff_first :
    Strongest give sources y ↔
      First (fun s => OrderDual.toDual s.precedence.rank) give sources.reverse y := by
  constructor
  · intro h
    obtain ⟨before, s, after, rfl, hs, hbefore, hafter⟩ := h
    refine ⟨after.reverse, s, before.reverse, by simp, hs, ?_, ?_⟩
    · intro x hx hgives
      exact OrderDual.toDual_lt_toDual.mpr (hafter x (List.mem_reverse.mp hx) hgives)
    · intro x hx hgives
      exact OrderDual.toDual_le_toDual.mpr (hbefore x (List.mem_reverse.mp hx) hgives)
  · intro h
    obtain ⟨before, s, after, hsplit, hs, hbefore, hafter⟩ := h
    have hsources : sources = after.reverse ++ s :: before.reverse := by
      simpa using congrArg List.reverse hsplit
    refine ⟨after.reverse, s, before.reverse, hsources, hs, ?_, ?_⟩
    · intro x hx hgives
      exact OrderDual.toDual_le_toDual.mp (hafter x (List.mem_reverse.mp hx) hgives)
    · intro x hx hgives
      exact OrderDual.toDual_lt_toDual.mp (hbefore x (List.mem_reverse.mp hx) hgives)

theorem findSome?_inOrder_iff : (inOrder sources).findSome? give = some y ↔
    Weakest give sources y :=
  First.findSome?_iff precedence (fun _ _ => precedence_of_rank) (inOrder_pairwise sources)
    (fun p => filter_inOrder p sources)

theorem findSome?_reverse_inOrder_iff : (inOrder sources).reverse.findSome? give = some y ↔
    Strongest give sources y := by
  rw [strongest_iff_first]
  refine First.findSome?_iff precedence
    (fun _ _ hrank => precedence_of_rank (OrderDual.toDual_inj.mp hrank)) ?_ (fun p => ?_)
  · rw [List.pairwise_reverse]
    exact (inOrder_pairwise sources).imp fun hle => OrderDual.toDual_le_toDual.mpr hle
  · rw [List.filter_reverse, List.filter_reverse, filter_inOrder]

end Extreme

end ConfigSource

end Clearance
