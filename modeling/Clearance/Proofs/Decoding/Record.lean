import Clearance.Decoding.Record
import Clearance.Proofs.Decoding.Basic
import Mathlib.Data.List.Nodup

/-!
# The tables a record accepts

A table has the fields of a record when it has a value without fault for each field, or none where
the field may be missing. That is a statement about one field at a time: the order of the members
and the members of other names do not matter, as long as no name is there twice.
-/

namespace Clearance

open Decoded

/-- The field is there and has no fault, or may be missing and is. -/
def FieldSpec.MetBy (spec : FieldSpec) (members : List (String × Document)) : Prop :=
  match members.lookup spec.name with
  | some d => spec.check d = .ok ()
  | none => spec.required = false

namespace Document

theorem lookup_eq_some_iff_mem {α : Type} {members : List (String × α)}
    (hnodup : (members.map Prod.fst).Nodup) {name : String} {d : α} :
    members.lookup name = some d ↔ (name, d) ∈ members := by
  induction members with
  | nil => simp
  | cons first rest ih =>
    obtain ⟨other, v⟩ := first
    rw [List.map_cons, List.nodup_cons] at hnodup
    rw [List.lookup_cons, List.mem_cons]
    by_cases hname : name = other
    · subst hname
      have habsent : (name, d) ∉ rest :=
        fun hd => hnodup.1 (List.mem_map.mpr ⟨_, hd, rfl⟩)
      simp [habsent, eq_comm]
    · rw [beq_eq_false_iff_ne.mpr hname]
      simp [ih hnodup.2, hname]

/-- Of members picked by their names those of a name are all there, or none is. -/
theorem lookup_filter {α : Type} (keep : String → Bool) {name : String} (hname : keep name = true)
    (members : List (String × α)) :
    (members.filter (keep ·.1)).lookup name = members.lookup name := by
  induction members with
  | nil => rfl
  | cons first rest ih =>
    obtain ⟨other, v⟩ := first
    rw [List.filter_cons]
    by_cases hother : keep other = true
    · rw [if_pos hother, List.lookup_cons, List.lookup_cons, ih]
    · have hne : name ≠ other := by
        rintro rfl
        exact hother hname
      rw [if_neg hother, List.lookup_cons, beq_eq_false_iff_ne.mpr hne, ih]

/-- Where no key is there twice, the first element with a key is the only one. -/
theorem find?_key_eq_some_iff {α κ : Type} [DecidableEq κ] {key : α → κ} {xs : List α}
    (hnodup : (xs.map key).Nodup) {k : κ} {x : α} :
    (xs.find? fun y => key y = k) = some x ↔ x ∈ xs ∧ key x = k := by
  have hfound : ∀ {y : α}, (xs.find? fun y => key y = k) = some y → y ∈ xs ∧ key y = k := by
    intro y h
    have hkey := List.find?_some h
    exact ⟨List.mem_of_find?_eq_some h, of_decide_eq_true hkey⟩
  refine ⟨hfound, fun h => ?_⟩
  obtain ⟨hmem, hkey⟩ := h
  cases hfind : xs.find? fun y => key y = k with
  | none => exact absurd (decide_eq_true hkey) (List.find?_eq_none.mp hfind x hmem)
  | some y =>
    obtain ⟨hy, hsame⟩ := hfound hfind
    rw [List.inj_on_of_nodup_map hnodup hy hmem (hsame.trans hkey.symm)]

/-- With each name there once, `seen` never gets in the way. -/
theorem visitMembers_eq_ok {medium : Medium} (specs : List FieldSpec) (seen : List String)
    {members : List (String × Document)} (hnodup : (members.map Prod.fst).Nodup)
    (hpass : ∀ m ∈ members, m.2.passOver medium = .ok ()) (hseen : ∀ m ∈ members, m.1 ∉ seen) :
    visitMembers medium specs seen members = .ok () ↔
      ∀ m ∈ members, ∀ spec, specs.find? (·.name = m.1) = some spec → spec.check m.2 = .ok () := by
  induction members generalizing seen with
  | nil => simp [visitMembers]
  | cons first rest ih =>
    obtain ⟨name, d⟩ := first
    rw [List.map_cons, List.nodup_cons] at hnodup
    have hpassRest : ∀ m ∈ rest, m.2.passOver medium = .ok () :=
      fun m hm => hpass m (List.mem_cons_of_mem _ hm)
    have hseenRest : ∀ m ∈ rest, m.1 ∉ seen := fun m hm => hseen m (List.mem_cons_of_mem _ hm)
    rw [visitMembers, List.forall_mem_cons]
    cases hspec : specs.find? (·.name = name) with
    | none =>
      have hd : d.passOver medium = .ok () := hpass _ List.mem_cons_self
      rw [check_bind_eq_ok, ih seen hnodup.2 hpassRest hseenRest]
      simp [hd]
    | some spec =>
      have hname : name ∉ seen := hseen _ List.mem_cons_self
      have hseenName : ∀ m ∈ rest, m.1 ∉ name :: seen := by
        intro m hm
        rw [List.mem_cons, not_or]
        refine ⟨?_, hseenRest m hm⟩
        intro hsame
        subst hsame
        exact hnodup.1 (List.mem_map.mpr ⟨_, hm, rfl⟩)
      simp only [hname, if_false, check_bind_eq_ok,
        ih _ hnodup.2 hpassRest hseenName, Option.some.injEq, forall_eq']

theorem visited_iff_checked {specs : List FieldSpec} (hspecs : (specs.map FieldSpec.name).Nodup)
    {members : List (String × Document)} (hnodup : (members.map Prod.fst).Nodup) :
    (∀ m ∈ members, ∀ spec, specs.find? (·.name = m.1) = some spec → spec.check m.2 = .ok ()) ↔
      ∀ spec ∈ specs, ∀ d, members.lookup spec.name = some d → spec.check d = .ok () := by
  constructor
  · intro hvisited spec hspec d hd
    exact hvisited (spec.name, d) ((lookup_eq_some_iff_mem hnodup).mp hd) spec
      ((find?_key_eq_some_iff hspecs).mpr ⟨hspec, rfl⟩)
  · intro hchecked m hm spec hspec
    obtain ⟨hmem, hname⟩ := (find?_key_eq_some_iff hspecs).mp hspec
    exact hchecked spec hmem m.2 ((lookup_eq_some_iff_mem hnodup).mpr (hname ▸ hm))

theorem metBy_iff {spec : FieldSpec} {members : List (String × Document)} :
    spec.MetBy members ↔
      (∀ d, members.lookup spec.name = some d → spec.check d = .ok ()) ∧
        ¬ (spec.required && (members.lookup spec.name).isNone) := by
  rw [FieldSpec.MetBy]
  cases members.lookup spec.name <;> simp

/-- The record is accepted field by field. -/
theorem asRecord_eq_ok {medium : Medium} (name : String) {specs : List FieldSpec}
    (hspecs : (specs.map FieldSpec.name).Nodup) {members : List (String × Document)}
    (hnodup : (members.map Prod.fst).Nodup)
    (hpass : ∀ m ∈ members, m.2.passOver medium = .ok ()) {fields : List (String × Document)} :
    asRecord name specs medium (.table members) = .ok fields ↔
      fields = members ∧ ∀ spec ∈ specs, spec.MetBy members := by
  have hvisited := visitMembers_eq_ok specs [] hnodup hpass (by simp)
  rw [visited_iff_checked hspecs hnodup] at hvisited
  rw [asRecord, check_bind_eq_ok, hvisited]
  simp only [metBy_iff, forall_and]
  cases hmissing : specs.find? fun spec => spec.required && (members.lookup spec.name).isNone with
  | none =>
    have hthere := List.find?_eq_none.mp hmissing
    simp only [pure_eq_ok]
    constructor
    · intro h
      obtain ⟨hchecked, rfl⟩ := h
      exact ⟨rfl, hchecked, hthere⟩
    · intro h
      obtain ⟨rfl, hchecked, -⟩ := h
      exact ⟨hchecked, rfl⟩
  | some spec =>
    have hspec := List.find?_some hmissing
    refine iff_of_false (fun h => throw_ne_ok h.2) ?_
    intro h
    obtain ⟨-, -, hthere⟩ := h
    exact hthere spec (List.mem_of_find?_eq_some hmissing) hspec

theorem asRecord_bind_eq_ok {medium : Medium} (name : String) {specs : List FieldSpec}
    (hspecs : (specs.map FieldSpec.name).Nodup) {members : List (String × Document)}
    (hnodup : (members.map Prod.fst).Nodup)
    (hpass : ∀ m ∈ members, m.2.passOver medium = .ok ()) {α : Type}
    {f : List (String × Document) → Decoded α} {x : α} :
    (asRecord name specs medium (.table members) >>= f) = .ok x ↔
      (∀ spec ∈ specs, spec.MetBy members) ∧ f members = .ok x := by
  simp only [bind_eq_ok, asRecord_eq_ok name hspecs hnodup hpass]
  constructor
  · intro h
    obtain ⟨_, ⟨rfl, hmet⟩, hf⟩ := h
    exact ⟨hmet, hf⟩
  · intro h
    exact ⟨members, ⟨rfl, h.1⟩, h.2⟩

/-! ### Fields by their values -/

variable {α : Type} {members : List (String × Document)} {name : String}
  {decode : Document → Decoded α}

theorem metBy_needed {x : α} (hx : neededField members name decode = .ok x) :
    (FieldSpec.needed name decode).MetBy members := by
  rw [neededField] at hx
  rw [FieldSpec.MetBy, FieldSpec.needed]
  cases hd : members.lookup name with
  | none => simp [hd] at hx
  | some d =>
    rw [hd] at hx
    exact map_eq_ok.mpr ⟨x, hx, rfl⟩

theorem metBy_optional {x? : Option α} (hx? : optionalField members name decode = .ok x?) :
    (FieldSpec.optional name decode).MetBy members := by
  rw [optionalField] at hx?
  rw [FieldSpec.MetBy, FieldSpec.optional]
  cases hd : members.lookup name with
  | none => rfl
  | some d =>
    rw [hd] at hx?
    exact map_eq_ok.mpr ⟨x?, hx?, rfl⟩

end Document

end Clearance
