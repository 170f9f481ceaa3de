import Clearance.Proofs.Ability.Scan
import Clearance.Proofs.Rule.Codec
import Mathlib.Data.List.Induction

/-!
# Conditions from constraints

A condition is built from constraints one after another, or decoded from a text with a member for
each. Either way the last constraint on an attribute counts and the order of the others is
forgotten: `get?_ofList` says so once, and what is iterated over, matched, compared and written
follows from it.
-/

namespace Clearance

namespace Condition

/-- The last of the constraints on an attribute asks for a value. -/
def LastValue (constraints : List (Attribute × AttrValue)) (a : Attribute) (v : AttrValue) : Prop :=
  ∃ before after, constraints = before ++ (a, v) :: after ∧ ∀ later ∈ after, later.1 ≠ a

section

variable {constraints : List (Attribute × AttrValue)} {a : Attribute} {v : AttrValue}

/-- The last constraint is the first from the end. -/
theorem lastValue_iff_lookup :
    LastValue constraints a v ↔ constraints.reverse.lookup a = some v := by
  rw [List.lookup_eq_some_iff]
  constructor
  · intro h
    obtain ⟨before, after, rfl, hafter⟩ := h
    refine ⟨after.reverse, before.reverse, by simp, fun later hlater => ?_⟩
    rw [bne_iff_ne]
    exact Ne.symm (hafter later (List.mem_reverse.mp hlater))
  · intro h
    obtain ⟨after, before, hreverse, hafter⟩ := h
    refine ⟨before.reverse, after.reverse, ?_, fun later hlater => ?_⟩
    · rw [← constraints.reverse_reverse, hreverse]
      simp
    · exact Ne.symm (bne_iff_ne.mp (hafter later (List.mem_reverse.mp hlater)))

theorem get?_ofList (constraints : List (Attribute × AttrValue)) (a : Attribute) :
    (ofList constraints).get? a = constraints.reverse.lookup a := by
  induction constraints using List.reverseRecOn with
  | nil => exact get?_empty a
  | append_singleton constraints last ih =>
    obtain ⟨b, w⟩ := last
    have hlast : ofList (constraints ++ [(b, w)]) = (ofList constraints).insert b w := by
      rw [ofList, List.foldl_append]
      rfl
    rw [hlast, get?_insert, ih, List.reverse_append, List.reverse_singleton, List.singleton_append,
      List.lookup_cons]
    by_cases hb : b = a
    · simp [hb]
    · rw [if_neg hb, beq_eq_false_iff_ne.mpr (Ne.symm hb)]

theorem get?_ofList_eq_some_iff :
    (ofList constraints).get? a = some v ↔ LastValue constraints a v := by
  rw [get?_ofList, lastValue_iff_lookup]

theorem isSome_get?_ofList :
    ((ofList constraints).get? a).isSome = true ↔ a ∈ constraints.map Prod.fst := by
  rw [get?_ofList, List.lookup_isSome_iff, List.mem_map]
  simp only [List.mem_reverse, beq_iff_eq, @eq_comm _ a]

theorem eq_of_get? {c c' : Condition} (h : ∀ a, c.get? a = c'.get? a) : c = c' := by
  obtain ⟨i, owner, organization, author⟩ := c
  obtain ⟨i', owner', organization', author'⟩ := c'
  obtain rfl : i = i' := h .id
  obtain rfl : owner = owner' := h .ownerId
  obtain rfl : organization = organization' := h .organizationId
  obtain rfl : author = author' := h .authorId
  rfl

theorem mem_entries {c : Condition} : (a, v) ∈ c.entries ↔ c.get? a = some v := by
  simp [entries, Attribute.mem_all]

theorem attributes_entries (c : Condition) :
    c.entries.map Prod.fst = Attribute.all.filter fun a => (c.get? a).isSome := by
  rw [entries, List.map_filterMap, ← List.filterMap_eq_filter]
  refine congrArg (List.filterMap · Attribute.all) (funext fun a => ?_)
  cases h : c.get? a <;> simp [Option.guard, h]

theorem holds_ofList_iff {s : Subject} : (ofList constraints).holds s = true ↔
    ∀ a ∈ constraints.map Prod.fst, ∃ v, LastValue constraints a v ∧ s.lookup a = some v := by
  simp only [holds_iff, get?_ofList_eq_some_iff, ← isSome_get?_ofList, Option.isSome_iff_exists]
  constructor
  · intro hmet a hthere
    obtain ⟨v, hv⟩ := hthere
    exact ⟨v, hv, hmet a v hv⟩
  · intro hmet a v hv
    obtain ⟨w, hw, hlookup⟩ := hmet a ⟨v, hv⟩
    rw [← get?_ofList_eq_some_iff] at hv hw
    obtain rfl : v = w := Option.some.inj (hv.symm.trans hw)
    exact hlookup

theorem ofList_eq_iff {constraints' : List (Attribute × AttrValue)} :
    ofList constraints = ofList constraints' ↔
      ∀ a v, LastValue constraints a v ↔ LastValue constraints' a v := by
  simp only [← get?_ofList_eq_some_iff]
  constructor
  · intro h a v
    rw [h]
  · exact fun h => eq_of_get? fun a => Option.ext (h a)

theorem decode_constraints (medium : Medium) (constraints : List (Attribute × AttrValue)) :
    Condition.decode medium (.table (constraints.map fun (a, v) => (a.text, v.document))) =
      .ok (ofList constraints) :=
  decodeMembers_entries medium empty constraints

end

/-- **The last constraint counts.** A condition that is built from constraints iterates over the
attributes among them in the order of attributes, each with the value of its last constraint. It
holds on a subject that has all these values, and is the same for any constraints with the same last
values. Its text has the members in the order of attributes, and a text with a member for every
constraint, as often as one is there, decodes to it. -/
theorem last_constraint_counts (constraints : List (Attribute × AttrValue)) :
    (ofList constraints).entries.map Prod.fst =
        ([.id, .ownerId, .organizationId, .authorId] : List Attribute).filter
          (· ∈ constraints.map Prod.fst) ∧
      (∀ a v, (a, v) ∈ (ofList constraints).entries ↔ LastValue constraints a v) ∧
      (∀ s, (ofList constraints).holds s = true ↔
        ∀ a ∈ constraints.map Prod.fst, ∃ v, LastValue constraints a v ∧ s.lookup a = some v) ∧
      (∀ constraints', ofList constraints = ofList constraints' ↔
        ∀ a v, LastValue constraints a v ↔ LastValue constraints' a v) ∧
      (ofList constraints).document.jsonText =
        String.ofList ('\x7b' :: [','].intercalate ((ofList constraints).entries.map fun (a, v) =>
          Json.quote a.text ++ ':' :: v.document.jsonChars) ++ ['\x7d']) ∧
      Decoder.text decode
          (Document.table (constraints.map fun (a, v) => (a.text, v.document))).jsonText =
        .ok (ofList constraints) := by
  have hexact : (Document.table (constraints.map fun (a, v) => (a.text, v.document))).Exact := by
    refine .table _ ?_
    rw [List.forall_mem_map]
    exact fun entry _ => entry.2.document_exact
  refine ⟨?_, fun a v => mem_entries.trans get?_ofList_eq_some_iff, fun s => holds_ofList_iff,
    fun constraints' => ofList_eq_iff, ?_, ?_⟩
  · rw [attributes_entries]
    refine List.filter_congr fun a _ => ?_
    rw [Bool.eq_iff_iff, isSome_get?_ofList, decide_eq_true_iff]
  · rw [Document.jsonText, document, Document.jsonChars, Json.jsonMembers_eq_intercalate,
      List.map_map]
    rfl
  · rw [Decoder.text_jsonText decode hexact]
    exact decode_constraints .json constraints

end Condition

end Clearance
