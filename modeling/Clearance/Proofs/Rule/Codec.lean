import Clearance.Proofs.Decoding.Record
import Clearance.Proofs.Vocabulary.Codec
import Clearance.Rule.Codec

/-!
# Rules read back

A rule is kept as a text for an audit. Whatever the rule is, its text decodes to the rule again, so
that the text tells all of it: two rules never share one, and a rule with an empty condition, which
applies to no bare type, is not taken for one without a condition.
-/

namespace Clearance

open Decoded

/-! ### Matchers -/

namespace SubjectMatcher

theorem decode_document (m : SubjectMatcher) (medium : Medium) :
    SubjectMatcher.decode medium m.document = .ok m := by
  cases m with
  | all => rfl
  | type t =>
    refine Document.asChoice_payload (by decide) (by simp [SubjectType.document]) ?_ medium
    change (SubjectType.decode medium t.document).map type = .ok (type t)
    rw [SubjectType.decode_document]
    rfl
  | anyOf types =>
    refine Document.asChoice_payload (by decide) (by simp) ?_ medium
    change ((Document.list (types.map SubjectType.document)).asListOf
      (SubjectType.decode medium)).map anyOf = .ok (anyOf types)
    rw [Document.asListOf_map fun t => t.decode_document medium]
    rfl

theorem document_exact (m : SubjectMatcher) : m.document.Exact := by
  cases m with
  | all => exact .text "all"
  | type t =>
    refine .table _ ?_
    rw [List.forall_mem_singleton]
    exact .text t.name
  | anyOf types =>
    refine .table _ ?_
    rw [List.forall_mem_singleton]
    refine .list _ ?_
    rw [List.forall_mem_map]
    exact fun t _ => .text t.name

end SubjectMatcher

/-! ### Conditions -/

namespace Condition

/-- A condition is what comes of inserting its entries one after another. -/
theorem ofList_entries (c : Condition) : ofList c.entries = c := by
  obtain ⟨i, owner, organization, author⟩ := c
  cases i <;> cases owner <;> cases organization <;> cases author <;> rfl

theorem decodeMembers_entries (medium : Medium) (c : Condition)
    (entries : List (Attribute × AttrValue)) :
    decodeMembers medium c (entries.map fun (a, v) => (a.text, v.document)) =
      .ok (entries.foldl (fun c (a, v) => c.insert a v) c) := by
  induction entries generalizing c with
  | nil => rfl
  | cons entry entries ih =>
    obtain ⟨a, v⟩ := entry
    have hcut : v.document ≠ .cut .key := by cases v <;> simp [AttrValue.document]
    rw [List.map_cons, List.foldl_cons, decodeMembers, Attribute.spellings_lookup_text]
    · simp only [AttrValue.decode_document]
      exact ih (c.insert a v)
    · exact fun h => hcut h

theorem decode_document (c : Condition) (medium : Medium) :
    Condition.decode medium c.document = .ok c := by
  rw [document_eq, decode, decodeMembers_entries]
  exact congrArg Except.ok c.ofList_entries

theorem document_exact (c : Condition) : c.document.Exact := by
  refine .table _ ?_
  rw [List.forall_mem_map]
  exact fun entry _ => entry.2.document_exact

end Condition

/-! ### Rules -/

namespace Rule

/-- The members of a rule's document, of which two may be missing. -/
def members (r : Rule) : List (String × Document) :=
  [("action", r.action.document), ("subject", r.subject.document)] ++
    (r.condition.map fun c => ("condition", c.document)).toList ++
    [("inverted", .bool r.inverted)] ++
    (r.reason.map fun reason => ("reason", Document.text reason)).toList

theorem document_eq_table (r : Rule) : r.document = .table r.members :=
  rfl

theorem nodup_members (r : Rule) : (r.members.map Prod.fst).Nodup := by
  obtain ⟨action, subject, condition, inverted, reason⟩ := r
  cases condition <;> cases reason <;> simp [members]

theorem nodup_specs (medium : Medium) : ((specs medium).map FieldSpec.name).Nodup := by
  simp [specs, FieldSpec.needed, FieldSpec.optional]

theorem members_exact (r : Rule) : ∀ m ∈ r.members, m.2.Exact := by
  intro m hm
  simp only [members, List.mem_append, List.mem_cons, List.not_mem_nil, or_false,
    Option.mem_toList, Option.map_eq_some_iff] at hm
  rcases hm with (((rfl | rfl) | ⟨c, -, rfl⟩) | rfl) | ⟨reason, -, rfl⟩
  · exact .text r.action.text
  · exact r.subject.document_exact
  · exact c.document_exact
  · exact .bool r.inverted
  · exact .text reason

section Fields

variable (r : Rule)

theorem needed_action (medium : Medium) :
    Document.neededField r.members "action" (Action.decode medium) = .ok r.action :=
  r.action.decode_document medium

theorem needed_subject (medium : Medium) :
    Document.neededField r.members "subject" (SubjectMatcher.decode medium) = .ok r.subject :=
  r.subject.decode_document medium

theorem optional_condition (medium : Medium) :
    Document.optionalField r.members "condition" (Condition.decode medium) = .ok r.condition := by
  obtain ⟨action, subject, condition, inverted, reason⟩ := r
  cases condition with
  | none => cases reason <;> rfl
  | some c =>
    change (Condition.decode medium c.document).map some = .ok (some c)
    rw [c.decode_document]
    rfl

theorem needed_inverted :
    Document.neededField r.members "inverted" Document.asBool = .ok r.inverted := by
  obtain ⟨action, subject, condition, inverted, reason⟩ := r
  cases condition <;> rfl

theorem optional_reason :
    Document.optionalField r.members "reason" Document.asText = .ok r.reason := by
  obtain ⟨action, subject, condition, inverted, reason⟩ := r
  cases condition <;> cases reason <;> rfl

end Fields

theorem decode_document (r : Rule) (medium : Medium) : decode medium r.document = .ok r := by
  have hpass : ∀ m ∈ r.members, m.2.passOver medium = .ok () :=
    fun m hm => (r.members_exact m hm).passOver medium
  have hmet : ∀ spec ∈ specs medium, spec.MetBy r.members := by
    simp only [specs, List.forall_mem_cons]
    exact ⟨Document.metBy_needed (r.needed_action medium),
      Document.metBy_needed (r.needed_subject medium),
      Document.metBy_optional (r.optional_condition medium),
      Document.metBy_needed r.needed_inverted, Document.metBy_optional r.optional_reason, by simp⟩
  rw [document_eq_table, decode,
    Document.asRecord_bind_eq_ok "Rule" (nodup_specs medium) r.nodup_members hpass]
  refine ⟨hmet, ?_⟩
  rw [r.needed_action, r.needed_subject, r.optional_condition, r.needed_inverted,
    r.optional_reason]
  rfl

theorem decode_text (r : Rule) : Decoder.text decode r.text = .ok r := by
  have hexact : r.document.Exact := .table _ r.members_exact
  rw [text, Decoder.text_jsonText decode hexact]
  exact r.decode_document .json

/-- **Rules read back.** The text of a rule decodes to the rule, so that it tells all of the rule, a
missing condition from an empty one too; and what any text decodes to decodes again from the text
that is written for it. -/
theorem text_reads_back (r : Rule) :
    Decoder.text decode r.text = .ok r ∧
      (∀ other : Rule, r.text = other.text ↔ r = other) ∧
      { r with condition := none }.text ≠ { r with condition := some .empty }.text ∧
      ∀ s, (Decoder.text decode s >>= fun first => Decoder.text decode first.text) =
        Decoder.text decode s := by
  have hinjective : Function.Injective text := injective_of_reads_back decode_text
  refine ⟨r.decode_text, fun other => hinjective.eq_iff, ?_, fun s => ?_⟩
  · intro h
    have hcondition := congrArg Rule.condition (hinjective h)
    cases hcondition
  · cases Decoder.text decode s with
    | error fault => rfl
    | ok first => exact bind_eq_ok.mpr ⟨first, rfl, first.decode_text⟩

end Rule

end Clearance
