import Clearance.Proofs.Document.Json.Text
import Clearance.Proofs.Identity.Uuid
import Clearance.Proofs.Subject.Record

/-!
# Records read back

A subject is read back from its record, as a value and from its text, so that different subjects
have different records. And what conditions see of a subject is what its record holds: an attribute
has the identifier that stands under its name, and none where nothing or null stands there.
-/

namespace Clearance

namespace Document

/-- Where no name is there twice, the last member with a name is the first. -/
theorem lastMember?_of_nodup {members : List (String × Document)}
    (hnodup : (members.map Prod.fst).Nodup) (name : String) :
    (table members).lastMember? name = members.lookup name := by
  have hreverse : (members.reverse.map Prod.fst).Nodup := by
    rw [List.map_reverse, List.nodup_reverse]
    exact hnodup
  refine Option.ext fun d => ?_
  rw [lastMember?, lookup_eq_some_iff_mem hreverse, lookup_eq_some_iff_mem hnodup,
    List.mem_reverse]

end Document

namespace Subject

/-! ### Members of a record -/

/-- The members tell of the subject and of nothing else, in whatever order they stand. -/
structure TellOf (members : List (String × Document)) (s : Subject) : Prop where
  nodup : (members.map Prod.fst).Nodup
  shape : ∀ m ∈ members, m.2 = .null ∨ ∃ text, m.2 = .text text
  tag : members.lookup discriminator = some (.text s.subjectType.text)
  described : s.DescribedBy (members.lookup ·)

namespace TellOf

variable {members : List (String × Document)} {s : Subject} (h : TellOf members s)

include h

theorem exact : (Document.table members).Exact := by
  refine .table _ fun m hm => ?_
  rcases h.shape m hm with hnull | ⟨text, htext⟩
  · rw [hnull]
    exact .null
  · rw [htext]
    exact .text text

theorem store (medium : Medium) : ∀ m ∈ members, m.2.store medium = .ok () := by
  intro m hm
  rcases h.shape m hm with hnull | ⟨text, htext⟩
  · simp [hnull, Document.store, Document.storable]
  · simp [htext, Document.store, Document.storable]

theorem decode_table (medium : Medium) : decode medium (.table members) = .ok s :=
  (decode_table_eq_ok h.nodup (h.store medium)).mpr ⟨h.tag, h.described⟩

theorem decode_jsonText : Decoder.text decode (Document.table members).jsonText = .ok s := by
  rw [Decoder.text_jsonText decode h.exact]
  exact h.decode_table .json

/-- As a value, the record only has its members in another order. -/
theorem canonicalMembers : TellOf (Document.canonicalMembers members) s := by
  have hlookup : ∀ name, (Document.canonicalMembers members).lookup name =
      (members.lookup name).map Document.canonical := by
    intro name
    rw [Document.lookup_canonicalMembers]
    exact congrArg (Option.map Document.canonical) (Document.lastMember?_of_nodup h.nodup name)
  refine ⟨(Document.canonicalMembers_inNameOrder members).nodup, fun m hm => ?_, ?_, ?_⟩
  · obtain ⟨d, hd, hvalue⟩ := Document.mem_canonicalMembers hm
    rw [hvalue, Document.canonical_eq_null]
    simp only [Document.canonical_eq_text]
    exact h.shape _ hd
  · rw [hlookup, h.tag]
    rfl
  · simp only [hlookup, describedBy_map_canonical]
    exact h.described

end TellOf

/-! ### The record of a subject -/

/-- The members of a subject's record, the discriminator first. -/
def recordMembers (s : Subject) : List (String × Document) :=
  (discriminator, s.subjectType.document) :: s.members

theorem document_eq_table (s : Subject) : s.document = .table s.recordMembers :=
  rfl

theorem canonical_document (s : Subject) :
    s.document.canonical = .table (Document.canonicalMembers s.recordMembers) := by
  rw [document_eq_table, Document.canonical]

theorem nodup_recordMembers (s : Subject) : (s.recordMembers.map Prod.fst).Nodup := by
  cases s <;> simp [recordMembers, members, UserSubject.members, ProjectSubject.members,
    OrganizationSubject.members, InviteSubject.members, BillingSubject.members, discriminator]

/-- Every member of a record is a text or null. -/
theorem recordMembers_shape (s : Subject) :
    ∀ m ∈ s.recordMembers, m.2 = .null ∨ ∃ text, m.2 = .text text := by
  have hid : ∀ {entity : Entity} (i : Id entity),
      i.document = .null ∨ ∃ text, i.document = .text text := fun i => .inr ⟨i.uuid.text, rfl⟩
  have hoptional : ∀ {entity : Entity} (i? : Option (Id entity)),
      optionalIdDocument i? = .null ∨ ∃ text, optionalIdDocument i? = .text text := by
    intro entity i?
    cases i? with
    | none => exact .inl rfl
    | some i => exact hid i
  rw [recordMembers, List.forall_mem_cons]
  refine ⟨.inr ⟨_, rfl⟩, ?_⟩
  cases s with
  | user s => simp [members, UserSubject.members, hid]
  | project s => simp [members, ProjectSubject.members, hid, hoptional]
  | organization s => simp [members, OrganizationSubject.members, hid]
  | invite s => simp [members, InviteSubject.members, hid, hoptional]
  | billing s => simp [members, BillingSubject.members, hid]

theorem holdsId_document {entity : Entity} (i : Id entity) : HoldsId i (some i.document) :=
  ⟨i.uuid.text, rfl, i.uuid.read_text⟩

theorem mayHoldId_document {entity : Entity} (i? : Option (Id entity)) :
    MayHoldId i? (some (optionalIdDocument i?)) := by
  cases i? with
  | none => exact .inr rfl
  | some i => exact holdsId_document i

theorem describedBy_recordMembers (s : Subject) : s.DescribedBy (s.recordMembers.lookup ·) := by
  cases s with
  | user s => exact holdsId_document s.id
  | project s =>
    exact ⟨holdsId_document s.id, holdsId_document s.ownerId, mayHoldId_document s.organizationId⟩
  | organization s => exact ⟨holdsId_document s.id, holdsId_document s.ownerId⟩
  | invite s =>
    exact ⟨holdsId_document s.id, holdsId_document s.organizationId, mayHoldId_document s.authorId⟩
  | billing s => exact holdsId_document s.organizationId

theorem tellOf_recordMembers (s : Subject) : TellOf s.recordMembers s where
  nodup := s.nodup_recordMembers
  shape := s.recordMembers_shape
  tag := by
    rw [recordMembers, List.lookup_cons_self, SubjectType.document, SubjectType.name_eq_text]
  described := s.describedBy_recordMembers

theorem fromRecord_document (s : Subject) : fromRecord s.document = .ok s := by
  have hlookup := Document.lastMember?_of_nodup s.nodup_recordMembers
  rw [document_eq_table, (fromRecord_readsAs (.table s.recordMembers)).accepted]
  simp only [hlookup]
  exact ⟨s.tellOf_recordMembers.tag, s.describedBy_recordMembers⟩

theorem decode_jsonText (s : Subject) : Decoder.text decode s.document.jsonText = .ok s :=
  s.tellOf_recordMembers.decode_jsonText

theorem decode_canonical_jsonText (s : Subject) :
    Decoder.text decode s.document.canonical.jsonText = .ok s := by
  rw [canonical_document]
  exact s.tellOf_recordMembers.canonicalMembers.decode_jsonText

/-! ### Attributes -/

/-- A member of a record shows an attribute: the text of the identifier that the attribute has, or
nothing or null where it has none. -/
inductive Shows : Option Document → Option AttrValue → Prop
  | absent : Shows none none
  | null : Shows (some .null) none
  | id (u : Uuid) : Shows (some (.text u.text)) (some (.id u))

theorem shows_optional {entity : Entity} (i? : Option (Id entity)) :
    Shows (some (optionalIdDocument i?)) (i?.map .ofId) := by
  cases i? with
  | none => exact .null
  | some i => exact .id i.uuid

theorem shows_lookup (s : Subject) (a : Attribute) :
    Shows (s.document.member? a.text) (s.lookup a) := by
  cases s with
  | user s =>
    cases a with
    | id => exact .id s.id.uuid
    | _ => exact .absent
  | project s =>
    cases a with
    | id => exact .id s.id.uuid
    | ownerId => exact .id s.ownerId.uuid
    | organizationId => exact shows_optional s.organizationId
    | authorId => exact .absent
  | organization s =>
    cases a with
    | id => exact .id s.id.uuid
    | ownerId => exact .id s.ownerId.uuid
    | _ => exact .absent
  | invite s =>
    cases a with
    | id => exact .id s.id.uuid
    | ownerId => exact .absent
    | organizationId => exact .id s.organizationId.uuid
    | authorId => exact shows_optional s.authorId
  | billing s =>
    cases a with
    | organizationId => exact .id s.organizationId.uuid
    | _ => exact .absent

section Shows

variable {member? : Option Document} {v? : Option AttrValue} (h : Shows member? v?)

include h

theorem Shows.eq_id_iff (u : Uuid) : v? = some (.id u) ↔ member? = some (.text u.text) := by
  cases h with
  | absent => simp
  | null => simp
  | id w =>
    rw [Option.some.injEq, AttrValue.id.injEq, Option.some.injEq, Document.text.injEq,
      Uuid.text_injective.eq_iff]

theorem Shows.eq_none_iff : v? = none ↔ member? = none ∨ member? = some .null := by
  cases h <;> simp

theorem Shows.none_or_id : v? = none ∨ ∃ u, v? = some (.id u) := by
  cases h <;> simp

end Shows

/-- **Records read back.** A subject is read back from its record and from the text of its record,
with the members in either order, so that no other subject has the same. An attribute has an
identifier exactly when the record shows that identifier under the name of the attribute, has none
where the record shows none, and has no other value. Identifiers are written hyphenated and in lower
case, and read back. -/
theorem record_reads_back (s : Subject) :
    fromRecord s.document = .ok s ∧
      Decoder.text decode s.document.jsonText = .ok s ∧
      Decoder.text decode s.document.canonical.jsonText = .ok s ∧
      (∀ other : Subject, (s.document.canonical = other.document.canonical ↔ s = other) ∧
        (s.document.jsonText = other.document.jsonText ↔ s = other)) ∧
      (∀ a, (∀ u, s.lookup a = some (.id u) ↔ s.document.member? a.text = some (.text u.text)) ∧
        (s.lookup a = none ↔
          s.document.member? a.text = none ∨ s.document.member? a.text = some .null) ∧
        (s.lookup a = none ∨ ∃ u, s.lookup a = some (.id u))) ∧
      ∀ u : Uuid, Uuid.IsHyphenated u.text.toList ∧ Uuid.read u.text = .ok u := by
  have hinjective : Function.Injective fun s : Subject => s.document.jsonText :=
    Decoded.injective_of_reads_back decode_jsonText
  refine ⟨s.fromRecord_document, s.decode_jsonText, s.decode_canonical_jsonText,
    fun other => ⟨⟨fun h => ?_, fun h => ?_⟩, hinjective.eq_iff⟩, fun a => ?_,
    fun u => ⟨?_, u.read_text⟩⟩
  · have hread : fromRecord s.document = fromRecord other.document := by simp only [fromRecord, h]
    rw [fromRecord_document, fromRecord_document] at hread
    exact Except.ok.inj hread
  · rw [h]
  · have hshows := s.shows_lookup a
    exact ⟨hshows.eq_id_iff, hshows.eq_none_iff, hshows.none_or_id⟩
  · rw [Uuid.text, String.toList_ofList]
    exact u.isHyphenated_chars

end Subject

end Clearance
