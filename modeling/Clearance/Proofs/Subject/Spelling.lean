import Clearance.Proofs.Ability.Attainable
import Clearance.Proofs.Ability.Policy
import Clearance.Proofs.Identity.Spelling
import Clearance.Proofs.Subject.Encoding

/-!
# Records that differ in spelling

What a record tells of a subject is the type that the discriminator names and, under the names of
that type's attributes, identifiers. An identifier has many texts, an attribute without a value is
null or missing, and members of other names tell nothing; two records that differ in these ways
alone are respellings of each other. Respellings are read as one subject, and no other record is
read as it. So what is decided about a record, for a user whose identifier comes as any text that
spells it, does not depend on the spelling of either.
-/

namespace Clearance

namespace Subject

/-! ### What a member tells -/

/-- A member tells an attribute: any text that spells the identifier that the attribute has, or
nothing or null where it has none. -/
inductive Tells : Option Document → Option AttrValue → Prop
  | absent : Tells none none
  | null : Tells (some .null) none
  | id {u : Uuid} {w : String} (h : u.Spells w) : Tells (some (.text w)) (some (.id u))

theorem tells_none_iff {d? : Option Document} : Tells d? none ↔ d? = none ∨ d? = some .null := by
  constructor
  · intro h
    cases h with
    | absent => exact .inl rfl
    | null => exact .inr rfl
  · intro h
    rcases h with rfl | rfl
    · exact .absent
    · exact .null

theorem tells_id_iff {d? : Option Document} {u : Uuid} :
    Tells d? (some (.id u)) ↔ ∃ w, d? = some (.text w) ∧ u.Spells w := by
  constructor
  · intro h
    cases h with
    | id hspells => exact ⟨_, rfl, hspells⟩
  · intro h
    obtain ⟨w, rfl, hspells⟩ := h
    exact .id hspells

section Holds

variable {entity : Entity} {d? : Option Document}

theorem tells_ofId_iff {i : Id entity} : Tells d? (some (.ofId i)) ↔ HoldsId i d? := by
  simp only [AttrValue.ofId, tells_id_iff, HoldsId, Uuid.read_eq_ok_iff]

theorem tells_map_ofId_iff {i? : Option (Id entity)} :
    Tells d? (i?.map .ofId) ↔ MayHoldId i? d? := by
  cases i? with
  | none => exact tells_none_iff
  | some i => exact tells_ofId_iff

end Holds

/-- A record describes a subject when it tells each attribute of the subject's type. -/
theorem describedBy_iff {member? : String → Option Document} {s : Subject} :
    s.DescribedBy member? ↔
      ∀ x ∈ s.subjectType.attributes, Tells (member? x.text) (s.lookup x) := by
  cases s <;>
    simp only [DescribedBy, subjectType, SubjectType.attributes, lookup, Attribute.text,
      List.forall_mem_cons, List.not_mem_nil, false_implies, implies_true, and_true,
      tells_ofId_iff, tells_map_ofId_iff]

/-! ### Respellings -/

/-- Two members of one name that tell the same: they are the same, or texts of one identifier, or
each of them is null or missing. -/
inductive SpelledAlike : Option Document → Option Document → Prop
  | same (d? : Option Document) : SpelledAlike d? d?
  | ids {u : Uuid} {w w' : String} (h : u.Spells w) (h' : u.Spells w') :
      SpelledAlike (some (.text w)) (some (.text w'))
  | nothing {d? e? : Option Document} (h : d? = none ∨ d? = some .null)
      (h' : e? = none ∨ e? = some .null) : SpelledAlike d? e?

/-- Two records with the same discriminator whose members of the names of a type's attributes tell
the same, whatever other members either has. -/
structure Respelled (t : SubjectType) (record record' : Document) : Prop where
  tag : record.lastMember? discriminator = record'.lastMember? discriminator
  alike : ∀ x ∈ t.attributes,
    SpelledAlike (record.lastMember? x.text) (record'.lastMember? x.text)

theorem Tells.spelledAlike_iff {d? e? : Option Document} {v? : Option AttrValue}
    (h : Tells d? v?) : SpelledAlike d? e? ↔ Tells e? v? := by
  constructor
  · intro halike
    cases halike with
    | same => exact h
    | ids hw hw' =>
      cases h with
      | id hread =>
        -- one text spells one identifier
        have hu := (Uuid.read_eq_ok_iff.mpr hw).symm.trans (Uuid.read_eq_ok_iff.mpr hread)
        rw [← Except.ok.inj hu]
        exact .id hw'
    | nothing hnone hnone' =>
      have hv : v? = none := by
        rcases hnone with rfl | rfl <;> cases h <;> rfl
      rw [hv, tells_none_iff]
      exact hnone'
  · intro h'
    cases h with
    | absent => exact .nothing (.inl rfl) (tells_none_iff.mp h')
    | null => exact .nothing (.inr rfl) (tells_none_iff.mp h')
    | id hw =>
      obtain ⟨w', rfl, hw'⟩ := tells_id_iff.mp h'
      exact .ids hw hw'

/-- The respellings of a record that is read as a subject are the records read as that subject. -/
theorem fromRecord_eq_ok_iff_respelled {record record' : Document} {s : Subject}
    (hread : fromRecord record = .ok s) :
    fromRecord record' = .ok s ↔ Respelled s.subjectType record record' := by
  obtain ⟨htag, hdescribed⟩ := ((fromRecord_readsAs record).accepted s).mp hread
  rw [(fromRecord_readsAs record').accepted]
  rw [describedBy_iff] at hdescribed ⊢
  constructor
  · intro h
    obtain ⟨htag', hdescribed'⟩ := h
    exact ⟨htag.trans htag'.symm, fun x hx =>
      (hdescribed x hx).spelledAlike_iff.mpr (hdescribed' x hx)⟩
  · intro h
    obtain ⟨hsame, halike⟩ := h
    exact ⟨hsame.symm.trans htag, fun x hx => (hdescribed x hx).spelledAlike_iff.mp (halike x hx)⟩

/-! ### Decisions about records -/

/-- What the ability of a user decides about the subject that a record is read as. -/
def decideRecord (user : UserId) (role : Role) (action : Action) (record : Document) :
    Except AbilityError Decision := do
  (defineAbilityFor user role).decide action (.subject (← fromRecord record))

/-- The decision is the verdict of the role's table. -/
theorem decideRecord_of_read {record : Document} {s : Subject} (hread : fromRecord record = .ok s)
    (user : UserId) (role : Role) (action : Action) :
    decideRecord user role action record =
      .ok (role.verdict action s.subjectType (s.lookup .ownerId = some (.id user.uuid))) := by
  have hdecide : (defineAbilityFor user role).decide action (.subject s) =
      .ok (role.verdict action s.subjectType (s.lookup .ownerId = some (.id user.uuid))) := by
    rw [defineAbilityFor, PolicyRegistry.buildAbility, AbilityBuilder.decide_build]
    exact congrArg Except.ok (role.verdict_policy user _ action s.subjectType (.subject s))
  rw [decideRecord, hread]
  exact hdecide

/-- **Spelling does not matter.** The records that are read as the same subject as a given one are
exactly its respellings. On each of them every ability of every user decides alike, with the verdict
of the role's table for the subject, and written back each becomes the same record, which is one of
the respellings. The user may be given by any text that spells the identifier: a text is decoded as
an identifier exactly when it does, that is, when in lower case it is one of the four forms. -/
theorem spelling_irrelevant {record : Document} {s : Subject} (hread : fromRecord record = .ok s) :
    (∀ record', fromRecord record' = .ok s ↔ Respelled s.subjectType record record') ∧
    (∀ record', Respelled s.subjectType record record' →
      fromRecord record' = fromRecord record ∧
      (∀ user role action,
        decideRecord user role action record' = decideRecord user role action record ∧
        decideRecord user role action record' =
          .ok (role.verdict action s.subjectType (s.lookup .ownerId = some (.id user.uuid)))) ∧
      (fromRecord record').map document = .ok s.document) ∧
    Respelled s.subjectType record s.document ∧
    (∀ (w : String) (user : UserId) (medium : Medium),
      Id.decode .user medium (.text w) = .ok user ↔ user.uuid.Spells w) ∧
    ∀ (w : String) (u : Uuid), Uuid.read w = .ok u ↔ u.Spells w := by
  refine ⟨fun record' => fromRecord_eq_ok_iff_respelled hread, fun record' hrespelled => ?_,
    (fromRecord_eq_ok_iff_respelled hread).mp s.fromRecord_document, fun w user medium => ?_,
    fun w u => Uuid.read_eq_ok_iff⟩
  · have hread' : fromRecord record' = .ok s :=
      (fromRecord_eq_ok_iff_respelled hread).mpr hrespelled
    have hverdict := decideRecord_of_read hread
    have hverdict' := decideRecord_of_read hread'
    refine ⟨hread'.trans hread.symm, fun user role action => ⟨?_, hverdict' user role action⟩, ?_⟩
    · rw [hverdict, hverdict']
    · rw [hread']
      rfl
  · rw [Id.decode, Document.asId_eq_ok]
    simp [Uuid.read_eq_ok_iff]

/-- A record of a project with its members in another order, one identifier in braces and one as a
name, a member too many and none for the organization. -/
theorem spelling_irrelevant_project :
    let s : Subject := .project ⟨⟨⟨0xC0FFEE⟩⟩, ⟨⟨7⟩⟩, none⟩
    let record : Document := .table
      [("ownerId", .text "URN:UUID:00000000-0000-0000-0000-000000000007"),
        ("note", .list [.null]), (discriminator, .text "Project"),
        ("id", .text "\x7b00000000-0000-0000-0000-000000C0ffEE\x7d")]
    fromRecord s.document = .ok s ∧ Respelled .project s.document record ∧
      fromRecord record = .ok s := by
  intro s record
  have hrespelled : Respelled .project s.document record := by
    refine ⟨rfl, ?_⟩
    simp only [SubjectType.attributes, List.forall_mem_cons, List.not_mem_nil, false_implies,
      implies_true, and_true]
    exact ⟨.ids (u := ⟨0xC0FFEE⟩) (by decide +kernel) (by decide +kernel),
      .ids (u := ⟨7⟩) (by decide +kernel) (by decide +kernel), .nothing (.inr rfl) (.inl rfl)⟩
  exact ⟨s.fromRecord_document, hrespelled,
    ((spelling_irrelevant s.fromRecord_document).1 record).mpr hrespelled⟩

end Subject

end Clearance
