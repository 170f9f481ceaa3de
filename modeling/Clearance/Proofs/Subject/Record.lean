import Clearance.Proofs.Decoding.Record
import Clearance.Proofs.Document.Canonical
import Clearance.Proofs.Vocabulary.Spelling
import Clearance.Subject.Record

/-!
# The grammar of records

A record is told apart by its discriminator, and the identifiers of the variant that it names are
all that is looked at besides. The grammar says so without a decoder: which members a record of a
subject must have, and which it may have. Reading a record, and decoding it as a subject at once,
accept this grammar and nothing else.
-/

namespace Clearance

open Decoded

/-! ### The names of types -/

namespace SubjectType

theorem ofText?_eq_some {s : String} {t : SubjectType} : ofText? s = some t ↔ s = t.text :=
  vocabulary.find?_eq_some_iff

theorem ofText?_eq_none {s : String} : ofText? s = none ↔ ∀ t : SubjectType, t.text ≠ s :=
  vocabulary.find?_eq_none_iff.trans (forall_congr' fun _ => ne_comm)

theorem spellings_lookup_eq_some {s : String} {t : SubjectType} :
    spellings.lookup s = some t ↔ s = t.text := by
  have hlookup : spellings.lookup s = ofText? s := vocabulary.lookup_spellings
  rw [hlookup, ofText?_eq_some]

theorem text_injective {t u : SubjectType} (h : t.text = u.text) : t = u :=
  vocabulary.text_injective h

end SubjectType

namespace Subject

/-! ### The grammar -/

/-- A member that is there with the text of an identifier. -/
def HoldsId {entity : Entity} (i : Id entity) (d? : Option Document) : Prop :=
  ∃ s, d? = some (.text s) ∧ Uuid.read s = .ok i.uuid

/-- A member that is missing or null, or there with the text of an identifier. -/
def MayHoldId {entity : Entity} : Option (Id entity) → Option Document → Prop
  | none, d? => d? = none ∨ d? = some .null
  | some i, d? => HoldsId i d?

/-- The members with the names of the variant's attributes hold the identifiers of the subject. -/
def DescribedBy (member? : String → Option Document) : Subject → Prop
  | user s => HoldsId s.id (member? "id")
  | project s =>
      HoldsId s.id (member? "id") ∧ HoldsId s.ownerId (member? "ownerId") ∧
        MayHoldId s.organizationId (member? "organizationId")
  | organization s => HoldsId s.id (member? "id") ∧ HoldsId s.ownerId (member? "ownerId")
  | invite s =>
      HoldsId s.id (member? "id") ∧ HoldsId s.organizationId (member? "organizationId") ∧
        MayHoldId s.authorId (member? "authorId")
  | billing s => HoldsId s.organizationId (member? "organizationId")

theorem holdsId_map_canonical {entity : Entity} {i : Id entity} {d? : Option Document} :
    HoldsId i (d?.map Document.canonical) ↔ HoldsId i d? := by
  cases d? <;> simp [HoldsId, Document.canonical_eq_text]

theorem mayHoldId_map_canonical {entity : Entity} {i? : Option (Id entity)}
    {d? : Option Document} : MayHoldId i? (d?.map Document.canonical) ↔ MayHoldId i? d? := by
  cases i? with
  | none => cases d? <;> simp [MayHoldId, Document.canonical_eq_null]
  | some i => exact holdsId_map_canonical

theorem describedBy_map_canonical {member? : String → Option Document} {s : Subject} :
    s.DescribedBy (fun name => (member? name).map Document.canonical) ↔ s.DescribedBy member? := by
  cases s <;> simp only [DescribedBy, holdsId_map_canonical, mayHoldId_map_canonical]

/-- The discriminator is not an attribute. -/
theorem describedBy_congr {member? other? : String → Option Document}
    (hsame : ∀ name ≠ discriminator, member? name = other? name) (s : Subject) :
    s.DescribedBy member? ↔ s.DescribedBy other? := by
  have hid := hsame "id" (by decide)
  have howner := hsame "ownerId" (by decide)
  have horganization := hsame "organizationId" (by decide)
  have hauthor := hsame "authorId" (by decide)
  cases s <;> simp only [DescribedBy, hid, howner, horganization, hauthor]

/-! ### Decoding a variant -/

theorem neededId_eq_ok {entity : Entity} {members : List (String × Document)} {name : String}
    {i : Id entity} :
    Document.neededField members name (Document.asId entity) = .ok i ↔
      HoldsId i (members.lookup name) := by
  rw [Document.neededField, HoldsId]
  cases members.lookup name with
  | none => simp
  | some d => simp [Document.asId_eq_ok]

theorem optionalId_eq_ok {entity : Entity} {members : List (String × Document)} {name : String}
    {i? : Option (Id entity)} :
    Document.optionalField members name (Document.asId entity) = .ok i? ↔
      MayHoldId i? (members.lookup name) := by
  rw [Document.optionalField]
  cases members.lookup name with
  | none => cases i? <;> simp [MayHoldId, HoldsId]
  | some d =>
    simp only [Document.asOptional_eq_ok, Document.asId_eq_ok]
    cases i? <;> cases d <;> simp [MayHoldId, HoldsId]

theorem metBy_neededId {entity : Entity} {members : List (String × Document)} {name : String}
    {i : Id entity} (h : HoldsId i (members.lookup name)) :
    (FieldSpec.needed name (Document.asId entity)).MetBy members :=
  Document.metBy_needed (neededId_eq_ok.mpr h)

theorem metBy_optionalId {entity : Entity} {members : List (String × Document)} {name : String}
    {i? : Option (Id entity)} (h : MayHoldId i? (members.lookup name)) :
    (FieldSpec.optional name (Document.asId entity)).MetBy members :=
  Document.metBy_optional (optionalId_eq_ok.mpr h)

section Variant

variable {medium : Medium} {members : List (String × Document)}
  (hnodup : (members.map Prod.fst).Nodup) (hpass : ∀ m ∈ members, m.2.passOver medium = .ok ())

include hnodup hpass

theorem decodeUser_eq_ok {s : UserSubject} :
    UserSubject.decode medium (.table members) = .ok s ↔
      (user s).DescribedBy (members.lookup ·) := by
  rw [UserSubject.decode, Document.asRecord_bind_eq_ok _ (by decide) hnodup hpass]
  simp only [bind_eq_ok, pure_eq_ok, neededId_eq_ok, DescribedBy]
  constructor
  · intro h
    obtain ⟨-, i, hid, rfl⟩ := h
    exact hid
  · intro hid
    refine ⟨?_, s.id, hid, rfl⟩
    simp [UserSubject.specs, metBy_neededId hid]

theorem decodeProject_eq_ok {s : ProjectSubject} :
    ProjectSubject.decode medium (.table members) = .ok s ↔
      (project s).DescribedBy (members.lookup ·) := by
  rw [ProjectSubject.decode, Document.asRecord_bind_eq_ok _ (by decide) hnodup hpass]
  simp only [bind_eq_ok, pure_eq_ok, neededId_eq_ok, optionalId_eq_ok, DescribedBy]
  constructor
  · intro h
    obtain ⟨-, i, hid, owner, howner, organization?, horganization, rfl⟩ := h
    exact ⟨hid, howner, horganization⟩
  · intro h
    obtain ⟨hid, howner, horganization⟩ := h
    refine ⟨?_, s.id, hid, s.ownerId, howner, s.organizationId, horganization, rfl⟩
    simp [ProjectSubject.specs, metBy_neededId hid, metBy_neededId howner,
      metBy_optionalId horganization]

theorem decodeOrganization_eq_ok {s : OrganizationSubject} :
    OrganizationSubject.decode medium (.table members) = .ok s ↔
      (organization s).DescribedBy (members.lookup ·) := by
  rw [OrganizationSubject.decode, Document.asRecord_bind_eq_ok _ (by decide) hnodup hpass]
  simp only [bind_eq_ok, pure_eq_ok, neededId_eq_ok, DescribedBy]
  constructor
  · intro h
    obtain ⟨-, i, hid, owner, howner, rfl⟩ := h
    exact ⟨hid, howner⟩
  · intro h
    obtain ⟨hid, howner⟩ := h
    refine ⟨?_, s.id, hid, s.ownerId, howner, rfl⟩
    simp [OrganizationSubject.specs, metBy_neededId hid, metBy_neededId howner]

theorem decodeInvite_eq_ok {s : InviteSubject} :
    InviteSubject.decode medium (.table members) = .ok s ↔
      (invite s).DescribedBy (members.lookup ·) := by
  rw [InviteSubject.decode, Document.asRecord_bind_eq_ok _ (by decide) hnodup hpass]
  simp only [bind_eq_ok, pure_eq_ok, neededId_eq_ok, optionalId_eq_ok, DescribedBy]
  constructor
  · intro h
    obtain ⟨-, i, hid, organization, horganization, author?, hauthor, rfl⟩ := h
    exact ⟨hid, horganization, hauthor⟩
  · intro h
    obtain ⟨hid, horganization, hauthor⟩ := h
    refine ⟨?_, s.id, hid, s.organizationId, horganization, s.authorId, hauthor, rfl⟩
    simp [InviteSubject.specs, metBy_neededId hid, metBy_neededId horganization,
      metBy_optionalId hauthor]

theorem decodeBilling_eq_ok {s : BillingSubject} :
    BillingSubject.decode medium (.table members) = .ok s ↔
      (billing s).DescribedBy (members.lookup ·) := by
  rw [BillingSubject.decode, Document.asRecord_bind_eq_ok _ (by decide) hnodup hpass]
  simp only [bind_eq_ok, pure_eq_ok, neededId_eq_ok, DescribedBy]
  constructor
  · intro h
    obtain ⟨-, i, horganization, rfl⟩ := h
    exact horganization
  · intro horganization
    refine ⟨?_, s.organizationId, horganization, rfl⟩
    simp [BillingSubject.specs, metBy_neededId horganization]

theorem decodeVariant_eq_ok {t : SubjectType} {s : Subject} :
    decodeVariant t medium (.table members) = .ok s ↔
      s.subjectType = t ∧ s.DescribedBy (members.lookup ·) := by
  cases t with
  | user =>
    simp only [decodeVariant, map_eq_ok, decodeUser_eq_ok hnodup hpass]
    cases s <;> simp [subjectType]
  | project =>
    simp only [decodeVariant, map_eq_ok, decodeProject_eq_ok hnodup hpass]
    cases s <;> simp [subjectType]
  | organization =>
    simp only [decodeVariant, map_eq_ok, decodeOrganization_eq_ok hnodup hpass]
    cases s <;> simp [subjectType]
  | invite =>
    simp only [decodeVariant, map_eq_ok, decodeInvite_eq_ok hnodup hpass]
    cases s <;> simp [subjectType]
  | billing =>
    simp only [decodeVariant, map_eq_ok, decodeBilling_eq_ok hnodup hpass]
    cases s <;> simp [subjectType]

end Variant

/-! ### Setting the discriminator aside -/

theorem decodeTag_eq_ok {d : Document} {t : SubjectType} :
    decodeTag d = .ok t ↔ d = .text t.text := by
  cases d with
  | text name =>
    rw [decodeTag, Document.text.injEq, ← SubjectType.spellings_lookup_eq_some]
    cases SubjectType.spellings.lookup name <;> simp
  | _ => simp [decodeTag]

section Split

variable {medium : Medium} {members : List (String × Document)} {t u : SubjectType}
  {others : List (String × Document)}

theorem splitMembers_some_eq_ok (hstore : ∀ m ∈ members, m.2.store medium = .ok ()) :
    splitMembers medium (some t) members = .ok (u, others) ↔
      t = u ∧ members = others ∧ ∀ m ∈ members, m.1 ≠ discriminator := by
  induction members generalizing u others with
  | nil => simp [splitMembers]
  | cons first rest ih =>
    obtain ⟨name, d⟩ := first
    obtain ⟨hd, hrest⟩ := List.forall_mem_cons.mp hstore
    rw [splitMembers, List.forall_mem_cons]
    by_cases hname : name = discriminator
    · simp [hname]
    · rw [if_neg hname, check_bind_eq_ok]
      simp only [bind_eq_ok, pure_eq_ok, Prod.exists, ih hrest]
      constructor
      · intro h
        obtain ⟨-, _, _, ⟨rfl, rfl, hothers⟩, hsplit⟩ := h
        cases hsplit
        exact ⟨rfl, rfl, hname, hothers⟩
      · intro h
        obtain ⟨rfl, rfl, -, hothers⟩ := h
        exact ⟨hd, _, _, ⟨rfl, rfl, hothers⟩, rfl⟩

theorem splitMembers_none_eq_ok (hnodup : (members.map Prod.fst).Nodup)
    (hstore : ∀ m ∈ members, m.2.store medium = .ok ()) :
    splitMembers medium none members = .ok (u, others) ↔
      members.lookup discriminator = some (.text u.text) ∧
        members.filter (·.1 ≠ discriminator) = others := by
  induction members generalizing u others with
  | nil => simp [splitMembers]
  | cons first rest ih =>
    obtain ⟨name, d⟩ := first
    obtain ⟨hd, hrest⟩ := List.forall_mem_cons.mp hstore
    rw [List.map_cons, List.nodup_cons] at hnodup
    rw [splitMembers, List.filter_cons]
    by_cases hname : name = discriminator
    · subst hname
      have hothers : ∀ m ∈ rest, m.1 ≠ discriminator := by
        intro m hm heq
        exact hnodup.1 (List.mem_map.mpr ⟨m, hm, heq⟩)
      have hfilter : rest.filter (·.1 ≠ discriminator) = rest :=
        List.filter_eq_self.mpr fun m hm => decide_eq_true (hothers m hm)
      rw [if_pos rfl, if_neg (by simp), List.lookup_cons_self, hfilter, Option.some.injEq]
      simp only [bind_eq_ok, decodeTag_eq_ok, splitMembers_some_eq_ok hrest]
      constructor
      · intro h
        obtain ⟨_, hd, rfl, hrest, -⟩ := h
        exact ⟨hd, hrest⟩
      · intro h
        obtain ⟨hd, hrest⟩ := h
        exact ⟨u, hd, rfl, hrest, hothers⟩
    · have hbeq : (discriminator == name) = false := beq_eq_false_iff_ne.mpr (Ne.symm hname)
      rw [if_neg hname, if_pos (decide_eq_true hname), check_bind_eq_ok,
        List.lookup_cons, hbeq]
      simp only [bind_eq_ok, pure_eq_ok, Prod.exists, ih hnodup.2 hrest]
      constructor
      · intro h
        obtain ⟨-, _, _, ⟨htag, rfl⟩, hsplit⟩ := h
        cases hsplit
        exact ⟨htag, rfl⟩
      · intro h
        obtain ⟨htag, rfl⟩ := h
        exact ⟨hd, u, _, ⟨htag, rfl⟩, rfl⟩

end Split

/-- A table is decoded as a subject when its discriminator names the variant of the subject and the
other members describe it. -/
theorem decode_table_eq_ok {medium : Medium} {members : List (String × Document)}
    (hnodup : (members.map Prod.fst).Nodup)
    (hstore : ∀ m ∈ members, m.2.store medium = .ok ()) {s : Subject} :
    decode medium (.table members) = .ok s ↔
      members.lookup discriminator = some (.text s.subjectType.text) ∧
        s.DescribedBy (members.lookup ·) := by
  have hnodupOthers : ((members.filter (·.1 ≠ discriminator)).map Prod.fst).Nodup :=
    hnodup.sublist (List.filter_sublist.map Prod.fst)
  have hpassOthers : ∀ m ∈ members.filter (·.1 ≠ discriminator), m.2.passOver .stored = .ok () :=
    fun m _ => Document.passOver_of_ne_json (by decide) m.2
  have hothers := describedBy_congr (fun name hname =>
    Document.lookup_filter (· ≠ discriminator) (decide_eq_true hname) members) s
  simp only [decode, bind_eq_ok, Prod.exists, splitMembers_none_eq_ok hnodup hstore]
  constructor
  · intro h
    obtain ⟨t, _, ⟨htag, rfl⟩, hs⟩ := h
    obtain ⟨rfl, hdescribed⟩ := (decodeVariant_eq_ok hnodupOthers hpassOthers).mp hs
    exact ⟨htag, hothers.mp hdescribed⟩
  · intro h
    obtain ⟨htag, hdescribed⟩ := h
    refine ⟨s.subjectType, _, ⟨htag, rfl⟩, ?_⟩
    exact (decodeVariant_eq_ok hnodupOthers hpassOthers).mpr ⟨rfl, hothers.mpr hdescribed⟩

/-- Decoding a value is looking at the last member of each name. -/
theorem decode_value_eq_ok {members : List (String × Document)} {s : Subject} :
    Decoder.value decode (.table members) = .ok s ↔
      (Document.table members).lastMember? discriminator = some (.text s.subjectType.text) ∧
        s.DescribedBy ((Document.table members).lastMember? ·) := by
  have hnodup := (Document.canonicalMembers_inNameOrder members).nodup
  have hstore : ∀ m ∈ Document.canonicalMembers members, m.2.store .memory = .ok () :=
    fun m _ => Document.store_of_ne_json (by decide) m.2
  have hlookup := fun name => Document.lookup_canonicalMembers name members
  rw [Decoder.value, Document.canonical, decode_table_eq_ok hnodup hstore, hlookup]
  simp only [hlookup, describedBy_map_canonical, Document.lastMember?]
  cases members.reverse.lookup discriminator <;> simp [Document.canonical_eq_text]

/-! ### Reading a record -/

/-- What the grammar says about the answer to a record. -/
structure ReadsAs (record : Document) (answer : Except AbilityError Subject) : Prop where
  missing : answer = .error .missingDiscriminator ↔
    (∀ members, record ≠ .table members) ∨ record.lastMember? discriminator = none ∨
      record.lastMember? discriminator = some .null
  unknown : ∀ name, answer = .error (.unknownSubjectType name) ↔
    (record.lastMember? discriminator = some (.text name) ∧ ∀ t : SubjectType, t.text ≠ name) ∨
      ∃ d, record.lastMember? discriminator = some d ∧ d ≠ .null ∧ (∀ s, d ≠ .text s) ∧
        d.canonical.jsonText = name
  accepted : ∀ s, answer = .ok s ↔
    record.lastMember? discriminator = some (.text s.subjectType.text) ∧
      s.DescribedBy (record.lastMember? ·)
  invalid : ∀ t : SubjectType, (∃ reason, answer = .error (.invalidSubject t.text reason)) ↔
    record.lastMember? discriminator = some (.text t.text) ∧
      ∀ s : Subject, s.subjectType = t → ¬ s.DescribedBy (record.lastMember? ·)

section Answer

variable {record : Document}

theorem fromRecord_of_missing
    (htag : record.lastMember? discriminator = none ∨
      record.lastMember? discriminator = some .null) :
    fromRecord record = .error .missingDiscriminator := by
  rw [fromRecord, Document.member?_canonical]
  rcases htag with htag | htag <;> rw [htag] <;> rfl

theorem fromRecord_of_not_text {d : Document} (htag : record.lastMember? discriminator = some d)
    (hnull : d ≠ .null) (htext : ∀ name, d ≠ .text name) :
    fromRecord record = .error (.unknownSubjectType d.canonical.jsonText) := by
  rw [fromRecord, Document.member?_canonical, htag]
  cases d with
  | null => exact absurd rfl hnull
  | text name => exact absurd rfl (htext name)
  | _ => rfl

theorem fromRecord_of_unknown {name : String}
    (htag : record.lastMember? discriminator = some (.text name))
    (hname : ∀ t : SubjectType, t.text ≠ name) :
    fromRecord record = .error (.unknownSubjectType name) := by
  have hnone := SubjectType.ofText?_eq_none.mpr hname
  rw [fromRecord, Document.member?_canonical, htag]
  simp only [Option.map_some, Document.canonical, hnone]

theorem fromRecord_of_known {t : SubjectType}
    (htag : record.lastMember? discriminator = some (.text t.text)) :
    fromRecord record = (Decoder.value decode record).mapError fun fault =>
      .invalidSubject t.text (fault.message .json) := by
  have hsome : SubjectType.ofText? t.text = some t := SubjectType.ofText?_eq_some.mpr rfl
  rw [fromRecord, Document.member?_canonical, htag]
  simp only [Option.map_some, Document.canonical, hsome, Decoder.value]

end Answer

theorem readsAs_of_unknown {record : Document} {name : String}
    (htag : record.lastMember? discriminator = some (.text name))
    (hname : ∀ t : SubjectType, t.text ≠ name) : ReadsAs record (fromRecord record) := by
  obtain ⟨members, rfl⟩ := Document.table_of_lastMember? htag
  rw [fromRecord_of_unknown htag hname]
  have hother : ∀ t : SubjectType, name ≠ t.text := fun t => Ne.symm (hname t)
  refine ⟨by simp [htag], fun other => ?_, fun s => ?_, fun t => ?_⟩
  · constructor
    · intro h
      cases h
      exact .inl ⟨htag, hname⟩
    · intro h
      rcases h with ⟨hsame, -⟩ | ⟨d, hd, -, htext, -⟩
      · rw [htag] at hsame
        cases hsame
        rfl
      · exact absurd (Option.some.inj (hd.symm.trans htag)) (htext name)
  · simp [htag, hother]
  · simp [htag, hother]

theorem readsAs_of_known {record : Document} {t : SubjectType}
    (htag : record.lastMember? discriminator = some (.text t.text)) :
    ReadsAs record (fromRecord record) := by
  obtain ⟨members, rfl⟩ := Document.table_of_lastMember? htag
  have hnamed : ∀ u : SubjectType,
      (Document.table members).lastMember? discriminator = some (.text u.text) ↔ t = u := by
    intro u
    rw [htag, Option.some.injEq, Document.text.injEq]
    exact ⟨SubjectType.text_injective, congrArg SubjectType.text⟩
  have hdecoded : ∀ s, Decoder.value decode (.table members) = .ok s ↔
      t = s.subjectType ∧ s.DescribedBy ((Document.table members).lastMember? ·) := by
    intro s
    rw [decode_value_eq_ok, hnamed]
  have hunknown : ∀ name,
      ¬ (((Document.table members).lastMember? discriminator = some (.text name) ∧
        ∀ u : SubjectType, u.text ≠ name) ∨
        ∃ d, (Document.table members).lastMember? discriminator = some d ∧ d ≠ .null ∧
          (∀ s, d ≠ .text s) ∧ d.canonical.jsonText = name) := by
    intro name h
    rcases h with ⟨hsame, hnone⟩ | ⟨d, hd, -, htext, -⟩
    · rw [htag] at hsame
      cases hsame
      exact hnone t rfl
    · rw [htag] at hd
      cases hd
      exact htext t.text rfl
  rw [fromRecord_of_known htag]
  cases hvalue : Decoder.value decode (.table members) with
  | ok s =>
    obtain ⟨rfl, hs⟩ := (hdecoded s).mp hvalue
    rw [mapError_ok]
    refine ⟨by simp [htag], fun name => iff_of_false (by simp) (hunknown name), fun u => ?_,
      fun u => ?_⟩
    · rw [hnamed, ← hdecoded u, hvalue, Except.ok.injEq, Except.ok.injEq]
    · rw [hnamed]
      refine iff_of_false (by simp) ?_
      intro h
      obtain ⟨hsame, hnone⟩ := h
      exact hnone s hsame hs
  | error fault =>
    have hnone : ∀ s : Subject, ¬ (t = s.subjectType ∧
        s.DescribedBy ((Document.table members).lastMember? ·)) := by
      intro s hs
      rw [← hdecoded s, hvalue] at hs
      cases hs
    rw [mapError_error]
    refine ⟨by simp [htag], fun name => iff_of_false (by simp) (hunknown name), fun s => ?_,
      fun u => ?_⟩
    · rw [hnamed]
      exact iff_of_false (by simp) (hnone s)
    · rw [hnamed]
      constructor
      · intro h
        obtain ⟨reason, hreason⟩ := h
        obtain ⟨htext, -⟩ := AbilityError.invalidSubject.inj (Except.error.inj hreason)
        obtain rfl : t = u := SubjectType.text_injective htext
        exact ⟨rfl, fun s hs hdescribed => hnone s ⟨hs.symm, hdescribed⟩⟩
      · intro h
        obtain ⟨rfl, -⟩ := h
        exact ⟨_, rfl⟩

/-- The answer to a record follows the grammar, whatever the record is. -/
theorem fromRecord_readsAs (record : Document) : ReadsAs record (fromRecord record) := by
  cases htag : record.lastMember? discriminator with
  | none =>
    have hanswer := fromRecord_of_missing (.inl htag)
    constructor <;> simp [hanswer, htag]
  | some d =>
    obtain ⟨members, rfl⟩ := Document.table_of_lastMember? htag
    cases d with
    | null =>
      have hanswer := fromRecord_of_missing (.inr htag)
      constructor <;> simp [hanswer, htag]
    | text name =>
      by_cases hname : ∀ t : SubjectType, t.text ≠ name
      · exact readsAs_of_unknown htag hname
      · obtain ⟨t, rfl⟩ := not_forall_not.mp hname
        exact readsAs_of_known htag
    | _ =>
      have hanswer := fromRecord_of_not_text htag (by simp) (by simp)
      constructor <;> simp [hanswer, htag]

/-- **Reading a record.** Whatever the record is, the answer is the one that the grammar gives,
which looks at no other members; and a record is accepted exactly when it is a table that decodes as
a subject, as that subject. -/
theorem fromRecord_grammar (record : Document) :
    ReadsAs record (fromRecord record) ∧
      ∀ s, fromRecord record = .ok s ↔
        (∃ members, record = .table members) ∧ Decoder.value decode record = .ok s := by
  refine ⟨fromRecord_readsAs record, fun s => ?_⟩
  rw [(fromRecord_readsAs record).accepted]
  constructor
  · intro h
    obtain ⟨htag, hs⟩ := h
    obtain ⟨members, rfl⟩ := Document.table_of_lastMember? htag
    exact ⟨⟨members, rfl⟩, decode_value_eq_ok.mpr ⟨htag, hs⟩⟩
  · intro h
    obtain ⟨⟨members, rfl⟩, hvalue⟩ := h
    exact decode_value_eq_ok.mp hvalue

end Subject

end Clearance
