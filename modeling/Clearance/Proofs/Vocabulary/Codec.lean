import Clearance.Proofs.Decoding.Basic
import Clearance.Proofs.Document.Json.Text
import Clearance.Proofs.Identity.Uuid
import Clearance.Vocabulary.Codec

/-!
# Vocabulary read back

The documents of actions, types, attributes and attribute values have texts of their own, and they
decode to what they were written from, as a text and as a value. A choice of alternatives and a name
are decoded from the documents that stand for them and from no others.
-/

namespace Clearance

open Decoded

/-! ### Choices and lists -/

namespace Document

/-- A document chooses an alternative by its name alone, or as a table whose only member has the
name and holds the payload. -/
inductive Chooses (medium : Medium) : Document → String → Option Document → Prop
  | bare (name : String) : Chooses medium (.text name) name none
  | payload (name : String) (d : Document) (read : medium = .json → d ≠ .cut .key) :
      Chooses medium (.table [(name, d)]) name (some d)

section Choices

variable {α : Type} {known : List String} {read : String → Option Document → Decoded α}
  {medium : Medium} {d : Document} {name : String} {payload : Option Document} {x : α}

theorem choose_eq_ok_iff :
    choose known read name payload = .ok x ↔ name ∈ known ∧ read name payload = .ok x := by
  rw [choose]
  split <;> simp_all

theorem asChoice_of_chooses (h : Chooses medium d name payload) (hknown : name ∈ known)
    (hread : read name payload = .ok x) : d.asChoice known read medium = .ok x := by
  have hchoose := choose_eq_ok_iff.mpr ⟨hknown, hread⟩
  cases h with
  | bare => exact hchoose
  | payload _ d hd =>
    cases medium with
    | json =>
      have hkey := hd rfl
      simp only [asChoice, hchoose]
      rfl
    | _ => exact hchoose

theorem asChoice_eq_ok_iff :
    d.asChoice known read medium = .ok x ↔
      ∃ name payload, Chooses medium d name payload ∧ name ∈ known ∧ read name payload = .ok x := by
  constructor
  · intro h
    rw [asChoice.eq_def] at h
    split at h
    next name => exact ⟨name, none, .bare name, choose_eq_ok_iff.mp h⟩
    next members =>
      split at h
      · cases h
      · cases h
      next name payload rest hkey =>
        obtain ⟨y, hy, hrest⟩ := bind_eq_ok.mp h
        cases rest with
        | nil =>
          obtain rfl : y = x := pure_eq_ok.mp hrest
          exact ⟨name, _, .payload name payload fun _ => hkey, choose_eq_ok_iff.mp hy⟩
        | cons m rest => simp at hrest
      next _ _ name payload hkey _ =>
        exact ⟨name, _, .payload name payload hkey, choose_eq_ok_iff.mp h⟩
      · cases h
    next => split at h <;> cases h
  · rintro ⟨name, payload, h, hknown, hread⟩
    exact asChoice_of_chooses h hknown hread

/-- An alternative with a payload is the only member of its table. -/
theorem asChoice_payload {payload : Document} (hknown : name ∈ known)
    (hpayload : payload ≠ .cut .key) (hread : read name (some payload) = .ok x)
    (medium : Medium) : (Document.table [(name, payload)]).asChoice known read medium = .ok x :=
  asChoice_of_chooses (.payload name payload fun _ => hpayload) hknown hread

end Choices

theorem asListOf_map {α : Type} {decode : Document → Decoded α} {document : α → Document}
    (h : ∀ x, decode (document x) = .ok x) (xs : List α) :
    (Document.list (xs.map document)).asListOf decode = .ok xs := by
  rw [asListOf]
  induction xs with
  | nil => rfl
  | cons x xs ih =>
    rw [List.map_cons, List.mapM_cons, h, ih]
    rfl

end Document

/-! ### Names -/

namespace Document

/-- A document stands for a name: it is the name alone, or has nothing to go with it. -/
inductive Names : Document → String → Prop
  | text (name : String) : Names (.text name) name
  | table (name : String) : Names (.table [(name, .null)]) name

theorem names_text_iff {s name : String} : (Document.text s).Names name ↔ s = name := by
  constructor
  · intro h
    cases h
    rfl
  · intro h
    exact h ▸ .text s

theorem asNothing_eq_ok_iff {payload : Option Document} :
    asNothing payload = .ok () ↔ payload = none ∨ payload = some .null := by
  rcases payload with _ | d
  · simp [asNothing]
  · cases d <;> simp [asNothing]

section Names

variable {α : Type} {spellings : List (String × α)} {medium : Medium} {x : α}

/-- The word that a name without a payload stands for. -/
def knownName (spellings : List (String × α)) (name : String) (payload : Option Document) :
    Decoded α := do
  asNothing payload
  (spellings.lookup name).elim (throw (.unknownName name (spellings.map Prod.fst))) pure

theorem asName_eq_asChoice (d : Document) : d.asName spellings medium =
    d.asChoice (spellings.map Prod.fst) (knownName spellings) medium := by
  rw [asName]
  congr
  funext name payload
  rw [knownName]
  cases spellings.lookup name <;> rfl

theorem asName_eq_ok_iff {d : Document} :
    d.asName spellings medium = .ok x ↔ ∃ name, d.Names name ∧ spellings.lookup name = some x := by
  have hread : ∀ name payload, knownName spellings name payload = .ok x ↔
      (payload = none ∨ payload = some .null) ∧ spellings.lookup name = some x := by
    intro name payload
    rw [knownName, check_bind_eq_ok, asNothing_eq_ok_iff]
    cases spellings.lookup name <;> simp
  rw [asName_eq_asChoice, asChoice_eq_ok_iff]
  constructor
  · rintro ⟨name, payload, hchooses, -, hname⟩
    obtain ⟨hpayload, hlookup⟩ := (hread name payload).mp hname
    refine ⟨name, ?_, hlookup⟩
    cases hchooses with
    | bare => exact .text name
    | payload _ d =>
      obtain rfl : d = .null := by simpa using hpayload
      exact .table name
  · rintro ⟨name, hnames, hlookup⟩
    have hknown : name ∈ spellings.map Prod.fst := by
      obtain ⟨before, after, hsplit, -⟩ := List.lookup_eq_some_iff.mp hlookup
      rw [hsplit]
      simp
    cases hnames with
    | text => exact ⟨name, _, .bare name, hknown, (hread name _).mpr ⟨.inl rfl, hlookup⟩⟩
    | table =>
      exact ⟨name, _, .payload name .null (by simp), hknown, (hread name _).mpr ⟨.inr rfl, hlookup⟩⟩

theorem asName_text {name : String} (h : spellings.lookup name = some x) (medium : Medium) :
    (Document.text name).asName spellings medium = .ok x :=
  asName_eq_ok_iff.mpr ⟨name, .text name, h⟩

/-- A text that is no name is reported with all the names that there are. -/
theorem asName_text_eq_error_iff {s : String} {fault : Fault} :
    (Document.text s).asName spellings medium = .error fault ↔
      spellings.lookup s = none ∧ fault = .unknownName s (spellings.map Prod.fst) := by
  cases hlookup : spellings.lookup s with
  | some x => simp [asName_text hlookup]
  | none =>
    have hfault : (Document.text s).asName spellings medium =
        .error (.unknownName s (spellings.map Prod.fst)) := by
      rw [asName, asChoice, choose, hlookup]
      split <;> rfl
    simp [hfault, eq_comm]

end Names

end Document

theorem Action.decode_document (a : Action) (medium : Medium) :
    Action.decode medium a.document = .ok a := by
  cases a <;> exact Document.asName_text rfl medium

theorem SubjectType.decode_document (t : SubjectType) (medium : Medium) :
    SubjectType.decode medium t.document = .ok t := by
  cases t <;> exact Document.asName_text rfl medium

theorem Attribute.spellings_lookup_text (a : Attribute) :
    Attribute.spellings.lookup a.text = some a := by
  cases a <;> rfl

/-! ### Values -/

theorem Uuid.asUuid_document (u : Uuid) : u.document.asUuid = .ok u := by
  rw [Uuid.document, Document.asUuid, Uuid.read_text]
  rfl

theorem Document.asInt_int (n : Integer) : (Document.int n.val).asInt = .ok n := by
  rw [asInt, Integer.ofInt?, dif_pos n.property]

namespace AttrValue

theorem visit_kind (medium : Medium) (d : Document) (rest : List (String × Document)) :
    visit medium .nothing ((kindMember, d) :: rest) = (do
      visit medium (.kind (← d.asName Kind.spellings medium)) rest) :=
  rfl

theorem visit_value (medium : Medium) (kind : Kind) (d : Document)
    (rest : List (String × Document)) :
    visit medium (.kind kind) ((valueMember, d) :: rest) = (do
      visit medium (.done (← kind.decodeValue d)) rest) :=
  rfl

/-- A value is written after its kind, so that nothing is set aside. -/
theorem decode_pair {medium : Medium} {kindName : String} {kind : Kind} {d : Document}
    {v : AttrValue} (hkind : Kind.spellings.lookup kindName = some kind)
    (hd : kind.decodeValue d = .ok v) :
    decode medium (.table [(kindMember, .text kindName), (valueMember, d)]) = .ok v := by
  rw [decode, visit_kind, Document.asName_text hkind]
  change visit medium (.kind kind) [(valueMember, d)] = .ok v
  rw [visit_value, hd]
  rfl

theorem decode_document (v : AttrValue) (medium : Medium) :
    AttrValue.decode medium v.document = .ok v := by
  cases v with
  | id u =>
    have hvalue : Kind.id.decodeValue u.document = .ok (id u) := by
      rw [Kind.decodeValue, Uuid.asUuid_document]
      rfl
    exact decode_pair rfl hvalue
  | text s => exact decode_pair rfl (show Kind.text.decodeValue (.text s) = .ok (text s) from rfl)
  | bool b => exact decode_pair rfl (show Kind.bool.decodeValue (.bool b) = .ok (bool b) from rfl)
  | int n =>
    have hvalue : Kind.int.decodeValue (.int n.val) = .ok (int n) := by
      rw [Kind.decodeValue, Document.asInt_int]
      rfl
    exact decode_pair rfl hvalue

theorem document_exact (v : AttrValue) : v.document.Exact := by
  have hpair : ∀ {kindName : String} {d : Document}, d.Exact →
      (Document.table [(kindMember, .text kindName), (valueMember, d)]).Exact := by
    intro kindName d hd
    refine .table _ ?_
    simp only [List.forall_mem_cons]
    exact ⟨.text kindName, hd, by simp⟩
  cases v with
  | id u => exact hpair (.text u.text)
  | text s => exact hpair (.text s)
  | bool b => exact hpair (.bool b)
  | int n =>
    refine hpair (.int n.val ⟨n.property.1, ?_⟩)
    have hgreatest : n.val ≤ 9223372036854775807 := n.property.2
    omega

end AttrValue

end Clearance
