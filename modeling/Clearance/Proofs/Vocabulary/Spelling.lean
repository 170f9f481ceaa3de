import Clearance.Error
import Clearance.Proofs.Decoding.Record
import Clearance.Proofs.Vocabulary.Codec

/-!
# One spelling for each word

Roles, actions and types of subjects are closed vocabularies: finitely many words, each with a
spelling of its own. Their words are parsed from texts, by cases or by a search through all of them,
decoded from documents by tables of spellings, and written by themselves. All of these know the same
words in the same spelling, and no other text stands for one.
-/

namespace Clearance

/-! ### Vocabularies -/

/-- A closed vocabulary: all of its words, no two of which are spelled alike. -/
structure Vocabulary (α : Type) where
  all : List α
  text : α → String
  mem_all : ∀ x, x ∈ all
  nodup_texts : (all.map text).Nodup

namespace Vocabulary

section Search

variable {α : Type} (v : Vocabulary α) {s : String} {x : α}

/-- The table of the words by their spellings. -/
def spellings : List (String × α) :=
  v.all.map fun x => (v.text x, x)

theorem text_injective : Function.Injective v.text := fun _ _ h =>
  List.inj_on_of_nodup_map v.nodup_texts (v.mem_all _) (v.mem_all _) h

theorem map_fst_spellings : v.spellings.map Prod.fst = v.all.map v.text := by
  rw [spellings, List.map_map]
  rfl

theorem find?_eq_some_iff : (v.all.find? fun y => v.text y = s) = some x ↔ s = v.text x := by
  rw [Document.find?_key_eq_some_iff v.nodup_texts]
  exact ⟨fun h => h.2.symm, fun h => ⟨v.mem_all x, h.symm⟩⟩

theorem find?_eq_none_iff : (v.all.find? fun y => v.text y = s) = none ↔ ∀ x, s ≠ v.text x := by
  rw [Option.eq_none_iff_forall_ne_some]
  exact forall_congr' fun x => not_congr v.find?_eq_some_iff

theorem lookup_spellings : v.spellings.lookup s = v.all.find? fun y => v.text y = s := by
  refine Option.ext fun x => ?_
  rw [v.find?_eq_some_iff,
    Document.lookup_eq_some_iff_mem (v.map_fst_spellings ▸ v.nodup_texts), spellings, List.mem_map]
  constructor
  · rintro ⟨y, -, hy⟩
    obtain ⟨rfl, rfl⟩ := Prod.mk.inj hy
    rfl
  · rintro rfl
    exact ⟨x, v.mem_all x, rfl⟩

end Search

/-! ### Reading and writing words -/

/-- Every way to read a word or to write it uses the spelling of the vocabulary. -/
structure OneSpelling {α : Type} (v : Vocabulary α) (parse : String → Except AbilityError α)
    (unknown : String → AbilityError) (document : α → Document) (decode : Decoder α) : Prop where
  /-- A text is parsed as a word exactly when it is its spelling. -/
  parsed : ∀ s x, parse s = .ok x ↔ s = v.text x
  /-- Any other text is refused as it stands. -/
  refused : ∀ s e, parse s = .error e ↔ (∀ x, s ≠ v.text x) ∧ e = unknown s
  /-- A string is decoded as a word exactly when it is its spelling, wherever it comes from. -/
  decoded : ∀ medium s x, decode medium (.text s) = .ok x ↔ s = v.text x
  /-- Any other string is refused as it stands, with all the spellings that there are. -/
  unknown : ∀ medium s fault, decode medium (.text s) = .error fault ↔
    (∀ x, s ≠ v.text x) ∧ fault = .unknownName s (v.all.map v.text)
  /-- A text in JSON is decoded as a word exactly when it holds the string that spells it, alone or
  as the only name of a table. -/
  read : ∀ t x, decode.text t = .ok x ↔ ∃ d, Json.read t = (d, true) ∧ d.Names (v.text x)
  /-- A word is written in JSON as the string that spells it. -/
  written : ∀ x s, Json.read (document x).jsonText = (.text s, true) ↔ s = v.text x

variable {α : Type} {v : Vocabulary α} {parse : String → Except AbilityError α}
  {unknown : String → AbilityError} {document : α → Document} {decode : Decoder α}

/-- All of it comes from a search through the vocabulary, the table of its spellings and the
spelling itself. -/
theorem oneSpelling
    (hparse : ∀ s, parse s = (v.all.find? fun y => v.text y = s).elim (.error (unknown s)) .ok)
    (hdocument : ∀ x, document x = .text (v.text x))
    (hdecode : decode = Document.asName v.spellings) :
    v.OneSpelling parse unknown document decode := by
  have hnames : ∀ medium d x, decode medium d = .ok x ↔ d.Names (v.text x) := by
    intro medium d x
    rw [hdecode, Document.asName_eq_ok_iff]
    simp only [v.lookup_spellings, v.find?_eq_some_iff, exists_eq_right]
  refine ⟨fun s x => ?_, fun s e => ?_, fun medium s x => ?_, fun medium s fault => ?_,
    fun t x => ?_, fun x s => ?_⟩
  · rw [← v.find?_eq_some_iff, hparse]
    cases v.all.find? fun y => v.text y = s <;> simp
  · rw [← v.find?_eq_none_iff, hparse]
    cases v.all.find? fun y => v.text y = s <;> simp [eq_comm]
  · rw [hnames, Document.names_text_iff]
  · rw [hdecode, Document.asName_text_eq_error_iff, v.lookup_spellings, v.find?_eq_none_iff,
      v.map_fst_spellings]
  · rw [Decoder.text_eq_ok_iff]
    simp only [hnames]
  · rw [hdocument, Json.read_jsonText (.text _)]
    simp [eq_comm]

end Vocabulary

/-! ### The three vocabularies -/

def Role.vocabulary : Vocabulary Role where
  all := Role.all
  text := Role.text
  mem_all x := by cases x <;> decide
  nodup_texts := by decide

def Action.vocabulary : Vocabulary Action where
  all := Action.all
  text := Action.text
  mem_all x := by cases x <;> decide
  nodup_texts := by decide

def SubjectType.vocabulary : Vocabulary SubjectType where
  all := SubjectType.all
  text := SubjectType.text
  mem_all := SubjectType.mem_all
  nodup_texts := by decide

/-- Roles are parsed by cases; that comes to a search through all of them. -/
theorem Role.ofText?_eq_find? (s : String) : ofText? s = all.find? fun r => r.text = s := by
  rw [ofText?.eq_def]
  split
  · rfl
  · rfl
  · rfl
  next hadmin hmember hbilling =>
    refine (List.find?_eq_none.mpr fun r _ hr => ?_).symm
    have hs : s = r.text := (of_decide_eq_true hr).symm
    cases r with
    | admin => exact hadmin hs
    | member => exact hmember hs
    | billing => exact hbilling hs

theorem Role.oneSpelling :
    Role.vocabulary.OneSpelling Role.parse .unknownRole Role.document Role.decode := by
  refine Vocabulary.oneSpelling (fun s => ?_) (fun r => congrArg Document.text r.name_eq_text) rfl
  change Role.parse s = (Role.all.find? fun r => r.text = s).elim _ _
  rw [Role.parse, ← Role.ofText?_eq_find?]
  cases Role.ofText? s <;> rfl

theorem Action.oneSpelling :
    Action.vocabulary.OneSpelling Action.parse .unknownAction Action.document Action.decode := by
  refine Vocabulary.oneSpelling (fun s => ?_) (fun a => congrArg Document.text a.name_eq_text) rfl
  change Action.parse s = (Action.ofText? s).elim _ _
  rw [Action.parse]
  cases Action.ofText? s <;> rfl

theorem SubjectType.oneSpelling :
    SubjectType.vocabulary.OneSpelling SubjectType.parse .unknownSubjectType SubjectType.document
      SubjectType.decode := by
  refine Vocabulary.oneSpelling (fun s => ?_) (fun t => congrArg Document.text t.name_eq_text) rfl
  change SubjectType.parse s = (SubjectType.ofText? s).elim _ _
  rw [SubjectType.parse]
  cases SubjectType.ofText? s <;> rfl

/-- **One spelling for each word.** The words of each vocabulary are all listed, are spelled apart,
and have one spelling each, by which they are parsed, decoded and written. No other text is parsed
or decoded as a word: it is reported as it stands. -/
theorem vocabularies_spelled_one_way :
    Role.vocabulary.OneSpelling Role.parse .unknownRole Role.document Role.decode ∧
      Action.vocabulary.OneSpelling Action.parse .unknownAction Action.document Action.decode ∧
      SubjectType.vocabulary.OneSpelling SubjectType.parse .unknownSubjectType
        SubjectType.document SubjectType.decode :=
  ⟨Role.oneSpelling, Action.oneSpelling, SubjectType.oneSpelling⟩

end Clearance
