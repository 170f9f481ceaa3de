import Clearance.Proofs.Decoding.Basic
import Clearance.Proofs.Text.LetterCase
import Clearance.Settings.Environment
import Mathlib

/-!
# What a variable says

A variable is set to a text if its bytes are those of the text and the text is not empty; of any
other bytes nothing is said. As a truth value only two words and two digits count, the words with
each letter as it is or as a capital. Here the readings of a variable are these descriptions and
nothing else.
-/

namespace Clearance

/-! ### Texts -/

theorem fromUTF8?_eq_some_iff {bytes : ByteArray} {s : String} :
    String.fromUTF8? bytes = some s ↔ bytes = s.toUTF8 := by
  rw [String.fromUTF8?]
  constructor
  · intro h
    split at h
    · obtain rfl := Option.some.inj h
      rfl
    · cases h
  · intro hbytes
    subst hbytes
    rw [String.toUTF8_eq_toByteArray, dif_pos s.isValidUTF8]
    rfl

theorem fromUTF8?_eq_none_iff {bytes : ByteArray} :
    String.fromUTF8? bytes = none ↔ ∀ s : String, bytes ≠ s.toUTF8 := by
  simp only [Option.eq_none_iff_forall_ne_some, ne_eq, fromUTF8?_eq_some_iff]

namespace Variable

/-- The variable is there with the bytes of a text, which is not empty. -/
def SetTo (v : Variable) (s : String) : Prop :=
  v = some s.toUTF8 ∧ s ≠ ""

/-- The variable is set to a text for the value, or for no value it is not set. -/
def Says {α : Type} (spells : α → String → Prop) (v : Variable) : Option α → Prop
  | none => ∀ s, ¬ v.SetTo s
  | some x => ∃ s, v.SetTo s ∧ spells x s

theorem text?_eq_some_iff {v : Variable} {s : String} : v.text? = some s ↔ v.SetTo s := by
  rw [text?, Option.filter_eq_some_iff, SetTo]
  cases v <;> simp [fromUTF8?_eq_some_iff]

theorem text?_eq_none_iff {v : Variable} : v.text? = none ↔ ∀ s, ¬ v.SetTo s := by
  simp only [Option.eq_none_iff_forall_ne_some, ne_eq, text?_eq_some_iff]

theorem says_of_unset {α : Type} {spells : α → String → Prop} {v : Variable} {x? : Option α}
    (hv : v.text? = none) : v.Says spells x? ↔ x? = none := by
  have hunset := text?_eq_none_iff.mp hv
  cases x? with
  | none => simpa [Says] using hunset
  | some x => simp [Says, hunset]

theorem says_of_set {α : Type} {spells : α → String → Prop} {v : Variable} {x? : Option α}
    {s : String} (hv : v.text? = some s) : v.Says spells x? ↔ ∃ x, x? = some x ∧ spells x s := by
  have hset : ∀ s', v.SetTo s' ↔ s = s' := by
    intro s'
    rw [← text?_eq_some_iff, hv, Option.some.injEq]
  cases x? with
  | none => simp [Says, hset]
  | some x => simp [Says, hset]

theorem says_text_iff {v : Variable} {s? : Option String} : v.text? = s? ↔ v.Says Eq s? := by
  cases hv : v.text? with
  | none => rw [says_of_unset hv, eq_comm]
  | some s => simp [says_of_set hv, eq_comm]

end Variable

/-! ### Truth values -/

namespace Environment

/-- A word with each letter as it is or as a capital. -/
def InAnyCase (word s : String) : Prop :=
  List.Forall₂ (fun c letter => c = letter ∨ c = letter.toUpper) s.toList word.toList

/-- The texts of a truth value. -/
def Spells : Bool → String → Prop
  | true, s => InAnyCase "true" s ∨ s = "1"
  | false, s => InAnyCase "false" s ∨ s = "0"

theorem inAnyCase_iff {word s : String} (hword : ∀ letter ∈ word.toList, letter.toLower = letter) :
    InAnyCase word s ↔ String.ofList (s.toList.map Char.toLower) = word := by
  have hletters : ∀ cs letters : List Char, (∀ letter ∈ letters, letter.toLower = letter) →
      (List.Forall₂ (fun c letter => c = letter ∨ c = letter.toUpper) cs letters ↔
        cs.map Char.toLower = letters) := by
    intro cs letters hlower
    induction letters generalizing cs with
    | nil => simp
    | cons letter letters ih =>
      obtain ⟨hletter, hrest⟩ := List.forall_mem_cons.mp hlower
      cases cs with
      | nil => simp
      | cons c cs => simp [List.forall₂_cons, ih cs hrest, toLower_eq_iff hletter]
  rw [InAnyCase, hletters s.toList word.toList hword, ← String.ofList_inj, String.ofList_toList]

theorem spells_true_iff {s : String} :
    Spells true s ↔ String.ofList (s.toList.map Char.toLower) = "true" ∨ s = "1" := by
  rw [Spells, inAnyCase_iff (by simp)]

theorem spells_false_iff {s : String} :
    Spells false s ↔ String.ofList (s.toList.map Char.toLower) = "false" ∨ s = "0" := by
  rw [Spells, inAnyCase_iff (by simp)]

theorem not_spells_both {s : String} (htrue : Spells true s) : ¬ Spells false s := by
  rw [spells_true_iff] at htrue
  rw [spells_false_iff]
  rcases htrue with hword | rfl
  · rintro (hother | rfl)
    · simp [hword] at hother
    · simp at hword
  · simp

theorem boolOf?_eq_some_iff {s : String} {b : Bool} : boolOf? s = some b ↔ Spells b s := by
  constructor
  · intro h
    simp only [boolOf?] at h
    split at h
    · rename_i htrue
      obtain rfl := Option.some.inj h
      exact spells_true_iff.mpr htrue
    · split at h
      · rename_i hfalse
        obtain rfl := Option.some.inj h
        exact spells_false_iff.mpr hfalse
      · cases h
  · intro h
    cases b with
    | true => exact if_pos (spells_true_iff.mp h)
    | false =>
      have hnot : ¬ Spells true s := fun htrue => not_spells_both htrue h
      rw [spells_true_iff] at hnot
      exact (if_neg hnot).trans (if_pos (spells_false_iff.mp h))

theorem boolOf?_eq_none_iff {s : String} : boolOf? s = none ↔ ∀ b, ¬ Spells b s := by
  simp only [Option.eq_none_iff_forall_ne_some, ne_eq, boolOf?_eq_some_iff]

/-! ### Reading variables -/

/-- The variable is set to a text that is no truth value. -/
def IsNoBool (v : Variable) (s : String) : Prop :=
  v.SetTo s ∧ ∀ b, ¬ Spells b s

theorem readBool_eq_ok_iff {name : String} {v : Variable} {b? : Option Bool} :
    readBool name v = .ok b? ↔ v.Says Spells b? := by
  rw [readBool]
  cases hv : v.text? with
  | none => simp [Variable.says_of_unset hv, eq_comm]
  | some s =>
    simp only [Variable.says_of_set hv, ← boolOf?_eq_some_iff]
    cases boolOf? s <;> simp [eq_comm]

theorem readBool_eq_error_iff {name : String} {v : Variable} {e : ConfigError} :
    readBool name v = .error e ↔
      ∃ s, IsNoBool v s ∧ e = .invalidValue name (notBoolean s) := by
  simp only [IsNoBool, ← Variable.text?_eq_some_iff, ← boolOf?_eq_none_iff]
  rw [readBool]
  cases v.text? with
  | none => simp
  | some s => cases h : boolOf? s <;> simp [h, eq_comm]

variable {e : Environment}

theorem layer_eq_ok_iff {l : ConfigLayer} :
    e.layer = .ok l ↔ ∃ log? level? json?, e.logDecisions.Says Spells log? ∧
      e.logLevel.Says Eq level? ∧ e.logJson.Says Spells json? ∧
        l = ⟨some ⟨log?⟩, some ⟨level?, json?⟩⟩ := by
  simp only [layer, Decoded.bind_eq_ok, Decoded.pure_eq_ok, readBool_eq_ok_iff,
    ← Variable.says_text_iff]
  constructor
  · rintro ⟨log?, hlog, json?, hjson, rfl⟩
    exact ⟨log?, _, json?, hlog, rfl, hjson, rfl⟩
  · rintro ⟨log?, _, json?, hlog, rfl, hjson, rfl⟩
    exact ⟨log?, hlog, json?, hjson, rfl⟩

theorem layer_eq_error_iff {fault : ConfigError} :
    e.layer = .error fault ↔
      (∃ s, IsNoBool e.logDecisions s ∧
        fault = .invalidValue "SAAS_AUTH_LOG_DECISIONS" (notBoolean s)) ∨
      (∃ log? s, e.logDecisions.Says Spells log? ∧ IsNoBool e.logJson s ∧
        fault = .invalidValue "SAAS_AUTH_LOG_JSON" (notBoolean s)) := by
  simp only [layer, Decoded.bind_eq_error, Decoded.pure_ne_error, readBool_eq_error_iff,
    readBool_eq_ok_iff, and_false, exists_false, or_false]
  refine or_congr_right ?_
  constructor
  · rintro ⟨log?, hlog, s, hbad, rfl⟩
    exact ⟨log?, s, hlog, hbad, rfl⟩
  · rintro ⟨log?, s, hlog, hbad, rfl⟩
    exact ⟨log?, hlog, s, hbad, rfl⟩

end Environment

end Clearance
