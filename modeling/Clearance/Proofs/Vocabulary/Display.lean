import Clearance.Proofs.Identity.Uuid
import Clearance.Proofs.Text.Quoted
import Clearance.Vocabulary.Codec

/-!
# Shown values are unambiguous

An attribute value is shown as an identifier, a text in quotes, a truth value or an integer. Its
kind can be seen from what is shown: only a text starts with a quote, only an identifier has a
hyphen behind its first character, and of the others only a truth value starts with a letter. Within
each kind what is shown can be read back, so that different values are never shown alike.
-/

namespace Clearance

/-- The hyphen of an identifier has a digit in front. -/
theorem Uuid.chars_shape (u : Uuid) :
    ∃ c cs, u.chars = c :: cs ∧ c ∈ "0123456789abcdef".toList ∧ '-' ∈ cs := by
  obtain ⟨groups, hchars, hwidths, hdigits⟩ := u.isHyphenated_chars
  obtain ⟨first, others, rfl, hfirst, hothers⟩ := List.map_eq_cons_iff.mp hwidths
  obtain ⟨second, rest, rfl, -, -⟩ := List.map_eq_cons_iff.mp hothers
  obtain ⟨c, cs, rfl⟩ := List.exists_cons_of_length_pos (by rw [hfirst]; decide)
  refine ⟨c, _, by rw [hchars, List.intercalate_cons_cons]; rfl, ?_, by simp⟩
  exact hdigits _ List.mem_cons_self c List.mem_cons_self

namespace AttrValue

def kind : AttrValue → Kind
  | id _ => .id
  | text _ => .text
  | bool _ => .bool
  | int _ => .int

/-- The shown form of a value, where `printable` decides which characters of a text stand for
themselves. -/
def shownBy (printable : Char → Bool) : AttrValue → List Char
  | id u => u.chars
  | text s => '"' :: Quoted.encode printable s.toList ++ ['"']
  | bool b => (if b then "true" else "false").toList
  | int n => integerNumeral n.val

theorem display_eq (v : AttrValue) : v.display = String.ofList (v.shownBy isPrintable) := by
  cases v with
  | bool b => cases b <;> rfl
  | _ => rfl

/-- The kind of a value, as far as it can be seen from what is shown. -/
def kindOfShown (cs : List Char) : Kind :=
  if cs.head? = some '"' then .text
  else if '-' ∈ cs.tail then .id
  else if cs.head? = some 't' ∨ cs.head? = some 'f' then .bool
  else .int

theorem kindOfShown_shownBy (printable : Char → Bool) (v : AttrValue) :
    kindOfShown (v.shownBy printable) = v.kind := by
  cases v with
  | id u =>
    obtain ⟨c, cs, hcs, hc, hhyphen⟩ := u.chars_shape
    have hall : ∀ c ∈ "0123456789abcdef".toList, c ≠ '"' := by simp
    simp [shownBy, kindOfShown, kind, hcs, hhyphen, hall c hc]
  | text s => simp [shownBy, kindOfShown, kind]
  | bool b => cases b <;> rfl
  | int n =>
    obtain ⟨c, cs, hcs, hc, hdigits⟩ := integerNumeral_shape n.val
    have hall : ∀ c ∈ "-0123456789".toList, c ≠ '"' ∧ c ≠ 't' ∧ c ≠ 'f' := by simp
    have hhyphen : '-' ∉ cs := fun h => absurd (hdigits _ h) (by decide)
    simp [shownBy, kindOfShown, kind, hcs, hhyphen, hall c hc]

theorem eq_of_shownBy_eq {printable printable' : Char → Bool} {v w : AttrValue}
    (h : v.shownBy printable = w.shownBy printable') : v = w := by
  have hkind : v.kind = w.kind := by
    rw [← kindOfShown_shownBy printable, h, kindOfShown_shownBy]
  cases v with
  | id u =>
    cases w with
    | id u' =>
      have hread := u.ofChars?_chars
      rw [show u.chars = u'.chars from h, u'.ofChars?_chars] at hread
      rw [Option.some.inj hread]
    | _ => cases hkind
  | text s =>
    cases w with
    | text s' =>
      have hquoted := List.append_cancel_right (List.cons.inj h).2
      rw [String.toList_inj.mp (Quoted.eq_of_encode_eq hquoted)]
    | _ => cases hkind
  | bool b =>
    cases w with
    | bool b' => cases b <;> cases b' <;> first | rfl | cases h
    | _ => cases hkind
  | int n =>
    cases w with
    | int n' => rw [Subtype.ext (integerNumeral_injective h)]
    | _ => cases hkind

/-- **Shown values are unambiguous.** Values are shown alike only if they are the same, of the same
kind and with the same content, whichever characters count as printable. -/
theorem display_unambiguous :
    (∀ (printable : Char → Bool) (v w : AttrValue),
      v.shownBy printable = w.shownBy printable ↔ v = w) ∧
    ∀ v w : AttrValue, v.display = w.display ↔ v = w := by
  have hshown : ∀ (printable : Char → Bool) (v w : AttrValue),
      v.shownBy printable = w.shownBy printable ↔ v = w := by
    intro printable v w
    exact ⟨eq_of_shownBy_eq, fun h => by rw [h]⟩
  refine ⟨hshown, fun v w => ?_⟩
  rw [display_eq, display_eq, String.ofList_inj, hshown]

end AttrValue

end Clearance
