import Clearance.Identity.Uuid
import Clearance.Proofs.Decoding.Basic
import Clearance.Proofs.Text.Numeral

/-!
# Identifiers read back

An identifier is written in one form, hyphenated and in lower case, and what is written reads back
as the identifier. So two identifiers never have the same text.
-/

namespace Clearance

namespace Uuid

/-- Lower-case hexadecimal digits in groups of eight, four, four, four and twelve, with hyphens
between them. -/
def IsHyphenated (cs : List Char) : Prop :=
  ∃ groups : List (List Char), cs = ['-'].intercalate groups ∧
    groups.map List.length = [8, 4, 4, 4, 12] ∧
    ∀ group ∈ groups, ∀ c ∈ group, c ∈ "0123456789abcdef".toList

/-! ### Groups -/

section Groups

variable {α : Type}

/-- What is split at the lengths of its groups falls into these groups. -/
theorem splitLengths_flatten (groups : List (List α)) :
    splitLengths (groups.map List.length) groups.flatten = groups := by
  induction groups with
  | nil => rfl
  | cons group groups ih =>
    rw [List.map_cons, List.flatten_cons, splitLengths, List.take_left, List.drop_left, ih]

theorem joinGroups?_cons {width next : Nat} {widths : List Nat} {group rest : List Char}
    (hgroup : group.length = width) :
    joinGroups? (width :: next :: widths) (group ++ '-' :: rest) =
      (joinGroups? (next :: widths) rest).map (group ++ ·) := by
  rw [joinGroups?, List.drop_left' hgroup, List.take_left' hgroup]
  · rfl
  · exact List.cons_ne_nil next widths

/-- What stands between the hyphens is put together again. -/
theorem joinGroups?_intercalate (group : List Char) (groups : List (List Char)) :
    joinGroups? ((group :: groups).map List.length) (['-'].intercalate (group :: groups)) =
      some (group :: groups).flatten := by
  induction groups generalizing group with
  | nil => simp [List.intercalate, joinGroups?]
  | cons next groups ih =>
    rw [List.intercalate_cons_cons, List.append_assoc, List.singleton_append, List.map_cons,
      List.map_cons, joinGroups?_cons rfl, ← List.map_cons, ih, Option.map_some]
    rfl

end Groups

theorem length_of_isHyphenated {cs : List Char} (h : IsHyphenated cs) : cs.length = 36 := by
  obtain ⟨groups, rfl, hwidths, -⟩ := h
  simp only [List.map_eq_cons_iff, List.map_eq_nil_iff] at hwidths
  obtain ⟨a, _, rfl, ha, b, _, rfl, hb, c, _, rfl, hc, d, _, rfl, hd, e, _, rfl, he, rfl⟩ := hwidths
  simp [List.intercalate, ha, hb, hc, hd, he]

/-- The five groups of digits that an identifier is written in. -/
theorem exists_groups (u : Uuid) : ∃ group groups,
    (group :: groups).map List.length = groupWidths ∧ (group :: groups).flatten = u.digits ∧
      u.chars = ['-'].intercalate (group :: groups) := by
  have hlength : u.digits.length = 32 := length_fixedNumeral 16 32 u.bits.toNat
  obtain ⟨group, groups, hwidths, hdigits⟩ : ∃ group groups,
      (group :: groups).map List.length = groupWidths ∧ (group :: groups).flatten = u.digits := by
    refine ⟨u.digits.take 8, [(u.digits.drop 8).take 4, (u.digits.drop 12).take 4,
      (u.digits.drop 16).take 4, u.digits.drop 20], ?_, ?_⟩
    · simp [groupWidths, hlength]
    · have hjoin : ∀ n m, (u.digits.drop n).take m ++ u.digits.drop (n + m) = u.digits.drop n := by
        intro n m
        rw [← List.drop_drop, List.take_append_drop]
      simp only [List.flatten_cons, List.flatten_nil, List.append_nil]
      rw [hjoin 16 4, hjoin 12 4, hjoin 8 4, List.take_append_drop]
  refine ⟨group, groups, hwidths, hdigits, ?_⟩
  rw [chars, ← hwidths, ← hdigits, splitLengths_flatten]

theorem isHyphenated_chars (u : Uuid) : IsHyphenated u.chars := by
  obtain ⟨group, groups, hwidths, hdigits, hchars⟩ := u.exists_groups
  refine ⟨group :: groups, hchars, hwidths, fun part hpart c hc => ?_⟩
  have hdigit : c ∈ u.digits := hdigits ▸ List.mem_flatten_of_mem hpart hc
  rw [digits, fixedNumeral_eq_map] at hdigit
  obtain ⟨d, hd, rfl⟩ := List.mem_map.mp hdigit
  have hall : ∀ d < 16, digitChar d ∈ "0123456789abcdef".toList := by decide
  exact hall d (lt_of_mem_fixedDigits (by decide) hd)

theorem length_chars (u : Uuid) : u.chars.length = 36 :=
  length_of_isHyphenated u.isHyphenated_chars

/-! ### Reading what is written -/

section Digits

variable {cs : List Char}

theorem ofDigits?_of_length_eq (h : cs.length = 32) :
    ofDigits? cs =
      (cs.mapM hexDigit?).map fun values => ⟨BitVec.ofNat 128 (ofDigits 16 values)⟩ := by
  rw [ofDigits?, guard, if_pos h]
  cases cs.mapM hexDigit? <;> rfl

theorem ofDigits?_of_length_ne (h : cs.length ≠ 32) : ofDigits? cs = none := by
  rw [ofDigits?, guard, if_neg h]
  rfl

end Digits

theorem ofDigits?_digits (u : Uuid) : ofDigits? u.digits = some u := by
  have hlength : u.digits.length = 32 := length_fixedNumeral 16 32 u.bits.toNat
  have hvalues : u.digits.mapM hexDigit? = some (fixedDigits 16 32 u.bits.toNat) := by
    rw [digits, fixedNumeral_eq_map]
    exact mapM_hexDigit? fun d hd => lt_of_mem_fixedDigits (by decide) hd
  have hvalue : ofDigits 16 (fixedDigits 16 32 u.bits.toNat) = u.bits.toNat := by
    rw [ofDigits_fixedDigits]
    exact Nat.mod_eq_of_lt u.bits.isLt
  rw [ofDigits?_of_length_eq hlength, hvalues, Option.map_some, hvalue, BitVec.ofNat_toNat,
    BitVec.setWidth_eq]

theorem ofGroups?_chars (u : Uuid) : ofGroups? u.chars = some u := by
  obtain ⟨group, groups, hwidths, hdigits, hchars⟩ := u.exists_groups
  rw [ofGroups?, hchars, ← hwidths, joinGroups?_intercalate, hdigits,
    Option.bind_eq_bind, Option.bind_some, ofDigits?_digits]

theorem ofChars?_chars (u : Uuid) : ofChars? u.chars = some u := by
  have hlength := u.length_chars
  have hplain : ofDigits? u.chars = none := ofDigits?_of_length_ne (by omega)
  simp [ofChars?, hplain, ofGroups?_chars]

/-- An identifier reads back from its text. -/
theorem read_text (u : Uuid) : read u.text = .ok u := by
  rw [read, text, String.toList_ofList, ofChars?_chars]

theorem text_injective : Function.Injective text :=
  Decoded.injective_of_reads_back read_text

end Uuid

end Clearance
