import Clearance.Proofs.Text.Numeral
import Clearance.Text.Quoted

/-!
# Quoted texts told apart

In quotes a text is shown character by character. The first character can be read back from what is
shown, whatever stands behind it: a backslash says how to go on, and the code of a character ends
with a brace, which is no digit. Reading does not ask which characters are printable, so that texts
are told apart whichever are.
-/

namespace Clearance

namespace Quoted

/-- The character of a short escape. -/
def shortEscape? : Char → Option Char
  | '0' => some (Char.ofNat 0)
  | 't' => some '\t'
  | 'n' => some '\n'
  | 'r' => some '\r'
  | '"' => some '"'
  | '\\' => some '\\'
  | _ => none

/-- The first character of what is shown, and what is left behind it. -/
def readChar : List Char → Option (Char × List Char)
  | '\\' :: 'u' :: '\x7b' :: rest => do
      let values ← (rest.takeWhile (· ≠ '\x7d')).mapM hexDigit?
      return (Char.ofNat (ofDigits 16 values), (rest.dropWhile (· ≠ '\x7d')).tail)
  | '\\' :: e :: rest => (shortEscape? e).map fun c => (c, rest)
  | c :: rest => some (c, rest)
  | [] => none

/-- A character is shown by a short escape, by its code, or by itself. -/
theorem encodeChar_cases (printable : Char → Bool) (c : Char) :
    (∃ e, encodeChar printable c = ['\\', e] ∧ shortEscape? e = some c) ∨
      encodeChar printable c = codeEscape c ∨ (encodeChar printable c = [c] ∧ c ≠ '\\') := by
  rw [encodeChar]
  split
  next h => exact .inl ⟨'0', rfl, by rw [h]; rfl⟩
  split
  next h => exact .inl ⟨'t', rfl, by rw [h]; rfl⟩
  split
  next h => exact .inl ⟨'n', rfl, by rw [h]; rfl⟩
  split
  next h => exact .inl ⟨'r', rfl, by rw [h]; rfl⟩
  split
  next h => exact .inl ⟨'"', rfl, by rw [h]; rfl⟩
  split
  next h => exact .inl ⟨'\\', rfl, by rw [h]; rfl⟩
  next hslash =>
    split
    · exact .inr (.inr ⟨rfl, hslash⟩)
    · exact .inr (.inl rfl)

theorem readChar_codeEscape (c : Char) (rest : List Char) :
    readChar (codeEscape c ++ rest) = some (c, rest) := by
  obtain ⟨ds, hds⟩ := exists_numeral (by decide : 1 < 16) c.toNat
  have hdigits : ∀ x ∈ ds.map digitChar, x ≠ '\x7d' := by
    have hall : ∀ d < 16, digitChar d ≠ '\x7d' := by decide
    intro x hx
    obtain ⟨d, hd, rfl⟩ := List.mem_map.mp hx
    exact hall d (hds.bounded d hd)
  have hshown : codeEscape c ++ rest =
      '\\' :: 'u' :: '\x7b' :: (ds.map digitChar ++ '\x7d' :: rest) := by
    rw [codeEscape, hds.chars]
    simp
  have htake : (ds.map digitChar ++ '\x7d' :: rest).takeWhile (· ≠ '\x7d') = ds.map digitChar := by
    rw [List.takeWhile_append_of_pos (by simpa using hdigits)]
    simp
  have hdrop : (ds.map digitChar ++ '\x7d' :: rest).dropWhile (· ≠ '\x7d') = '\x7d' :: rest := by
    rw [List.dropWhile_append_of_pos (by simpa using hdigits)]
    simp
  rw [hshown, readChar, htake, hdrop, mapM_hexDigit? hds.bounded]
  simp [hds.value]

theorem readChar_encodeChar (printable : Char → Bool) (c : Char) (rest : List Char) :
    readChar (encodeChar printable c ++ rest) = some (c, rest) := by
  rcases encodeChar_cases printable c with ⟨e, hc, he⟩ | hc | ⟨hc, hslash⟩
  · have hu : e ≠ 'u' := by
      rintro rfl
      cases he
    rw [hc, List.cons_append, List.cons_append, List.nil_append, readChar, he, Option.map_some]
    intro more h
    exact absurd h hu
  · rw [hc, readChar_codeEscape]
  · rw [hc, List.cons_append, List.nil_append, readChar]
    all_goals simp [hslash]

theorem readChar_encode (printable : Char → Bool) (cs : List Char) :
    readChar (encode printable cs) = cs.head?.map fun c => (c, encode printable cs.tail) := by
  cases cs with
  | nil => rfl
  | cons c cs =>
    rw [encode, List.flatMap_cons, readChar_encodeChar]
    rfl

/-- Texts are told apart, even where other characters count as printable. -/
theorem eq_of_encode_eq {printable printable' : Char → Bool} {cs ds : List Char}
    (h : encode printable cs = encode printable' ds) : cs = ds := by
  induction cs generalizing ds with
  | nil =>
    have hread := congrArg readChar h
    rw [readChar_encode, readChar_encode] at hread
    cases ds with
    | nil => rfl
    | cons d ds => cases hread
  | cons c cs ih =>
    have hread := congrArg readChar h
    rw [readChar_encode, readChar_encode] at hread
    cases ds with
    | nil => cases hread
    | cons d ds =>
      obtain ⟨rfl, hrest⟩ := Prod.mk.inj (Option.some.inj hread)
      exact congrArg (List.cons c) (ih hrest)

end Quoted

end Clearance
