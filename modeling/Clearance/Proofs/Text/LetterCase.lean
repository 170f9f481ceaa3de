import Clearance.Proofs.Text.Numeral
import Mathlib

/-!
# Letter case

What is read in either letter case is read as its lower-case form. Of the characters that are no
capitals of the ASCII letters each is its own lower case; a hexadecimal digit in either case has the
digit of its value there.
-/

namespace Clearance

theorem toLower_eq_iff {c letter : Char} (hletter : letter.toLower = letter) :
    c.toLower = letter ↔ c = letter ∨ c = letter.toUpper := by
  constructor
  · intro hlower
    subst hlower
    by_cases hc : c.isUpper
    · right
      rw [Char.toUpper_toLower_eq_toUpper,
        Char.toUpper_eq_of_not_isLower (Char.not_isLower_of_isUpper hc)]
    · exact .inl (Char.toLower_eq_of_not_isUpper hc).symm
  · intro h
    rcases h with rfl | rfl
    · exact hletter
    · rw [Char.toLower_toUpper_eq_toLower, hletter]

/-- A mark that is no letter stands where it stands in the lower-case text. -/
theorem map_toLower_eq_mark_iff {c? : Option Char} {mark : Char} (hlower : mark.toLower = mark)
    (hupper : mark.toUpper = mark) : c?.map Char.toLower = some mark ↔ c? = some mark := by
  cases c? with
  | none => simp
  | some c => simp [toLower_eq_iff hlower, hupper]

/-! ### Hexadecimal digits -/

theorem toNat_lt_of_le {c last : Char} (hc : c ≤ last) (hlast : last.toNat < 128) :
    c.toNat < 128 :=
  Nat.lt_of_le_of_lt (show c.toNat ≤ last.toNat from hc) hlast

theorem hexDigit?_toLower (c : Char) : hexDigit? c.toLower = hexDigit? c := by
  by_cases hc : c.isUpper
  · have hall : ∀ n < 128, hexDigit? (Char.ofNat n).toLower = hexDigit? (Char.ofNat n) := by
      decide +kernel
    have hle : c ≤ 'Z' := by
      simp only [Char.isUpper, decide_eq_true_eq] at hc
      exact hc.2
    simpa using hall c.toNat (toNat_lt_of_le hle (by decide))
  · rw [Char.toLower_eq_of_not_isUpper hc]

theorem toLower_of_hexDigit? {c : Char} {d : Nat} (h : hexDigit? c = some d) :
    d < 16 ∧ c.toLower = digitChar d := by
  have hall : ∀ n < 128, ∀ d ∈ hexDigit? (Char.ofNat n),
      d < 16 ∧ (Char.ofNat n).toLower = digitChar d := by decide +kernel
  have hlt : c.toNat < 128 := by
    rw [hexDigit?] at h
    split at h
    next hdigit => exact toNat_lt_of_le hdigit.2 (by decide)
    next =>
      split at h
      next hlower => exact toNat_lt_of_le hlower.2 (by decide)
      next =>
        split at h
        next hupper => exact toNat_lt_of_le hupper.2 (by decide)
        next => cases h
  simpa using hall c.toNat hlt d (by simpa using h)

/-- The values of digits are those of the lower-case digits. -/
theorem mapM_hexDigit?_toLower (cs : List Char) :
    (cs.map Char.toLower).mapM hexDigit? = cs.mapM hexDigit? := by
  rw [List.mapM_map]
  exact congrArg (List.mapM · cs) (funext hexDigit?_toLower)

theorem map_toLower_of_mapM_hexDigit? {cs : List Char} {ds : List Nat}
    (h : cs.mapM hexDigit? = some ds) :
    (∀ d ∈ ds, d < 16) ∧ cs.map Char.toLower = ds.map digitChar := by
  induction cs generalizing ds with
  | nil =>
    obtain rfl : [] = ds := by simpa using h
    simp
  | cons c cs ih =>
    rw [List.mapM_cons] at h
    simp only [Option.bind_eq_bind, Option.bind_eq_some_iff, Option.pure_def,
      Option.some.injEq] at h
    obtain ⟨d, hd, rest, hrest, rfl⟩ := h
    obtain ⟨hlt, hlower⟩ := toLower_of_hexDigit? hd
    obtain ⟨hbounded, hchars⟩ := ih hrest
    exact ⟨List.forall_mem_cons.mpr ⟨hlt, hbounded⟩, congrArg₂ List.cons hlower hchars⟩

end Clearance
