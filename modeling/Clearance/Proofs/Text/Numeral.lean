import Clearance.Text.Numeral
import Mathlib.Data.List.Basic
import Mathlib.Data.List.Induction

/-!
# Numerals read back

A numeral is the list of its digits, and each digit reads back as its value. Written with a fixed
width, a number comes back as far as the width reaches; written without leading zeros it comes back
as a whole, and only zero starts with a zero.
-/

namespace Clearance

theorem hexDigit?_digitChar {d : Nat} (hd : d < 16) : hexDigit? (digitChar d) = some d := by
  have hall : ∀ d < 16, hexDigit? (digitChar d) = some d := by decide
  exact hall d hd

theorem decimalDigit?_digitChar {d : Nat} (hd : d < 10) : decimalDigit? (digitChar d) = some d := by
  have hall : ∀ d < 10, decimalDigit? (digitChar d) = some d := by decide
  exact hall d hd

@[simp]
theorem ofDigits_concat (base : Nat) (ds : List Nat) (d : Nat) :
    ofDigits base (ds ++ [d]) = ofDigits base ds * base + d := by
  simp [ofDigits]

/-! ### Fixed width -/

/-- The values of the last `width` digits of `n`, most significant first. -/
def fixedDigits (base : Nat) : Nat → Nat → List Nat
  | 0, _ => []
  | width + 1, n => fixedDigits base width (n / base) ++ [n % base]

theorem fixedNumeral_eq_map (base width n : Nat) :
    fixedNumeral base width n = (fixedDigits base width n).map digitChar := by
  induction width generalizing n with
  | zero => rfl
  | succ width ih => rw [fixedNumeral, fixedDigits, ih, List.map_append, List.map_singleton]

theorem lt_of_mem_fixedDigits {base : Nat} (hbase : 0 < base) {width n d : Nat}
    (hd : d ∈ fixedDigits base width n) : d < base := by
  induction width generalizing n with
  | zero => simp [fixedDigits] at hd
  | succ width ih =>
    rw [fixedDigits, List.mem_append, List.mem_singleton] at hd
    rcases hd with hd | rfl
    · exact ih hd
    · exact Nat.mod_lt n hbase

theorem ofDigits_fixedDigits (base width n : Nat) :
    ofDigits base (fixedDigits base width n) = n % Nat.pow base width := by
  induction width generalizing n with
  | zero => simp [fixedDigits, ofDigits, Nat.mod_one]
  | succ width ih =>
    have hpow : Nat.pow base (width + 1) = base * Nat.pow base width := Nat.pow_succ'
    rw [fixedDigits, ofDigits_concat, ih, hpow, Nat.mod_mul, Nat.mul_comm, Nat.add_comm]

theorem ofDigits_lt {base : Nat} {ds : List Nat} (hds : ∀ d ∈ ds, d < base) :
    ofDigits base ds < Nat.pow base ds.length := by
  induction ds using List.reverseRecOn with
  | nil => exact Nat.one_pos
  | append_singleton ds d ih =>
    obtain ⟨hrest, hd⟩ := List.forall_mem_append.mp hds
    have hlast : d < base := hd d (List.mem_singleton_self d)
    have hpow : Nat.pow base (ds.length + 1) = Nat.pow base ds.length * base := rfl
    rw [ofDigits_concat, List.length_append, List.length_singleton, hpow]
    calc ofDigits base ds * base + d < ofDigits base ds * base + base := by omega
      _ = (ofDigits base ds + 1) * base := (Nat.succ_mul ..).symm
      _ ≤ Nat.pow base ds.length * base := Nat.mul_le_mul_right base (ih hrest)

/-- Digits are told by their number and their value. -/
theorem fixedDigits_ofDigits {base : Nat} {ds : List Nat} (hds : ∀ d ∈ ds, d < base) :
    fixedDigits base ds.length (ofDigits base ds) = ds := by
  induction ds using List.reverseRecOn with
  | nil => rfl
  | append_singleton ds d ih =>
    obtain ⟨hrest, hd⟩ := List.forall_mem_append.mp hds
    have hlast : d < base := hd d (List.mem_singleton_self d)
    have hdiv : (ofDigits base ds * base + d) / base = ofDigits base ds := by
      rw [Nat.mul_comm, Nat.mul_add_div (by omega), Nat.div_eq_of_lt hlast, Nat.add_zero]
    have hmod : (ofDigits base ds * base + d) % base = d := by
      rw [Nat.mul_add_mod_self_right, Nat.mod_eq_of_lt hlast]
    rw [ofDigits_concat, List.length_append, List.length_singleton, fixedDigits, hdiv, hmod,
      ih hrest]

theorem mapM_hexDigit? {ds : List Nat} (hds : ∀ d ∈ ds, d < 16) :
    (ds.map digitChar).mapM hexDigit? = some ds := by
  induction ds with
  | nil => rfl
  | cons d ds ih =>
    obtain ⟨hd, hds⟩ := List.forall_mem_cons.mp hds
    rw [List.map_cons, List.mapM_cons, hexDigit?_digitChar hd, ih hds]
    rfl

/-! ### No leading zeros -/

/-- The values of the digits of `n`, most significant first. -/
structure Numeral (base n : Nat) (ds : List Nat) : Prop where
  chars : numeral base n = ds.map digitChar
  bounded : ∀ d ∈ ds, d < base
  value : ofDigits base ds = n
  ne_nil : ds ≠ []
  leading : ds.head? = some 0 → n = 0

theorem exists_numeral {base : Nat} (hbase : 1 < base) (n : Nat) : ∃ ds, Numeral base n ds := by
  induction n using Nat.strongRecOn with
  | ind n ih =>
    rcases Nat.lt_or_ge n base with hlt | hge
    · refine ⟨[n], ?_, by simpa using hlt, by simp [ofDigits], by simp, by simp⟩
      rw [numeral, dif_neg (by omega), List.map_singleton]
    · have hsmaller : n / base < n := Nat.div_lt_self (by omega) hbase
      have hpositive : 0 < n / base := Nat.div_pos hge (by omega)
      obtain ⟨ds, hds⟩ := ih (n / base) hsmaller
      refine ⟨ds ++ [n % base], ?_, ?_, ?_, by simp, ?_⟩
      · rw [numeral, dif_pos ⟨hbase, hge⟩, hds.chars, List.map_append, List.map_singleton]
      · intro d hd
        rcases List.mem_append.mp hd with hd | hd
        · exact hds.bounded d hd
        · rw [List.mem_singleton.mp hd]
          exact Nat.mod_lt n (by omega)
      · rw [ofDigits_concat, hds.value]
        exact Nat.div_add_mod' n base
      · intro hzero
        rw [List.head?_append_of_ne_nil _ hds.ne_nil] at hzero
        have := hds.leading hzero
        omega

/-- A number with a leading zero has no other digit. -/
theorem Numeral.length_of_leading {base n : Nat} (hbase : 1 < base) {ds : List Nat}
    (hds : Numeral base n ds) (hzero : ds.head? = some 0) : ds.length = 1 := by
  have hchars : (ds.map digitChar).length = 1 := by
    rw [← hds.chars, hds.leading hzero, numeral, dif_neg (by omega)]
    rfl
  rwa [List.length_map] at hchars

/-- Numbers are told apart by their digits. -/
theorem numeral_injective {base : Nat} (hbase : 1 < base) (hdigits : base ≤ 16) :
    Function.Injective (numeral base) := by
  intro n m h
  obtain ⟨ds, hds⟩ := exists_numeral hbase n
  obtain ⟨es, hes⟩ := exists_numeral hbase m
  have hread : ∀ {k : Nat} {ks : List Nat}, Numeral base k ks →
      (numeral base k).mapM hexDigit? = some ks := by
    intro k ks hks
    rw [hks.chars]
    exact mapM_hexDigit? fun d hd => Nat.lt_of_lt_of_le (hks.bounded d hd) hdigits
  have hsame : ds = es := by
    rw [← Option.some.injEq, ← hread hds, ← hread hes, h]
  rw [← hds.value, ← hes.value, hsame]

/-! ### Signs -/

/-- A natural number does not start with a sign. -/
theorem numeral_head (n : Nat) : ∃ d < 10, ∃ cs, numeral 10 n = digitChar d :: cs := by
  obtain ⟨ds, hds⟩ := exists_numeral (by decide : 1 < 10) n
  cases ds with
  | nil => exact absurd rfl hds.ne_nil
  | cons d ds => exact ⟨d, hds.bounded d List.mem_cons_self, _, hds.chars⟩

theorem mem_digits_of_mem_numeral {n : Nat} {c : Char} (hc : c ∈ numeral 10 n) :
    c ∈ "0123456789".toList := by
  obtain ⟨ds, hds⟩ := exists_numeral (by decide : 1 < 10) n
  rw [hds.chars] at hc
  obtain ⟨d, hd, rfl⟩ := List.mem_map.mp hc
  have hall : ∀ d < 10, digitChar d ∈ "0123456789".toList := by decide
  exact hall d (hds.bounded d hd)

/-- An integer starts with a sign or a digit, and only digits follow. -/
theorem integerNumeral_shape (n : Int) : ∃ c cs, integerNumeral n = c :: cs ∧
    c ∈ "-0123456789".toList ∧ ∀ x ∈ cs, x ∈ "0123456789".toList := by
  cases n with
  | ofNat n =>
    obtain ⟨d, hd, cs, hcs⟩ := numeral_head n
    have hall : ∀ d < 10, digitChar d ∈ "-0123456789".toList := by decide
    refine ⟨digitChar d, cs, hcs, hall d hd, fun x hx => ?_⟩
    exact mem_digits_of_mem_numeral (n := n) (hcs ▸ List.mem_cons_of_mem _ hx)
  | negSucc n => exact ⟨'-', _, rfl, by decide, fun x hx => mem_digits_of_mem_numeral hx⟩

theorem integerNumeral_injective : Function.Injective integerNumeral := by
  have hmagnitude : Function.Injective (numeral 10) := numeral_injective (by decide) (by decide)
  have hsign : ∀ n m : Nat, numeral 10 n ≠ '-' :: numeral 10 m := by
    intro n m h
    obtain ⟨d, hd, cs, hcs⟩ := numeral_head n
    have hall : ∀ d < 10, digitChar d ≠ '-' := by decide
    exact hall d hd (List.cons.inj (hcs.symm.trans h)).1
  intro n m h
  cases n with
  | ofNat n =>
    cases m with
    | ofNat m => exact congrArg Int.ofNat (hmagnitude h)
    | negSucc m => exact absurd h (hsign n (m + 1))
  | negSucc n =>
    cases m with
    | ofNat m => exact absurd h.symm (hsign m (n + 1))
    | negSucc m =>
      have hsucc : n + 1 = m + 1 := hmagnitude (List.cons.inj h).2
      rw [Nat.succ.inj hsucc]

end Clearance
