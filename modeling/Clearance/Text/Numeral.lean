/-!
# Numerals

Natural numbers and integers as lists of digits. `numeral base n` has no leading zero,
`fixedNumeral base width n` has exactly `width` digits, and `ofDigits` reads both back.
-/

namespace Clearance

/-- The lower-case digit of a value below sixteen. -/
def digitChar (d : Nat) : Char :=
  if d < 10 then Char.ofNat (d + 48) else Char.ofNat (d + 87)

def decimalDigit? (c : Char) : Option Nat :=
  if '0' ≤ c ∧ c ≤ '9' then some (c.toNat - 48) else none

/-- The value of a digit of base sixteen, in either letter case. -/
def hexDigit? (c : Char) : Option Nat :=
  if '0' ≤ c ∧ c ≤ '9' then some (c.toNat - 48)
  else if 'a' ≤ c ∧ c ≤ 'f' then some (c.toNat - 87)
  else if 'A' ≤ c ∧ c ≤ 'F' then some (c.toNat - 55)
  else none

/-- The last `width` digits of `n`, most significant first. -/
def fixedNumeral (base : Nat) : Nat → Nat → List Char
  | 0, _ => []
  | width + 1, n => fixedNumeral base width (n / base) ++ [digitChar (n % base)]

/-- The digits of `n` without leading zeros. -/
def numeral (base n : Nat) : List Char :=
  if _h : 1 < base ∧ base ≤ n then numeral base (n / base) ++ [digitChar (n % base)]
  else [digitChar n]
termination_by n
decreasing_by exact Nat.div_lt_self (by omega) (And.left ‹_›)

/-- The decimal digits of an integer, a minus sign in front of a negative one. -/
def integerNumeral : Int → List Char
  | .ofNat n => numeral 10 n
  | .negSucc n => '-' :: numeral 10 (n + 1)

def ofDigits (base : Nat) (digits : List Nat) : Nat :=
  digits.foldl (fun n d => n * base + d) 0

@[simp] theorem length_fixedNumeral (base width n : Nat) :
    (fixedNumeral base width n).length = width := by
  induction width generalizing n with
  | zero => rfl
  | succ width ih => simp [fixedNumeral, ih]

def natText (n : Nat) : String :=
  String.ofList (numeral 10 n)

def intText (n : Int) : String :=
  String.ofList (integerNumeral n)

end Clearance
