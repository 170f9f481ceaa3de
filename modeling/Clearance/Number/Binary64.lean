/-!
# Binary64 numbers

A double-precision number as an exact value: sign, significand and a power of two, or one of the
values without a magnitude. `roundRatio` takes a ratio of natural numbers to the nearest such
value, a tie to the even significand.
-/

namespace Clearance

/-- A double-precision number; `finite negative m e` stands for `± m * 2 ^ e`. -/
inductive Binary64 where
  | finite (negative : Bool) (significand : Nat) (exponent : Int)
  | infinite (negative : Bool)
  | notANumber
deriving DecidableEq, Repr

namespace Binary64

def leastExponent : Int := -1074

def greatestExponent : Int := 971

def significandBound : Nat := Nat.pow 2 53

/-- The quotient rounded to the nearest natural number, a tie to the even one. -/
def divideToEven (num den : Nat) : Nat :=
  let q := num / den
  let r := num % den
  if 2 * r < den then q
  else if den < 2 * r then q + 1
  else if q % 2 = 0 then q else q + 1

/-- The exponent at which `num / den` has a significand of 53 bits, or the least exponent. -/
def fittingExponent (num den : Nat) : Int :=
  let guess : Int := (num.log2 : Int) - (den.log2 : Int)
  let floorLog : Int :=
    if 0 ≤ guess then
      if num < den * Nat.pow 2 guess.toNat then guess - 1 else guess
    else
      if num * Nat.pow 2 (-guess).toNat < den then guess - 1 else guess
  max (floorLog - 52) leastExponent

/-- The ratio `num / den` divided by a power of two, rounded to a natural number. -/
def scaledSignificand (num den : Nat) (exponent : Int) : Nat :=
  if 0 ≤ exponent then divideToEven num (den * Nat.pow 2 exponent.toNat)
  else divideToEven (num * Nat.pow 2 (-exponent).toNat) den

/-- The number nearest to `± num / den`; a ratio above every finite number gives infinity. -/
def roundRatio (negative : Bool) (num den : Nat) : Binary64 :=
  if num = 0 then finite negative 0 leastExponent
  else
    let exponent := fittingExponent num den
    let m := scaledSignificand num den exponent
    let (m, exponent) := if m = significandBound then (m / 2, exponent + 1) else (m, exponent)
    if greatestExponent < exponent then infinite negative else finite negative m exponent

def ratio (significand : Nat) (exponent : Int) : Nat × Nat :=
  if 0 ≤ exponent then (significand * Nat.pow 2 exponent.toNat, 1)
  else (significand, Nat.pow 2 (-exponent).toNat)

/-- The number nearest to `± digits * 10 ^ power`. -/
def ofDecimal (negative : Bool) (digits : Nat) (power : Int) : Binary64 :=
  if 0 ≤ power then roundRatio negative (digits * Nat.pow 10 power.toNat) 1
  else roundRatio negative digits (Nat.pow 10 (-power).toNat)

end Binary64

end Clearance
