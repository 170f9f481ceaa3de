import Clearance.Document.Basic
import Clearance.Text.Numeral

/-!
# Reading JSON numbers

A number without fraction and exponent that fits 64 bits is an integer. Every other number is a
significand, the leading digits that fit 64 bits, times a power of ten: both are rounded to
double precision before they are multiplied or divided.
-/

namespace Clearance

namespace Binary64

/-- The product or quotient of two magnitudes, rounded. -/
def scaled (divide : Bool) : Binary64 → Binary64 → Binary64
  | finite _ m e, finite _ m' e' =>
      let (a, b) := ratio m e
      let (c, d) := ratio m' e'
      if divide then roundRatio false (a * d) (b * c) else roundRatio false (a * c) (b * d)
  | x, _ => x

def isZero : Binary64 → Bool
  | finite _ 0 _ => true
  | _ => false

def withSign (negative : Bool) : Binary64 → Binary64
  | finite _ m e => finite negative m e
  | infinite _ => infinite negative
  | notANumber => notANumber

end Binary64

namespace Json

open Binary64

/-- The greatest power of ten by which a significand is scaled at once. -/
def greatestStep : Nat := 308

/-- A magnitude times a power of ten; nothing when it is out of range. Large negative powers are
taken in steps. -/
def scaleByTen : Nat → Binary64 → Int → Option Binary64
  | steps, x, power =>
      if power.natAbs ≤ greatestStep then
        match x.scaled (power < 0) (ofDecimal false 1 power.natAbs) with
        | infinite _ => none
        | y => some y
      else if x.isZero then some x
      else if 0 < power then none
      else
        match steps with
        | 0 => some x
        | steps + 1 =>
            let reduced := x.scaled true (ofDecimal false 1 greatestStep)
            scaleByTen steps reduced (power + greatestStep)

/-- Appends digits while the number stays below `2 ^ 64`; gives it with the digits left over. -/
def fillSignificand (significand : Nat) : List Nat → Nat × List Nat
  | [] => (significand, [])
  | d :: rest =>
      if significand * 10 + d < Nat.pow 2 64 then fillSignificand (significand * 10 + d) rest
      else (significand, d :: rest)

/-- The double-precision number of a literal; nothing when it is out of range. -/
def readFloat (negative : Bool) (whole fraction : List Nat) (power : Int) : Option Binary64 :=
  let (significand, droppedWhole) := fillSignificand 0 whole
  let (significand, droppedFraction) := fillSignificand significand fraction
  let places : Int := (droppedWhole.length : Int) - (fraction.length - droppedFraction.length : Nat)
  let magnitude :=
    if Nat.pow 2 31 ≤ power.natAbs then
      if significand ≠ 0 ∧ 0 < power then none else some (finite false 0 leastExponent)
    else scaleByTen 4 (roundRatio false significand 1) (places + power)
  magnitude.map (withSign negative)

/-- The value of a literal without fraction and exponent. -/
def readWhole (negative : Bool) (whole : List Nat) : Option Document :=
  let n := ofDigits 10 whole
  if negative then
    if n ≠ 0 ∧ n ≤ Nat.pow 2 63 then some (.int (-(n : Int)))
    else (readFloat true whole [] 0).map .float
  else if n < Nat.pow 2 64 then some (.int n)
  else (readFloat false whole [] 0).map .float

/-- The digits at the front of a text, and what follows them. -/
def takeDigits : List Char → List Nat × List Char
  | [] => ([], [])
  | c :: rest =>
      match decimalDigit? c with
      | some d => ((d :: (takeDigits rest).1), (takeDigits rest).2)
      | none => ([], c :: rest)

/-- The fraction of a number: nothing if a point is not followed by a digit. -/
def takeFraction : List Char → Option (List Nat × List Char)
  | '.' :: rest =>
      match takeDigits rest with
      | ([], _) => none
      | digits => some digits
  | rest => some ([], rest)

/-- The exponent of a number: nothing if the mark is not followed by a digit. -/
def takeExponent : List Char → Option (Option Int × List Char)
  | c :: rest =>
      if c = 'e' ∨ c = 'E' then
        let (negative, rest) := match rest with
          | '+' :: more => (false, more)
          | '-' :: more => (true, more)
          | more => (false, more)
        match takeDigits rest with
        | ([], _) => none
        | (digits, rest) =>
            let n : Int := ofDigits 10 digits
            some (some (if negative then -n else n), rest)
      else some (none, c :: rest)
  | [] => some (none, [])

/-- Reads an unsigned number: nothing if it is ill formed. A number out of range has an end but
no value. -/
def readUnsigned (negative : Bool) (cs : List Char) : Option (Document × List Char) := do
  let (whole, rest) := takeDigits cs
  guard (whole ≠ [] ∧ (whole.head? = some 0 → whole.length = 1))
  let (fraction, rest) ← takeFraction rest
  let (power, rest) ← takeExponent rest
  let value :=
    if fraction = [] ∧ power = none then readWhole negative whole
    else (readFloat negative whole fraction (power.getD 0)).map .float
  return (value.getD (.cut .token), rest)

def readNumber : List Char → Option (Document × List Char)
  | '-' :: rest => readUnsigned true rest
  | cs => readUnsigned false cs

end Json

end Clearance
