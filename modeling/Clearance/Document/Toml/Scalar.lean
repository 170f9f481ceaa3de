import Clearance.Document.Basic
import Clearance.Document.Toml.Text
import Clearance.Number.Integer

/-!
# TOML numbers and moments

Numbers of TOML and the moments of time beside them. Integers fit 64 bits with a sign. A moment is
taken as a table with a single member of its own, so that it stands where a table may stand.
-/

namespace Clearance

namespace Toml

/-- The decimal exponent of the digit before the point above which a number is out of range. -/
def greatestPower : Int := 400

/-- The number nearest to `± digits * 10 ^ power`, for powers of any size. -/
def nearest (negative : Bool) (digits : List Nat) (power : Int) : Binary64 :=
  let n := ofDigits 10 digits
  let leading := power + (numeral 10 n).length
  if n = 0 ∨ leading < -greatestPower then .finite negative 0 Binary64.leastExponent
  else if greatestPower < leading then .infinite negative
  else Binary64.ofDecimal negative n power

/-- The sign in front of a number. -/
def readSign : List Char → Option Bool × List Char
  | '+' :: rest => (some false, rest)
  | '-' :: rest => (some true, rest)
  | rest => (none, rest)

/-- Digits after the first one; a single underscore may stand between two. -/
def moreDigits (digit? : Char → Option Nat) : List Char → List Nat × List Char
  | '_' :: c :: rest =>
      match digit? c with
      | some d => let (digits, rest) := moreDigits digit? rest; (d :: digits, rest)
      | none => ([], '_' :: c :: rest)
  | c :: rest =>
      match digit? c with
      | some d => let (digits, rest) := moreDigits digit? rest; (d :: digits, rest)
      | none => ([], c :: rest)
  | [] => ([], [])

/-- One digit at least. -/
def readDigits (digit? : Char → Option Nat) : List Char → Option (List Nat × List Char)
  | c :: rest => do
      let first ← digit? c
      let (digits, rest) := moreDigits digit? rest
      return (first :: digits, rest)
  | [] => none

def digitBelow (base : Nat) (c : Char) : Option Nat :=
  (hexDigit? c).filter (· < base)

/-- The base that the marks in front of a number name. -/
def baseOf? : List Char → Option (Nat × List Char)
  | '0' :: 'x' :: rest => some (16, rest)
  | '0' :: 'o' :: rest => some (8, rest)
  | '0' :: 'b' :: rest => some (2, rest)
  | _ => none

/-- An integer, which has to fit 64 bits. -/
def integer? (n : Int) : Option Document :=
  (Integer.ofInt? n).map fun i => .int i.val

/-- The digits before a point: no zero in front of others. -/
def readWhole : List Char → Option (List Nat × List Char)
  | '0' :: rest => some ([0], rest)
  | cs => readDigits decimalDigit? cs

/-- The digits after a point, if there is one. -/
def readFraction : List Char → Option (List Nat × List Char)
  | '.' :: rest => readDigits decimalDigit? rest
  | rest => some ([], rest)

/-- The exponent, if there is one. -/
def readExponent : List Char → Option (Option Int × List Char)
  | c :: rest =>
      if c = 'e' ∨ c = 'E' then do
        let (sign, rest) := readSign rest
        let (digits, rest) ← readDigits decimalDigit? rest
        let n : Int := ofDigits 10 digits
        return (some (if sign = some true then -n else n), rest)
      else some (none, c :: rest)
  | [] => some (none, [])

/-- Reads a decimal number; a positive number that is out of range is refused. -/
def readDecimal (negative : Bool) (cs : List Char) : Option (Document × List Char) := do
  let (whole, rest) ← readWhole cs
  let (fraction, rest) ← readFraction rest
  let (power, rest) ← readExponent rest
  if fraction = [] ∧ power = none then
    let n : Int := ofDigits 10 whole
    return (← integer? (if negative then -n else n), rest)
  else
    let x := nearest negative (whole ++ fraction) (power.getD 0 - fraction.length)
    guard (x ≠ .infinite false)
    return (.float x, rest)

/-- Reads a number; only one without a sign may be in another base. -/
def readNumber (cs : List Char) : Option (Document × List Char) :=
  let (sign, rest) := readSign cs
  let negative := sign = some true
  match rest with
  | 'i' :: 'n' :: 'f' :: rest => some (.float (.infinite negative), rest)
  | 'n' :: 'a' :: 'n' :: rest => some (.float .notANumber, rest)
  | _ =>
      match if sign = none then baseOf? rest else none with
      | some (base, rest) => do
          let (digits, rest) ← readDigits (digitBelow base) rest
          return (← integer? (ofDigits base digits), rest)
      | none => readDecimal negative rest

/-- A number of exactly `width` digits within bounds. -/
def readField (width least greatest : Nat) (cs : List Char) : Option (Nat × List Char) := do
  guard (width ≤ cs.length)
  let n := ofDigits 10 (← (cs.take width).mapM decimalDigit?)
  guard (least ≤ n ∧ n ≤ greatest)
  return (n, cs.drop width)

def expectChar (c : Char) : List Char → Option (List Char)
  | d :: rest => if c = d then some rest else none
  | [] => none

def daysIn (year month : Nat) : Nat :=
  if month = 2 then
    if year % 4 = 0 ∧ (year % 100 ≠ 0 ∨ year % 400 = 0) then 29 else 28
  else if month ∈ [4, 6, 9, 11] then 30
  else 31

def afterDate? (cs : List Char) : Option (List Char) := do
  let (year, rest) ← readField 4 0 9999 cs
  let (month, rest) ← readField 2 1 12 (← expectChar '-' rest)
  let (_, rest) ← readField 2 1 (daysIn year month) (← expectChar '-' rest)
  return rest

/-- What follows a time of day; a minute may have a leap second. -/
def afterTime? (cs : List Char) : Option (List Char) := do
  let (_, rest) ← readField 2 0 23 cs
  let (_, rest) ← readField 2 0 59 (← expectChar ':' rest)
  let (_, rest) ← readField 2 0 60 (← expectChar ':' rest)
  match rest with
  | '.' :: places =>
      let more := places.dropWhile fun c => (decimalDigit? c).isSome
      return if more.length < places.length then more else rest
  | _ => return rest

/-- What follows the offset of a time zone, which may be missing. -/
def afterOffset (cs : List Char) : List Char :=
  match cs with
  | c :: rest =>
      if c = 'Z' ∨ c = 'z' then rest
      else if c = '+' ∨ c = '-' then
        (do
          let (_, rest) ← readField 2 0 23 rest
          let (_, rest) ← readField 2 0 59 (← expectChar ':' rest)
          return rest).getD cs
      else cs
  | [] => []

/-- What follows a moment: a date, a time, or both with a `T` or a blank between them. -/
def afterMoment? (cs : List Char) : Option (List Char) :=
  match afterDate? cs with
  | none => afterTime? cs
  | some rest =>
      match rest with
      | c :: time =>
          if c = 'T' ∨ c = 't' ∨ c = ' ' then
            some (((afterTime? time).map afterOffset).getD rest)
          else some rest
      | [] => some []

/-- The member that a moment has as a table. -/
def momentMember : String := "moment"

/-- Reads a moment. -/
def readMoment (cs : List Char) : Option (Document × List Char) :=
  (afterMoment? cs).map fun rest =>
    (.table [(momentMember, .text (String.ofList (cs.take (cs.length - rest.length))))], rest)

end Toml

end Clearance
