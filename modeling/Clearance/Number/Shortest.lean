import Clearance.Number.Binary64
import Clearance.Text.Numeral

/-!
# Shortest decimals

The decimal with the fewest digits that still rounds to a given number, and of those the nearest
one. The reals that round to `m * 2 ^ e` form an interval around it, closed when `m` is even; on
each decimal grid only the two neighbours of the number can be the nearest points inside.
-/

namespace Clearance

/-- The decimal `digits * 10 ^ power`. -/
structure Decimal where
  digits : Nat
  power : Int
deriving DecidableEq, Repr

namespace Decimal

def ratio (d : Decimal) : Nat × Nat :=
  if 0 ≤ d.power then (d.digits * Nat.pow 10 d.power.toNat, 1)
  else (d.digits, Nat.pow 10 (-d.power).toNat)

def trim (d : Decimal) : Decimal :=
  if _h : d.digits ≠ 0 ∧ d.digits % 10 = 0 then trim ⟨d.digits / 10, d.power + 1⟩ else d
termination_by d.digits
decreasing_by exact Nat.div_lt_self (by omega) (by decide)

end Decimal

namespace Binary64

/-- The interval of reals that round to a number, over one denominator: twice the number is
`2 * centre`, and the ends lie `below` and `above` away from it. -/
structure Interval where
  centre : Nat
  below : Nat
  above : Nat
  denominator : Nat
  closed : Bool
deriving DecidableEq, Repr

/-- The interval of `m * 2 ^ e`, over a denominator four times that of the number: the gap below
a power of two is half as wide as the gap above. -/
def interval (significand : Nat) (exponent : Int) : Interval :=
  let unit : Nat := if 0 ≤ exponent then Nat.pow 2 exponent.toNat else 1
  let denominator : Nat := if 0 ≤ exponent then 4 else 4 * Nat.pow 2 (-exponent).toNat
  let lone := significand = Nat.pow 2 52 ∧ leastExponent < exponent
  { centre := 4 * significand * unit
    below := if lone then unit else 2 * unit
    above := 2 * unit
    denominator := denominator
    closed := significand % 2 = 0 }

/-- Whether the ratio `num / den` lies in the interval. -/
def Interval.contains (i : Interval) (num den : Nat) : Bool :=
  let x := num * i.denominator
  let low := (i.centre - i.below) * den
  let high := (i.centre + i.above) * den
  if i.closed then low ≤ x ∧ x ≤ high else low < x ∧ x < high

/-- The decimal exponent of the leading digit of a positive ratio. -/
def leadingPower (num den : Nat) : Int :=
  if den ≤ num then ((numeral 10 (num / den)).length : Int) - 1
  else
    0 - ((numeral 10 ((den + num - 1) / num - 1)).length : Int)

/-- The points of the grid of multiples of `10 ^ power` next to a ratio, lower one first. -/
def gridNeighbours (num den : Nat) (power : Int) : Nat × Nat :=
  let q :=
    if 0 ≤ power then num / (den * Nat.pow 10 power.toNat)
    else num * Nat.pow 10 (-power).toNat / den
  (q, q + 1)

/-- The distance between two ratios, over the product of their denominators. -/
def distance (x y : Nat × Nat) : Nat :=
  let a := x.1 * y.2
  let b := y.1 * x.2
  if a ≤ b then b - a else a - b

/-- The point of a grid that is nearest to the number and rounds to it. -/
def gridPoint? (i : Interval) (num den : Nat) (power : Int) : Option Decimal :=
  let (low, high) := gridNeighbours num den power
  let lower : Decimal := ⟨low, power⟩
  let upper : Decimal := ⟨high, power⟩
  let lowerRatio := lower.ratio
  let upperRatio := upper.ratio
  let lowerFits := i.contains lowerRatio.1 lowerRatio.2
  let upperFits := i.contains upperRatio.1 upperRatio.2
  if lowerFits && upperFits then
    let toLower := distance (num, den) lowerRatio
    let toUpper := distance (num, den) upperRatio
    if toLower < toUpper then some lower
    else if toUpper < toLower then some upper
    else if low % 2 = 0 then some lower else some upper
  else if lowerFits then some lower
  else if upperFits then some upper
  else none

/-- The first grid with a hit, from coarse to fine. -/
def firstGridPoint (i : Interval) (num den : Nat) : Nat → Int → Decimal
  | 0, power => ⟨(gridNeighbours num den power).1, power⟩
  | steps + 1, power =>
      match gridPoint? i num den power with
      | some d => d
      | none => firstGridPoint i num den steps (power - 1)

/-- The shortest decimal that rounds to `m * 2 ^ e`, for a positive significand. -/
def shortest (significand : Nat) (exponent : Int) : Decimal :=
  let (num, den) := ratio significand exponent
  (firstGridPoint (interval significand exponent) num den 17 (leadingPower num den)).trim

end Binary64

end Clearance
