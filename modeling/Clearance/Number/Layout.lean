import Clearance.Number.Shortest

/-!
# Number texts

How a double-precision number is written: its shortest decimal, with a point and at least one
digit on either side of it while the leading digit is in the positional range of the layout, with
an exponent outside it.
-/

namespace Clearance

structure NumberLayout where
  /-- The least exponent of a leading digit that is written positionally. -/
  leastPositional : Option Int
  /-- The greatest exponent of a leading digit that is written positionally. -/
  greatestPositional : Option Int
deriving DecidableEq, Repr

namespace NumberLayout

/-- JSON texts turn to exponents below `1e-5` and from `1e16` on. -/
def json : NumberLayout := ⟨some (-5), some 15⟩

def plain : NumberLayout := ⟨none, none⟩

/-- Whether a leading digit of the given exponent is written positionally. -/
def positional (layout : NumberLayout) (exponent : Int) : Bool :=
  (layout.leastPositional.all fun least => least ≤ exponent) &&
    (layout.greatestPositional.all fun greatest => exponent ≤ greatest)

def positionalText (digits : List Char) (power : Int) : List Char :=
  if 0 ≤ power then digits ++ List.replicate power.toNat '0' ++ ['.', '0']
  else
    let places := (-power).toNat
    if places < digits.length then
      digits.take (digits.length - places) ++ '.' :: digits.drop (digits.length - places)
    else ['0', '.'] ++ List.replicate (places - digits.length) '0' ++ digits

/-- One digit, the others after a point, and the exponent with its sign. -/
def exponentText (digits : List Char) (exponent : Int) : List Char :=
  let mark := if exponent < 0 then '-' else '+'
  let point := match digits with
    | [] => []
    | [d] => [d]
    | d :: more => d :: '.' :: more
  point ++ 'e' :: mark :: numeral 10 exponent.natAbs

def decimalText (layout : NumberLayout) (d : Decimal) : List Char :=
  let digits := numeral 10 d.digits
  let exponent := d.power + digits.length - 1
  if layout.positional exponent then positionalText digits d.power
  else exponentText digits exponent

def text (layout : NumberLayout) : Binary64 → List Char
  | .notANumber => "NaN".toList
  | .infinite negative => (if negative then ['-'] else []) ++ "inf".toList
  | .finite negative m e =>
      (if negative then ['-'] else []) ++
        (if m = 0 then "0.0".toList else layout.decimalText (Binary64.shortest m e))

end NumberLayout

end Clearance
