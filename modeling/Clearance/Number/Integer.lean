/-!
# Integers

The integers that fit 64 bits with a sign.
-/

namespace Clearance

/-- The least integer. -/
def leastInteger : Int := -9223372036854775808

def greatestInteger : Int := 9223372036854775807

abbrev Integer := { n : Int // leastInteger ≤ n ∧ n ≤ greatestInteger }

def Integer.ofInt? (n : Int) : Option Integer :=
  if h : leastInteger ≤ n ∧ n ≤ greatestInteger then some ⟨n, h⟩ else none

end Clearance
