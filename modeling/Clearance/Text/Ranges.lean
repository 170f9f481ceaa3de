/-!
# Ranges of characters

A set of characters as ascending ranges of code points.
-/

namespace Clearance

/-- Ascending ranges of code points, both ends included. -/
abbrev CodeRanges := List (Nat × Nat)

def CodeRanges.contain : CodeRanges → Nat → Bool
  | [], _ => false
  | (first, last) :: rest, n =>
      if n < first then false else if n ≤ last then true else CodeRanges.contain rest n

end Clearance
