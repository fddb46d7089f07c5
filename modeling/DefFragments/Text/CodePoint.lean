/-!
# Code points

A property of characters is given by the ranges of the code points that have it.
-/

namespace DefFragments.Text

/-- A code point lies in one of the ranges, whose two ends belong to them. -/
def inRanges (ranges : List (Nat × Nat)) (n : Nat) : Bool :=
  ranges.any fun r => r.1 ≤ n && n ≤ r.2

end DefFragments.Text
