/-!
# Sets of code points

A set is a list of inclusive ranges.
-/

namespace SourceOutline.Text

/-- The code point lies in one of the ranges. -/
def inRanges (ranges : List (Nat × Nat)) (point : Nat) : Bool :=
  ranges.any fun (low, high) => low ≤ point && point ≤ high

end SourceOutline.Text
