/-!
# Ranges of code points

A class of characters is given by the ranges of its code points.
-/

namespace SweepPlot.Text

/-- Whether a code point lies in one of the ranges, each with its first and last member. -/
def inRanges (n : Nat) (ranges : List (Nat × Nat)) : Bool :=
  ranges.any fun (first, last) => first ≤ n && n ≤ last

end SweepPlot.Text
