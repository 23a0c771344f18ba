/-!
# Ranges of code points

Character classes are lists of closed ranges of code points.
-/

namespace SciCalc.Text

/-- The code point lies in one of the closed ranges. -/
def inRanges (ranges : List (Nat × Nat)) (code : Nat) : Bool :=
  ranges.any fun (first, last) => first ≤ code && code ≤ last

end SciCalc.Text
