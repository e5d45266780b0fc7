/-!
# Ranges of characters

Character properties are given as ascending lists of closed ranges of code points.
-/

namespace Marshal.Text
set_option autoImplicit false

/-- Whether a code point lies in one of the ranges. -/
def inRanges (ranges : List (Nat × Nat)) (n : Nat) : Bool :=
  ranges.any fun r => r.1 ≤ n && n ≤ r.2

end Marshal.Text
