/-!
# Sets of code points

A set of code points is a list of closed ranges in increasing order. A test stops at
the first range that lies beyond the code point, so the common low ranges are cheap.
-/

namespace ApiGraph.Text

/-- Membership in increasing closed ranges. -/
def inRanges (n : Nat) : List (Nat × Nat) → Bool
  | [] => false
  | (lo, hi) :: rest => if n < lo then false else if n ≤ hi then true else inRanges n rest

end ApiGraph.Text
