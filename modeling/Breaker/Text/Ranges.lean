/-!
# Sets of code points

A property of code points is given as a list of closed ranges in ascending
order.
-/

namespace Breaker.Text

/-- Whether `n` lies in one of the closed `ranges`, which ascend. -/
def inRanges : List (Nat × Nat) → Nat → Bool
  | [], _ => false
  | (lo, hi) :: rest, n => if n < lo then false else n ≤ hi || inRanges rest n

end Breaker.Text
