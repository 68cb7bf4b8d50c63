/-!
# Ranges of code points

A class of characters as a sorted list of ranges, and the test for membership.
-/

namespace QueryAudit

/-- Whether a code point lies in one of the ranges, which are sorted: the search stops at the first
    range that begins beyond it. -/
def inRanges (n : Nat) : List (Nat × Nat) → Bool
  | [] => false
  | (low, high) :: rest => if n < low then false else n ≤ high || inRanges n rest

end QueryAudit
