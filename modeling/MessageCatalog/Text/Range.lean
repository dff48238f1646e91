/-! A class of characters is written as its code points in ascending, separate ranges. -/

namespace MessageCatalog

/-- Membership in ascending ranges, both ends included, stops at the first range that lies above. -/
def inRanges : List (Nat × Nat) → Nat → Bool
  | [], _ => false
  | (first, last) :: ranges, code =>
    if code < first then false
    else if code ≤ last then true
    else inRanges ranges code

/-- Ranges are in order when each one is nonempty and ends before the next begins. -/
def rangesAscend : List (Nat × Nat) → Bool
  | [] => true
  | [(first, last)] => decide (first ≤ last)
  | (first, last) :: (first', last') :: ranges =>
    decide (first ≤ last ∧ last < first') && rangesAscend ((first', last') :: ranges)

end MessageCatalog
