/-!
# Sets of characters as ranges

A set of characters is a list of the first and last code points of its ranges, in increasing order.
-/

namespace TouchOverlay.Text

/-- Whether a character lies in one of the ranges. -/
def inRanges (ranges : List (Nat × Nat)) (c : Char) : Bool :=
  ((ranges.dropWhile (·.2 < c.toNat)).head?.map fun r => decide (r.1 ≤ c.toNat)).getD false

example : inRanges [(48, 57), (97, 102)] '9' ∧ inRanges [(48, 57), (97, 102)] 'a' := by decide

example : ¬ inRanges [(48, 57), (97, 102)] ':' ∧ ¬ inRanges [(48, 57), (97, 102)] 'g' := by decide

end TouchOverlay.Text
