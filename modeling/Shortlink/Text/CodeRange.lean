/-!
# Ranges of code points

The shape in which properties of characters are tabulated: a list of closed ranges.
-/

namespace Shortlink.Text

/-- The code points from `first` to `last`, both counted in. -/
structure CodeRange where
  first : Nat
  last : Nat
deriving DecidableEq

/-- The code point lies in the range. -/
def CodeRange.covers (r : CodeRange) (n : Nat) : Bool :=
  r.first ≤ n && n ≤ r.last

/-- The code point lies in one of the ranges. -/
def inRanges (ranges : List CodeRange) (n : Nat) : Bool :=
  ranges.any (·.covers n)

theorem CodeRange.covers_iff {r : CodeRange} {n : Nat} :
    r.covers n = true ↔ r.first ≤ n ∧ n ≤ r.last := by
  simp [CodeRange.covers]

theorem inRanges_iff {ranges : List CodeRange} {n : Nat} :
    inRanges ranges n = true ↔ ∃ r ∈ ranges, r.first ≤ n ∧ n ≤ r.last := by
  simp [inRanges, CodeRange.covers_iff]

end Shortlink.Text
