/-!
# Pages

A list is shown page by page. Bounds may be negative; they then count from the end of the list.

## Contents

- `slice`: the items between two bounds.
- `hasMore`: whether items are left after a page.
-/

namespace Shortlink

/-- The position that a bound denotes in a list of the given length. -/
def position (length : Nat) (bound : Int) : Nat :=
  if bound < 0 then (bound + length).toNat else min bound.toNat length

/-- The items from one bound up to another. -/
def slice {α : Type} (xs : List α) (start stop : Int) : List α :=
  let first := position xs.length start
  let last := position xs.length stop
  (xs.drop first).take (last - first)

/-- Items are left after the page with the given number, when pages hold `size` of `total`. -/
def hasMore (page size total : Int) : Bool :=
  (1 + page) * size < total

end Shortlink
