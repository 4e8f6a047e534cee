/-!
# Common subsequences

The length of the longest text that can be had from two texts by deleting characters, and the
number of deletions and insertions that lead from one to the other.

## Contents

- `lcsRow`, `lcs`: the length, by one row for each character of the second text.
- `editDistance`: deletions and insertions.
-/

namespace Shortlink.Similarity

/-- The row for one more character `c`. The rows hold the lengths for the growing starts of a
text; `diagonal` and `left` are the neighbours of the next entry. -/
def lcsRow (c : Char) : List Char → List Nat → Nat → Nat → List Nat
  | x :: xs, up :: ups, diagonal, left =>
    let here := if x = c then diagonal + 1 else max up left
    here :: lcsRow c xs ups up here
  | _, _, _, _ => []

/-- The length of the longest common subsequence. -/
def lcs (s t : List Char) : Nat :=
  (t.foldl (fun row c => lcsRow c s row 0 0) (List.replicate s.length 0)).getLast?.getD 0

/-- The number of deletions and insertions that turn one text into the other. -/
def editDistance (s t : List Char) : Nat :=
  s.length + t.length - 2 * lcs s t

end Shortlink.Similarity
