import Shortlink.Binary64
import Shortlink.Similarity.Subsequence

/-!
# Similarity of texts

Scores from 0 to 100 that tell how alike two texts are: as a whole, at the best place of one in
the other, and word by word. All arithmetic is that of binary floating point, each operation
rounded.

## Contents

- `similarity`, `ratio`: the texts as a whole.
- `partialRatio`: the shorter text at the best place of the longer one.
- `tokenSortRatio`, `tokenSetRatio`, `tokenRatio`: words regardless of order.
- `partialTokenRatio`: words at the best place.
- `weightedRatio`: the best of these, with weights.
-/

namespace Shortlink.Similarity

/-- Rounds to the format in which scores are kept. -/
def fl (q : Rat) : Rat :=
  Binary64.roundRat q

/-- A score after multiplication by a weight that is itself rounded. -/
def weigh (score weight : Rat) : Rat :=
  fl (score * fl weight)

/-- The better of two scores. -/
def better (a b : Rat) : Rat :=
  if a ≤ b then b else a

/-! ## Whole texts -/

/-- One for equal texts, zero for texts without a common character. -/
def similarity (s t : List Char) : Rat :=
  let total := s.length + t.length
  if total = 0 then 1 else fl (1 - fl (mkRat (editDistance s t) total))

/-- The likeness of two texts as a whole. -/
def ratio (s t : List Char) : Rat :=
  fl (similarity s t * 100)

/-! ## The best place -/

/-- The places of a longer text that a shorter one is held against: starts and inner parts that
end in a character of it, and ends that begin with one. -/
def places (short long : List Char) : List (List Char) :=
  let n := short.length
  let starts := (List.range (n - 1)).map fun i => long.take (i + 1)
  let inner := (List.range (long.length - n)).map fun i => (long.drop i).take n
  let ends := (List.range n).map fun i => long.drop (long.length - n + i)
  ((starts ++ inner).filter fun p => p.getLast?.any short.contains)
    ++ ends.filter fun p => p.head?.any short.contains

/-- The best score of a shorter text among the places of a longer one. -/
def bestPlace (short long : List Char) : Rat :=
  fl (((places short long).map (similarity short)).foldl better 0 * 100)

/-- The likeness of the shorter text to the best place of the longer one. -/
def partialRatio (s t : List Char) : Rat :=
  if s.isEmpty && t.isEmpty then 100
  else if s.length < t.length then bestPlace s t
  else if t.length < s.length then bestPlace t s
  else better (bestPlace s t) (bestPlace t s)

/-! ## Words -/

/-- The words of a text, which single spaces separate. -/
def wordsOf (s : List Char) : List (List Char) :=
  (s.splitOn ' ').filter fun w => !w.isEmpty

/-- The order of words: by the first characters that differ. -/
def comesFirst : List Char → List Char → Bool
  | [], _ => true
  | _ :: _, [] => false
  | a :: s, b :: t => if a = b then comesFirst s t else a.toNat < b.toNat

/-- Words in alphabetical order. -/
def sortWords (ws : List (List Char)) : List (List Char) :=
  ws.mergeSort comesFirst

/-- Words joined by single spaces. -/
def joinWords (ws : List (List Char)) : List Char :=
  [' '].intercalate ws

/-- The words of one list that are not in the other, each once and in order. -/
def difference (ws vs : List (List Char)) : List (List Char) :=
  sortWords (ws.eraseDups.filter fun w => !vs.contains w)

/-- The words of two lists, each once and in order. -/
def intersection (ws vs : List (List Char)) : List (List Char) :=
  sortWords (ws.eraseDups.filter fun w => vs.contains w)

/-- The score of a distance between texts of the given total length. -/
def distanceScore (distance total : Nat) : Rat :=
  if total = 0 then 100 else fl (100 - fl (mkRat (100 * distance : Nat) total))

/-- The likeness of two texts after their words have been put in order. -/
def tokenSortRatio (s t : List Char) : Rat :=
  ratio (joinWords (sortWords (wordsOf s))) (joinWords (sortWords (wordsOf t)))

/-- The likeness of the sets of words: common words, alone and with the others of either side. -/
def tokenSetRatio (s t : List Char) : Rat :=
  let ws := wordsOf s
  let vs := wordsOf t
  if ws.isEmpty || vs.isEmpty then 0
  else
    let common := joinWords (intersection ws vs)
    let left := joinWords (difference ws vs)
    let right := joinWords (difference vs ws)
    if !common.isEmpty && (left.isEmpty || right.isEmpty) then 100
    else
      let shared := if common.isEmpty then 0 else common.length + 1
      let whole :=
        distanceScore (editDistance left right) (shared + left.length + (shared + right.length))
      if common.isEmpty then whole
      else
        let withLeft :=
          distanceScore (1 + left.length) (common.length + (shared + left.length))
        let withRight :=
          distanceScore (1 + right.length) (common.length + (shared + right.length))
        better whole (better withLeft withRight)

/-- The better of the two scores for words. -/
def tokenRatio (s t : List Char) : Rat :=
  better (tokenSortRatio s t) (tokenSetRatio s t)

/-- The likeness of words at the best place: full if there is a common word. -/
def partialTokenRatio (s t : List Char) : Rat :=
  let ws := wordsOf s
  let vs := wordsOf t
  if ws.any vs.contains then 100
  else
    let sorted := partialRatio (joinWords (sortWords ws)) (joinWords (sortWords vs))
    let distinct :=
      partialRatio (joinWords (difference ws vs)) (joinWords (difference vs ws))
    better sorted distinct

/-! ## The best of all -/

/-- The best of the scores. If one text is much longer than the other, places count instead of
whole texts, and less so beyond eight times the length. -/
def weightedRatio (s t : List Char) : Rat :=
  if s.isEmpty || t.isEmpty then 0
  else
    let long := max s.length t.length
    let short := min s.length t.length
    if 2 * long < 3 * short then better (ratio s t) (weigh (tokenRatio s t) (95 / 100))
    else
      let weight : Rat := if long ≤ 8 * short then 9 / 10 else 6 / 10
      better (better (ratio s t) (weigh (partialRatio s t) weight))
        (weigh (weigh (partialTokenRatio s t) (95 / 100)) weight)

end Shortlink.Similarity
