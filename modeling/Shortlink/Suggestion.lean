import Shortlink.Paging
import Shortlink.Redirect
import Shortlink.Similarity.Ratio
import Shortlink.Text.Blank
import Shortlink.Text.LowerCase
import Shortlink.Text.Spelling

/-!
# Suggestions

When nothing answers to what a person typed, records that resemble it are suggested. A record is
scored by its alias, and at a discount by its destination. Texts are compared as they are spelled in
ASCII, by whatever table of spellings.

## Contents

- `searchText`: a text reduced to words of plain letters and digits, in three passes.
- `Redirect.score`: how well a record matches.
- `Threshold`: the least score that is good enough.
- `suggest`: the ranking.
-/

namespace Shortlink

open Text

/-! ## Text for comparison -/

/-- A letter or digit that survives the reduction. -/
def isWordChar (c : Char) : Bool :=
  ('a' ≤ c && c ≤ 'z') || ('0' ≤ c && c ≤ '9')

/-- What is neither a plain letter, a digit nor a blank becomes a space. -/
def blankOut (c : Char) : Char :=
  if isWordChar c || isBlank c then c else ' '

/-- A text reduced to plain words: it is spelled, put in lower case and trimmed, then cleared of
what belongs to no word, then its words are joined by single spaces. -/
def searchText (spelling : Spelling) (s : List Char) : List Char :=
  let spelled := trim (lowerCase (spell spelling s))
  [' '].intercalate (words (spelled.map blankOut))

/-! ## Scores -/

/-- The score of a record for a query. -/
def Redirect.score (r : Redirect) (spelling : Spelling) (query : List Char) : Rat :=
  let q := searchText spelling query
  if q.isEmpty then 0
  else
    let byAlias := Similarity.weightedRatio q (searchText spelling r.aliasName.toList)
    let byDestination := Similarity.partialRatio q (searchText spelling r.destination.toList)
    Similarity.better byAlias (Similarity.weigh byDestination (8 / 10))

/-- The least score that counts. -/
inductive Threshold where
  | atLeast (score : Rat)
  /-- No score is good enough. -/
  | unreachable

/-- The score reaches the threshold. -/
def Threshold.admits : Threshold → Rat → Bool
  | atLeast bound, score => bound ≤ score
  | unreachable, _ => false

/-- The threshold that a floating-point number sets. -/
def Threshold.ofBinary64 (x : Binary64) : Threshold :=
  match x with
  | .infinite true => atLeast 0
  | x =>
    match x.toRat? with
    | some q => atLeast q
    | none => unreachable

/-! ## Ranking -/

/-- A record with its score. -/
structure Suggestion where
  aliasName : String
  destination : String
  score : Rat
deriving DecidableEq

/-- The better score comes first, and of equal ones the smaller alias. -/
def Suggestion.precedes (a b : Suggestion) : Bool :=
  if a.score = b.score then decide (a.aliasName ≤ b.aliasName) else decide (b.score < a.score)

/-- The part of what was typed that stands for an alias. -/
def queryAlias (query : List Char) : List Char :=
  ((trim query).dropWhile (· == '/')).takeWhile (· != ' ')

/-- The records that reach the threshold, best first, cut off after `limit`. -/
def suggest (spelling : Spelling) (query : String) (records : List Redirect) (limit : Int)
    (threshold : Threshold) : List Suggestion :=
  let aliasName := queryAlias query.toList
  let scored := records.map fun r =>
    (⟨r.aliasName, r.destination, r.score spelling aliasName⟩ : Suggestion)
  slice ((scored.filter fun s => threshold.admits s.score).mergeSort Suggestion.precedes) 0 limit

/-- How many suggestions are made if nothing else is asked for. -/
def defaultLimit : Int := 10

/-- The least score of a suggestion if nothing else is asked for. -/
def defaultThreshold : Threshold := .atLeast 60

end Shortlink
