import Shortlink.Text.CaseTable

/-!
# Lower case

Full lower-casing of a text. All letters but two have a partner of their own; a dotted capital I
becomes two characters, and a capital sigma takes its final form at the end of a word.

## Contents

- `isCased`, `isCaseIgnorable`: what counts as a letter and what is passed over.
- `lowerChar`: one character away from any context.
- `lowerCase`: a whole text.
-/

namespace Shortlink.Text

/-! ## Classes of characters -/

/-- A letter with a case. -/
def isCased (c : Char) : Bool :=
  inRanges casedRanges c.toNat

/-- A character that does not end the search for a neighbouring letter. -/
def isCaseIgnorable (c : Char) : Bool :=
  inRanges caseIgnorableRanges c.toNat

/-- The first character of `s` that is not passed over is a letter with a case. -/
def startsCased (s : List Char) : Bool :=
  match s.dropWhile isCaseIgnorable with
  | [] => false
  | c :: _ => isCased c

/-! ## Lower-casing -/

/-- The lower-case form of one character, whatever stands around it. -/
def lowerChar (c : Char) : List Char :=
  if c = 'İ' then ['i', '\u0307']
  else
    match lowerCaseRuns.find? (·.covers c.toNat) with
    | some run => [Char.ofNat (c.toNat + run.shift).toNat]
    | none => [c]

/-- Lower-cases a text of which the part in front ends in a letter just when `afterCased`. -/
def lowerFrom (afterCased : Bool) : List Char → List Char
  | [] => []
  | c :: rest =>
    let here :=
      if c = 'Σ' then
        if afterCased && !startsCased rest then ['ς'] else ['σ']
      else lowerChar c
    here ++ lowerFrom (if isCaseIgnorable c then afterCased else isCased c) rest

/-- The lower-case form of a text. -/
def lowerCase (s : List Char) : List Char :=
  lowerFrom false s

end Shortlink.Text
