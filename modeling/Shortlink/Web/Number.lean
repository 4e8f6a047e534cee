import Shortlink.Binary64
import Shortlink.Text.Digits

/-!
# Numbers in queries

Whole numbers and floating-point numbers as clients write them in queries.

## Contents

- `readWhole`: whole numbers, also with a fraction of zeros.
- `readReal?`: floating-point numbers.
-/

namespace Shortlink.Web

open Text

/-! ## Whole numbers -/

/-- Why a text is no whole number. -/
inductive WholeError where
  | malformed
  | tooLong
deriving DecidableEq, Repr

/-- Drops blanks at both ends. -/
def trimPadding (s : List Char) : List Char :=
  ((s.dropWhile isPadding).reverse.dropWhile isPadding).reverse

/-- What is left of a run of zeros and underscores and what follows it: the last zero is kept if
only a fraction or nothing follows. -/
def dropZeros (last : Char) : List Char → Option (List Char)
  | [] => some [last]
  | c :: rest =>
    if c = '0' ∨ c = '_' then dropZeros c rest
    else if c = '.' then some (last :: c :: rest)
    else if (asciiDigit? c).isSome then some (c :: rest)
    else none

/-- A number without a plus sign and without zeros in front. -/
def dropLeading (s : List Char) : Option (List Char) :=
  let s :=
    match s with
    | '+' :: rest => rest
    | s => s
  match s with
  | '0' :: rest => dropZeros '0' rest
  | '-' :: _ => some s
  | c :: _ => if (asciiDigit? c).isSome then some s else none
  | [] => none

/-- A number without a point that only zeros follow. -/
def dropFraction (s : List Char) : List Char :=
  if ((s.dropWhile (· != '.')).drop 1).all (· == '0') then s.takeWhile (· != '.') else s

/-- The number that digits denote, single underscores between them. -/
def wholeOf? (s : List Char) : Option Int :=
  let (negative, digits) :=
    match s with
    | '-' :: rest => (true, rest)
    | s => (false, s)
  (groupedDigits? asciiDigit? digits).map fun ds =>
    let n : Int := natOfDigits 0 ds
    if negative then -n else n

/-- The whole number that a text denotes. -/
def readWhole (s : List Char) : Except WholeError Int :=
  let trimmed := trimPadding s
  if trimmed.take 2 = ['+', '-'] then .error .malformed
  else
    match dropLeading trimmed with
    | none => .error .malformed
    | some s =>
      let s := dropFraction s
      if maxDigits < (s.filter (· != '_')).length then .error .tooLong
      else
        match wholeOf? s with
        | some n => .ok n
        | none => .error .malformed

/-! ## Floating-point numbers -/

/-- The digits in front of a text and what follows them. -/
def spanDigits (s : List Char) : List Nat × List Char :=
  ((s.takeWhile fun c => (asciiDigit? c).isSome).filterMap asciiDigit?,
    s.dropWhile fun c => (asciiDigit? c).isSome)

/-- The exponent that is all of a text, which may also be empty. -/
def exponentOf? (s : List Char) : Option Int :=
  match s with
  | [] => some 0
  | e :: rest =>
    if e = 'e' ∨ e = 'E' then
      let (negative, digits) := splitSign rest
      match spanDigits digits with
      | ([], _) => none
      | (ds, []) =>
        let n : Int := natOfDigits 0 ds
        some (if negative then -n else n)
      | _ => none
    else none

/-- The number that an unsigned text denotes. -/
def unsignedReal? (negative : Bool) (s : List Char) : Option Binary64 :=
  let lower := s.map Char.toLower
  if lower = "inf".toList ∨ lower = "infinity".toList then some (.infinite negative)
  else if lower = "nan".toList then some .nan
  else
    let (whole, rest) := spanDigits s
    let (places, rest) :=
      match rest with
      | '.' :: rest => spanDigits rest
      | rest => ([], rest)
    if whole.isEmpty && places.isEmpty then none
    else
      (exponentOf? rest).map fun e =>
        Binary64.ofDecimal negative (natOfDigits 0 (whole ++ places)) (e - places.length)

/-- The number that a text denotes, blanks around it dropped. -/
def parseReal? (s : List Char) : Option Binary64 :=
  let (negative, rest) := splitSign s
  unsignedReal? negative rest

/-- Single underscores may stand inside a number that has no blanks around it. -/
def dropUnderscores? (s : List Char) : Option (List Char) :=
  let parts := s.splitOn '_'
  if 2 ≤ parts.length ∧ parts.all (fun p => !p.isEmpty) then some parts.flatten else none

/-- The floating-point number that a text denotes. -/
def readReal? (s : List Char) : Option Binary64 :=
  match parseReal? (trimPadding s) with
  | some x => some x
  | none => (dropUnderscores? s).bind parseReal?

end Shortlink.Web
