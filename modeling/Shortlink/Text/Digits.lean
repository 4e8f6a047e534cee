import Shortlink.Text.Blank

/-!
# Decimal digits and whole numbers

Writing numbers in base ten and reading them back from texts that people and files hold: with
blanks around them, a sign, single underscores between digits, and the decimal digits of any
script.

## Contents

- `digit`, `natText`, `intText`, `padded`: writing.
- `digitValue?`: the value of a decimal digit of any script.
- `natOfDigits`: the number that a list of digit values denotes.
- `readInteger?`: reading.
-/

namespace Shortlink.Text

/-! ## Writing -/

/-- The digit of a value below ten. -/
def digit (n : Nat) : Char :=
  Char.ofNat (48 + n)

/-- The last `width` decimal digits of `n`. -/
def padded : Nat → Nat → List Char
  | 0, _ => []
  | width + 1, n => padded width (n / 10) ++ [digit (n % 10)]

/-- A natural number in base ten. -/
def natText (n : Nat) : List Char :=
  if n < 10 then [digit n] else natText (n / 10) ++ [digit (n % 10)]
termination_by n

/-- A whole number in base ten, with a minus sign if it is negative. -/
def intText (i : Int) : List Char :=
  if i < 0 then '-' :: natText i.natAbs else natText i.natAbs

/-! ## Reading -/

/-- The code points of the zeros from which the decimal digits of each script count upwards. -/
def zeroDigits : List Nat := [
  48, 1632, 1776, 1984, 2406, 2534, 2662, 2790, 2918, 3046, 3174, 3302, 3430, 3558, 3664, 3792,
  3872, 4160, 4240, 6112, 6160, 6470, 6608, 6784, 6800, 6992, 7088, 7232, 7248, 42528, 43216,
  43264, 43472, 43504, 43600, 44016, 65296, 66720, 68912, 69734, 69872, 69942, 70096, 70384,
  70736, 70864, 71248, 71360, 71472, 71904, 72016, 72784, 73040, 73120, 92768, 92864, 93008,
  120782, 120792, 120802, 120812, 120822, 123200, 123632, 125264, 130032]

/-- The value of a decimal digit of any script. -/
def digitValue? (c : Char) : Option Nat :=
  (zeroDigits.find? fun z => z ≤ c.toNat && c.toNat < z + 10).map (c.toNat - ·)

/-- The value of a digit of ASCII. -/
def asciiDigit? (c : Char) : Option Nat :=
  if '0' ≤ c && c ≤ '9' then some (c.toNat - 48) else none

/-- The number whose decimal digits, first one first, are `ds`, after those of `acc`. -/
def natOfDigits (acc : Nat) : List Nat → Nat
  | [] => acc
  | d :: ds => natOfDigits (10 * acc + d) ds

/-- The digits of a text in which single underscores may stand between two digits. -/
def groupedDigits? (value? : Char → Option Nat) : List Char → Option (List Nat)
  | [] => none
  | [c] => (value? c).map ([·])
  | c :: '_' :: rest => do
    let d ← value? c
    return d :: (← groupedDigits? value? rest)
  | c :: rest => do
    let d ← value? c
    return d :: (← groupedDigits? value? rest)

/-- The longest run of digits that a text may hold and still be read as a number. -/
def maxDigits : Nat := 4300

/-- The first number with more digits than that. -/
def numberBound : Nat := Nat.pow 10 maxDigits

/-- The blanks that a number may be padded with: of ASCII only the white space proper. -/
def isPadding (c : Char) : Bool :=
  isBlank c && !(28 ≤ c.toNat && c.toNat ≤ 31)

/-- Splits off a sign; the Boolean tells a minus. -/
def splitSign : List Char → Bool × List Char
  | '-' :: rest => (true, rest)
  | '+' :: rest => (false, rest)
  | s => (false, s)

/-- The whole number that a text denotes, if it denotes one. -/
def readInteger? (s : List Char) : Option Int :=
  let core := ((s.dropWhile isPadding).reverse.dropWhile isPadding).reverse
  let (negative, digits) := splitSign core
  match groupedDigits? digitValue? digits with
  | none => none
  | some ds =>
    if maxDigits < ds.length then none
    else
      let n : Int := natOfDigits 0 ds
      some (if negative then -n else n)

end Shortlink.Text
