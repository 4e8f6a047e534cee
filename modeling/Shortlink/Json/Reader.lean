import Shortlink.Json.Basic

/-!
# Reading JSON

The reader accepts the grammar of the format and the three names of numbers that are not finite.
If an object names a field twice, the later value counts. A fault is located by the offset of the
character at which the reader gives up.

## Contents

- `Json.ReadError`: why a text is refused.
- `Json.stringBody`: strings after their opening quote.
- `Json.number?`: numbers.
- `Json.readValue`, `Json.readItems`, `Json.readFields`: values, with fuel.
- `Json.read`: a whole text.
-/

namespace Shortlink.Json

open Text

/-! ## Errors -/

/-- Why a text cannot be read. -/
inductive ReadError where
  /-- The text leaves the grammar at the given offset. -/
  | malformed (offset : Nat)
  /-- A whole number has more digits than may be read. -/
  | longInteger
deriving DecidableEq, Repr

/-- A fault while reading, located by what is left of the text at that point. -/
inductive Fault where
  | at (rest : List Char)
  | longInteger

/-- The error that a fault is in a text of the given length. -/
def Fault.error (length : Nat) : Fault → ReadError
  | .at rest => .malformed (length - rest.length)
  | .longInteger => .longInteger

/-! ## Blanks -/

/-- The blanks of the format. -/
def isSpace (c : Char) : Bool :=
  c == ' ' || c == '\t' || c == '\n' || c == '\r'

/-- Drops blanks in front. -/
def skipSpace (s : List Char) : List Char :=
  s.dropWhile isSpace

/-! ## Strings -/

/-- The value of a hexadecimal digit. -/
def hexValue? (c : Char) : Option Nat :=
  let n := c.toNat
  if 48 ≤ n ∧ n ≤ 57 then some (n - 48)
  else if 65 ≤ n ∧ n ≤ 70 then some (n - 55)
  else if 97 ≤ n ∧ n ≤ 102 then some (n - 87)
  else none

/-- The UTF-16 unit that four hexadecimal digits denote. -/
def unit? (a b c d : Char) : Option Nat := do
  let a ← hexValue? a
  let b ← hexValue? b
  let c ← hexValue? c
  let d ← hexValue? d
  return ((a * 16 + b) * 16 + c) * 16 + d

/-- The character that a letter after a backslash denotes. -/
def shortEscape? (c : Char) : Option Char :=
  if c = '"' || c = '\\' || c = '/' then some c
  else if c = 'b' then some '\x08'
  else if c = 'f' then some '\x0c'
  else if c = 'n' then some '\n'
  else if c = 'r' then some '\r'
  else if c = 't' then some '\t'
  else none

/-- Puts a piece in front of a string that was read. -/
def consPiece (p : Piece) :
    Except Fault (List Piece × List Char) → Except Fault (List Piece × List Char)
  | .ok (s, rest) => .ok (p :: s, rest)
  | .error e => .error e

/-- The pieces of a string up to its closing quote, and what follows it. `whole` is the text from
the opening quote on. -/
def stringBody (whole : List Char) : List Char → Except Fault (List Piece × List Char)
  | [] => .error (.at whole)
  | c :: rest =>
    if c = '"' then .ok ([], rest)
    else if c = '\\' then
      match rest with
      | [] => .error (.at whole)
      | e :: rest =>
        if e = 'u' then
          match rest with
          | h₁ :: h₂ :: h₃ :: h₄ :: rest =>
            if rest.isEmpty then .error (.at (e :: h₁ :: h₂ :: h₃ :: h₄ :: rest))
            else
              match unit? h₁ h₂ h₃ h₄ with
              | none => .error (.at (e :: h₁ :: h₂ :: h₃ :: h₄ :: rest))
              | some n => consPiece (.ofUnit n) (stringBody whole rest)
          | rest => .error (.at (e :: rest))
        else
          match shortEscape? e with
          | some d => consPiece (.char d) (stringBody whole rest)
          | none => .error (.at (c :: e :: rest))
    else if c.toNat < 0x20 then .error (.at (c :: rest))
    else consPiece (.char c) (stringBody whole rest)

/-! ## Numbers -/

/-- A digit of ASCII. -/
def isDigit (c : Char) : Bool :=
  '0' ≤ c && c ≤ '9'

/-- The number that a run of digits denotes. -/
def digitsValue (ds : List Char) : Nat :=
  natOfDigits 0 (ds.map fun c => c.toNat - 48)

/-- Splits off the digits in front. -/
def spanDigits (s : List Char) : List Char × List Char :=
  (s.takeWhile isDigit, s.dropWhile isDigit)

/-- The digits after a point, if there is one with a digit behind it. -/
def fraction : List Char → List Char × List Char
  | '.' :: d :: rest => if isDigit d then spanDigits (d :: rest) else ([], '.' :: d :: rest)
  | s => ([], s)

/-- The power of ten after an exponent mark, if there is one with a digit behind it. -/
def exponent? : List Char → Option (Int × List Char)
  | e :: rest =>
    if e = 'e' || e = 'E' then
      let (negative, digits) := splitSign rest
      let (ds, rest) := spanDigits digits
      if ds.isEmpty then none
      else some (if negative then -(digitsValue ds : Int) else digitsValue ds, rest)
    else none
  | [] => none

/-- The number in front of a text: whole, unless it has a fraction or an exponent. -/
def number? (s : List Char) : Option (Except Fault (Json × List Char)) :=
  let (negative, unsigned) :=
    match s with
    | '-' :: rest => (true, rest)
    | s => (false, s)
  let (whole, rest) :=
    match unsigned with
    | '0' :: rest => (['0'], rest)
    | s => spanDigits s
  if whole.isEmpty then none
  else
    let (places, rest) := fraction rest
    match places, exponent? rest with
    | [], none =>
      if maxDigits < whole.length then some (.error .longInteger)
      else
        let n : Int := digitsValue whole
        some (.ok (.int (if negative then -n else n), rest))
    | _, power =>
      let (e, rest) := power.getD (0, rest)
      let x := Binary64.ofDecimal negative (digitsValue (whole ++ places)) (e - places.length)
      some (.ok (.real x, rest))

/-! ## Values -/

/-- The values that are written by a name. -/
def names : List (List Char × Json) := [
  ("null".toList, .null), ("true".toList, .bool true), ("false".toList, .bool false),
  ("NaN".toList, .real .nan), ("Infinity".toList, .real (.infinite false)),
  ("-Infinity".toList, .real (.infinite true))]

/-- The named value in front of a text. -/
def name? (s : List Char) : Option (Json × List Char) :=
  names.findSome? fun (word, value) => (word.isPrefixOf? s).map fun rest => (value, rest)

mutual

/-- The value in front of a text that does not start with a blank, and what follows it. -/
def readValue : Nat → List Char → Except Fault (Json × List Char)
  | 0, s => .error (.at s)
  | fuel + 1, s =>
    match s with
    | '"' :: rest => do
      let (body, rest) ← stringBody s rest
      return (.ofLoose (.ofPieces body), rest)
    | '[' :: rest =>
      match skipSpace rest with
      | ']' :: rest => .ok (.arr [], rest)
      | rest => do
        let (items, rest) ← readItems fuel rest
        return (.arr items, rest)
    | '{' :: rest =>
      match skipSpace rest with
      | '}' :: rest => .ok (.obj [], rest)
      | rest => do
        let (fields, rest) ← readFields fuel [] rest
        return (.obj fields, rest)
    | s =>
      match name? s with
      | some found => .ok found
      | none => (number? s).getD (.error (.at s))

/-- The items up to a closing bracket. -/
def readItems : Nat → List Char → Except Fault (List Json × List Char)
  | 0, s => .error (.at s)
  | fuel + 1, s => do
    let (item, rest) ← readValue fuel s
    match skipSpace rest with
    | ']' :: rest => return ([item], rest)
    | ',' :: rest => do
      let (items, rest) ← readItems fuel (skipSpace rest)
      return (item :: items, rest)
    | rest => .error (.at rest)

/-- The fields up to a closing brace, added to those that came before. -/
def readFields : Nat → List (String × Json) → List Char →
    Except Fault (List (String × Json) × List Char)
  | 0, _, s => .error (.at s)
  | fuel + 1, before, s =>
    match s with
    | '"' :: rest => do
      let (name, rest) ← stringBody s rest
      match skipSpace rest with
      | ':' :: rest => do
        let (value, rest) ← readValue fuel (skipSpace rest)
        let fields := setField (Loose.ofPieces name).text value before
        match skipSpace rest with
        | '}' :: rest => return (fields, rest)
        | ',' :: rest => readFields fuel fields (skipSpace rest)
        | rest => .error (.at rest)
      | rest => .error (.at rest)
    | s => .error (.at s)

end

/-- Reads a whole text: one value with blanks around it. -/
def readChars (s : List Char) : Except ReadError Json :=
  if s.head? = some '\uFEFF' then .error (.malformed 0)
  else
    match readValue (2 * s.length + 2) (skipSpace s) with
    | .error fault => .error (fault.error s.length)
    | .ok (value, rest) =>
      match skipSpace rest with
      | [] => .ok value
      | rest => .error (.malformed (s.length - rest.length))

/-- Reads a whole text. -/
def read (text : String) : Except ReadError Json :=
  readChars text.toList

end Shortlink.Json
