import Shortlink.Json.Basic
import Shortlink.Text.Quoted

/-!
# Values in messages

How a value looks in the message of an event: a text as it is, and inside of lists and objects
between quotes.

## Contents

- `realText`: floating-point numbers.
- `quotedTorn`, `quotedValue`: a value with texts between quotes.
- `plainValue`: the same but for a text on its own.
- `asciiOnly`: escapes for all that is not ASCII.
-/

namespace Shortlink.Log

open Text

/-- A floating-point number. -/
def realText : Binary64 → List Char
  | .nan => "nan".toList
  | .infinite negative => (if negative then "-inf" else "inf").toList
  | x => x.text

/-- What is no text, between quotes. -/
def quotedTorn (t : Torn) : List Char :=
  let quote := quoteFor t.text.toList
  let escape : Piece → List Char
    | .char c => escapeQuoted quote c
    | .half h => '\\' :: 'u' :: hexPadded 4 (Half.unit h)
  quote :: t.pieces.flatMap escape ++ [quote]

mutual

/-- A value with texts between quotes. -/
def quotedValue : Json → List Char
  | .null => "None".toList
  | .bool true => "True".toList
  | .bool false => "False".toList
  | .int i => intText i
  | .real x => realText x
  | .str s => quoted s.toList
  | .torn t => quotedTorn t
  | .arr [] => "[]".toList
  | .arr (v :: vs) => '[' :: quotedValue v ++ quotedItems vs ++ [']']
  | .obj [] => ['\x7b', '\x7d']
  | .obj ((k, v) :: fs) =>
    '\x7b' :: quoted k.toList ++ ':' :: ' ' :: quotedValue v ++ quotedFields fs ++ ['\x7d']

/-- Further items, each behind a comma. -/
def quotedItems : List Json → List Char
  | [] => []
  | v :: vs => ',' :: ' ' :: quotedValue v ++ quotedItems vs

/-- Further fields, each behind a comma. -/
def quotedFields : List (String × Json) → List Char
  | [] => []
  | (k, v) :: fs =>
    ',' :: ' ' :: quoted k.toList ++ ':' :: ' ' :: quotedValue v ++ quotedFields fs

end

/-- A value, a text without quotes. -/
def plainValue : Json → List Char
  | .str s => s.toList
  | .torn t => t.text.toList
  | v => quotedValue v

/-- The text with escapes for all characters beyond ASCII. -/
def asciiOnly (s : List Char) : List Char :=
  s.flatMap fun c =>
    if c.toNat < 0x80 then [c]
    else if c.toNat < 0x100 then '\\' :: 'x' :: hexPadded 2 c.toNat
    else if c.toNat < 0x10000 then '\\' :: 'u' :: hexPadded 4 c.toNat
    else '\\' :: 'U' :: hexPadded 8 c.toNat

end Shortlink.Log
