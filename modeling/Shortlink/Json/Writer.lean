import Shortlink.Json.Basic
import Shortlink.Text.Quoted

/-!
# Writing JSON

Two layouts: everything on one line, or each item on a line of its own behind two spaces for each
level. Strings hold only printable ASCII; every other character is written by escapes of its
UTF-16 units, and a half of one by the escape of its unit.

## Contents

- `Json.escapeChar`, `Json.escapePiece`; `Json.stringText`, `Json.tornText`: strings.
- `Json.line`: the layout on one line.
- `Json.indented`: the layout on many lines.
-/

namespace Shortlink.Json

open Text

/-! ## Strings -/

/-- The escape of one UTF-16 unit. -/
def unitEscape (n : Nat) : List Char :=
  '\\' :: 'u' :: hexPadded 4 n

/-- One character inside a string. -/
def escapeChar (c : Char) : List Char :=
  if c = '"' then ['\\', '"']
  else if c = '\\' then ['\\', '\\']
  else if c = '\n' then ['\\', 'n']
  else if c = '\r' then ['\\', 'r']
  else if c = '\t' then ['\\', 't']
  else if c = '\x0c' then ['\\', 'f']
  else if c = '\x08' then ['\\', 'b']
  else if 0x20 ≤ c.toNat ∧ c.toNat < 0x7F then [c]
  else if c.toNat < 0x10000 then unitEscape c.toNat
  else
    let n := c.toNat - 0x10000
    unitEscape (0xD800 + n / 0x400) ++ unitEscape (0xDC00 + n % 0x400)

/-- One piece inside a string. -/
def escapePiece : Piece → List Char
  | .char c => escapeChar c
  | .half h => unitEscape (Half.unit h)

/-- A string between its quotes. -/
def stringText (s : List Char) : List Char :=
  '"' :: s.flatMap escapeChar ++ ['"']

/-- What is no text, written as a string between its quotes. -/
def tornText (t : Torn) : List Char :=
  '"' :: t.pieces.flatMap escapePiece ++ ['"']

/-! ## On one line -/

mutual

/-- A value on one line. -/
def lineChars : Json → List Char
  | null => "null".toList
  | bool true => "true".toList
  | bool false => "false".toList
  | int i => intText i
  | real x => x.text
  | str s => stringText s.toList
  | torn t => tornText t
  | arr [] => "[]".toList
  | arr (v :: vs) => '[' :: lineChars v ++ lineItems vs ++ [']']
  | obj [] => ['{', '}']
  | obj ((k, v) :: fs) =>
    '{' :: stringText k.toList ++ ':' :: ' ' :: lineChars v ++ lineFields fs ++ ['}']

/-- Further items, each behind a comma. -/
def lineItems : List Json → List Char
  | [] => []
  | v :: vs => ',' :: ' ' :: lineChars v ++ lineItems vs

/-- Further fields, each behind a comma. -/
def lineFields : List (String × Json) → List Char
  | [] => []
  | (k, v) :: fs =>
    ',' :: ' ' :: stringText k.toList ++ ':' :: ' ' :: lineChars v ++ lineFields fs

end

/-- A value on one line, as a text. -/
def line (v : Json) : String :=
  String.ofList (lineChars v)

/-! ## On many lines -/

/-- The start of a line at the given depth. -/
def newline (depth : Nat) : List Char :=
  '\n' :: List.replicate (2 * depth) ' '

mutual

/-- A value whose items stand at the depth after `depth`. -/
def indentedChars (depth : Nat) : Json → List Char
  | null => "null".toList
  | bool true => "true".toList
  | bool false => "false".toList
  | int i => intText i
  | real x => x.text
  | str s => stringText s.toList
  | torn t => tornText t
  | arr [] => "[]".toList
  | arr (v :: vs) =>
    '[' :: newline (depth + 1) ++ indentedChars (depth + 1) v ++ indentedItems (depth + 1) vs
      ++ newline depth ++ [']']
  | obj [] => ['{', '}']
  | obj ((k, v) :: fs) =>
    '{' :: newline (depth + 1) ++ stringText k.toList ++ ':' :: ' '
      :: indentedChars (depth + 1) v ++ indentedFields (depth + 1) fs ++ newline depth ++ ['}']

/-- Further items, each behind a comma and on its own line. -/
def indentedItems (depth : Nat) : List Json → List Char
  | [] => []
  | v :: vs => ',' :: newline depth ++ indentedChars depth v ++ indentedItems depth vs

/-- Further fields, each behind a comma and on its own line. -/
def indentedFields (depth : Nat) : List (String × Json) → List Char
  | [] => []
  | (k, v) :: fs =>
    ',' :: newline depth ++ stringText k.toList ++ ':' :: ' ' :: indentedChars depth v
      ++ indentedFields depth fs

end

/-- A value on many lines, without a line end after the last. -/
def indented (v : Json) : String :=
  String.ofList (indentedChars 0 v)

end Shortlink.Json
