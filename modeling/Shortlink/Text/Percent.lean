import Shortlink.Text.Utf8

/-!
# Percent escapes

A byte may be written as a percent sign and two hexadecimal digits. A percent sign that is not
followed by two such digits stands for itself.

## Contents

- `hexValue?`, `upperHexDigit`: hexadecimal digits.
- `unescape`: the bytes that a text stands for.
- `decode`: the text that those bytes spell, or the text itself if they spell none.
- `decodeLossy`: the same with U+FFFD for each gap.
- `isUnreserved`, `encode`: escaping what is not in a safe class.
-/

namespace Shortlink.Text.Percent

/-! ## Hexadecimal digits -/

/-- The value of a hexadecimal digit in either case. -/
def hexValue? (c : Char) : Option Nat :=
  let n := c.toNat
  if 48 ≤ n ∧ n ≤ 57 then some (n - 48)
  else if 65 ≤ n ∧ n ≤ 70 then some (n - 55)
  else if 97 ≤ n ∧ n ≤ 102 then some (n - 87)
  else none

/-- The digits of base sixteen, in upper case. -/
def upperHexDigit (n : Nat) : Char :=
  if n < 10 then Char.ofNat (48 + n) else Char.ofNat (55 + n)

/-- The escape of a byte. -/
def escape (b : UInt8) : List Char :=
  ['%', upperHexDigit (b.toNat / 16), upperHexDigit (b.toNat % 16)]

/-- The byte that two hexadecimal digits denote. -/
def byte? (high low : Char) : Option UInt8 :=
  match hexValue? high, hexValue? low with
  | some h, some l => some (UInt8.ofNat (16 * h + l))
  | _, _ => none

/-! ## Decoding -/

/-- The bytes that a text stands for: of an escape the byte it names, of any other character its
UTF-8 form. -/
def unescape : List Char → List UInt8
  | '%' :: high :: low :: rest =>
    match byte? high low with
    | some b => b :: unescape rest
    | none => Utf8.encodeChar '%' ++ unescape (high :: low :: rest)
  | c :: rest => Utf8.encodeChar c ++ unescape rest
  | [] => []

/-- The text with its escapes resolved; if the bytes are no UTF-8, the text as it stands. -/
def decode (s : List Char) : List Char :=
  (Utf8.decode? (unescape s)).getD s

/-- The text with its escapes resolved and U+FFFD in the place of what is no UTF-8. -/
def decodeLossy (s : List Char) : List Char :=
  Utf8.decodeLossy (unescape s)

/-! ## Encoding -/

/-- The characters that are never escaped. -/
def isUnreserved (c : Char) : Bool :=
  c.isAlphanum || c == '_' || c == '.' || c == '-' || c == '~'

/-- One character, escaped byte by byte unless it is safe. -/
def encodeChar (safe : Char → Bool) (c : Char) : List Char :=
  if c.toNat < 0x80 && safe c then [c] else (Utf8.encodeChar c).flatMap escape

/-- The text with every character escaped that is not safe. -/
def encode (safe : Char → Bool) (s : List Char) : List Char :=
  s.flatMap (encodeChar safe)

/-- The form of a value in a query: unreserved characters as they are, a space as a plus sign. -/
def encodeForm (s : List Char) : List Char :=
  s.flatMap fun c => if c == ' ' then ['+'] else encodeChar isUnreserved c

end Shortlink.Text.Percent
