import Shortlink.Text.Loose
import Shortlink.Text.Utf8

/-!
# Encodings

The bytes of a value are those of a text in UTF-8, UTF-16 or UTF-32. A mark in front tells in which.
Where there is none, the zeros among the first bytes tell, since a value begins with two characters
of ASCII or is none. A text has no halves of pairs that stand alone, in no encoding.

## Contents

- `ByteOrder`, `pairUp?`: two digits as one.
- `Encoding`, `Encoding.decode?`: the text of bytes in an encoding.
- `marks`, `unmarked`; `decodeAny?`: the text of bytes in the encoding that they tell.
-/

namespace Shortlink.Text

/-- What comes first, the part that counts more or the one that counts less. -/
inductive ByteOrder where
  | big
  | little

/-- Takes digits two at a time, each pair for one digit. -/
def pairUp? (order : ByteOrder) (base : Nat) : List Nat → Option (List Nat)
  | [] => some []
  | [_] => none
  | a :: b :: rest =>
    let digit := match order with
      | .big => base * a + b
      | .little => a + base * b
    (pairUp? order base rest).map (digit :: ·)

/-- How a text is written in bytes. -/
inductive Encoding where
  | utf8
  | utf16 (order : ByteOrder)
  | utf32 (order : ByteOrder)

/-- The text of bytes in the encoding. -/
def Encoding.decode? (bytes : List UInt8) : Encoding → Option (List Char)
  | utf8 => Utf8.decode? bytes
  | utf16 order => do
    let units ← pairUp? order 0x100 (bytes.map UInt8.toNat)
    match Loose.ofPieces (units.map Piece.ofUnit) with
    | .whole s => some s.toList
    | .torn _ => none
  | utf32 order => do
    let units ← pairUp? order 0x100 (bytes.map UInt8.toNat)
    let numbers ← pairUp? order 0x10000 units
    numbers.mapM fun n => if n.isValidChar then some (Char.ofNat n) else none

/-- The marks that tell an encoding. Where one begins another, the longer one comes first. -/
def marks : List (List UInt8 × Encoding) :=
  [([0x00, 0x00, 0xFE, 0xFF], .utf32 .big), ([0xFF, 0xFE, 0x00, 0x00], .utf32 .little),
    ([0xFE, 0xFF], .utf16 .big), ([0xFF, 0xFE], .utf16 .little), ([0xEF, 0xBB, 0xBF], .utf8)]

/-- The encoding that the first bytes of a value tell, if they are not those of a mark. -/
def unmarked : List UInt8 → Encoding
  | a :: b :: c :: d :: _ =>
    if a = 0 then if b = 0 then .utf32 .big else .utf16 .big
    else if b = 0 then if c = 0 ∧ d = 0 then .utf32 .little else .utf16 .little
    else .utf8
  | [a, b] => if a = 0 then .utf16 .big else if b = 0 then .utf16 .little else .utf8
  | _ => .utf8

/-- The text of the bytes of a value. -/
def decodeAny? (bytes : List UInt8) : Option (List Char) :=
  match marks.findSome? fun (mark, e) => (mark.isPrefixOf? bytes).map (·, e) with
  | some (rest, e) => e.decode? rest
  | none => (unmarked bytes).decode? bytes

/-- Without a mark in front, a smile in the smaller order of UTF-16. -/
example : decodeAny? [0x22, 0x00, 0x3D, 0xD8, 0x00, 0xDE, 0x22, 0x00] = some ['"', '😀', '"'] := by
  decide +kernel

end Shortlink.Text
