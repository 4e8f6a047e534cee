/-!
# UTF-8

Characters as bytes. Decoding walks over the bytes with the state of the sequence that is under
way; what cannot be part of a character comes out as a gap, one gap for each maximal run of bytes
that starts like a character.

## Contents

- `encodeChar`, `encode`: characters to bytes.
- `Pending`, `lead`: a sequence under way and how it starts.
- `pieces`: the characters and gaps in a list of bytes.
- `decode?`: refuses a text with a gap. `decodeLossy`: shows each gap by U+FFFD.
-/

namespace Shortlink.Text.Utf8

/-! ## Encoding -/

/-- The bytes of one character. -/
def encodeChar (c : Char) : List UInt8 :=
  let n := c.toNat
  if n < 0x80 then [UInt8.ofNat n]
  else if n < 0x800 then [UInt8.ofNat (0xC0 + n / 64), UInt8.ofNat (0x80 + n % 64)]
  else if n < 0x10000 then
    [UInt8.ofNat (0xE0 + n / 4096), UInt8.ofNat (0x80 + n / 64 % 64), UInt8.ofNat (0x80 + n % 64)]
  else
    [UInt8.ofNat (0xF0 + n / 262144), UInt8.ofNat (0x80 + n / 4096 % 64),
      UInt8.ofNat (0x80 + n / 64 % 64), UInt8.ofNat (0x80 + n % 64)]

/-- The bytes of a text. -/
def encode (s : List Char) : List UInt8 :=
  s.flatMap encodeChar

/-! ## Decoding -/

/-- A sequence of which `missing` bytes are still to come, the next one from `low` to `high`;
`value` holds the bits read so far. -/
structure Pending where
  missing : Nat
  low : Nat
  high : Nat
  value : Nat

/-- What a byte at the start of a character does. -/
inductive Lead where
  | whole (c : Char)
  | opens (p : Pending)
  | stray

/-- Sorts the bytes that can start a character; the bounds on the second byte leave out overlong
forms, surrogates and values beyond U+10FFFF. -/
def lead (byte : UInt8) : Lead :=
  let b := byte.toNat
  if b < 0x80 then .whole (Char.ofNat b)
  else if b < 0xC2 then .stray
  else if b < 0xE0 then .opens ⟨1, 0x80, 0xBF, b - 0xC0⟩
  else if b = 0xE0 then .opens ⟨2, 0xA0, 0xBF, 0⟩
  else if b = 0xED then .opens ⟨2, 0x80, 0x9F, 0xD⟩
  else if b < 0xF0 then .opens ⟨2, 0x80, 0xBF, b - 0xE0⟩
  else if b = 0xF0 then .opens ⟨3, 0x90, 0xBF, 0⟩
  else if b < 0xF4 then .opens ⟨3, 0x80, 0xBF, b - 0xF0⟩
  else if b = 0xF4 then .opens ⟨3, 0x80, 0x8F, 4⟩
  else .stray

/-- The characters of the bytes, `none` for a gap, when `pending` is under way. -/
def piecesFrom (pending : Option Pending) : List UInt8 → List (Option Char)
  | [] => if pending.isSome then [none] else []
  | b :: rest =>
    let fresh (gap : List (Option Char)) :=
      match lead b with
      | .whole c => gap ++ some c :: piecesFrom none rest
      | .opens p => gap ++ piecesFrom (some p) rest
      | .stray => gap ++ none :: piecesFrom none rest
    match pending with
    | none => fresh []
    | some p =>
      if p.low ≤ b.toNat ∧ b.toNat ≤ p.high then
        let value := 64 * p.value + b.toNat % 64
        if p.missing ≤ 1 then some (Char.ofNat value) :: piecesFrom none rest
        else piecesFrom (some ⟨p.missing - 1, 0x80, 0xBF, value⟩) rest
      else fresh [none]

/-- The characters of the bytes, `none` for a gap. -/
def pieces (bytes : List UInt8) : List (Option Char) :=
  piecesFrom none bytes

/-- The text of the bytes, if all of them belong to characters. -/
def decode? (bytes : List UInt8) : Option (List Char) :=
  (pieces bytes).mapM id

/-- The text of the bytes, with U+FFFD for each gap. -/
def decodeLossy (bytes : List UInt8) : List Char :=
  (pieces bytes).map (·.getD '\uFFFD')

end Shortlink.Text.Utf8
