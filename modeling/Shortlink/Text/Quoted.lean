import Shortlink.Text.PrintableTable

/-!
# Quoted text

A text between quotes, with escapes for what cannot be printed. Single quotes are used unless the
text holds a single quote and no double one.

## Contents

- `hexDigit`, `hexPadded`: numbers in base sixteen.
- `Quote`: the two kinds of quotes and the choice between them.
- `quoted`: the quoted form.
-/

namespace Shortlink.Text

/-! ## Hexadecimal numbers -/

/-- The digits of base sixteen, in lower case. -/
def hexDigit (n : Nat) : Char :=
  if n < 10 then Char.ofNat (48 + n) else Char.ofNat (87 + n)

/-- The last `width` digits of `n` in base sixteen. -/
def hexPadded : Nat → Nat → List Char
  | 0, _ => []
  | width + 1, n => hexPadded width (n / 16) ++ [hexDigit (n % 16)]

/-! ## Quotes -/

/-- The quote that is written around a text. -/
def quoteFor (s : List Char) : Char :=
  if s.contains '\'' && !s.contains '"' then '"' else '\''

/-- One character of a text that stands between `quote`s. -/
def escapeQuoted (quote c : Char) : List Char :=
  if c = quote || c = '\\' then ['\\', c]
  else if c = '\t' then ['\\', 't']
  else if c = '\n' then ['\\', 'n']
  else if c = '\r' then ['\\', 'r']
  else if isPrintable c then [c]
  else if c.toNat < 0x100 then '\\' :: 'x' :: hexPadded 2 c.toNat
  else if c.toNat < 0x10000 then '\\' :: 'u' :: hexPadded 4 c.toNat
  else '\\' :: 'U' :: hexPadded 8 c.toNat

/-- The text between quotes, every other character escaped where it has to be. -/
def quoted (s : List Char) : List Char :=
  let quote := quoteFor s
  quote :: s.flatMap (escapeQuoted quote) ++ [quote]

end Shortlink.Text
