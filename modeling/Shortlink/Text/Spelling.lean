import Shortlink.Text.SpellingTable

/-!
# Spelling a text in ASCII

Each character is replaced, on its own, by an ASCII text that sounds or looks like it. Which text
that is differs from one table to the other, so a spelling is handed to all that compares texts. The
one given here covers the letters of some alphabets; it leaves ASCII as it is, and a character that
it does not know is dropped.

## Contents

- `Spelling`, `spell`: a table of spellings, and a text spelled by it.
- `hangulSpelling`: syllables are spelled from their letters.
- `styledLetter?`: letters and digits that differ from those of ASCII only in style.
- `spellChar`: any character.
-/

namespace Shortlink.Text

/-- What each character is spelled by, on its own. -/
abbrev Spelling := Char → List Char

/-- The spelling of a text. -/
def spell (spelling : Spelling) (s : List Char) : List Char :=
  s.flatMap spelling

/-! ## Hangul -/

/-- The consonants that open a syllable. -/
def hangulInitials : List String := [
  "g", "gg", "n", "d", "dd", "r", "m", "b", "bb", "s", "ss", "", "j", "jj", "c", "k", "t", "p",
  "h"]

/-- The vowels of a syllable. -/
def hangulVowels : List String := [
  "a", "ae", "ya", "yae", "eo", "e", "yeo", "ye", "o", "wa", "wae", "oe", "yo", "u", "weo", "we",
  "wi", "yu", "eu", "yi", "i"]

/-- The consonants that close a syllable. -/
def hangulFinals : List String := [
  "", "g", "gg", "gs", "n", "nj", "nh", "d", "l", "lg", "lm", "lb", "ls", "lt", "lp", "lh", "m",
  "b", "bs", "s", "ss", "ng", "j", "c", "k", "t", "p", "h"]

/-- The spelling of the syllable with the given index among all syllables. -/
def hangulSpelling (index : Nat) : String :=
  hangulInitials.getD (index / 588) "" ++ hangulVowels.getD (index / 28 % 21) ""
    ++ hangulFinals.getD (index % 28) ""

/-! ## Styled letters -/

/-- The ASCII character of which the code point is a wide or mathematical form. -/
def styledLetter? (n : Nat) : Option Char :=
  if 0xFF01 ≤ n ∧ n ≤ 0xFF5E then some (Char.ofNat (n - 0xFEE0))
  else if 0x1D400 ≤ n ∧ n < 0x1D6A4 then
    let k := (n - 0x1D400) % 52
    some (Char.ofNat (if k < 26 then 65 + k else 71 + k))
  else if 0x1D7CE ≤ n ∧ n < 0x1D800 then some (Char.ofNat (48 + (n - 0x1D7CE) % 10))
  else none

/-! ## Any character -/

/-- A spelling by sound and look. -/
def spellChar : Spelling := fun c =>
  let n := c.toNat
  if n < 0x80 then [c]
  else if 0xAC00 ≤ n ∧ n < 0xAC00 + 11172 then (hangulSpelling (n - 0xAC00)).toList
  else
    match styledLetter? n with
    | some a => [a]
    | none =>
      match spellingBlocks.findSome? (·.spelling? n) with
      | some s => s.toList
      | none => ((hanSpellings.lookup c).getD "").toList

end Shortlink.Text
