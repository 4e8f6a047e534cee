import Shortlink.Binary64

/-!
# Numbers in messages

The forms in which a placeholder may ask for a number: whole numbers in base eight, ten and
sixteen, and floating-point numbers with a number of places, with an exponent, or in whichever of
the two is the shorter for a number of digits.

## Contents

- `baseDigits`: natural numbers in a base.
- `fixedDigits`, `exponentDigits`, `generalDigits`: floating-point numbers.
-/

namespace Shortlink.Log

open Text

/-! ## Whole numbers -/

/-- A digit of a base up to sixteen, in lower case. -/
def baseDigit (n : Nat) : Char :=
  if n < 10 then Char.ofNat (48 + n) else Char.ofNat (87 + n)

/-- The digits of a number in base `base + 2`. -/
def baseDigitsFrom (base n : Nat) : List Char :=
  if n < base + 2 then [baseDigit n]
  else baseDigitsFrom base (n / (base + 2)) ++ [baseDigit (n % (base + 2))]
termination_by n
decreasing_by exact Nat.div_lt_self (by omega) (by omega)

/-- The digits of a number in a base from two to sixteen. -/
def baseDigits (base n : Nat) : List Char :=
  baseDigitsFrom (base - 2) n

/-- Zeros in front up to a least number of digits. -/
def atLeast (count : Nat) (digits : List Char) : List Char :=
  List.replicate (count - digits.length) '0' ++ digits

/-! ## Floating-point numbers

The magnitude is given as a fraction. `keepsPoint` asks for a decimal point also where no digit
follows it. -/

/-- A decimal point and the digits behind it. -/
def pointed (keepsPoint : Bool) (fraction : List Char) : List Char :=
  if fraction.isEmpty && !keepsPoint then [] else '.' :: fraction

/-- A number of places behind the point. -/
def fixedDigits (keepsPoint : Bool) (places num den : Nat) : List Char :=
  let scaled := divNearest (num * Nat.pow 10 places) den
  natText (scaled / Nat.pow 10 places)
    ++ pointed keepsPoint (padded places (scaled % Nat.pow 10 places))

/-- The first `places + 1` digits of a positive magnitude, as a number, and the power of ten of the
first. -/
def leading (places num den : Nat) : Nat × Int :=
  if num = 0 then (0, 0)
  else
    let e := Binary64.decimalPoint num den - 1
    let (un, ud) := powerRatio 10 (e - places)
    let digits := divNearest (num * ud) (den * un)
    if digits = Nat.pow 10 (places + 1) then (Nat.pow 10 places, e + 1) else (digits, e)

/-- A power of ten behind a letter, with a sign and at least two digits. -/
def exponentText (e : Int) : List Char :=
  'e' :: (if e < 0 then '-' else '+') :: atLeast 2 (natText e.natAbs)

/-- One digit before the point, a number of places behind it, and the power of ten. -/
def exponentDigits (keepsPoint : Bool) (places num den : Nat) : List Char :=
  let (digits, e) := leading places num den
  natText (digits / Nat.pow 10 places)
    ++ pointed keepsPoint (padded places (digits % Nat.pow 10 places))
    ++ exponentText e

/-- Drops zeros at the end of what stands behind a point, and the point if nothing is left. -/
def dropZeroPlaces (s : List Char) : List Char :=
  if s.contains '.' then
    match s.reverse.dropWhile (· == '0') with
    | '.' :: whole => whole.reverse
    | rest => rest.reverse
  else s

/-- A number of digits in all, positional from 10⁻⁴ up to as many digits as there are. -/
def generalDigits (keepsZeros : Bool) (count num den : Nat) : List Char :=
  let count := max count 1
  let (digits, e) := leading (count - 1) num den
  let shown (s : List Char) : List Char := if keepsZeros then s else dropZeroPlaces s
  if -4 ≤ e ∧ e < count then
    shown (fixedDigits keepsZeros (count - 1 - e).toNat num den)
  else
    let mantissa := natText (digits / Nat.pow 10 (count - 1))
      ++ pointed keepsZeros (padded (count - 1) (digits % Nat.pow 10 (count - 1)))
    shown mantissa ++ exponentText e

end Shortlink.Log
