import Shortlink.Text.Digits

/-!
# Binary floating-point numbers

Numbers of the 64-bit binary format: a whole significand of at most 53 binary digits times a power
of two. Everything is computed exactly on fractions of natural numbers and rounded once, to the
nearest number of the format and, of two that are equally near, to the one with the even
significand.

## Contents

- `divNearest`: rounding a quotient to a whole number.
- `Binary64.nearest`: rounding a fraction to the format.
- `Binary64`: the numbers, with infinities and the undefined one; `ofRatio`, `ofDecimal`.
- `Binary64.roundRat`: the same rounding on rational numbers.
- `Binary64.shortest`: the fewest decimal digits that read back.
- `Binary64.text`: the written form, positional for moderate sizes.
- `fixedText`: a fixed number of places.
-/

namespace Shortlink

open Text

/-! ## Rounding a quotient -/

/-- The whole number nearest to `num / den`, the even one of two. -/
def divNearest (num den : Nat) : Nat :=
  let quotient := num / den
  let twice := 2 * (num % den)
  if twice < den ∨ (twice = den ∧ quotient % 2 = 0) then quotient else quotient + 1

/-- `base ^ e` as a fraction. -/
def powerRatio (base : Nat) (e : Int) : Nat × Nat :=
  if 0 ≤ e then (Nat.pow base e.toNat, 1) else (1, Nat.pow base (-e).toNat)

/-- A number of the format. A finite one is `± significand * 2 ^ exponent`, with 53 binary digits
or the least exponent. -/
inductive Binary64 where
  | nan
  | infinite (negative : Bool)
  | finite (negative : Bool) (significand : Nat) (exponent : Int)
deriving DecidableEq, Repr

namespace Binary64

/-- The least exponent of two. -/
def minExponent : Int := -1074

/-- The largest exponent of two of a finite number. -/
def maxExponent : Int := 971

/-- The number of binary digits of a significand. -/
def precision : Nat := 53

/-- The power of two whose multiples from `2 ^ 52` to `2 ^ 53` span the positive fraction. -/
def unitExponent (num den : Nat) : Int :=
  let e : Int := (num.log2 : Int) - den.log2 - (precision - 1)
  let (n, d) := powerRatio 2 e
  if num * d < Nat.pow 2 (precision - 1) * (den * n) then e - 1 else e

/-- Significand and exponent of the number nearest to the fraction, were there no largest one. -/
def nearest (num den : Nat) : Nat × Int :=
  if num = 0 then (0, minExponent)
  else
    let e := max (unitExponent num den) minExponent
    let (n, d) := powerRatio 2 e
    let m := divNearest (num * d) (den * n)
    if m = Nat.pow 2 precision then (Nat.pow 2 (precision - 1), e + 1) else (m, e)

/-- The number nearest to a fraction with a sign. -/
def ofRatio (negative : Bool) (num den : Nat) : Binary64 :=
  let (m, e) := nearest num den
  if maxExponent < e then infinite negative else finite negative m e

/-- The number nearest to `± digits * 10 ^ exponent`. Far beyond either end of the format the
answer does not depend on the digits. -/
def ofDecimal (negative : Bool) (digits : Nat) (exponent : Int) : Binary64 :=
  if digits = 0 then finite negative 0 minExponent
  else
    let magnitude := exponent + (natText digits).length
    if 400 < magnitude then infinite negative
    else if magnitude < -400 then finite negative 0 minExponent
    else
      let (n, d) := powerRatio 10 exponent
      ofRatio negative (digits * n) d

/-- The rational number of the format nearest to `q`, were there no largest one. -/
def roundRat (q : Rat) : Rat :=
  let (m, e) := nearest q.num.natAbs q.den
  let (n, d) := powerRatio 2 e
  let magnitude : Rat := mkRat (m * n : Nat) d
  if q < 0 then -magnitude else magnitude

/-- The number nearest to a rational number. -/
def ofRat (q : Rat) : Binary64 :=
  ofRatio (q < 0) q.num.natAbs q.den

/-- The value of a finite number. -/
def toRat? : Binary64 → Option Rat
  | finite negative m e =>
    let (n, d) := powerRatio 2 e
    let magnitude : Rat := mkRat (m * n : Nat) d
    some (if negative then -magnitude else magnitude)
  | _ => none

/-- The whole part of a finite number, rounded towards zero. -/
def truncate? : Binary64 → Option Int
  | finite negative m e =>
    let (n, d) := powerRatio 2 e
    let whole : Int := (m * n / d : Nat)
    some (if negative then -whole else whole)
  | _ => none

/-- The number is zero, of either sign. -/
def isZero : Binary64 → Bool
  | finite _ 0 _ => true
  | _ => false

/-! ## Fewest digits -/

/-- The power of ten just above a positive fraction that is not tiny beyond all measure. -/
def decimalPoint (num den : Nat) : Int :=
  (natText (num * Nat.pow 10 400 / den)).length - 400

/-- With `count` digits, the decimal nearest to `m * 2 ^ e` of those that round to it: its digits
and its power of ten. -/
def withDigits? (m : Nat) (e : Int) (count : Nat) : Option (Nat × Int) :=
  let (n, d) := powerRatio 2 e
  let unit := decimalPoint (m * n) d - count
  let (un, ud) := powerRatio 10 unit
  let num := m * n * ud
  let den := d * un
  let low := num / den
  let readsBack (digits : Nat) : Bool := ofDecimal false digits unit = finite false m e
  let rest := num % den
  let lowFirst : Bool := 2 * rest < den || (2 * rest == den && low % 2 == 0)
  let (first, second) := if lowFirst then (low, low + 1) else (low + 1, low)
  if readsBack first then some (first, unit)
  else if readsBack second then some (second, unit)
  else none

/-- The shortest decimal that rounds to `m * 2 ^ e`; seventeen digits always do. -/
def shortest (m : Nat) (e : Int) : Nat × Int :=
  ((List.range 17).findSome? fun k => withDigits? m e (k + 1)).getD (m, 0)

/-! ## Written form -/

/-- Drops zeros at the end. -/
def dropTrailingZeros (s : List Char) : List Char :=
  (s.reverse.dropWhile (· == '0')).reverse

/-- Digits with the point after the first `point` of them, between 10⁻⁴ and 10¹⁶ written out and
otherwise with an exponent of at least two digits. -/
def layOut (digits : List Char) (point : Int) : List Char :=
  if -4 < point ∧ point ≤ 16 then
    if point ≤ 0 then '0' :: '.' :: List.replicate (-point).toNat '0' ++ digits
    else
      let whole := digits.take point.toNat
      let fraction := digits.drop point.toNat
      whole ++ List.replicate (point.toNat - whole.length) '0'
        ++ '.' :: (if fraction.isEmpty then ['0'] else fraction)
  else
    let mantissa :=
      match digits with
      | [] => ['0']
      | [d] => [d]
      | d :: ds => d :: '.' :: ds
    let e := point - 1
    let places := natText e.natAbs
    mantissa ++ ['e', if e < 0 then '-' else '+'] ++ List.replicate (2 - places.length) '0'
      ++ places

/-- The written form of a number. -/
def text : Binary64 → List Char
  | nan => "NaN".toList
  | infinite negative => (if negative then "-Infinity" else "Infinity").toList
  | finite negative m e =>
    let magnitude :=
      if m = 0 then "0.0".toList
      else
        let (digits, unit) := shortest m e
        let ds := natText digits
        layOut (dropTrailingZeros ds) (ds.length + unit)
    if negative then '-' :: magnitude else magnitude

end Binary64

/-! ## Fixed places -/

/-- A rational number with the given number of decimal places, the even neighbour of two. -/
def fixedText (places : Nat) (q : Rat) : List Char :=
  let scaled := divNearest (q.num.natAbs * Nat.pow 10 places) q.den
  (if q < 0 then ['-'] else []) ++ natText (scaled / Nat.pow 10 places)
    ++ '.' :: padded places (scaled % Nat.pow 10 places)

end Shortlink
