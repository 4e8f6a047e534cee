import Shortlink.Log.Number
import Shortlink.Log.Value

/-!
# Messages with placeholders

The text of an event is written with placeholders, which its arguments are filled into. A
placeholder is a percent sign and a letter that names the form in which the argument is wanted.
Between the two may stand the name of a field in round brackets, flags, a width and a precision.
Two percent signs stand for one. Without arguments the text is taken as it stands.

## Contents

- `FillError`: why a message cannot be filled.
- `Supply`: the arguments that are left.
- `Layout`: flags, width and precision.
- `Piece`, `convert`: an argument in the form that a letter names.
- `fill`: a text with its placeholders filled.
-/

namespace Shortlink.Log

open Text

/-- Why a message cannot be filled. -/
inductive FillError where
  /-- There are fewer arguments than placeholders. -/
  | tooFew
  /-- There are more arguments than placeholders. -/
  | tooMany
  /-- A field is named, but the arguments have no names. -/
  | noFields
  /-- There is no field of the name. -/
  | unknownField (name : String)
  /-- The argument is of a kind that the form is not for. -/
  | wrongKind
  /-- The text ends within a placeholder. -/
  | incomplete
  /-- No form has the letter. -/
  | unknownForm (letter : Char)
  /-- The width or the precision has no bound worth the name. -/
  | hugeSize
  /-- A number that is undefined is wanted as a whole number. -/
  | undefinedNumber
  /-- A number leaves the range of the form. -/
  | beyondRange
deriving DecidableEq, Repr

/-! ## Arguments -/

/-- The arguments that are left: those of a list, or the fields of an object with the one that is
in turn. -/
inductive Supply where
  | list (left : List Json)
  | fields (all : List (String × Json)) (turn : Option Json)

namespace Supply

/-- The supply of the arguments of an event. An object that is the only argument gives its
fields. -/
def ofArguments : List Json → Supply
  | [.obj (f :: fs)] => fields (f :: fs) (some (.obj (f :: fs)))
  | vs => list vs

/-- Takes the next argument. -/
def next : Supply → Except FillError (Json × Supply)
  | list (v :: vs) => .ok (v, list vs)
  | fields all (some v) => .ok (v, fields all none)
  | _ => .error .tooFew

/-- Makes a field the one in turn. -/
def select (name : List Char) : Supply → Except FillError Supply
  | fields all _ =>
    match Json.lookup? (String.ofList name) all with
    | some v => .ok (fields all (some v))
    | none => .error (.unknownField (String.ofList name))
  | list _ => .error .noFields

/-- No argument of a list is left. -/
def isUsedUp : Supply → Bool
  | list vs => vs.isEmpty
  | fields _ _ => true

end Supply

/-! ## Layout -/

/-- How the text of an argument is laid out. -/
structure Layout where
  left : Bool := false
  plus : Bool := false
  space : Bool := false
  alternate : Bool := false
  zero : Bool := false
  width : Nat := 0
  precision : Option Nat := none

/-- The layout with a flag, if the character is one. -/
def Layout.flag? (l : Layout) : Char → Option Layout
  | '-' => some { l with left := true }
  | '+' => some { l with plus := true }
  | ' ' => some { l with space := true }
  | '#' => some { l with alternate := true }
  | '0' => some { l with zero := true }
  | _ => none

/-- The flags in front of a text, and the text behind them. -/
def Layout.flags (l : Layout) : List Char → Layout × List Char
  | [] => (l, [])
  | c :: rest =>
    match l.flag? c with
    | some l => l.flags rest
    | none => (l, c :: rest)

/-- The name of a field up to the bracket that closes it; brackets inside have to match. -/
def fieldName? : Nat → List Char → Option (List Char × List Char)
  | _, [] => none
  | depth, '(' :: rest => (fieldName? (depth + 1) rest).map fun (n, after) => ('(' :: n, after)
  | 0, ')' :: rest => some ([], rest)
  | depth + 1, ')' :: rest => (fieldName? depth rest).map fun (n, after) => (')' :: n, after)
  | depth, c :: rest => (fieldName? depth rest).map fun (n, after) => (c :: n, after)

/-- A size that is written out, or taken from an argument if a star stands for it. The sizes that
are written out stay below `bound`. -/
def size? (bound : Nat) (s : List Char) (supply : Supply) :
    Except FillError (Option Int × List Char × Supply) :=
  match s with
  | '*' :: rest => do
    let (v, supply) ← supply.next
    let n ←
      match v with
      | .int i => .ok i
      | .bool b => .ok (if b then 1 else 0)
      | _ => .error .wrongKind
    if bound ≤ n.natAbs then .error .beyondRange else .ok (some n, rest, supply)
  | _ =>
    let (digits, rest) := s.span fun c => (asciiDigit? c).isSome
    if digits.isEmpty then .ok (none, s, supply)
    else
      let n := natOfDigits 0 (digits.filterMap asciiDigit?)
      if bound ≤ n then .error .hugeSize else .ok (some n, rest, supply)

/-- Sizes of fields stay below this bound. -/
def widthBound : Nat := Nat.pow 2 63

/-- Precisions stay below this bound. -/
def precisionBound : Nat := Nat.pow 2 31

/-- The precision behind a point, if there is a point. -/
def precision? (s : List Char) (supply : Supply) :
    Except FillError (Option Nat × List Char × Supply) :=
  match s with
  | '.' :: rest => do
    let (n, rest, supply) ← size? precisionBound rest supply
    return (some (n.getD 0).toNat, rest, supply)
  | _ => .ok (none, s, supply)

/-! ## Forms -/

/-- The text of an argument: signs and prefixes of a number are kept apart from its digits. -/
structure Piece where
  isNumber : Bool := false
  sign : List Char := []
  lead : List Char := []
  body : List Char

/-- Lays a text out in a field. -/
def Layout.place (l : Layout) (p : Piece) : List Char :=
  let text := p.sign ++ p.lead ++ p.body
  let gap := l.width - text.length
  if l.left then text ++ List.replicate gap ' '
  else if l.zero && p.isNumber then p.sign ++ p.lead ++ List.replicate gap '0' ++ p.body
  else List.replicate gap ' ' ++ text

/-- The sign of a number; the flags say how a missing minus is shown. -/
def Layout.sign (l : Layout) (negative : Bool) : List Char :=
  if negative then ['-'] else if l.plus then ['+'] else if l.space then [' '] else []

/-- The text in capitals of ASCII. -/
def capitals (s : List Char) : List Char :=
  s.map Char.toUpper

/-- A text, cut to the precision. -/
def Layout.string (l : Layout) (s : List Char) : Piece where
  body :=
    match l.precision with
    | some n => s.take n
    | none => s

/-- A whole number in a base. -/
def Layout.whole (l : Layout) (letter : Char) (i : Int) : Piece :=
  let (base, mark) :=
    if letter = 'o' then (8, ['0', 'o'])
    else if letter = 'x' ∨ letter = 'X' then (16, ['0', 'x'])
    else (10, [])
  let digits := atLeast (l.precision.getD 0) (baseDigits base i.natAbs)
  let case (s : List Char) : List Char := if letter = 'X' then capitals s else s
  { isNumber := true
    sign := l.sign (i < 0)
    lead := if l.alternate then case mark else []
    body := case digits }

/-- A floating-point number. -/
def Layout.real (l : Layout) (letter : Char) (x : Binary64) : Piece :=
  let places := l.precision.getD 6
  let case (s : List Char) : List Char := if letter.isUpper then capitals s else s
  match x with
  | .nan => { isNumber := true, sign := l.sign false, body := case "nan".toList }
  | .infinite negative =>
    { isNumber := true, sign := l.sign negative, body := case "inf".toList }
  | .finite negative m e =>
    let (n, d) := powerRatio 2 e
    let digits :=
      match letter.toLower with
      | 'f' => fixedDigits l.alternate places (m * n) d
      | 'e' => exponentDigits l.alternate places (m * n) d
      | _ => generalDigits l.alternate places (m * n) d
    { isNumber := true, sign := l.sign negative, body := case digits }

/-- The whole number that a value is. -/
def wholeOf? : Json → Option Int
  | .int i => some i
  | .bool b => some (if b then 1 else 0)
  | _ => none

/-- The whole number that a value has, the places behind the point cut off. -/
def truncated (v : Json) : Except FillError Int :=
  match v, wholeOf? v with
  | _, some i => .ok i
  | .real .nan, _ => .error .undefinedNumber
  | .real x, _ =>
    match x.truncate? with
    | some i => .ok i
    | none => .error .beyondRange
  | _, _ => .error .wrongKind

/-- The floating-point number that a value has. -/
def realOf (v : Json) : Except FillError Binary64 :=
  match v, wholeOf? v with
  | .real x, _ => .ok x
  | _, some i =>
    match Binary64.ofRatio (i < 0) i.natAbs 1 with
    | .infinite _ => .error .beyondRange
    | x => .ok x
  | _, none => .error .wrongKind

/-- The single character that a value stands for. -/
def characterOf (v : Json) : Except FillError Char :=
  match v, wholeOf? v with
  | .str s, _ =>
    match s.toList with
    | [c] => .ok c
    | _ => .error .wrongKind
  | _, some i => if 0 ≤ i ∧ i < 0x110000 then .ok (Char.ofNat i.toNat) else .error .beyondRange
  | _, none => .error .wrongKind

/-- A value in the form that a letter names. -/
def convert (l : Layout) (letter : Char) (v : Json) : Except FillError Piece :=
  match letter with
  | 's' => .ok (l.string (plainValue v))
  | 'r' => .ok (l.string (quotedValue v))
  | 'a' => .ok (l.string (asciiOnly (quotedValue v)))
  | 'd' | 'i' | 'u' => (truncated v).map (l.whole letter)
  | 'o' | 'x' | 'X' =>
    match wholeOf? v with
    | some i => .ok (l.whole letter i)
    | none => .error .wrongKind
  | 'e' | 'E' | 'f' | 'F' | 'g' | 'G' => (realOf v).map (l.real letter)
  | 'c' => (characterOf v).map fun c => { body := [c] }
  | c => .error (.unknownForm c)

/-! ## Filling -/

/-- What stands for the placeholder whose percent sign is in front of `s`, the text behind it and
the arguments that are left. -/
def placeholder (s : List Char) (supply : Supply) :
    Except FillError (List Char × List Char × Supply) := do
  let (s, supply) ←
    match s with
    | '(' :: rest =>
      match supply with
      | .list _ => .error .noFields
      | .fields _ _ =>
        match fieldName? 0 rest with
        | none => .error .incomplete
        | some (name, after) => (supply.select name).map fun supply => (after, supply)
    | _ => .ok (s, supply)
  let (l, s) := Layout.flags {} s
  let (width, s, supply) ← size? widthBound s supply
  let (precision, s, supply) ← precision? s supply
  let s :=
    match s with
    | 'h' :: rest | 'l' :: rest | 'L' :: rest => rest
    | _ => s
  match s with
  | [] => .error .incomplete
  | letter :: rest =>
    let (v, supply) ← supply.next
    let width := width.getD 0
    let l := { l with
      left := l.left || width < 0
      width := width.natAbs
      precision := precision }
    let p ← convert l letter v
    return (l.place p, rest, supply)

/-- Fills the placeholders of a text in at most `fuel` steps. -/
def fillFrom : Nat → List Char → Supply → Except FillError (List Char × Supply)
  | _, [], supply => .ok ([], supply)
  | 0, _, supply => .ok ([], supply)
  | fuel + 1, '%' :: '%' :: rest, supply => do
    let (text, supply) ← fillFrom fuel rest supply
    return ('%' :: text, supply)
  | fuel + 1, '%' :: rest, supply => do
    let (shown, rest, supply) ← placeholder rest supply
    let (text, supply) ← fillFrom fuel rest supply
    return (shown ++ text, supply)
  | fuel + 1, c :: rest, supply => do
    let (text, supply) ← fillFrom fuel rest supply
    return (c :: text, supply)

/-- The text with the arguments in the places of its placeholders. Each step takes a character at
least. -/
def fill (template : List Char) (arguments : List Json) : Except FillError (List Char) :=
  if arguments.isEmpty then .ok template
  else do
    let (text, supply) ← fillFrom template.length template (.ofArguments arguments)
    if supply.isUsedUp then .ok text else .error .tooMany

end Shortlink.Log
