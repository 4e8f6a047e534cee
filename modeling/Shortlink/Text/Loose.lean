/-!
# Loose texts

An escape names a single UTF-16 unit, and nothing keeps a client from writing one half of a pair
alone. What is read then is no text: a half stands in it in the place of a character. It is
remembered and written down by escapes like any other text, but it has no form in UTF-8.

Two halves side by side that make a pair are the character of the pair. So what is no text is a
list of pieces of which some are halves and none makes a pair with the next.

## Contents

- `Half`, `pairChar`: halves of pairs, and the character of a pair.
- `Piece`, `Piece.ofUnit`, `Piece.pair?`; `join`, `join_join`: pieces, and how they are put
  together.
- `Torn`: pieces with halves among them.
- `Loose`, `Loose.ofPieces`, `Loose.text`: what pieces amount to.
-/

namespace Shortlink.Text

/-! ## Pieces -/

/-- Half of a pair of UTF-16 units, counted from the first one: 0x400 of them come first in a pair,
and as many second. -/
abbrev Half := Fin 0x800

/-- The unit of a half. -/
def Half.unit (h : Half) : Nat :=
  0xD800 + h.val

/-- The character of a first and a second half. -/
def pairChar (first second : Half) : Char :=
  Char.ofNat (0x10000 + first.val * 0x400 + (second.val - 0x400))

/-- A character, or a half of one that stands alone. -/
inductive Piece where
  | char (c : Char)
  | half (h : Half)
deriving DecidableEq

/-- What a UTF-16 unit stands for: its character, or half of one. -/
def Piece.ofUnit (n : Nat) : Piece :=
  if h : 0xD800 ≤ n ∧ n < 0xE000 then .half ⟨n - 0xD800, by omega⟩ else .char (Char.ofNat n)

/-- The piece is a half. -/
def Piece.isHalf : Piece → Bool
  | char _ => false
  | half _ => true

/-- The character, if the two are the halves of a pair. -/
def Piece.pair? : Piece → Piece → Option Char
  | half a, half b => if a.val < 0x400 ∧ 0x400 ≤ b.val then some (pairChar a b) else none
  | _, _ => none

/-- The pieces with the halves of pairs put together. -/
def join : List Piece → List Piece
  | [] => []
  | [p] => [p]
  | p :: q :: rest =>
    match p.pair? q with
    | some c => .char c :: join rest
    | none => p :: join (q :: rest)

theorem Piece.pair?_char (p : Piece) (c : Char) : p.pair? (.char c) = none := by
  cases p <;> rfl

/-- A piece stays as it is in front of what it makes no pair with. -/
theorem join_cons_of_apart {p : Piece} {ps : List Piece} (h : ∀ q ∈ ps.head?, p.pair? q = none) :
    join (p :: ps) = p :: join ps := by
  cases ps with
  | nil => rfl
  | cons q rest => rw [join, h q rfl]

/-- What is put together begins with the first piece, or with a character. -/
theorem head?_join (p : Piece) (ps : List Piece) :
    (join (p :: ps)).head? = some p ∨ ∃ c, (join (p :: ps)).head? = some (.char c) := by
  cases ps with
  | nil => exact Or.inl rfl
  | cons q rest =>
      rw [join]
      cases p.pair? q with
      | none => exact Or.inl rfl
      | some c => exact Or.inr ⟨c, rfl⟩

/-- **Nothing is left to be put together.** -/
theorem join_join (ps : List Piece) : join (join ps) = join ps := by
  induction ps using join.induct with
  | case1 => rfl
  | case2 p => rfl
  | case3 p q rest c hpair ih => rw [join, hpair, join_cons_of_apart fun _ _ => rfl, ih]
  | case4 p q rest hpair ih =>
      rw [join, hpair, join_cons_of_apart, ih]
      intro q' hq'
      rcases head?_join q rest with h | ⟨c, h⟩
      · rw [h] at hq'
        rw [← Option.some.inj hq', hpair]
      · rw [h] at hq'
        rw [← Option.some.inj hq', Piece.pair?_char]

/-! ## Loose texts -/

/-- **What is no text**: some of its pieces are halves, and none makes a pair with the next. -/
structure Torn where
  pieces : List Piece
  hasHalf : pieces.any Piece.isHalf = true
  settled : join pieces = pieces
deriving DecidableEq

/-- A text, or what is none because of the halves in it. -/
inductive Loose where
  | whole (s : String)
  | torn (t : Torn)
deriving DecidableEq

instance : Coe String Loose := ⟨.whole⟩

/-- The character that is shown for a piece, a replacement for a half. -/
def Piece.shown : Piece → Char
  | char c => c
  | half _ => '\uFFFD'

/-- The text with a replacement for each half. -/
def Torn.text (t : Torn) : String :=
  String.ofList (t.pieces.map Piece.shown)

namespace Loose

/-- The loose text is a text. -/
def isWhole : Loose → Bool
  | whole _ => true
  | torn _ => false

/-- The text, or what is taken for it where there has to be one. -/
def text : Loose → String
  | whole s => s
  | torn t => t.text

/-- What the pieces are together. -/
def ofPieces (ps : List Piece) : Loose :=
  if h : (join ps).any Piece.isHalf = true then .torn ⟨join ps, h, join_join ps⟩
  else .whole (String.ofList ((join ps).map Piece.shown))

end Loose

end Shortlink.Text
