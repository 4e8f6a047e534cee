import Shortlink.Proofs.Text.Utf8
import Shortlink.Text.Loose

/-!
# Pieces of loose texts

Where a loose text is written down, a character beyond the first plane becomes two halves. Putting
the halves of pairs together undoes this (`join_flatMap_units`), since the pieces of a loose text
make no pairs of their own. So a loose text is told from the units that it is written in.

## Contents

- **Putting together.** `apart_of_settled`, `settled_tail`, `join_chars`.
- **Units.** `firstHalf`, `secondHalf`, `pair?_halves`; `Piece.units`, `join_flatMap_units`.
- **Loose texts.** `Loose.ofPieces_units_torn`, `Loose.ofPieces_units_chars`.
-/

namespace Shortlink.Text

/-! ## Putting together -/

/-- In settled pieces, none makes a pair with the next. -/
theorem apart_of_settled {p : Piece} {ps : List Piece} (h : join (p :: ps) = p :: ps) :
    ∀ q ∈ ps.head?, p.pair? q = none := by
  intro q hq
  obtain ⟨rest, rfl⟩ := List.head?_eq_some_iff.mp hq
  cases hpair : p.pair? q with
  | none => rfl
  | some c =>
      -- putting the two together would have changed the first
      rw [join, hpair] at h
      obtain ⟨hp, -⟩ := List.cons.inj h
      rw [← hp] at hpair
      exact absurd hpair (by simp [Piece.pair?])

theorem settled_tail {p : Piece} {ps : List Piece} (h : join (p :: ps) = p :: ps) :
    join ps = ps := by
  rw [join_cons_of_apart (apart_of_settled h)] at h
  exact (List.cons.inj h).2

/-- Characters make no pairs. -/
theorem join_chars (s : List Char) : join (s.map .char) = s.map .char := by
  induction s with
  | nil => rfl
  | cons c s ih => rw [List.map_cons, join_cons_of_apart fun _ _ => rfl, ih]

/-! ## Units -/

/-- The first half of a character beyond the first plane. -/
def firstHalf (c : Char) : Half :=
  Fin.ofNat 0x800 ((c.toNat - 0x10000) / 0x400)

/-- The second half of such a character. -/
def secondHalf (c : Char) : Half :=
  Fin.ofNat 0x800 (0x400 + (c.toNat - 0x10000) % 0x400)

/-- **The pieces that a piece is written in**: a character beyond the first plane in two halves. -/
def Piece.units : Piece → List Piece
  | char c => if c.toNat < 0x10000 then [char c] else [half (firstHalf c), half (secondHalf c)]
  | half h => [half h]

section

variable {c : Char} (h : 0x10000 ≤ c.toNat)

include h

theorem val_firstHalf : (firstHalf c).val = (c.toNat - 0x10000) / 0x400 := by
  have hcode := isCodePoint_toNat c
  unfold IsCodePoint at hcode
  exact Nat.mod_eq_of_lt (by omega)

omit h in
theorem val_secondHalf : (secondHalf c).val = 0x400 + (c.toNat - 0x10000) % 0x400 :=
  Nat.mod_eq_of_lt (by omega)

/-- The halves of a character make a pair, which is that of the character. -/
theorem pair?_halves :
    (Piece.half (firstHalf c)).pair? (.half (secondHalf c)) = some c := by
  have hcode := isCodePoint_toNat c
  unfold IsCodePoint at hcode
  have hvalue : 0x10000 + (c.toNat - 0x10000) / 0x400 * 0x400
      + (0x400 + (c.toNat - 0x10000) % 0x400 - 0x400) = c.toNat := by omega
  rw [Piece.pair?, val_firstHalf h, val_secondHalf, if_pos (by omega), pairChar, val_firstHalf h,
    val_secondHalf, hvalue, Char.ofNat_toNat]

end

/-- A half that makes no pair with a piece makes none with the first of its units. -/
theorem apart_units {p q : Piece} (h : p.pair? q = none) {ps : List Piece} :
    ∀ u ∈ (q.units ++ ps).head?, p.pair? u = none := by
  intro u hu
  cases q with
  | half k =>
      obtain rfl : Piece.half k = u := Option.some.inj hu
      exact h
  | char c =>
      rw [Piece.units] at hu
      split at hu
      · obtain rfl : Piece.char c = u := Option.some.inj hu
        exact h
      · next hplane =>
          obtain rfl : Piece.half (firstHalf c) = u := Option.some.inj hu
          cases p with
          | char d => rfl
          | half k =>
              have hcode := isCodePoint_toNat c
              unfold IsCodePoint at hcode
              rw [Piece.pair?, val_firstHalf (by omega), if_neg (by omega)]

/-- **The units of settled pieces are put together to these pieces.** -/
theorem join_flatMap_units {ps : List Piece} (h : join ps = ps) :
    join (ps.flatMap Piece.units) = ps := by
  induction ps with
  | nil => rfl
  | cons p ps ih =>
      have hrest := ih (settled_tail h)
      have hnext : ∀ u ∈ (ps.flatMap Piece.units).head?, p.pair? u = none := by
        cases ps with
        | nil => exact fun u hu => absurd hu (by simp)
        | cons q rest =>
            rw [List.flatMap_cons]
            exact apart_units (apart_of_settled h q rfl)
      rw [List.flatMap_cons]
      cases p with
      | half k => rw [Piece.units, List.singleton_append, join_cons_of_apart hnext, hrest]
      | char c =>
          rw [Piece.units]
          split
          · rw [List.singleton_append, join_cons_of_apart hnext, hrest]
          · next hplane =>
              rw [List.cons_append, List.singleton_append, join, pair?_halves (by omega)]
              dsimp only
              rw [hrest]

/-! ## Loose texts -/

/-- What is no text is told from its units. -/
theorem Loose.ofPieces_units_torn (t : Torn) :
    Loose.ofPieces (t.pieces.flatMap Piece.units) = .torn t := by
  have hjoin := join_flatMap_units t.settled
  have hhalf : (join (t.pieces.flatMap Piece.units)).any Piece.isHalf = true := by
    rw [hjoin]
    exact t.hasHalf
  rw [Loose.ofPieces, dif_pos hhalf]
  congr 1
  cases t
  simp only [hjoin]

/-- A text is told from its units. -/
theorem Loose.ofPieces_units_chars (s : List Char) :
    Loose.ofPieces ((s.map .char).flatMap Piece.units) = .whole (String.ofList s) := by
  have hjoin := join_flatMap_units (join_chars s)
  have hnone : ¬ (join ((s.map .char).flatMap Piece.units)).any Piece.isHalf = true := by
    rw [hjoin, List.any_map]
    simp [Piece.isHalf, Function.comp_def]
  rw [Loose.ofPieces, dif_neg hnone, hjoin, List.map_map]
  congr 2
  exact List.map_id' s

end Shortlink.Text
