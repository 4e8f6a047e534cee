import Shortlink.Json.Reader
import Shortlink.Json.Writer
import Shortlink.Proofs.Text.Loose

/-!
# A string is read as it is written

Every character has one written form: itself, a short escape, the escape of its UTF-16 unit, or the
escapes of a pair of units. A half of a character has the escape of its unit. The reader takes each
of these for the units of the piece (`stringBody_escapePiece`), so it takes the written string for
the units of its pieces (`stringBody_flatMap`), and these are put together to the string.

Whatever the string is, its written form holds nothing but printable ASCII
(`isAsciiText_stringText`).

## Contents

- **Units.** `exists_unitEscape`, `stringBody_unit`.
- **Characters.** `escapeChar_cases`; `consPieces`, `stringBody_escapePiece`.
- **Strings.** `stringBody_flatMap`; `stringBody_chars`, `stringBody_torn`.
- **Printable text.** `IsAsciiText`, `isAsciiText_escapeChar`, `isAsciiText_stringText`,
  `isAsciiText_tornText`.
-/

namespace Shortlink.Json

open Text

/-! ## Units -/

theorem hexValue?_hexDigit {d : Nat} (h : d < 16) : hexValue? (hexDigit d) = some d := by
  have hall : ∀ d < 16, hexValue? (hexDigit d) = some d := by decide
  exact hall d h

/-- The digits of a unit. -/
theorem exists_unitEscape {n : Nat} (h : n < 0x10000) :
    ∃ a b c d, unitEscape n = ['\\', 'u', a, b, c, d] ∧ unit? a b c d = some n := by
  refine ⟨hexDigit (n / 16 / 16 / 16 % 16), hexDigit (n / 16 / 16 % 16), hexDigit (n / 16 % 16),
    hexDigit (n % 16), rfl, ?_⟩
  simp only [unit?, hexValue?_hexDigit (Nat.mod_lt _ (by omega : 0 < 16)), Option.bind_eq_bind,
    Option.bind_some, Option.pure_def, Option.some.injEq]
  omega

/-- The escape of a unit stands for what the unit stands for, whatever follows. -/
theorem stringBody_unit {n : Nat} (h : n < 0x10000) (whole : List Char) {rest : List Char}
    (hrest : rest ≠ []) :
    stringBody whole (unitEscape n ++ rest)
      = consPiece (.ofUnit n) (stringBody whole rest) := by
  obtain ⟨a, b, c, d, hescape, hunit⟩ := exists_unitEscape h
  rw [hescape]
  show stringBody whole ('\\' :: 'u' :: a :: b :: c :: d :: rest) = _
  rw [stringBody, if_neg (by decide), if_pos rfl]
  simp only [hunit, List.isEmpty_iff, hrest, if_false, if_true]

theorem Piece.ofUnit_toNat (c : Char) : Piece.ofUnit c.toNat = .char c := by
  have hcode := isCodePoint_toNat c
  unfold IsCodePoint at hcode
  rw [Piece.ofUnit, dif_neg (by omega), Char.ofNat_toNat]

theorem Piece.ofUnit_half (h : Half) : Piece.ofUnit (Half.unit h) = .half h := by
  have hlt := h.isLt
  have hrange : 0xD800 ≤ Half.unit h ∧ Half.unit h < 0xE000 := by
    rw [Half.unit]
    omega
  have hback : Half.unit h - 0xD800 = h.val := by
    rw [Half.unit]
    omega
  rw [Piece.ofUnit, dif_pos hrange]
  exact congrArg Piece.half (Fin.ext hback)

/-! ## Characters -/

theorem stringBody_plain {c : Char} (hquote : c ≠ '"') (hslash : c ≠ '\\')
    (hcontrol : 0x20 ≤ c.toNat) (whole rest : List Char) :
    stringBody whole (c :: rest) = consPiece (.char c) (stringBody whole rest) := by
  rw [stringBody.eq_def]
  simp only [if_neg hquote, if_neg hslash, if_neg (by omega : ¬ c.toNat < 0x20)]

theorem stringBody_short {e d : Char} (hunit : e ≠ 'u') (h : shortEscape? e = some d)
    (whole rest : List Char) :
    stringBody whole ('\\' :: e :: rest) = consPiece (.char d) (stringBody whole rest) := by
  rw [stringBody.eq_def]
  simp [hunit, h]

/-- **The four ways to write a character**: a letter behind a backslash, itself, its unit, or the
two units of a pair. -/
theorem escapeChar_cases (c : Char) :
    (∃ e, escapeChar c = ['\\', e] ∧ e ≠ 'u' ∧ shortEscape? e = some c ∧ c.toNat < 0x10000)
      ∨ (escapeChar c = [c] ∧ c ≠ '"' ∧ c ≠ '\\' ∧ 0x20 ≤ c.toNat ∧ c.toNat < 0x10000)
      ∨ (escapeChar c = unitEscape c.toNat ∧ c.toNat < 0x10000)
      ∨ (escapeChar c = unitEscape (0xD800 + (c.toNat - 0x10000) / 0x400)
          ++ unitEscape (0xDC00 + (c.toNat - 0x10000) % 0x400) ∧ 0x10000 ≤ c.toNat) := by
  unfold escapeChar
  iterate 7
    split
    · next hc =>
        rw [hc]
        exact Or.inl ⟨_, rfl, by decide, by decide, by decide⟩
  split
  · next hquote hslash _ _ _ _ _ hprintable =>
      exact Or.inr (Or.inl ⟨rfl, hquote, hslash, hprintable.1, by omega⟩)
  split
  · next hplane => exact Or.inr (Or.inr (Or.inl ⟨rfl, hplane⟩))
  · next hplane => exact Or.inr (Or.inr (Or.inr ⟨rfl, by omega⟩))

/-- Puts pieces in front of a string that was read. -/
def consPieces (ps : List Piece) (read : Except Fault (List Piece × List Char)) :
    Except Fault (List Piece × List Char) :=
  ps.foldr consPiece read

theorem consPieces_ok (ps s : List Piece) (rest : List Char) :
    consPieces ps (.ok (s, rest)) = .ok (ps ++ s, rest) := by
  induction ps with
  | nil => rfl
  | cons p ps ih =>
      show consPiece p (consPieces ps (.ok (s, rest))) = _
      rw [ih]
      rfl

/-- **A piece is read as its units.** -/
theorem stringBody_escapePiece (p : Piece) (whole : List Char) {rest : List Char}
    (hrest : rest ≠ []) :
    stringBody whole (escapePiece p ++ rest) = consPieces p.units (stringBody whole rest) := by
  cases p with
  | half h =>
      have hlt := h.isLt
      have hunit : Half.unit h < 0x10000 := by
        rw [Half.unit]
        omega
      rw [escapePiece, stringBody_unit hunit whole hrest, Piece.ofUnit_half]
      rfl
  | char c =>
      show stringBody whole (escapeChar c ++ rest) = _
      rw [Piece.units]
      rcases escapeChar_cases c with ⟨e, hchars, hu, hshort, hplane⟩
        | ⟨hchars, hquote, hslash, hcontrol, hplane⟩ | ⟨hchars, hplane⟩ | ⟨hchars, hplane⟩
      · rw [hchars, if_pos hplane]
        exact stringBody_short hu hshort whole rest
      · rw [hchars, if_pos hplane]
        exact stringBody_plain hquote hslash hcontrol whole rest
      · rw [hchars, if_pos hplane, stringBody_unit hplane whole hrest, Piece.ofUnit_toNat]
        rfl
      · have hcode := isCodePoint_toNat c
        unfold IsCodePoint at hcode
        -- the two escapes are those of the halves
        have hfirst : 0xD800 + (c.toNat - 0x10000) / 0x400 = Half.unit (firstHalf c) := by
          rw [Half.unit, val_firstHalf hplane]
        have hsecond : 0xDC00 + (c.toNat - 0x10000) % 0x400 = Half.unit (secondHalf c) := by
          rw [Half.unit, val_secondHalf]
          omega
        rw [hchars, if_neg (by omega), List.append_assoc, hfirst, hsecond,
          stringBody_unit (by omega) whole (List.append_ne_nil_of_right_ne_nil _ hrest),
          stringBody_unit (by omega) whole hrest, Piece.ofUnit_half, Piece.ofUnit_half]
        rfl

/-! ## Strings -/

/-- **A string is read as the units of what is written**, up to its closing quote. -/
theorem stringBody_flatMap (ps : List Piece) (whole rest : List Char) :
    stringBody whole (ps.flatMap escapePiece ++ '"' :: rest)
      = .ok (ps.flatMap Piece.units, rest) := by
  induction ps with
  | nil =>
      rw [List.flatMap_nil, List.nil_append, stringBody.eq_def]
      rfl
  | cons p ps ih =>
      rw [List.flatMap_cons, List.append_assoc, stringBody_escapePiece p whole (by simp), ih,
        consPieces_ok, List.flatMap_cons]

/-- **A text is read as it is written.** -/
theorem stringBody_chars (s whole rest : List Char) :
    ∃ ps, stringBody whole (s.flatMap escapeChar ++ '"' :: rest) = .ok (ps, rest)
      ∧ Loose.ofPieces ps = .whole (String.ofList s) := by
  refine ⟨_, ?_, Loose.ofPieces_units_chars s⟩
  rw [← stringBody_flatMap, List.flatMap_map]
  rfl

/-- **What is no text is read as it is written.** -/
theorem stringBody_torn (t : Torn) (whole rest : List Char) :
    ∃ ps, stringBody whole (t.pieces.flatMap escapePiece ++ '"' :: rest) = .ok (ps, rest)
      ∧ Loose.ofPieces ps = .torn t :=
  ⟨_, stringBody_flatMap t.pieces whole rest, Loose.ofPieces_units_torn t⟩

/-! ## Printable text -/

/-- **The text consists of printable characters of ASCII**, spaces counted in. -/
def IsAsciiText (s : List Char) : Prop :=
  ∀ c ∈ s, 0x20 ≤ c.toNat ∧ c.toNat < 0x7F

instance (s : List Char) : Decidable (IsAsciiText s) :=
  List.decidableBAll _ s

theorem IsAsciiText.append {s t : List Char} (hs : IsAsciiText s) (ht : IsAsciiText t) :
    IsAsciiText (s ++ t) :=
  List.forall_mem_append.mpr ⟨hs, ht⟩

theorem IsAsciiText.cons {c : Char} {s : List Char} (hc : 0x20 ≤ c.toNat ∧ c.toNat < 0x7F)
    (hs : IsAsciiText s) : IsAsciiText (c :: s) :=
  List.forall_mem_cons.mpr ⟨hc, hs⟩

theorem isAsciiText_unitEscape (n : Nat) : IsAsciiText (unitEscape n) := by
  have hdigit : ∀ d < 16, 0x20 ≤ (hexDigit d).toNat ∧ (hexDigit d).toNat < 0x7F := by decide
  have hdigits : ∀ width n, IsAsciiText (hexPadded width n) := by
    intro width
    induction width with
    | zero => exact fun _ _ hc => absurd hc List.not_mem_nil
    | succ width ih =>
        intro n
        have hlast := hdigit (n % 16) (Nat.mod_lt _ (by decide))
        exact (ih (n / 16)).append (List.forall_mem_singleton.mpr hlast)
  exact ((hdigits 4 n).cons (by decide)).cons (by decide)

/-- **Every character is written in printable ASCII.** -/
theorem isAsciiText_escapeChar (c : Char) : IsAsciiText (escapeChar c) := by
  unfold escapeChar
  iterate 7
    split
    · decide
  split
  · next hprintable => exact List.forall_mem_singleton.mpr hprintable
  split
  · exact isAsciiText_unitEscape _
  · exact (isAsciiText_unitEscape _).append (isAsciiText_unitEscape _)

theorem isAsciiText_tornText (t : Torn) : IsAsciiText (tornText t) := by
  have hbody : IsAsciiText (t.pieces.flatMap escapePiece) := by
    intro c hc
    obtain ⟨p, -, hp⟩ := List.mem_flatMap.mp hc
    cases p with
    | char d => exact isAsciiText_escapeChar d c hp
    | half h => exact isAsciiText_unitEscape _ c hp
  exact (hbody.cons (by decide)).append (by decide)

theorem isAsciiText_stringText (s : List Char) : IsAsciiText (stringText s) := by
  have hbody : IsAsciiText (s.flatMap escapeChar) := by
    intro c hc
    obtain ⟨d, -, hd⟩ := List.mem_flatMap.mp hc
    exact isAsciiText_escapeChar d c hd
  exact (hbody.cons (by decide)).append (by decide)

end Shortlink.Json
