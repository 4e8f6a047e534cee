import Shortlink.Text.Utf8

/-!
# UTF-8 is read as it is written

The bytes of a text are read as that text, and bytes that are read as a text are its bytes:
`decode?_eq_some_iff`. So there is one way only to write a text.

Both directions go character by character. A character of more than one byte leaves the reader with
a sequence under way after its first byte, and each byte that follows must fit (`piecesFrom_fits`,
`exists_fits`); that the bounds on the second byte leave out just the wrong values is arithmetic.

## Contents

- **Code points.** `IsCodePoint`, `toNat_ofNat`.
- **Bytes.** `lead_two`, `lead_three`, `lead_four`; `piecesFrom_fits`, `exists_fits`.
- **One character.** `encodeChar_of_one` and so on; `piecesFrom_encodeChar`, `exists_encodeChar`.
- **A text.** `pieces_encode`, `eq_encode_of_pieces`; `decode?_eq_some_iff`.
-/

namespace Shortlink.Text

/-! ## Code points -/

/-- The code points of characters: all but the surrogates. -/
def IsCodePoint (n : Nat) : Prop :=
  n < 0xD800 ∨ (0xE000 ≤ n ∧ n < 0x110000)

theorem isCodePoint_toNat (c : Char) : IsCodePoint c.toNat := by
  have hvalid := c.valid
  simp only [UInt32.isValidChar, Nat.isValidChar, Char.toNat_val] at hvalid
  unfold IsCodePoint
  omega

theorem toNat_ofNat {n : Nat} (h : IsCodePoint n) : (Char.ofNat n).toNat = n := by
  have hvalid : n.isValidChar := by
    unfold IsCodePoint at h
    unfold Nat.isValidChar
    omega
  rw [Char.ofNat, dif_pos hvalid]
  rfl

namespace Utf8

/-! ## Bytes -/

theorem ofNat_eq_of_eq_toNat {n : Nat} {b : UInt8} (h : n = b.toNat) : UInt8.ofNat n = b := by
  rw [h, UInt8.ofNat_toNat]

theorem toNat_ofNat_of_lt {n : Nat} (h : n < 256) : (UInt8.ofNat n).toNat = n := by
  rw [UInt8.toNat_ofNat']
  exact Nat.mod_eq_of_lt h

theorem lead_one {b : UInt8} (h : b.toNat < 0x80) : lead b = .whole (Char.ofNat b.toNat) :=
  if_pos h

/-- The first of two bytes. -/
theorem lead_two {b : UInt8} (h : 0xC2 ≤ b.toNat) (h' : b.toNat < 0xE0) :
    lead b = .opens ⟨1, 0x80, 0xBF, b.toNat - 0xC0⟩ := by
  simp only [lead]
  rw [if_neg (by omega), if_neg (by omega), if_pos h']

/-- The first of three bytes; the next one is bounded where forms would be too long or
surrogates. -/
theorem lead_three {b : UInt8} (h : 0xE0 ≤ b.toNat) (h' : b.toNat < 0xF0) :
    lead b = .opens ⟨2, if b.toNat = 0xE0 then 0xA0 else 0x80,
      if b.toNat = 0xED then 0x9F else 0xBF, b.toNat - 0xE0⟩ := by
  simp only [lead]
  rw [if_neg (by omega), if_neg (by omega), if_neg (by omega)]
  by_cases hfirst : b.toNat = 0xE0
  · simp [hfirst]
  · by_cases hsurrogate : b.toNat = 0xED
    · simp [hsurrogate]
    · simp [hfirst, hsurrogate, h']

/-- The first of four bytes; the next one is bounded where forms would be too long or values too
large. -/
theorem lead_four {b : UInt8} (h : 0xF0 ≤ b.toNat) (h' : b.toNat ≤ 0xF4) :
    lead b = .opens ⟨3, if b.toNat = 0xF0 then 0x90 else 0x80,
      if b.toNat = 0xF4 then 0x8F else 0xBF, b.toNat - 0xF0⟩ := by
  simp only [lead]
  rw [if_neg (by omega), if_neg (by omega), if_neg (by omega), if_neg (by omega),
    if_neg (by omega), if_neg (by omega)]
  by_cases hfirst : b.toNat = 0xF0
  · simp [hfirst]
  · by_cases hlast : b.toNat = 0xF4
    · simp [hlast]
    · simp only [hfirst, hlast, if_false]
      rw [if_pos (by omega)]

/-- Every other byte starts no character. -/
theorem lead_stray {b : UInt8} (h : (0x80 ≤ b.toNat ∧ b.toNat < 0xC2) ∨ 0xF4 < b.toNat) :
    lead b = .stray := by
  simp only [lead]
  rcases h with ⟨hlow, hhigh⟩ | hlarge
  · rw [if_neg (by omega), if_pos hhigh]
  · rw [if_neg (by omega), if_neg (by omega), if_neg (by omega), if_neg (by omega),
      if_neg (by omega), if_neg (by omega), if_neg (by omega), if_neg (by omega), if_neg (by omega)]

theorem piecesFrom_whole {b : UInt8} {rest : List UInt8} {c : Char} (h : lead b = .whole c) :
    piecesFrom none (b :: rest) = some c :: piecesFrom none rest := by
  simp [piecesFrom, h]

theorem piecesFrom_opens {b : UInt8} {rest : List UInt8} {p : Pending} (h : lead b = .opens p) :
    piecesFrom none (b :: rest) = piecesFrom (some p) rest := by
  simp [piecesFrom, h]

theorem piecesFrom_stray {b : UInt8} {rest : List UInt8} (h : lead b = .stray) :
    piecesFrom none (b :: rest) = none :: piecesFrom none rest := by
  simp [piecesFrom, h]

/-- A byte that fits ends the character that is under way, or takes it one byte further. -/
theorem piecesFrom_fits {p : Pending} {b : UInt8} {rest : List UInt8}
    (h : p.low ≤ b.toNat ∧ b.toNat ≤ p.high) :
    piecesFrom (some p) (b :: rest)
      = if p.missing ≤ 1 then
          some (Char.ofNat (64 * p.value + b.toNat % 64)) :: piecesFrom none rest
        else piecesFrom (some ⟨p.missing - 1, 0x80, 0xBF, 64 * p.value + b.toNat % 64⟩) rest := by
  simp [piecesFrom, h]

/-- Where no gap is to come, a byte that fits must follow. -/
theorem exists_fits {p : Pending} {bytes : List UInt8} {s : List Char}
    (h : piecesFrom (some p) bytes = s.map some) :
    ∃ b rest, bytes = b :: rest ∧ p.low ≤ b.toNat ∧ b.toNat ≤ p.high := by
  cases bytes with
  | nil => cases s <;> simp [piecesFrom] at h
  | cons b rest =>
      refine ⟨b, rest, rfl, ?_⟩
      apply Classical.byContradiction
      intro hfits
      simp only [piecesFrom, if_neg hfits] at h
      cases hl : lead b <;> rw [hl] at h <;> cases s <;> simp at h

/-! ## The bytes of a character -/

theorem encodeChar_of_one {n : Nat} (h : n < 0x80) :
    encodeChar (Char.ofNat n) = [UInt8.ofNat n] := by
  have hn : (Char.ofNat n).toNat = n := toNat_ofNat (Or.inl (by omega))
  simp only [encodeChar, hn]
  exact if_pos h

theorem encodeChar_of_two {n : Nat} (h : 0x80 ≤ n) (h' : n < 0x800) :
    encodeChar (Char.ofNat n) = [UInt8.ofNat (0xC0 + n / 64), UInt8.ofNat (0x80 + n % 64)] := by
  have hn : (Char.ofNat n).toNat = n := toNat_ofNat (Or.inl (by omega))
  simp only [encodeChar, hn]
  rw [if_neg (by omega), if_pos h']

theorem encodeChar_of_three {n : Nat} (hn : IsCodePoint n) (h : 0x800 ≤ n) (h' : n < 0x10000) :
    encodeChar (Char.ofNat n) = [UInt8.ofNat (0xE0 + n / 4096), UInt8.ofNat (0x80 + n / 64 % 64),
      UInt8.ofNat (0x80 + n % 64)] := by
  simp only [encodeChar, toNat_ofNat hn]
  rw [if_neg (by omega), if_neg (by omega), if_pos h']

theorem encodeChar_of_four {n : Nat} (hn : IsCodePoint n) (h : 0x10000 ≤ n) :
    encodeChar (Char.ofNat n) = [UInt8.ofNat (0xF0 + n / 262144),
      UInt8.ofNat (0x80 + n / 4096 % 64), UInt8.ofNat (0x80 + n / 64 % 64),
      UInt8.ofNat (0x80 + n % 64)] := by
  simp only [encodeChar, toNat_ofNat hn]
  rw [if_neg (by omega), if_neg (by omega), if_neg (by omega)]

theorem length_encodeChar_pos (c : Char) : 0 < (encodeChar c).length := by
  simp only [encodeChar]
  repeat' split
  all_goals simp

/-! ## One character, from its number to its bytes -/

/-- Two bytes are read as the character that they were written for. -/
theorem piecesFrom_two {n : Nat} (h : 0x80 ≤ n) (h' : n < 0x800) (rest : List UInt8) :
    piecesFrom none (encodeChar (Char.ofNat n) ++ rest)
      = some (Char.ofNat n) :: piecesFrom none rest := by
  have hb : (UInt8.ofNat (0xC0 + n / 64)).toNat = 0xC0 + n / 64 := toNat_ofNat_of_lt (by omega)
  have hb₂ : (UInt8.ofNat (0x80 + n % 64)).toNat = 0x80 + n % 64 := toNat_ofNat_of_lt (by omega)
  have hvalue : 64 * (0xC0 + n / 64 - 0xC0) + (0x80 + n % 64) % 64 = n := by omega
  rw [encodeChar_of_two h h', List.cons_append,
    piecesFrom_opens (lead_two (by omega) (by omega)), List.cons_append,
    piecesFrom_fits (by simp only; omega), if_pos (by simp), hb, hb₂]
  simp only
  rw [hvalue]
  rfl

/-- Three bytes are read as the character that they were written for. -/
theorem piecesFrom_three {n : Nat} (hn : IsCodePoint n) (h : 0x800 ≤ n) (h' : n < 0x10000)
    (rest : List UInt8) :
    piecesFrom none (encodeChar (Char.ofNat n) ++ rest)
      = some (Char.ofNat n) :: piecesFrom none rest := by
  have hb : (UInt8.ofNat (0xE0 + n / 4096)).toNat = 0xE0 + n / 4096 :=
    toNat_ofNat_of_lt (by omega)
  have hb₂ : (UInt8.ofNat (0x80 + n / 64 % 64)).toNat = 0x80 + n / 64 % 64 :=
    toNat_ofNat_of_lt (by omega)
  have hb₃ : (UInt8.ofNat (0x80 + n % 64)).toNat = 0x80 + n % 64 := toNat_ofNat_of_lt (by omega)
  -- the second byte is bounded behind the least first byte and behind that of the surrogates
  have hbounds : (if 0xE0 + n / 4096 = 0xE0 then 0xA0 else 0x80) ≤ 0x80 + n / 64 % 64
      ∧ 0x80 + n / 64 % 64 ≤ if 0xE0 + n / 4096 = 0xED then 0x9F else 0xBF := by
    unfold IsCodePoint at hn
    constructor <;> split <;> omega
  have hvalue : 64 * (64 * (0xE0 + n / 4096 - 0xE0) + (0x80 + n / 64 % 64) % 64)
      + (0x80 + n % 64) % 64 = n := by omega
  rw [encodeChar_of_three hn h h', List.cons_append,
    piecesFrom_opens (lead_three (by omega) (by omega)), List.cons_append,
    piecesFrom_fits (by rw [hb, hb₂]; exact hbounds), if_neg (by simp), List.cons_append,
    piecesFrom_fits (by simp only; omega), if_pos (by simp), hb, hb₂, hb₃]
  simp only
  rw [hvalue]
  rfl

/-- Four bytes are read as the character that they were written for. -/
theorem piecesFrom_four {n : Nat} (hn : IsCodePoint n) (h : 0x10000 ≤ n) (rest : List UInt8) :
    piecesFrom none (encodeChar (Char.ofNat n) ++ rest)
      = some (Char.ofNat n) :: piecesFrom none rest := by
  have hmax : n < 0x110000 := by
    unfold IsCodePoint at hn
    omega
  have hb : (UInt8.ofNat (0xF0 + n / 262144)).toNat = 0xF0 + n / 262144 :=
    toNat_ofNat_of_lt (by omega)
  have hb₂ : (UInt8.ofNat (0x80 + n / 4096 % 64)).toNat = 0x80 + n / 4096 % 64 :=
    toNat_ofNat_of_lt (by omega)
  have hb₃ : (UInt8.ofNat (0x80 + n / 64 % 64)).toNat = 0x80 + n / 64 % 64 :=
    toNat_ofNat_of_lt (by omega)
  have hb₄ : (UInt8.ofNat (0x80 + n % 64)).toNat = 0x80 + n % 64 := toNat_ofNat_of_lt (by omega)
  have hbounds : (if 0xF0 + n / 262144 = 0xF0 then 0x90 else 0x80) ≤ 0x80 + n / 4096 % 64
      ∧ 0x80 + n / 4096 % 64 ≤ if 0xF0 + n / 262144 = 0xF4 then 0x8F else 0xBF := by
    constructor <;> split <;> omega
  have hvalue : 64 * (64 * (64 * (0xF0 + n / 262144 - 0xF0) + (0x80 + n / 4096 % 64) % 64)
      + (0x80 + n / 64 % 64) % 64) + (0x80 + n % 64) % 64 = n := by omega
  rw [encodeChar_of_four hn h, List.cons_append,
    piecesFrom_opens (lead_four (by omega) (by omega)),
    List.cons_append, piecesFrom_fits (by rw [hb, hb₂]; exact hbounds), if_neg (by simp),
    List.cons_append, piecesFrom_fits (by simp only; omega), if_neg (by simp),
    List.cons_append, piecesFrom_fits (by simp only; omega), if_pos (by simp),
    hb, hb₂, hb₃, hb₄]
  simp only
  rw [hvalue]
  rfl

/-- **The bytes of a character are read as that character.** -/
theorem piecesFrom_encodeChar (c : Char) (rest : List UInt8) :
    piecesFrom none (encodeChar c ++ rest) = some c :: piecesFrom none rest := by
  have hc := isCodePoint_toNat c
  have hself := Char.ofNat_toNat c
  generalize hn : c.toNat = n at hc hself
  subst hself
  by_cases hone : n < 0x80
  · have hb : (UInt8.ofNat n).toNat = n := toNat_ofNat_of_lt (by omega)
    have hlead : lead (UInt8.ofNat n) = .whole (Char.ofNat n) := by
      rw [lead_one (by omega), hb]
    rw [encodeChar_of_one hone]
    exact piecesFrom_whole hlead
  by_cases htwo : n < 0x800
  · exact piecesFrom_two (by omega) htwo rest
  by_cases hthree : n < 0x10000
  · exact piecesFrom_three hc (by omega) hthree rest
  · exact piecesFrom_four hc (by omega) rest

/-! ## One character, from bytes to its number -/

section

variable {b : UInt8} {bytes : List UInt8} {c : Char} {s : List Char}

theorem exists_encodeChar_of_two (hlow : 0xC2 ≤ b.toNat) (hhigh : b.toNat < 0xE0)
    (h : piecesFrom none (b :: bytes) = (c :: s).map some) :
    ∃ rest, b :: bytes = encodeChar c ++ rest ∧ piecesFrom none rest = s.map some := by
  rw [piecesFrom_opens (lead_two hlow hhigh)] at h
  obtain ⟨b₂, rest, rfl, hfits⟩ := exists_fits h
  rw [piecesFrom_fits hfits, if_pos (by simp), List.map_cons, List.cons.injEq] at h
  obtain ⟨hc, hrest⟩ := h
  cases hc
  refine ⟨rest, ?_, hrest⟩
  simp only at hfits ⊢
  rw [encodeChar_of_two (by omega) (by omega),
    ofNat_eq_of_eq_toNat (b := b) (by omega), ofNat_eq_of_eq_toNat (b := b₂) (by omega)]
  rfl

theorem exists_encodeChar_of_three (hlow : 0xE0 ≤ b.toNat) (hhigh : b.toNat < 0xF0)
    (h : piecesFrom none (b :: bytes) = (c :: s).map some) :
    ∃ rest, b :: bytes = encodeChar c ++ rest ∧ piecesFrom none rest = s.map some := by
  rw [piecesFrom_opens (lead_three hlow hhigh)] at h
  obtain ⟨b₂, rest, rfl, hfits⟩ := exists_fits h
  rw [piecesFrom_fits hfits, if_neg (by simp)] at h
  obtain ⟨b₃, rest, rfl, hfits₃⟩ := exists_fits h
  rw [piecesFrom_fits hfits₃, if_pos (by simp), List.map_cons, List.cons.injEq] at h
  obtain ⟨hc, hrest⟩ := h
  cases hc
  refine ⟨rest, ?_, hrest⟩
  simp only at hfits hfits₃ ⊢
  -- the bounds on the second byte keep the value from being too small or a surrogate
  have hsecond : 0x80 ≤ b₂.toNat ∧ b₂.toNat ≤ 0xBF := by
    obtain ⟨hleast, hgreatest⟩ := hfits
    split at hleast <;> split at hgreatest <;> omega
  have hcode : IsCodePoint (64 * (64 * (b.toNat - 0xE0) + b₂.toNat % 64) + b₃.toNat % 64)
      ∧ 0x800 ≤ 64 * (64 * (b.toNat - 0xE0) + b₂.toNat % 64) + b₃.toNat % 64 := by
    unfold IsCodePoint
    obtain ⟨hleast, hgreatest⟩ := hfits
    split at hleast <;> split at hgreatest <;> omega
  clear hfits
  rw [encodeChar_of_three hcode.1 hcode.2 (by omega),
    ofNat_eq_of_eq_toNat (b := b) (by omega),
    ofNat_eq_of_eq_toNat (b := b₂) (by omega), ofNat_eq_of_eq_toNat (b := b₃) (by omega)]
  rfl

theorem exists_encodeChar_of_four (hlow : 0xF0 ≤ b.toNat) (hhigh : b.toNat ≤ 0xF4)
    (h : piecesFrom none (b :: bytes) = (c :: s).map some) :
    ∃ rest, b :: bytes = encodeChar c ++ rest ∧ piecesFrom none rest = s.map some := by
  rw [piecesFrom_opens (lead_four hlow hhigh)] at h
  obtain ⟨b₂, rest, rfl, hfits⟩ := exists_fits h
  rw [piecesFrom_fits hfits, if_neg (by simp)] at h
  obtain ⟨b₃, rest, rfl, hfits₃⟩ := exists_fits h
  rw [piecesFrom_fits hfits₃, if_neg (by simp)] at h
  obtain ⟨b₄, rest, rfl, hfits₄⟩ := exists_fits h
  rw [piecesFrom_fits hfits₄, if_pos (by simp), List.map_cons, List.cons.injEq] at h
  obtain ⟨hc, hrest⟩ := h
  cases hc
  refine ⟨rest, ?_, hrest⟩
  simp only at hfits hfits₃ hfits₄ ⊢
  -- the bounds on the second byte keep the value from being too small or too large
  have hsecond : 0x80 ≤ b₂.toNat ∧ b₂.toNat ≤ 0xBF := by
    obtain ⟨hleast, hgreatest⟩ := hfits
    split at hleast <;> split at hgreatest <;> omega
  have hcode : IsCodePoint (64 * (64 * (64 * (b.toNat - 0xF0) + b₂.toNat % 64)
        + b₃.toNat % 64) + b₄.toNat % 64)
      ∧ 0x10000 ≤ 64 * (64 * (64 * (b.toNat - 0xF0) + b₂.toNat % 64)
        + b₃.toNat % 64) + b₄.toNat % 64 := by
    unfold IsCodePoint
    obtain ⟨hleast, hgreatest⟩ := hfits
    split at hleast <;> split at hgreatest <;> omega
  clear hfits
  rw [encodeChar_of_four hcode.1 hcode.2, ofNat_eq_of_eq_toNat (b := b) (by omega),
    ofNat_eq_of_eq_toNat (b := b₂) (by omega), ofNat_eq_of_eq_toNat (b := b₃) (by omega),
    ofNat_eq_of_eq_toNat (b := b₄) (by omega)]
  rfl

/-- **Bytes that are read without a gap start with the bytes of the first character.** -/
theorem exists_encodeChar (h : piecesFrom none bytes = (c :: s).map some) :
    ∃ rest, bytes = encodeChar c ++ rest ∧ piecesFrom none rest = s.map some := by
  cases bytes with
  | nil => simp [piecesFrom] at h
  | cons b bytes =>
      by_cases hone : b.toNat < 0x80
      · rw [piecesFrom_whole (lead_one hone), List.map_cons, List.cons.injEq] at h
        obtain ⟨hc, hrest⟩ := h
        cases hc
        refine ⟨bytes, ?_, hrest⟩
        rw [encodeChar_of_one hone, UInt8.ofNat_toNat]
        rfl
      by_cases hstray : b.toNat < 0xC2 ∨ 0xF4 < b.toNat
      · rw [piecesFrom_stray (lead_stray (by omega))] at h
        simp at h
      by_cases htwo : b.toNat < 0xE0
      · exact exists_encodeChar_of_two (by omega) htwo h
      by_cases hthree : b.toNat < 0xF0
      · exact exists_encodeChar_of_three (by omega) hthree h
      · exact exists_encodeChar_of_four (by omega) (by omega) h

end

/-! ## A text -/

/-- A sequence under way comes out as a character or as a gap. -/
theorem piecesFrom_some_ne_nil (p : Pending) (bytes : List UInt8) :
    piecesFrom (some p) bytes ≠ [] := by
  induction bytes generalizing p with
  | nil => simp [piecesFrom]
  | cons b rest ih =>
      by_cases hfits : p.low ≤ b.toNat ∧ b.toNat ≤ p.high
      · rw [piecesFrom_fits hfits]
        split
        · simp
        · exact ih _
      · simp only [piecesFrom, if_neg hfits]
        cases lead b <;> simp

theorem eq_nil_of_pieces {bytes : List UInt8} (h : pieces bytes = []) : bytes = [] := by
  cases bytes with
  | nil => rfl
  | cons b rest =>
      unfold pieces at h
      cases hl : lead b with
      | whole c => simp [piecesFrom_whole hl] at h
      | stray => simp [piecesFrom_stray hl] at h
      | opens p => exact absurd (piecesFrom_opens hl ▸ h) (piecesFrom_some_ne_nil p rest)

theorem encode_cons (c : Char) (s : List Char) : encode (c :: s) = encodeChar c ++ encode s :=
  List.flatMap_cons

theorem pieces_encode (s : List Char) : pieces (encode s) = s.map some := by
  induction s with
  | nil => rfl
  | cons c s ih =>
      unfold pieces at ih ⊢
      rw [encode_cons, piecesFrom_encodeChar, ih, List.map_cons]

theorem eq_encode_of_pieces {bytes : List UInt8} {s : List Char} (h : pieces bytes = s.map some) :
    bytes = encode s := by
  induction s generalizing bytes with
  | nil => exact eq_nil_of_pieces h
  | cons c s ih =>
      obtain ⟨rest, rfl, hrest⟩ := exists_encodeChar h
      rw [ih hrest, encode_cons]

/-- A list has no gaps if it is made of the members that it gives. -/
theorem mapM_id_eq_some_iff {l : List (Option Char)} {s : List Char} :
    l.mapM id = some s ↔ l = s.map some := by
  induction l generalizing s with
  | nil => cases s <;> simp [List.mapM_nil, pure]
  | cons o l ih =>
      cases o with
      | none => cases s <;> simp [List.mapM_cons]
      | some c =>
          rw [List.mapM_cons]
          cases s with
          | nil => simp [Option.bind_eq_some_iff]
          | cons c' s =>
              simp only [id, Option.bind_eq_bind, Option.bind_some, Option.bind_eq_some_iff, ih,
                Option.pure_def, Option.some.injEq, List.cons.injEq, List.map_cons]
              constructor
              · rintro ⟨tail, hl, hc, rfl⟩
                exact ⟨hc, hl⟩
              · rintro ⟨hc, hl⟩
                exact ⟨s, hl, hc, rfl⟩

/-- **Bytes are read as a text just if they are its bytes.** -/
theorem decode?_eq_some_iff {bytes : List UInt8} {s : List Char} :
    decode? bytes = some s ↔ bytes = encode s := by
  rw [decode?, mapM_id_eq_some_iff]
  constructor
  · intro h
    exact eq_encode_of_pieces h
  · intro h
    rw [h, pieces_encode]

@[simp] theorem decode?_encode (s : List Char) : decode? (encode s) = some s :=
  decode?_eq_some_iff.mpr rfl

end Utf8

end Shortlink.Text
