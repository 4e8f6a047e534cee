import Shortlink.Proofs.Text.Cutting
import Shortlink.Proofs.Text.Percent

/-!
# Written forms

A text is written by leaving some of its characters as they are and escaping the others byte by
byte, with hexadecimal digits in either case. If a percent sign is always escaped, decoding gives
back the text of every written form: `IsWritten.decode_eq`, `IsWritten.decodeLossy_eq`.

## Contents

- `hexDigit`: hexadecimal digits in either case, `byte?_hexDigit`.
- `AreEscapes`, `IsWritten`: escapes of bytes, and written forms of texts.
- `unescape_cons_of_ne`, `AreEscapes.unescape_append`, `IsWritten.unescape_eq`: their bytes.
- `IsWritten.decode_eq`, `IsWritten.decodeLossy_eq`; `AreEscapes.not_mem`, `IsWritten.not_mem`.
- `isWritten_encode`: the written form that escapes all that is not safe; `isWritten_self`,
  `decodeLossy_eq_self`, `encode_eq_self`: where nothing is escaped.
-/

namespace Shortlink.Text.Percent

/-! ## Digits -/

/-- A hexadecimal digit, in upper or in lower case. -/
def hexDigit (upper : Bool) (n : Nat) : Char :=
  if n < 10 then Char.ofNat (48 + n) else Char.ofNat ((if upper then 55 else 87) + n)

theorem hexValue?_hexDigit {n : Nat} (hn : n < 16) (upper : Bool) :
    hexValue? (hexDigit upper n) = some n := by
  have hall : ∀ upper, ∀ n < 16, hexValue? (hexDigit upper n) = some n := by decide +kernel
  exact hall upper n hn

theorem byte?_hexDigit (upper : Bool × Bool) (b : UInt8) :
    byte? (hexDigit upper.1 (b.toNat / 16)) (hexDigit upper.2 (b.toNat % 16)) = some b := by
  have hb : b.toNat < 256 := b.toNat_lt
  have hvalue : 16 * (b.toNat / 16) + b.toNat % 16 = b.toNat := by omega
  rw [byte?, hexValue?_hexDigit (by omega), hexValue?_hexDigit (by omega)]
  simp only [hvalue, UInt8.ofNat_toNat]

/-! ## Writing -/

/-- The text consists of the escapes of the bytes. -/
inductive AreEscapes : List UInt8 → List Char → Prop where
  | nil : AreEscapes [] []
  | cons {b : UInt8} {bytes : List UInt8} {high low : Char} {codes : List Char}
      (hbyte : byte? high low = some b) (hcodes : AreEscapes bytes codes) :
      AreEscapes (b :: bytes) ('%' :: high :: low :: codes)

/-- **A written form of a text**: a character stands for itself if it is plain, and any character
may be escaped. -/
inductive IsWritten (plain : Char → Bool) : List Char → List Char → Prop where
  | nil : IsWritten plain [] []
  | plain {c : Char} {s written : List Char} (hplain : plain c = true)
      (hs : IsWritten plain s written) : IsWritten plain (c :: s) (c :: written)
  | escaped {c : Char} {s codes written : List Char}
      (hcodes : AreEscapes (Utf8.encodeChar c) codes) (hs : IsWritten plain s written) :
      IsWritten plain (c :: s) (codes ++ written)

/-! ## The bytes of a written form -/

/-- A character that is no percent sign stands for its bytes. -/
theorem unescape_cons_of_ne {c : Char} (h : c ≠ '%') (rest : List Char) :
    unescape (c :: rest) = Utf8.encodeChar c ++ unescape rest := by
  rw [unescape]
  intro high low back hc
  exact absurd hc h

/-- A percent sign without two digits behind it stands for itself. -/
theorem unescape_percent_of_ne {rest : List Char}
    (h : ∀ high low back, rest = high :: low :: back → byte? high low = none) :
    unescape ('%' :: rest) = Utf8.encodeChar '%' ++ unescape rest := by
  cases rest with
  | nil => rfl
  | cons high rest =>
      cases rest with
      | nil => rfl
      | cons low back =>
          rw [unescape, h high low back rfl]

theorem unescape_escape {b : UInt8} {high low : Char} (h : byte? high low = some b)
    (rest : List Char) : unescape ('%' :: high :: low :: rest) = b :: unescape rest := by
  rw [unescape, h]

/-- Escapes stand for their bytes, whatever follows. -/
theorem AreEscapes.unescape_append {bytes : List UInt8} {codes : List Char}
    (h : AreEscapes bytes codes) (rest : List Char) :
    unescape (codes ++ rest) = bytes ++ unescape rest := by
  induction h with
  | nil => rfl
  | cons hbyte hcodes ih =>
      show unescape ('%' :: _ :: _ :: (_ ++ rest)) = _
      rw [unescape_escape hbyte, ih, List.cons_append]

variable {plain : Char → Bool} {s written : List Char}

/-- **A written form stands for the bytes of its text** if every percent sign is escaped. -/
theorem IsWritten.unescape_eq (hpercent : plain '%' = false) (h : IsWritten plain s written) :
    unescape written = Utf8.encode s := by
  induction h with
  | nil => rfl
  | @plain c s written hplain hs ih =>
      have hne : c ≠ '%' := by
        rintro rfl
        rw [hpercent] at hplain
        exact absurd hplain (by simp)
      rw [unescape_cons_of_ne hne, ih, Utf8.encode_cons]
  | escaped hcodes hs ih => rw [hcodes.unescape_append, ih, Utf8.encode_cons]

/-- **Decoding a written form gives its text.** -/
theorem IsWritten.decode_eq (hpercent : plain '%' = false) (h : IsWritten plain s written) :
    decode written = s := by
  rw [decode, h.unescape_eq hpercent, Utf8.decode?_encode, Option.getD_some]

/-- So does decoding it with a mark for each gap: there is none. -/
theorem IsWritten.decodeLossy_eq (hpercent : plain '%' = false) (h : IsWritten plain s written) :
    decodeLossy written = s := by
  rw [decodeLossy, h.unescape_eq hpercent, Utf8.decodeLossy, Utf8.pieces_encode, List.map_map]
  exact List.map_id s

/-- A character that is no part of an escape stands in none. -/
theorem AreEscapes.not_mem {bytes : List UInt8} {codes : List Char} (h : AreEscapes bytes codes)
    {c : Char} (hpercent : c ≠ '%') (hdigit : hexValue? c = none) : c ∉ codes := by
  induction h with
  | nil => exact List.not_mem_nil
  | @cons b bytes high low codes hbyte hcodes ih =>
      obtain ⟨hhigh, hlow⟩ := isSome_byte?_iff.mp (Option.isSome_of_eq_some hbyte)
      intro hc
      simp only [List.mem_cons] at hc
      rcases hc with rfl | rfl | rfl | hmem
      · exact hpercent rfl
      · exact absurd hhigh (by simp [hdigit])
      · exact absurd hlow (by simp [hdigit])
      · exact ih hmem

/-- A character that is neither plain nor part of an escape stands in no written form. -/
theorem IsWritten.not_mem {c : Char} (h : IsWritten plain s written) (hplain : plain c = false)
    (hpercent : c ≠ '%') (hdigit : hexValue? c = none) : c ∉ written := by
  induction h with
  | nil => exact List.not_mem_nil
  | @plain d s written hd hs ih =>
      intro hc
      rcases List.mem_cons.mp hc with rfl | hmem
      · rw [hplain] at hd
        exact absurd hd (by simp)
      · exact ih hmem
  | escaped hcodes hs ih =>
      intro hc
      exact (List.mem_append.mp hc).elim (hcodes.not_mem hpercent hdigit) ih

/-- What a written form begins with is a character that stands for itself, or a percent sign. -/
theorem IsWritten.exists_of_cons {c : Char} (h : IsWritten plain s (c :: written)) (hc : c ≠ '%') :
    ∃ rest, s = c :: rest ∧ IsWritten plain rest written := by
  generalize hall : c :: written = all at h
  cases h with
  | nil => exact absurd hall (List.cons_ne_nil _ _)
  | plain hplain hs =>
      obtain ⟨rfl, rfl⟩ := List.cons.inj hall
      exact ⟨_, rfl, hs⟩
  | @escaped d _ codes _ hcodes hs =>
      -- a character has at least one byte, and its escape begins with a percent sign
      generalize hbytes : Utf8.encodeChar d = bytes at hcodes
      cases hcodes with
      | nil =>
          have hpos := Utf8.length_encodeChar_pos d
          rw [hbytes] at hpos
          exact absurd hpos (by simp)
      | cons hbyte hcodes => exact absurd (List.cons.inj hall).1 hc

/-! ## The written form of a class -/

theorem areEscapes_flatMap_escape (bytes : List UInt8) :
    AreEscapes bytes (bytes.flatMap escape) := by
  induction bytes with
  | nil => exact .nil
  | cons b bytes ih => exact .cons (byte?_hexDigit (true, true) b) ih

/-- **Escaping all that is not safe gives a written form**, if what is safe is plain. -/
theorem isWritten_encode {safe : Char → Bool} {s : List Char}
    (hsafe : ∀ c ∈ s, safe c = true → plain c = true) : IsWritten plain s (encode safe s) := by
  induction s with
  | nil => exact .nil
  | cons c s ih =>
      obtain ⟨hc, hs⟩ := List.forall_mem_cons.mp hsafe
      rw [encode, List.flatMap_cons, encodeChar]
      split
      · next hboth =>
          rw [Bool.and_eq_true] at hboth
          exact .plain (hc hboth.2) (ih hs)
      · exact .escaped (areEscapes_flatMap_escape _) (ih hs)

/-- A text of plain characters is a written form of itself. -/
theorem isWritten_self {s : List Char} (h : ∀ c ∈ s, plain c = true) : IsWritten plain s s := by
  induction s with
  | nil => exact .nil
  | cons c s ih =>
      obtain ⟨hc, hs⟩ := List.forall_mem_cons.mp h
      exact .plain hc (ih hs)

/-- A text without a percent sign is decoded to itself. -/
theorem decodeLossy_eq_self {s : List Char} (h : '%' ∉ s) : decodeLossy s = s := by
  have hwritten : IsWritten (· != '%') s s := isWritten_self (bne_of_not_mem h)
  exact hwritten.decodeLossy_eq (by decide)

/-- What is safe is not escaped. -/
theorem encode_eq_self {safe : Char → Bool} {s : List Char}
    (h : ∀ c ∈ s, c.toNat < 0x80 ∧ safe c = true) : encode safe s = s := by
  unfold encode
  induction s with
  | nil => rfl
  | cons c s ih =>
      obtain ⟨⟨hascii, hsafe⟩, hs⟩ := List.forall_mem_cons.mp h
      have hchar : encodeChar safe c = [c] := by
        rw [encodeChar, hsafe, Bool.and_true, if_pos (decide_eq_true hascii)]
      rw [List.flatMap_cons, hchar, ih hs, List.singleton_append]

end Shortlink.Text.Percent
