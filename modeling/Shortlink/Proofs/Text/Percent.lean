import Shortlink.Text.Percent
import Shortlink.Proofs.Text.Utf8

/-!
# When decoding changes a text

An escape is a percent sign with two hexadecimal digits behind it. Decoding leaves a text as it is
just if the text holds no escape, or if its bytes are those of no text: `decode_eq_self_iff`. An
escape always shortens the bytes (`length_unescape_lt`), so no other text decodes to itself.

## Contents

- `HasEscape`, `SpellsText`: the two conditions.
- `unescape_of_not_hasEscape`, `length_unescape_lt`: the bytes without an escape, and with one.
- `decode_eq_self_iff`.
-/

namespace Shortlink.Text.Percent

/-- Somewhere in the text two hexadecimal digits follow a percent sign. -/
def HasEscape (s : List Char) : Prop :=
  ∃ high low, (hexValue? high).isSome ∧ (hexValue? low).isSome ∧ ['%', high, low] <:+: s

/-- The text stands for bytes that spell a text. -/
def SpellsText (s : List Char) : Prop :=
  ∃ t, unescape s = Utf8.encode t

theorem isSome_byte?_iff {high low : Char} :
    (byte? high low).isSome ↔ (hexValue? high).isSome ∧ (hexValue? low).isSome := by
  unfold byte?
  cases hexValue? high <;> cases hexValue? low <;> simp

/-- An escape stands at the start of a text or behind it. -/
theorem hasEscape_cons_iff {c : Char} {s : List Char} :
    HasEscape (c :: s) ↔
      (∃ high low rest, c = '%' ∧ s = high :: low :: rest ∧ (byte? high low).isSome)
        ∨ HasEscape s := by
  constructor
  · rintro ⟨high, low, hhigh, hlow, hinfix⟩
    rcases List.infix_cons_iff.mp hinfix with ⟨rest, hrest⟩ | hlater
    · simp only [List.cons_append, List.nil_append, List.cons.injEq] at hrest
      exact Or.inl ⟨high, low, rest, hrest.1.symm, hrest.2.symm, isSome_byte?_iff.mpr ⟨hhigh, hlow⟩⟩
    · exact Or.inr ⟨high, low, hhigh, hlow, hlater⟩
  · rintro (⟨high, low, rest, rfl, rfl, hbyte⟩ | ⟨high, low, hhigh, hlow, hinfix⟩)
    · obtain ⟨hhigh, hlow⟩ := isSome_byte?_iff.mp hbyte
      exact ⟨high, low, hhigh, hlow, ⟨[], rest, rfl⟩⟩
    · exact ⟨high, low, hhigh, hlow, hinfix.trans (List.infix_cons List.infix_rfl)⟩

theorem unescape_of_not_hasEscape {s : List Char} (h : ¬ HasEscape s) :
    unescape s = Utf8.encode s := by
  fun_induction unescape s with
  | case1 high low rest b hbyte ih =>
      exact absurd (hasEscape_cons_iff.mpr
        (Or.inl ⟨high, low, rest, rfl, rfl, by rw [hbyte]; rfl⟩)) h
  | case2 high low rest hbyte ih =>
      rw [ih (fun hlater => h (hasEscape_cons_iff.mpr (Or.inr hlater)))]
      rfl
  | case3 c rest hplain ih =>
      rw [ih (fun hlater => h (hasEscape_cons_iff.mpr (Or.inr hlater)))]
      rfl
  | case4 => rfl

theorem length_unescape_le (s : List Char) :
    (unescape s).length ≤ (Utf8.encode s).length := by
  fun_induction unescape s with
  | case1 high low rest b hbyte ih =>
      simp only [Utf8.encode_cons, List.length_append, List.length_cons]
      have hpercent := Utf8.length_encodeChar_pos '%'
      omega
  | case2 high low rest hbyte ih =>
      rw [Utf8.encode_cons, List.length_append, List.length_append]
      omega
  | case3 c rest hplain ih =>
      rw [Utf8.encode_cons, List.length_append, List.length_append]
      omega
  | case4 => exact Nat.le_refl _

/-- An escape is three characters for a single byte. -/
theorem length_unescape_lt {s : List Char} (h : HasEscape s) :
    (unescape s).length < (Utf8.encode s).length := by
  fun_induction unescape s with
  | case1 high low rest b hbyte ih =>
      have hrest := length_unescape_le rest
      have hpercent := Utf8.length_encodeChar_pos '%'
      have hhigh := Utf8.length_encodeChar_pos high
      simp only [Utf8.encode_cons, List.length_append, List.length_cons]
      omega
  | case2 high low rest hbyte ih =>
      rcases hasEscape_cons_iff.mp h with ⟨high', low', rest', -, hrest, hbyte'⟩ | hlater
      · cases hrest
        rw [hbyte] at hbyte'
        exact absurd hbyte' (by simp)
      · have := ih hlater
        rw [Utf8.encode_cons, List.length_append, List.length_append]
        omega
  | case3 c rest hplain ih =>
      rcases hasEscape_cons_iff.mp h with ⟨high, low, rest', rfl, rfl, -⟩ | hlater
      · exact absurd rfl (hplain high low rest' rfl)
      · have := ih hlater
        rw [Utf8.encode_cons, List.length_append, List.length_append]
        omega
  | case4 =>
      obtain ⟨high, low, -, -, hinfix⟩ := h
      simp at hinfix

/-- **Decoding leaves a text as it is just if there is no escape in it, or if it spells no
text.** -/
theorem decode_eq_self_iff {s : List Char} :
    decode s = s ↔ ¬ HasEscape s ∨ ¬ SpellsText s := by
  constructor
  · intro h
    by_cases hspells : SpellsText s
    · obtain ⟨t, ht⟩ := hspells
      left
      intro hescape
      -- the bytes would be those of `s` itself, but they are fewer
      have hshort := length_unescape_lt hescape
      rw [decode, ht, Utf8.decode?_encode, Option.getD_some] at h
      rw [ht, h] at hshort
      exact Nat.lt_irrefl _ hshort
    · exact Or.inr hspells
  · rintro (hplain | hgap)
    · rw [decode, unescape_of_not_hasEscape hplain, Utf8.decode?_encode, Option.getD_some]
    · have hnone : Utf8.decode? (unescape s) = none := by
        rw [Option.eq_none_iff_forall_ne_some]
        intro t ht
        exact hgap ⟨t, Utf8.decode?_eq_some_iff.mp ht⟩
      rw [decode, hnone, Option.getD_none]

end Shortlink.Text.Percent
