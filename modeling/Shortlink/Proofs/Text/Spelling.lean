import Shortlink.Proofs.Text.LowerCase
import Shortlink.Text.Spelling

/-!
# Spellings are ASCII

A spelling replaces each character, on its own, by a text of ASCII, and leaves ASCII alone
(`SpellsInAscii`). That is all that is relied on where texts are compared, so what is proved there
holds of any table. The one that the service comes with is of this kind: `spellsInAscii_spellChar`.

## Contents

- `IsAscii`, `SpellsInAscii`.
- **The tables.** `spellingBlocks_ascii`, `hanSpellings_ascii`; `isAscii_hangulSpelling`,
  `isAscii_of_styledLetter?`.
- `spellsInAscii_spellChar`.
-/

namespace Shortlink.Text

/-- The text consists of ASCII. -/
def IsAscii (s : List Char) : Prop :=
  ∀ c ∈ s, c.toNat < 0x80

-- the characters of the text are checked, not all that there are
instance (s : List Char) : Decidable (IsAscii s) :=
  List.decidableBAll (fun c : Char => c.toNat < 0x80) s

/-- **Each character is spelled in ASCII**, and one of ASCII by itself. -/
structure SpellsInAscii (spelling : Spelling) : Prop where
  ascii : ∀ c, IsAscii (spelling c)
  keeps : ∀ c, c.toNat < 0x80 → spelling c = [c]

/-! ## The tables -/

theorem spellingBlocks_ascii :
    ∀ b ∈ spellingBlocks, ∀ s ∈ b.spellings, IsAscii s.toList := by
  decide +kernel

theorem hanSpellings_ascii : ∀ p ∈ hanSpellings, IsAscii p.2.toList := by
  decide +kernel

theorem hangulLetters_ascii :
    ∀ s ∈ hangulInitials ++ hangulVowels ++ hangulFinals, IsAscii s.toList := by
  decide +kernel

theorem IsAscii.append {s t : List Char} (hs : IsAscii s) (ht : IsAscii t) : IsAscii (s ++ t) := by
  intro c hc
  exact (List.mem_append.mp hc).elim (hs c) (ht c)

/-- So is a letter of a table, or none where the table has ended. -/
theorem isAscii_getD {letters : List String} (h : ∀ s ∈ letters, IsAscii s.toList) (i : Nat) :
    IsAscii (letters.getD i "").toList := by
  rw [List.getD_eq_getElem?_getD]
  cases hletter : letters[i]? with
  | none => decide
  | some s => exact h s (List.mem_of_getElem? hletter)

theorem isAscii_hangulSpelling (index : Nat) : IsAscii (hangulSpelling index).toList := by
  have hletters := hangulLetters_ascii
  simp only [List.mem_append] at hletters
  rw [hangulSpelling, String.toList_append, String.toList_append]
  have hinitial := isAscii_getD (fun s hs => hletters s (Or.inl (Or.inl hs))) (index / 588)
  have hvowel := isAscii_getD (fun s hs => hletters s (Or.inl (Or.inr hs))) (index / 28 % 21)
  have hfinal := isAscii_getD (fun s hs => hletters s (Or.inr hs)) (index % 28)
  exact (hinitial.append hvowel).append hfinal

/-- A styled letter is one of ASCII in another style. -/
theorem isAscii_of_styledLetter? {n : Nat} {c : Char} (h : styledLetter? n = some c) :
    c.toNat < 0x80 := by
  have hcode : ∀ k < 0x80, (Char.ofNat k).toNat < 0x80 := by decide +kernel
  unfold styledLetter? at h
  dsimp only at h
  split at h
  · next hwide =>
      rw [← Option.some.inj h]
      exact hcode _ (by omega)
  split at h
  · next hmath =>
      rw [← Option.some.inj h]
      exact hcode _ (by split <;> omega)
  split at h
  · next hdigit =>
      rw [← Option.some.inj h]
      exact hcode _ (by omega)
  · cases h

/-! ## The spelling -/

/-- **What characters are spelled by is ASCII.** -/
theorem spellsInAscii_spellChar : SpellsInAscii spellChar := by
  constructor
  · intro c
    unfold spellChar
    dsimp only
    split
    · next hascii => simpa [IsAscii] using hascii
    split
    · exact isAscii_hangulSpelling _
    split
    · next a hstyled => simpa [IsAscii] using isAscii_of_styledLetter? hstyled
    split
    · next s hblock =>
        obtain ⟨b, hb, hspelling⟩ := List.exists_of_findSome?_eq_some hblock
        rw [SpellingBlock.spelling?] at hspelling
        split at hspelling
        · exact absurd hspelling (by simp)
        · exact spellingBlocks_ascii b hb s (List.mem_of_getElem? hspelling)
    · cases hlookup : hanSpellings.lookup c with
      | none => decide
      | some s =>
          obtain ⟨front, back, heq, -⟩ := List.lookup_eq_some_iff.mp hlookup
          have hmem : (c, s) ∈ hanSpellings := by
            rw [heq]
            exact List.mem_append_right front List.mem_cons_self
          exact hanSpellings_ascii (c, s) hmem
  · intro c hascii
    exact if_pos hascii

end Shortlink.Text
