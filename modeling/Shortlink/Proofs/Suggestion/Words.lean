import Mathlib.Data.List.Basic
import Shortlink.Proofs.Alias
import Shortlink.Proofs.Text.Cutting
import Shortlink.Proofs.Text.Spelling
import Shortlink.Suggestion

/-!
# Texts reduced to words

Texts are compared in a reduced form: words of plain letters and digits with single spaces between
them. The form is canonical (`IsCanonical`). It is reached in three passes, which put the text in
lower-case ASCII, clear it of what is neither a letter, a digit nor a blank, and join its words
again. How characters are spelled does not matter, as long as it is in ASCII.

All of it follows from one equation: the words of a text are those in front of a character that
belongs to no word, and those behind it (`plainWords_append_cons`). So blanks at the ends do not
matter, nor whether a character that separates words was a blank from the start.

## Contents

- **Words.** `plainWords`, `AreWords`; `plainWords_append_cons`, `wordwise_induction`,
  `areWords_plainWords`.
- **Joined words.** `IsCanonical`, `isCanonical_append_iff`; `isCanonical_intercalate`,
  `intercalate_plainWords`; `spaceBetween`, `intercalate_append`.
- **The passes.** `plainWords_trim`, `words_map_blankOut`; `searchText_eq`,
  `searchText_of_isCanonical`.
- `searchText_canonical`.
-/

namespace Shortlink

open Text

/-! ## Words -/

/-- The maximal runs of plain letters and digits, in order. -/
def plainWords (s : List Char) : List (List Char) :=
  runs (fun c => !isWordChar c) s

/-- None of the words is empty, and all consist of plain letters and digits. -/
def AreWords (ws : List (List Char)) : Prop :=
  ∀ w ∈ ws, w ≠ [] ∧ ∀ c ∈ w, isWordChar c = true

theorem plainWords_nil : plainWords [] = [] := rfl

/-- **Words end at a character that belongs to none.** -/
theorem plainWords_append_cons {c : Char} (hc : isWordChar c = false) (front back : List Char) :
    plainWords (front ++ c :: back) = plainWords front ++ plainWords back :=
  runs_append_cons (by rw [hc]; rfl) front back

theorem plainWords_cons {c : Char} (hc : isWordChar c = false) (s : List Char) :
    plainWords (c :: s) = plainWords s :=
  runs_cons (by rw [hc]; rfl) s

/-- What belongs to no word adds none at the end. -/
theorem plainWords_append {back : List Char} (hback : ∀ c ∈ back, isWordChar c = false)
    (front : List Char) : plainWords (front ++ back) = plainWords front := by
  induction back generalizing front with
  | nil => rw [List.append_nil]
  | cons c back ih =>
      obtain ⟨hc, hrest⟩ := List.forall_mem_cons.mp hback
      have hnone := ih hrest []
      rw [List.nil_append, plainWords_nil] at hnone
      rw [plainWords_append_cons hc, hnone, List.append_nil]

/-- A word is the only one in it. -/
theorem plainWords_word {w : List Char} (hne : w ≠ []) (hw : ∀ c ∈ w, isWordChar c = true) :
    plainWords w = [w] := by
  apply runs_self hne
  intro c hc
  rw [hw c hc, Bool.not_true]

/-- **A text is built from its end** by characters that belong to no word and by what stands of a
word, if anything, in front of them. -/
theorem wordwise_induction {p : List Char → Prop}
    (last : ∀ w, (∀ c ∈ w, isWordChar c = true) → p w)
    (cut : ∀ w c s, (∀ d ∈ w, isWordChar d = true) → isWordChar c = false → p s → p (w ++ c :: s))
    (s : List Char) : p s := by
  -- the characters of a word are gathered in front until one comes that belongs to none
  have hgathered : ∀ w, (∀ c ∈ w, isWordChar c = true) → p (w ++ s) := by
    induction s with
    | nil =>
        intro w hw
        rw [List.append_nil]
        exact last w hw
    | cons c s ih =>
        intro w hw
        cases hc : isWordChar c with
        | false =>
            apply cut w c s hw hc
            exact ih [] (fun d hd => absurd hd List.not_mem_nil)
        | true =>
            have hlonger : ∀ d ∈ w ++ [c], isWordChar d = true := by
              intro d hd
              rcases List.mem_append.mp hd with hd | hd
              · exact hw d hd
              · rwa [List.mem_singleton.mp hd]
            have hp := ih (w ++ [c]) hlonger
            rwa [List.append_assoc, List.singleton_append] at hp
  exact hgathered [] (fun d hd => absurd hd List.not_mem_nil)

theorem areWords_plainWords (s : List Char) : AreWords (plainWords s) := by
  have hword : ∀ w, (∀ c ∈ w, isWordChar c = true) → AreWords (plainWords w) := by
    intro w hw
    by_cases hne : w = []
    · subst hne
      simp [AreWords, plainWords_nil]
    · rw [plainWords_word hne hw]
      intro v hv
      rw [List.mem_singleton.mp hv]
      exact ⟨hne, hw⟩
  induction s using wordwise_induction with
  | last w hw => exact hword w hw
  | cut w c s hw hc ih =>
      rw [plainWords_append_cons hc]
      intro v hv
      exact (List.mem_append.mp hv).elim (hword w hw v) (ih v)

/-! ## Joined words -/

/-- **Words of plain letters and digits with exactly one space between each two**, and none at the
ends. -/
structure IsCanonical (s : List Char) : Prop where
  alphabet : ∀ c ∈ s, ('a' ≤ c ∧ c ≤ 'z') ∨ ('0' ≤ c ∧ c ≤ '9') ∨ c = ' '
  front : s.head? ≠ some ' '
  back : s.getLast? ≠ some ' '
  single : ¬ [' ', ' '] <:+: s

theorem isWordChar_iff {c : Char} :
    isWordChar c = true ↔ ('a' ≤ c ∧ c ≤ 'z') ∨ ('0' ≤ c ∧ c ≤ '9') := by
  simp [isWordChar]

theorem IsCanonical.isWordChar_or {s : List Char} (h : IsCanonical s) {c : Char} (hc : c ∈ s) :
    isWordChar c = true ∨ c = ' ' := by
  rcases h.alphabet c hc with hletter | hdigit | hspace
  · exact Or.inl (isWordChar_iff.mpr (Or.inl hletter))
  · exact Or.inl (isWordChar_iff.mpr (Or.inr hdigit))
  · exact Or.inr hspace

theorem ne_space_of_isWordChar {c : Char} (h : isWordChar c = true) : c ≠ ' ' := by
  rintro rfl
  exact absurd h (by decide)

/-- Behind a word, two spaces stand in a row if one stands behind the first. -/
theorem doubleSpace_infix_iff {w : List Char} (hw : ∀ c ∈ w, isWordChar c = true)
    (s : List Char) :
    [' ', ' '] <:+: w ++ ' ' :: s ↔ s.head? = some ' ' ∨ [' ', ' '] <:+: s := by
  induction w with
  | nil =>
      have hfirst : [' '] <+: s ↔ ∃ rest, s = ' ' :: rest := exists_congr fun rest => eq_comm
      rw [List.nil_append, List.infix_cons_iff, List.cons_prefix_cons, hfirst,
        List.head?_eq_some_iff, and_iff_right rfl]
  | cons c w ih =>
      obtain ⟨hc, hrest⟩ := List.forall_mem_cons.mp hw
      rw [List.cons_append, List.infix_cons_iff, List.cons_prefix_cons, ih hrest]
      simp [(ne_space_of_isWordChar hc).symm]

theorem getLast?_append_space (w : List Char) {s : List Char} (hne : s ≠ []) :
    (w ++ ' ' :: s).getLast? = s.getLast? := by
  rw [List.getLast?_append_of_ne_nil _ (List.cons_ne_nil ' ' s), List.getLast?_cons_of_ne_nil hne]

/-- A word is in canonical form. -/
theorem isCanonical_word {w : List Char} (hw : ∀ c ∈ w, isWordChar c = true) : IsCanonical w := by
  have hspace : ' ' ∉ w := fun hmem => ne_space_of_isWordChar (hw ' ' hmem) rfl
  constructor
  · intro c hc
    exact (isWordChar_iff.mp (hw c hc)).imp id Or.inl
  · exact fun hhead => hspace (List.mem_of_mem_head? hhead)
  · exact fun hlast => hspace (List.mem_of_getLast? hlast)
  · exact fun hdouble => hspace (hdouble.subset List.mem_cons_self)

/-- **A word with a space and more behind it** is in canonical form if it is not empty, and if there
is more, which is. -/
theorem isCanonical_append_iff {w s : List Char} (hw : ∀ c ∈ w, isWordChar c = true) :
    IsCanonical (w ++ ' ' :: s) ↔ w ≠ [] ∧ s ≠ [] ∧ IsCanonical s := by
  constructor
  · intro h
    have hsingle := h.single
    rw [doubleSpace_infix_iff hw, not_or] at hsingle
    have hne : s ≠ [] := by
      rintro rfl
      exact h.back (by simp)
    refine ⟨?_, hne, ⟨?_, hsingle.1, ?_, hsingle.2⟩⟩
    · rintro rfl
      exact h.front rfl
    · intro c hc
      exact h.alphabet c (List.mem_append_right w (List.mem_cons_of_mem ' ' hc))
    · have hback := h.back
      rwa [getLast?_append_space w hne] at hback
  · rintro ⟨hwne, hsne, h⟩
    have hword := isCanonical_word hw
    constructor
    · intro c hc
      rcases List.mem_append.mp hc with hc | hc
      · exact hword.alphabet c hc
      · rcases List.mem_cons.mp hc with rfl | hc
        · exact Or.inr (Or.inr rfl)
        · exact h.alphabet c hc
    · rw [List.head?_append_of_ne_nil _ hwne]
      exact hword.front
    · rw [getLast?_append_space w hsne]
      exact h.back
    · rw [doubleSpace_infix_iff hw, not_or]
      exact ⟨h.front, h.single⟩

theorem intercalate_ne_nil {ws : List (List Char)} (h : AreWords ws) (hne : ws ≠ []) :
    [' '].intercalate ws ≠ [] := by
  cases ws with
  | nil => exact absurd rfl hne
  | cons w ws =>
      have hw := (h w List.mem_cons_self).1
      cases ws with
      | nil => rwa [List.intercalate_singleton]
      | cons v ws => simp [List.intercalate_cons_cons, hw]

/-- A word and a space in front of joined words join it to them. -/
theorem intercalate_cons (w : List Char) {ws : List (List Char)} (hne : ws ≠ []) :
    [' '].intercalate (w :: ws) = w ++ ' ' :: [' '].intercalate ws := by
  obtain ⟨v, vs, rfl⟩ := List.exists_cons_of_ne_nil hne
  rw [List.intercalate_cons_cons, List.append_assoc, List.singleton_append]

/-- **Joined words are in canonical form.** -/
theorem isCanonical_intercalate {ws : List (List Char)} (h : AreWords ws) :
    IsCanonical ([' '].intercalate ws) := by
  induction ws with
  | nil => exact isCanonical_word fun c hc => absurd hc List.not_mem_nil
  | cons w ws ih =>
      obtain ⟨⟨hwne, hw⟩, hrest⟩ := List.forall_mem_cons.mp h
      by_cases hne : ws = []
      · rw [hne, List.intercalate_singleton]
        exact isCanonical_word hw
      · rw [intercalate_cons w hne, isCanonical_append_iff hw]
        exact ⟨hwne, intercalate_ne_nil hrest hne, ih hrest⟩

/-- **A text in canonical form is joined from its words.** -/
theorem intercalate_plainWords {s : List Char} (h : IsCanonical s) :
    [' '].intercalate (plainWords s) = s := by
  induction s using wordwise_induction with
  | last w hw =>
      by_cases hne : w = []
      · rw [hne, plainWords_nil, List.intercalate_nil]
      · rw [plainWords_word hne hw, List.intercalate_singleton]
  | cut w c s hw hc ih =>
      -- the only character of the form that belongs to no word is the space
      obtain rfl : c = ' ' := by
        have hmem : c ∈ w ++ c :: s := List.mem_append_right w List.mem_cons_self
        rcases h.isWordChar_or hmem with hword | hspace
        · exact absurd hword (by simp [hc])
        · exact hspace
      obtain ⟨hwne, hsne, hs⟩ := (isCanonical_append_iff hw).mp h
      have hjoined := ih hs
      have hwords : plainWords s ≠ [] := by
        intro hnil
        rw [hnil, List.intercalate_nil] at hjoined
        exact hsne hjoined.symm
      rw [plainWords_append_cons hc, plainWords_word hwne hw, List.singleton_append,
        intercalate_cons w hwords, hjoined]

/-- Two texts with a space between them, or just one if the other is empty. -/
def spaceBetween (front back : List Char) : List Char :=
  if front.isEmpty then back
  else if back.isEmpty then front
  else front ++ ' ' :: back

theorem intercalate_append {ws vs : List (List Char)} (hws : AreWords ws) (hvs : AreWords vs) :
    [' '].intercalate (ws ++ vs) = spaceBetween ([' '].intercalate ws) ([' '].intercalate vs) := by
  by_cases hv : vs = []
  · subst hv
    rw [List.append_nil, List.intercalate_nil, spaceBetween]
    cases [' '].intercalate ws <;> rfl
  have hback := intercalate_ne_nil hvs hv
  induction ws with
  | nil => rfl
  | cons w ws ih =>
      have hfront := intercalate_ne_nil hws (List.cons_ne_nil w ws)
      have hrest : AreWords ws := (List.forall_mem_cons.mp hws).2
      rw [spaceBetween, if_neg (by simpa using hfront), if_neg (by simpa using hback),
        List.cons_append, intercalate_cons w (by simp [hv]), ih hrest]
      by_cases hne : ws = []
      · rw [hne, List.intercalate_nil, List.intercalate_singleton]
        rfl
      · have hmiddle := intercalate_ne_nil hrest hne
        rw [intercalate_cons w hne, spaceBetween, if_neg (by simpa using hmiddle),
          if_neg (by simpa using hback), List.append_assoc, List.cons_append]

/-! ## The passes -/

theorem toNat_of_isWordChar {c : Char} (h : isWordChar c = true) : c.toNat < 0x80 := by
  rcases isWordChar_iff.mp h with ⟨-, hz⟩ | ⟨-, hnine⟩
  · exact Nat.lt_of_le_of_lt hz (by decide)
  · exact Nat.lt_of_le_of_lt hnine (by decide)

theorem isBlank_of_isWordChar {c : Char} (h : isWordChar c = true) : isBlank c = false :=
  ascii_induction (p := fun c => isWordChar c = true → isBlank c = false) (by decide +kernel)
    (toNat_of_isWordChar h) h

theorem toLower_of_isWordChar {c : Char} (h : isWordChar c = true) : c.toLower = c :=
  ascii_induction (p := fun c => isWordChar c = true → c.toLower = c) (by decide +kernel)
    (toNat_of_isWordChar h) h

/-- A character of ASCII that is no letter or digit belongs to no word. -/
theorem isWordChar_toLower {c : Char} (h : c.toNat < 0x80) (hc : c.isAlphanum = false) :
    isWordChar c.toLower = false :=
  ascii_induction (p := fun c => c.isAlphanum = false → isWordChar c.toLower = false)
    (by decide +kernel) h hc

theorem isWordChar_of_isBlank {c : Char} (h : isBlank c = true) : isWordChar c = false := by
  rw [Bool.eq_false_iff]
  intro hword
  rw [isBlank_of_isWordChar hword] at h
  exact absurd h (by simp)

theorem plainWords_trimStart (s : List Char) : plainWords (trimStart s) = plainWords s := by
  induction s with
  | nil => rfl
  | cons c s ih =>
      cases hc : isBlank c with
      | false => rw [trimStart_cons_of_not_blank hc]
      | true =>
          rw [plainWords_cons (isWordChar_of_isBlank hc), ← ih, trimStart,
            List.dropWhile_cons_of_pos hc, trimStart]

theorem plainWords_trimEnd (s : List Char) : plainWords (trimEnd s) = plainWords s := by
  obtain ⟨blanks, hblanks, heq⟩ := exists_trimEnd_append s
  have hnone := plainWords_append (fun c hc => isWordChar_of_isBlank (hblanks c hc)) (trimEnd s)
  rw [← hnone, heq]

/-- Trimming takes no part of a word away. -/
theorem plainWords_trim (s : List Char) : plainWords (trim s) = plainWords s := by
  rw [trim, plainWords_trimEnd, plainWords_trimStart]

/-- **A cleared text has the words of the text**, between blanks. -/
theorem words_map_blankOut (s : List Char) : words (s.map blankOut) = plainWords s := by
  have hsplit : (s.map blankOut).splitOnP isBlank = s.splitOnP fun c => !isWordChar c := by
    induction s with
    | nil => rfl
    | cons c s ih =>
        rw [List.map_cons, List.splitOnP_cons_eq_if_modifyHead,
          List.splitOnP_cons_eq_if_modifyHead, ih]
        cases hword : isWordChar c with
        | true =>
            have hkept : blankOut c = c := by simp [blankOut, hword]
            rw [hkept, isBlank_of_isWordChar hword, Bool.not_true]
        | false =>
            have hblank : isBlank (blankOut c) = true := by
              rw [blankOut, hword, Bool.false_or]
              split
              · assumption
              · decide
            rw [hblank, Bool.not_false, if_pos rfl, if_pos rfl]
  rw [words, hsplit, plainWords, runs]

variable {spelling : Spelling}

/-- The words that a text is reduced to are those of its spelling in lower case. -/
theorem searchText_eq (h : SpellsInAscii spelling) (s : List Char) :
    searchText spelling s
      = [' '].intercalate (plainWords ((spell spelling s).map Char.toLower)) := by
  have hascii : ∀ c ∈ spell spelling s, c.toNat < 0x80 := by
    intro c hc
    obtain ⟨d, -, hd⟩ := List.mem_flatMap.mp hc
    exact h.ascii d c hd
  rw [searchText, words_map_blankOut, plainWords_trim, lowerCase_of_ascii hascii]

/-- A text in canonical form is spelled by itself, and is in lower case. -/
theorem IsCanonical.map_toLower_spell {s : List Char} (hs : IsCanonical s)
    (h : SpellsInAscii spelling) : (spell spelling s).map Char.toLower = s := by
  have hchar : ∀ c ∈ s, (spelling c).map Char.toLower = [c] := by
    intro c hc
    rcases hs.isWordChar_or hc with hword | rfl
    · rw [h.keeps c (toNat_of_isWordChar hword), List.map_singleton, toLower_of_isWordChar hword]
    · rw [h.keeps ' ' (by decide)]
      rfl
  rw [spell, List.map_flatMap, List.flatMap_congr hchar, List.flatMap_singleton']

/-- So the passes leave it alone. -/
theorem searchText_of_isCanonical (h : SpellsInAscii spelling) {s : List Char}
    (hs : IsCanonical s) : searchText spelling s = s := by
  rw [searchText_eq h, hs.map_toLower_spell h, intercalate_plainWords hs]

/-! ## The canonical form -/

/-- **The form in which texts are compared is canonical.** However characters are spelled in ASCII,
a text is reduced to words with single spaces between them, a text of this form is left alone, so
that a second reduction changes nothing, and a text that is cut at punctuation, a blank or another
character of ASCII that is no letter or digit is reduced to what its two parts are reduced to, with
a space between them. -/
theorem searchText_canonical (spelling : Spelling) (h : SpellsInAscii spelling) :
    (∀ s, IsCanonical (searchText spelling s)
      ∧ searchText spelling (searchText spelling s) = searchText spelling s
      ∧ (IsCanonical s → searchText spelling s = s))
    ∧ ∀ front c back, c.toNat < 0x80 → c.isAlphanum = false →
      searchText spelling (front ++ c :: back)
        = spaceBetween (searchText spelling front) (searchText spelling back) := by
  refine ⟨fun s => ?_, ?_⟩
  · have hcanonical : IsCanonical (searchText spelling s) := by
      rw [searchText_eq h]
      exact isCanonical_intercalate (areWords_plainWords _)
    exact ⟨hcanonical, searchText_of_isCanonical h hcanonical, searchText_of_isCanonical h⟩
  · intro front c back hascii hc
    have hword := isWordChar_toLower hascii hc
    have hcut : (spell spelling (front ++ c :: back)).map Char.toLower
        = (spell spelling front).map Char.toLower
          ++ c.toLower :: (spell spelling back).map Char.toLower := by
      rw [spell, List.flatMap_append, List.flatMap_cons, h.keeps c hascii, List.singleton_append,
        List.map_append, List.map_cons]
      rfl
    rw [searchText_eq h, searchText_eq h, searchText_eq h, hcut, plainWords_append_cons hword,
      intercalate_append (areWords_plainWords _) (areWords_plainWords _)]

/-- Letters that are spelled by two or by a word of their own, cut by separators that are blanks or
are not, and a part of which nothing is left. -/
theorem searchText_canonical_strasse :
    SpellsInAscii spellChar
    ∧ ('\x1c'.toNat < 0x80 ∧ '\x1c'.isAlphanum = false)
    ∧ searchText spellChar "Straße\x1c日本".toList = "strasse ri ben".toList
    ∧ searchText spellChar "-/\x1cÇa".toList = "ca".toList
    ∧ IsCanonical "strasse ri ben".toList
    ∧ searchText spellChar "strasse ri ben".toList = "strasse ri ben".toList := by
  obtain ⟨hform, hcut⟩ := searchText_canonical spellChar spellsInAscii_spellChar
  have hmark : '\x1c'.toNat < 0x80 ∧ '\x1c'.isAlphanum = false := by decide
  have hstrasse : searchText spellChar "Straße\x1c日本".toList = "strasse ri ben".toList := by
    refine (hcut "Straße".toList '\x1c' "日本".toList hmark.1 hmark.2).trans ?_
    decide +kernel
  have hca : searchText spellChar "-/\x1cÇa".toList = "ca".toList := by
    refine (hcut "-/".toList '\x1c' "Ça".toList hmark.1 hmark.2).trans ?_
    decide +kernel
  have hcanonical : IsCanonical "strasse ri ben".toList := by
    rw [← hstrasse]
    exact (hform _).1
  exact ⟨spellsInAscii_spellChar, hmark, hstrasse, hca, hcanonical, (hform _).2.2 hcanonical⟩

end Shortlink
