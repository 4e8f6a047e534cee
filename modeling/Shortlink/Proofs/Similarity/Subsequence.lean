import Mathlib.Data.List.Basic
import Shortlink.Similarity.Subsequence

/-!
# Longest common subsequences

The rows hold what they are meant to hold: when some characters of the second text have been read,
each entry is the length of the longest text that can be had from them and from the start of the
first text up to the place of the entry (`IsRow`). One more character keeps that (`IsRow.next`), so
the last entry of the last row is the length for both texts (`isLongest_lcs`).

## Contents

- `IsLongest`, `IsLongest.of_eq`, `IsLongest.of_ne`: lengths for texts that grow by a character.
- `IsRow`, `IsRow.next`, `isRow_foldl`: rows.
- `isLongest_lcs`, `lcs_self`, `editDistance_self`, `editDistance_le`.
-/

namespace Shortlink.Similarity

/-! ## Lengths -/

/-- **The number is the length of a longest common subsequence** of two texts. -/
structure IsLongest (n : Nat) (s t : List Char) : Prop where
  reached : ∃ u : List Char, u.Sublist s ∧ u.Sublist t ∧ u.length = n
  bound : ∀ u : List Char, u.Sublist s → u.Sublist t → u.length ≤ n

theorem isLongest_nil_left (t : List Char) : IsLongest 0 [] t where
  reached := ⟨[], List.Sublist.refl _, List.nil_sublist t, rfl⟩
  bound := by
    intro u hs _
    rw [List.sublist_nil.mp hs]
    exact Nat.le_refl 0

theorem isLongest_nil_right (s : List Char) : IsLongest 0 s [] where
  reached := ⟨[], List.nil_sublist s, List.Sublist.refl _, rfl⟩
  bound := by
    intro u _ ht
    rw [List.sublist_nil.mp ht]
    exact Nat.le_refl 0

/-- A subsequence of a text that ends in `c` does without the end, or it ends in `c` as well. -/
theorem sublist_concat_iff {u s : List Char} {c : Char} :
    u.Sublist (s ++ [c]) ↔ u.Sublist s ∨ ∃ v, u = v ++ [c] ∧ v.Sublist s := by
  rw [List.sublist_append_iff]
  constructor
  · rintro ⟨v, w, rfl, hv, hw⟩
    rcases List.sublist_singleton.mp hw with rfl | rfl
    · exact Or.inl (by rwa [List.append_nil])
    · exact Or.inr ⟨v, rfl, hv⟩
  · rintro (h | ⟨v, rfl, hv⟩)
    · exact ⟨u, [], (List.append_nil u).symm, h, List.nil_sublist _⟩
    · exact ⟨v, [c], rfl, hv, List.Sublist.refl _⟩

variable {s t : List Char} {x c : Char}

/-- Texts that end alike have a common subsequence that is longer by their end. -/
theorem IsLongest.of_eq {n : Nat} (h : IsLongest n s t) :
    IsLongest (n + 1) (s ++ [c]) (t ++ [c]) where
  reached := by
    obtain ⟨u, hs, ht, rfl⟩ := h.reached
    have hend := List.Sublist.refl [c]
    exact ⟨u ++ [c], hs.append hend, ht.append hend, List.length_append⟩
  bound := by
    intro u hs ht
    have hdrop : ∀ r, u.Sublist (r ++ [c]) → u.dropLast.Sublist r := by
      intro r hr
      rcases sublist_concat_iff.mp hr with hr | ⟨v, rfl, hv⟩
      · exact (List.dropLast_sublist u).trans hr
      · rwa [List.dropLast_concat]
    have hle := h.bound u.dropLast (hdrop s hs) (hdrop t ht)
    rw [List.length_dropLast] at hle
    omega

/-- Of texts that end in different characters, one of the two ends is of no use. -/
theorem IsLongest.of_ne {up left : Nat} (hup : IsLongest up (s ++ [x]) t)
    (hleft : IsLongest left s (t ++ [c])) (hne : x ≠ c) :
    IsLongest (max up left) (s ++ [x]) (t ++ [c]) where
  reached := by
    rcases Nat.le_total left up with hle | hle
    · obtain ⟨u, hs, ht, rfl⟩ := hup.reached
      exact ⟨u, hs, ht.trans (List.sublist_append_left t [c]), (Nat.max_eq_left hle).symm⟩
    · obtain ⟨u, hs, ht, rfl⟩ := hleft.reached
      exact ⟨u, hs.trans (List.sublist_append_left s [x]), ht, (Nat.max_eq_right hle).symm⟩
  bound := by
    intro u hs ht
    rcases sublist_concat_iff.mp ht with ht' | ⟨v, rfl, -⟩
    · exact Nat.le_trans (hup.bound u hs ht') (Nat.le_max_left _ _)
    · rcases sublist_concat_iff.mp hs with hs' | ⟨w, heq, -⟩
      · exact Nat.le_trans (hleft.bound _ hs' ht) (Nat.le_max_right _ _)
      · -- it would end in both characters
        exact absurd (List.append_inj_right' heq rfl) (by simpa using Ne.symm hne)

/-! ## Rows -/

/-- **A row for the text `t`**: for each character of a text behind the start `p`, the length of the
longest common subsequence of `t` and the start up to that character. -/
inductive IsRow (t : List Char) : List Char → List Char → List Nat → Prop where
  | nil (p : List Char) : IsRow t p [] []
  | cons {p xs : List Char} {x : Char} {n : Nat} {row : List Nat} :
    IsLongest n (p ++ [x]) t → IsRow t (p ++ [x]) xs row → IsRow t p (x :: xs) (n :: row)

theorem isRow_replicate (p xs : List Char) : IsRow [] p xs (List.replicate xs.length 0) := by
  induction xs generalizing p with
  | nil => exact .nil p
  | cons x xs ih => exact .cons (isLongest_nil_right _) (ih _)

/-- **The next row is a row for one more character.** -/
theorem IsRow.next {p xs : List Char} {ups : List Nat} (h : IsRow t p xs ups) :
    ∀ {diagonal left : Nat}, IsLongest diagonal p t → IsLongest left p (t ++ [c]) →
      IsRow (t ++ [c]) p xs (lcsRow c xs ups diagonal left) := by
  induction h with
  | nil p =>
      intro diagonal left _ _
      exact .nil p
  | @cons p xs x up ups hup _ ih =>
      intro diagonal left hdiagonal hleft
      have hhere : IsLongest (if x = c then diagonal + 1 else max up left) (p ++ [x])
          (t ++ [c]) := by
        by_cases hx : x = c
        · rw [if_pos hx, hx]
          exact hdiagonal.of_eq
        · rw [if_neg hx]
          exact hup.of_ne hleft hx
      exact .cons hhere (ih hup hhere)

theorem isRow_foldl (s : List Char) {rest : List Char} :
    ∀ {t : List Char} {row : List Nat}, IsRow t [] s row →
      IsRow (t ++ rest) [] s (rest.foldl (fun row c => lcsRow c s row 0 0) row) := by
  induction rest with
  | nil =>
      intro t row h
      rwa [List.append_nil]
  | cons c rest ih =>
      intro t row h
      have hnext := ih (h.next (c := c) (isLongest_nil_left t) (isLongest_nil_left _))
      rwa [List.append_assoc] at hnext

/-- The last entry of a row is the length for the whole text. -/
theorem IsRow.getLast? {p xs : List Char} {row : List Nat} (h : IsRow t p xs row) {n : Nat}
    (hn : IsLongest n p t) : IsLongest (row.getLast?.getD n) (p ++ xs) t := by
  induction h generalizing n with
  | nil p => rwa [List.append_nil]
  | @cons p xs x m row hm _ ih =>
      have hlast := ih hm
      rw [List.append_assoc] at hlast
      rw [List.getLast?_cons]
      exact hlast

/-! ## The distance of texts -/

/-- **The last row ends with the length of the longest common subsequence** of the two texts. -/
theorem isLongest_lcs (s t : List Char) : IsLongest (lcs s t) s t :=
  (isRow_foldl s (isRow_replicate [] s)).getLast? (isLongest_nil_left t)

theorem lcs_self (s : List Char) : lcs s s = s.length := by
  have hlongest := isLongest_lcs s s
  obtain ⟨u, hu, -, hlength⟩ := hlongest.reached
  have hle := hu.length_le
  have hge := hlongest.bound s (List.Sublist.refl s) (List.Sublist.refl s)
  omega

theorem editDistance_self (s : List Char) : editDistance s s = 0 := by
  rw [editDistance, lcs_self]
  omega

theorem editDistance_le (s t : List Char) : editDistance s t ≤ s.length + t.length :=
  Nat.sub_le _ _

end Shortlink.Similarity
