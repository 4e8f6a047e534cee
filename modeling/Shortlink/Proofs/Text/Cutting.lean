import Mathlib.Data.List.TakeWhile

/-!
# Cutting texts

A text is cut at the first character of a kind by taking what stands in front of it and dropping the
same. Where the text was put together at such a character, the cut gives back both parts
(`takeWhile_cut`, `dropWhile_cut`). A text that was put together from parts consists of what they
hold and of what was put between them (`mem_of_mem_intercalate`). Cut at every character of a kind,
a text falls into the runs between them, those in front of any one cut and those behind it
(`runs_append_cons`).
-/

namespace Shortlink.Text

variable {p : Char → Bool} {front back : List Char} {c : Char}

/-- What is in front of the cut. -/
theorem takeWhile_cut (hfront : ∀ a ∈ front, p a = true) (hstop : p c = false) :
    (front ++ c :: back).takeWhile p = front := by
  rw [List.takeWhile_append_of_pos hfront, List.takeWhile_cons_of_neg (by simp [hstop]),
    List.append_nil]

/-- What is at the cut and behind it. -/
theorem dropWhile_cut (hfront : ∀ a ∈ front, p a = true) (hstop : p c = false) :
    (front ++ c :: back).dropWhile p = c :: back := by
  rw [List.dropWhile_append_of_pos hfront, List.dropWhile_cons_of_neg (by simp [hstop])]

/-- A text without a character is cut nowhere at it. -/
theorem bne_of_not_mem (h : c ∉ front) : ∀ a ∈ front, (a != c) = true := by
  intro a ha
  refine bne_iff_ne.mpr ?_
  rintro rfl
  exact h ha

/-- What stands in a text that is put together stands between the parts or in one of them. -/
theorem mem_of_mem_intercalate {between : List Char} {parts : List (List Char)}
    (h : c ∈ List.intercalate between parts) : c ∈ between ∨ ∃ part ∈ parts, c ∈ part := by
  induction parts with
  | nil => exact absurd h List.not_mem_nil
  | cons part parts ih =>
      cases parts with
      | nil =>
          rw [List.intercalate_singleton] at h
          exact Or.inr ⟨part, List.mem_cons_self, h⟩
      | cons part' parts =>
          rw [List.intercalate_cons_cons, List.mem_append, List.mem_append] at h
          rcases h with (hfirst | hbetween) | hrest
          · exact Or.inr ⟨part, List.mem_cons_self, hfirst⟩
          · exact Or.inl hbetween
          · exact (ih hrest).imp id fun ⟨p, hp, hc⟩ => ⟨p, List.mem_cons_of_mem _ hp, hc⟩

/-- The maximal runs of characters that are not of the kind, in order. -/
def runs (p : Char → Bool) (s : List Char) : List (List Char) :=
  (s.splitOnP p).filter fun run => !run.isEmpty

theorem runs_nil : runs p [] = [] := rfl

/-- **A character of the kind parts the runs** in front of it from those behind it. -/
theorem runs_append_cons (hc : p c = true) (front back : List Char) :
    runs p (front ++ c :: back) = runs p front ++ runs p back := by
  unfold runs
  rw [List.splitOnP_append_cons front back hc, List.filter_append]

theorem runs_cons (hc : p c = true) (s : List Char) : runs p (c :: s) = runs p s := by
  have hruns := runs_append_cons hc [] s
  rwa [List.nil_append, runs_nil, List.nil_append] at hruns

/-- A text with no character of the kind is a single run. -/
theorem runs_self (hne : front ≠ []) (hfront : ∀ a ∈ front, p a = false) :
    runs p front = [front] := by
  rw [runs, List.splitOnP_eq_singleton hfront]
  simp [hne]

end Shortlink.Text
