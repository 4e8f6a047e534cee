/-!
# Replacing a marker

Every occurrence of a marker in a text is replaced, from left to right and without overlaps.

## Contents

- `replaceAll`, with its equations.
-/

namespace Shortlink.Text

/-- Puts `value` in the place of each occurrence of the non-empty `marker`. -/
def replaceAll (marker value : List Char) : List Char → List Char
  | [] => []
  | c :: rest =>
    if marker.isPrefixOf (c :: rest) then
      value ++ replaceAll marker value (rest.drop (marker.length - 1))
    else c :: replaceAll marker value rest
termination_by s => s.length
decreasing_by
  · simp only [List.length_drop, List.length_cons]; omega
  · simp

theorem replaceAll_nil (marker value : List Char) : replaceAll marker value [] = [] := by
  rw [replaceAll]

/-- A text that does not start with the marker keeps its first character. -/
theorem replaceAll_cons_of_apart {marker value : List Char} {c : Char} {rest : List Char}
    (h : ¬ marker <+: c :: rest) :
    replaceAll marker value (c :: rest) = c :: replaceAll marker value rest := by
  rw [replaceAll, if_neg (by simpa using h)]

/-- A marker in front is replaced. -/
theorem replaceAll_append {marker value rest : List Char} (h : marker ≠ []) :
    replaceAll marker value (marker ++ rest) = value ++ replaceAll marker value rest := by
  obtain ⟨m, ms, rfl⟩ := List.exists_cons_of_ne_nil h
  rw [List.cons_append, replaceAll, if_pos (by simp)]
  simp

end Shortlink.Text
