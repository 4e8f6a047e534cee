import Shortlink.Proofs.Text.LowerCase
import Shortlink.Redirect

/-!
# Laws of aliases

The stored form of an alias never begins with a slash and is in lower case. A second pass of
`Alias.normalize` can still change it: once the slashes in front are gone, a blank behind them has
come to the front. That is the only way: an alias is **stable** just when no blank follows the
slashes in front of it (`isStable_iff`).

An alias that a path can reach has no blank in its stored form, so it is stable. The record of a
stable alias answers to the stored form behind any number of slashes (`normalize_normalize_iff`).

## Contents

- `trim_of_ends`, `trim_of_forall`, `getLast?_trim`, `exists_trimEnd_append`,
  `trimEnd_append_blanks`: trimming.
- `head?_normalizeChars`, `getLast?_normalizeChars`, `normalizeChars_eq_self`: the form of what is
  stored.
- `normalizeChars_slashes`: slashes in front of a stored form.
- `IsStable`, `hidesBlank`; `isStable_iff`, `isStable_of_isRoutable`.
- `slashed`, `normalize_slashed`; `normalize_normalize_iff`.
-/

namespace Shortlink

open Text

namespace Text

/-! ## Trimming -/

/-- A text whose first character is not to be dropped stays as it is. -/
theorem dropWhile_of_head {p : Char → Bool} {s : List Char} (h : s.head?.any p = false) :
    s.dropWhile p = s := by
  cases s with
  | nil => rfl
  | cons c rest => exact List.dropWhile_cons_of_neg (by simpa using h)

theorem head?_dropWhile (p : Char → Bool) (s : List Char) :
    (s.dropWhile p).head?.any p = false := by
  have hnot := List.head?_dropWhile_not p s
  cases hd : (s.dropWhile p).head? with
  | none => rfl
  | some c =>
      rw [hd] at hnot
      simpa using hnot

section

variable {p : Char → Bool} {s : List Char} (h : ∀ c ∈ s, p c = false)

include h

theorem head?_any_of_forall : s.head?.any p = false := by
  cases s with
  | nil => rfl
  | cons c rest => exact h c List.mem_cons_self

theorem getLast?_any_of_forall : s.getLast?.any p = false := by
  rw [← List.head?_reverse]
  exact head?_any_of_forall fun c hc => h c (List.mem_reverse.mp hc)

end

/-- Dropping characters in front leaves the end of a text, if there is anything left. -/
theorem getLast?_dropWhile {p q : Char → Bool} {s : List Char} (h : s.getLast?.any q = false) :
    (s.dropWhile p).getLast?.any q = false := by
  have hcut : (s.takeWhile p ++ s.dropWhile p).getLast?.any q = false := by
    rw [List.takeWhile_append_dropWhile, h]
  rw [List.getLast?_append] at hcut
  cases hd : (s.dropWhile p).getLast? with
  | none => rfl
  | some c =>
      rw [hd] at hcut
      exact hcut

/-- A trimmed text does not end in a blank. -/
theorem getLast?_trim (s : List Char) : (trim s).getLast?.any isBlank = false := by
  rw [trim, trimEnd, List.getLast?_reverse]
  exact head?_dropWhile isBlank _

/-- A text with no blank at its ends has none to trim. -/
theorem trim_of_ends {s : List Char} (hfront : s.head?.any isBlank = false)
    (hback : s.getLast?.any isBlank = false) : trim s = s := by
  have hrev : s.reverse.head?.any isBlank = false := by rw [List.head?_reverse, hback]
  rw [trim, trimStart, dropWhile_of_head hfront, trimEnd, dropWhile_of_head hrev,
    List.reverse_reverse]

theorem trim_of_forall {s : List Char} (h : ∀ c ∈ s, isBlank c = false) : trim s = s :=
  trim_of_ends (head?_any_of_forall h) (getLast?_any_of_forall h)

/-- Trimming the end leaves a beginning of the text. -/
theorem trimEnd_isPrefix (s : List Char) : trimEnd s <+: s := by
  have hsuffix := List.dropWhile_suffix isBlank (l := s.reverse)
  rwa [← List.reverse_prefix, List.reverse_reverse] at hsuffix

/-- In front of something that does not end in a blank, nothing is trimmed at the end. -/
theorem trimEnd_append {front : List Char} (h : front.getLast?.any isBlank = false)
    (back : List Char) : trimEnd (front ++ back) = front ++ trimEnd back := by
  have hrev : front.reverse.dropWhile isBlank = front.reverse :=
    dropWhile_of_head (by rwa [List.head?_reverse])
  rw [trimEnd, trimEnd, List.reverse_append, List.dropWhile_append, hrev]
  split
  · rename_i hempty
    rw [List.isEmpty_iff.mp hempty, List.reverse_reverse, List.reverse_nil, List.append_nil]
  · rw [List.reverse_append, List.reverse_reverse]

/-- Trimming the end drops nothing but blanks. -/
theorem exists_trimEnd_append (s : List Char) :
    ∃ blanks, (∀ c ∈ blanks, isBlank c = true) ∧ trimEnd s ++ blanks = s := by
  refine ⟨(s.reverse.takeWhile isBlank).reverse, fun c hc => ?_, ?_⟩
  · exact List.all_eq_true.mp List.all_takeWhile c (List.mem_reverse.mp hc)
  · rw [trimEnd, ← List.reverse_append, List.takeWhile_append_dropWhile, List.reverse_reverse]

/-- Blanks put behind a text are dropped with those at its end. -/
theorem trimEnd_append_blanks {blanks : List Char} (h : ∀ c ∈ blanks, isBlank c = true)
    (s : List Char) : trimEnd (s ++ blanks) = trimEnd s := by
  have hrev : ∀ c ∈ blanks.reverse, isBlank c = true := fun c hc => h c (List.mem_reverse.mp hc)
  rw [trimEnd, List.reverse_append, List.dropWhile_append_of_pos hrev, trimEnd]

theorem length_dropWhile_le (p : Char → Bool) (s : List Char) :
    (s.dropWhile p).length ≤ s.length :=
  (List.dropWhile_sublist p).length_le

/-- Trimming shortens a text that begins with a blank. -/
theorem length_trim_lt {c : Char} {rest : List Char} (h : isBlank c = true) :
    (trim (c :: rest)).length < (c :: rest).length := by
  have hback := length_dropWhile_le isBlank (trimStart (c :: rest)).reverse
  have hfront : (trimStart (c :: rest)).length ≤ rest.length := by
    rw [trimStart, List.dropWhile_cons_of_pos h]
    exact length_dropWhile_le isBlank rest
  rw [List.length_reverse] at hback
  rw [trim, trimEnd, List.length_reverse, List.length_cons]
  omega

theorem mem_of_mem_trim {s : List Char} {c : Char} (h : c ∈ trim s) : c ∈ s := by
  rw [trim, trimEnd, List.mem_reverse] at h
  have hrev := (List.dropWhile_sublist _).subset h
  exact (List.dropWhile_sublist _).subset (List.mem_reverse.mp hrev)

end Text

namespace Alias

/-! ## The stored form -/

/-- The stored form of an alias does not begin with a slash. -/
theorem head?_normalizeChars (s : List Char) : (normalizeChars s).head?.any (· == '/') = false := by
  rw [normalizeChars, isCaseBlind_slash.head?_lowerCase]
  exact head?_dropWhile _ _

theorem head?_normalize (aliasName : String) : (normalize aliasName).toList.head? ≠ some '/' := by
  intro h
  have hslash := head?_normalizeChars aliasName.toList
  rw [normalize, String.toList_ofList] at h
  rw [h] at hslash
  exact absurd hslash (by decide)

/-- The stored form of an alias does not end in a blank. -/
theorem getLast?_normalizeChars (s : List Char) :
    (normalizeChars s).getLast?.any isBlank = false := by
  rw [normalizeChars, lowerCase, isCaseBlind_isBlank.getLast?_lowerFrom]
  exact getLast?_dropWhile (getLast?_trim s)

/-- Every part of the stored form of an alias is in lower case. -/
theorem lowerCase_of_subset_normalizeChars {s t : List Char} (h : ∀ c ∈ t, c ∈ normalizeChars s) :
    lowerCase t = t :=
  lowerFrom_of_isLower fun c hc => isLower_of_mem_lowerFrom (h c hc)

/-- A text in lower case without blanks, and without a slash in front, is in the stored form. -/
theorem normalizeChars_eq_self {s : List Char} (hblank : ∀ c ∈ s, isBlank c = false)
    (hslash : s.head?.any (· == '/') = false) (hlower : ∀ c ∈ s, IsLower c) :
    normalizeChars s = s := by
  rw [normalizeChars, trim_of_forall hblank, dropWhile_of_head hslash]
  exact lowerFrom_of_isLower hlower

/-! ## Stable aliases -/

/-- **A stable alias**: bringing its stored form into the stored form changes nothing. -/
def IsStable (aliasName : String) : Prop :=
  normalize (normalize aliasName) = normalize aliasName

instance (aliasName : String) : Decidable (IsStable aliasName) :=
  inferInstanceAs (Decidable (normalize (normalize aliasName) = normalize aliasName))

/-- Slashes in front of the alias hide a blank that follows them. -/
def hidesBlank (aliasName : String) : Bool :=
  ((trim aliasName.toList).dropWhile (· == '/')).head?.any isBlank

theorem hidesBlank_eq_head? (aliasName : String) :
    hidesBlank aliasName = (normalizeChars aliasName.toList).head?.any isBlank :=
  (isCaseBlind_isBlank.head?_lowerCase _).symm

/-- A stored form with no blank in front stays as it is, whatever slashes are put in front of it. -/
theorem normalizeChars_slashes {s : List Char}
    (h : (normalizeChars s).head?.any isBlank = false) (slashes : Nat) :
    normalizeChars (List.replicate slashes '/' ++ normalizeChars s) = normalizeChars s := by
  have hfront : (List.replicate slashes '/' ++ normalizeChars s).head?.any isBlank = false := by
    cases slashes with
    | zero => exact h
    | succ n => rfl
  have hback : (List.replicate slashes '/' ++ normalizeChars s).getLast?.any isBlank = false := by
    rw [List.getLast?_append]
    cases hlast : (normalizeChars s).getLast? with
    | none => cases slashes <;> simp [List.getLast?_replicate, isBlank]
    | some c =>
        have hplain := getLast?_normalizeChars s
        rwa [hlast] at hplain
  rw [normalizeChars, trim_of_ends hfront hback, List.dropWhile_append_of_pos (by simp),
    dropWhile_of_head (head?_normalizeChars s)]
  exact lowerCase_lowerCase _

/-- A stored form with a blank in front gets shorter. -/
theorem length_normalizeChars_lt {s : List Char}
    (h : (normalizeChars s).head?.any isBlank = true) :
    (normalizeChars (normalizeChars s)).length < (normalizeChars s).length := by
  -- what the second pass leaves is a part of the first form, so lower-casing keeps its length
  have hpart : ∀ c ∈ (trim (normalizeChars s)).dropWhile (· == '/'), c ∈ normalizeChars s :=
    fun c hc => mem_of_mem_trim ((List.dropWhile_sublist _).subset hc)
  have hlower : normalizeChars (normalizeChars s)
      = (trim (normalizeChars s)).dropWhile (· == '/') :=
    lowerCase_of_subset_normalizeChars hpart
  have hdrop := length_dropWhile_le (· == '/') (trim (normalizeChars s))
  have htrim : (trim (normalizeChars s)).length < (normalizeChars s).length := by
    cases hn : normalizeChars s with
    | nil =>
        rw [hn] at h
        exact absurd h (by decide)
    | cons c rest =>
        rw [hn] at h
        exact length_trim_lt h
  rw [hlower]
  omega

/-- **An alias is stable just when its slashes hide no blank.** -/
theorem isStable_iff (aliasName : String) : IsStable aliasName ↔ hidesBlank aliasName = false := by
  have hstable : IsStable aliasName ↔ normalizeChars (normalizeChars aliasName.toList)
      = normalizeChars aliasName.toList := by
    rw [IsStable, normalize, normalize, String.toList_ofList, String.ofList_inj]
  rw [hstable, hidesBlank_eq_head?]
  constructor
  · intro heq
    cases hblank : (normalizeChars aliasName.toList).head?.any isBlank with
    | false => rfl
    | true =>
        have hlt := length_normalizeChars_lt hblank
        rw [heq] at hlt
        exact absurd hlt (Nat.lt_irrefl _)
  · exact fun hplain => normalizeChars_slashes hplain 0

example : normalize "/ wiki" = " wiki" ∧ normalize " wiki" = "wiki" := by decide +kernel

/-- **An alias that a path can reach is stable.** -/
theorem isStable_of_isRoutable {aliasName : String} (h : isRoutable aliasName = true) :
    IsStable aliasName := by
  rw [isStable_iff, hidesBlank_eq_head?]
  simp only [isRoutable, Bool.and_eq_true, Bool.not_eq_true', List.any_eq_false] at h
  cases hn : normalizeChars aliasName.toList with
  | nil => rfl
  | cons c rest => exact Bool.eq_false_iff.mpr (h.2 c (hn ▸ List.mem_cons_self))

/-! ## What the record of an alias answers to -/

/-- An alias behind slashes. -/
def slashed (slashes : Nat) (aliasName : String) : String :=
  String.ofList (List.replicate slashes '/' ++ aliasName.toList)

/-- **The stored form of a stable alias absorbs slashes in front of it.** -/
theorem normalize_slashed {aliasName : String} (h : IsStable aliasName) (slashes : Nat) :
    normalize (slashed slashes (normalize aliasName)) = normalize aliasName := by
  have hblank := (isStable_iff aliasName).mp h
  rw [hidesBlank_eq_head?] at hblank
  rw [slashed, normalize, normalize, String.toList_ofList, String.toList_ofList,
    normalizeChars_slashes hblank]

/-- **Normalizing a second time changes nothing exactly if** an alias, once the blanks around it and
then the slashes in front are gone, does not begin with a blank. That is so for every alias that a
path can reach; and whenever it is so, a record that is made for the alias is stored under the
normalized alias and answers to the alias itself, and to the normalized one behind any number of
slashes. -/
theorem normalize_normalize_iff (aliasName : String) :
    (normalize (normalize aliasName) = normalize aliasName
      ↔ ¬ ∃ c, ((trim aliasName.toList).dropWhile (· == '/')).head? = some c ∧ isBlank c = true)
    ∧ (isRoutable aliasName = true → normalize (normalize aliasName) = normalize aliasName)
    ∧ (normalize (normalize aliasName) = normalize aliasName →
      ∀ (fresh : Fresh) (id : Int) (destination : String) (user : Option String),
        let r := Redirect.make fresh id aliasName destination user
        r.aliasName = normalize aliasName ∧ r.refersTo aliasName = true
        ∧ ∀ slashes, r.refersTo (slashed slashes (normalize aliasName)) = true) := by
  refine ⟨?_, isStable_of_isRoutable, ?_⟩
  · refine (isStable_iff aliasName).trans ?_
    rw [← Bool.not_eq_true, hidesBlank, Option.any_eq_true]
  · intro hstable fresh id destination user r
    have halias : r.aliasName = normalize aliasName := rfl
    have hanswers : ∀ reference, normalize reference = normalize aliasName →
        r.refersTo reference = true := by
      intro reference href
      rw [Redirect.refersTo, halias, href, beq_self_eq_true, Bool.or_true]
    exact ⟨halias, hanswers _ rfl, fun slashes => hanswers _ (normalize_slashed hstable slashes)⟩

/-- Blanks, slashes, a dotted capital I, and a sigma at the end of a word. -/
theorem normalize_normalize_iff_capitals :
    let fresh : Fresh := ⟨⟨⟨2024, 1, 1, by decide⟩, Clock.midnight, none⟩, "Ref0000001"⟩
    isRoutable "\t//İΣ " = true ∧ normalize "\t//İΣ " = "i\u0307ς"
    ∧ (Redirect.make fresh 1 "\t//İΣ " "https://a.io" none).refersTo "///i\u0307ς" = true := by
  intro fresh
  have hroutable : isRoutable "\t//İΣ " = true := by decide +kernel
  have hstored : normalize "\t//İΣ " = "i\u0307ς" := by decide +kernel
  obtain ⟨-, hstable, hrecord⟩ := normalize_normalize_iff "\t//İΣ "
  obtain ⟨-, -, hslashes⟩ := hrecord (hstable hroutable) fresh 1 "https://a.io" none
  have hanswers := hslashes 3
  rw [hstored] at hanswers
  exact ⟨hroutable, hstored, hanswers⟩

end Alias

end Shortlink
