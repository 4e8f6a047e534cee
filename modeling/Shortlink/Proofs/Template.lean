import Shortlink.Link

/-!
# What a template means

The braces of a template cut it into pieces, one more than there are braces (`length_pieces`). If
they cannot be read, the template stands for itself. Otherwise there are `2 * k` of them, and the
template stands for `k + 1` texts: with `j` levels open, the first `j + 1` pieces and the last `j`
remain. `Link.variantsOf_exact` says so for every text.

The texts come from a loop that takes one piece from either end of what is left. Its invariant is in
`nested_eq`: what was taken in front stands in front, what was taken behind stands behind.

## Contents

- **Pieces.** `length_pieces`, `not_isBrace_of_mem_pieces`, `flatten_pieces`.
- **Faults.** `OpensLate`, `isMisordered_iff`, `isSome_fault?_iff`.
- **The family.** `nested_eq`, `expand_eq`; `Link.variantsOf_exact`.
-/

namespace Shortlink

namespace Template

/-! ## Pieces -/

theorem pieces_nil : pieces [] = [[]] :=
  List.splitOnP_nil

/-- A brace ends a piece, and any other character belongs to the first one. -/
theorem pieces_cons (c : Char) (rest : List Char) :
    pieces (c :: rest)
      = if isBrace c then [] :: pieces rest else (pieces rest).modifyHead (c :: ·) :=
  List.splitOnP_cons_eq_if_modifyHead c rest

/-- There is one piece more than there are braces. -/
theorem length_pieces (template : List Char) :
    (pieces template).length = template.countP isBrace + 1 := by
  induction template with
  | nil => rw [pieces_nil]; rfl
  | cons c rest ih =>
      rw [pieces_cons, List.countP_cons]
      by_cases hc : isBrace c
      · rw [if_pos hc, if_pos hc, List.length_cons, ih]
      · rw [if_neg hc, if_neg hc, List.length_modifyHead, ih]

theorem exists_pieces_eq_cons (template : List Char) :
    ∃ first others, pieces template = first :: others := by
  apply List.exists_cons_of_ne_nil
  exact List.splitOnP_ne_nil isBrace template

/-- No piece holds a brace. -/
theorem not_isBrace_of_mem_pieces {template piece : List Char} (h : piece ∈ pieces template) :
    ∀ c ∈ piece, isBrace c = false := by
  induction template generalizing piece with
  | nil =>
      rw [pieces_nil, List.mem_singleton] at h
      simp [h]
  | cons c rest ih =>
      obtain ⟨first, others, hrest⟩ := exists_pieces_eq_cons rest
      rw [pieces_cons, hrest] at h
      by_cases hc : isBrace c
      · rw [if_pos hc] at h
        rcases List.mem_cons.mp h with rfl | hmem
        · simp
        · exact ih (hrest ▸ hmem)
      · rw [if_neg hc, List.modifyHead_cons] at h
        rcases List.mem_cons.mp h with rfl | hmem
        · intro d hd
          rcases List.mem_cons.mp hd with rfl | hfirst
          · simpa using hc
          · exact ih (hrest ▸ List.mem_cons_self) d hfirst
        · exact ih (hrest ▸ List.mem_cons_of_mem first hmem)

/-- The pieces make up the template without its braces. -/
theorem flatten_pieces (template : List Char) :
    (pieces template).flatten = template.filter fun c => !isBrace c := by
  induction template with
  | nil => rw [pieces_nil]; rfl
  | cons c rest ih =>
      obtain ⟨first, others, hrest⟩ := exists_pieces_eq_cons rest
      rw [pieces_cons, List.filter_cons, ← ih, hrest]
      by_cases hc : isBrace c <;> simp [hc]

/-! ## Faults -/

/-- **An opening brace comes too late**: it stands after the first closing brace. -/
def OpensLate (template : List Char) : Prop :=
  ∃ front back, template = front ++ '}' :: back ∧ '}' ∉ front ∧ '{' ∈ back

/-- What follows the part in front of the first closing brace. -/
theorem dropWhile_of_not_mem {front back : List Char} (h : '}' ∉ front) :
    (front ++ '}' :: back).dropWhile (· != '}') = '}' :: back := by
  have hfront : ∀ c ∈ front, (c != '}') = true := by
    intro c hc
    have hne : c ≠ '}' := fun he => h (he ▸ hc)
    simpa using hne
  rw [List.dropWhile_append_of_pos hfront]
  simp

theorem isMisordered_iff (template : List Char) :
    isMisordered template = true
      ↔ OpensLate template ∨ ('{' ∈ template ∧ '}' ∉ template) := by
  unfold isMisordered
  by_cases hclosing : '}' ∈ template
  · obtain ⟨front, back, rfl, hfront⟩ := List.eq_append_cons_of_mem hclosing
    rw [if_pos (List.contains_iff_mem.mpr hclosing), dropWhile_of_not_mem hfront,
      List.contains_iff_mem]
    constructor
    · intro hopening
      rcases List.mem_cons.mp hopening with heq | hback
      · exact absurd heq (by decide)
      · exact Or.inl ⟨front, back, rfl, hfront, hback⟩
    · rintro (⟨front', back', heq, hfront', hback'⟩ | ⟨-, hnone⟩)
      · -- there is only one first closing brace, so the two cuts are the same
        have hdrop := congrArg (List.dropWhile (· != '}')) heq
        rw [dropWhile_of_not_mem hfront, dropWhile_of_not_mem hfront'] at hdrop
        rw [hdrop]
        exact List.mem_cons_of_mem _ hback'
      · exact absurd hclosing hnone
  · rw [if_neg (fun h => hclosing (List.contains_iff_mem.mp h)), List.contains_iff_mem]
    constructor
    · intro hopening
      exact Or.inr ⟨hopening, hclosing⟩
    · rintro (⟨front, back, rfl, -, -⟩ | ⟨hopening, -⟩)
      · exact absurd (List.mem_append_right front List.mem_cons_self) hclosing
      · exact hopening

/-- **A template is faulty** just when a brace is opened too late or never closed, or when the
number of braces is odd. -/
theorem isSome_fault?_iff (template : List Char) :
    (fault? template).isSome = true ↔
      OpensLate template ∨ ('{' ∈ template ∧ '}' ∉ template)
        ∨ template.countP isBrace % 2 = 1 := by
  rw [← or_assoc, ← isMisordered_iff, fault?, length_pieces]
  by_cases hmis : isMisordered template
  · simp [hmis]
  · rw [if_neg hmis]
    by_cases hodd : template.countP isBrace % 2 = 1
    · rw [if_pos (by omega)]
      simp [hodd]
    · rw [if_neg (by omega)]
      simp [hmis, hodd]

/-! ## The family -/

/-- One step of the loop: a piece is taken from either end. -/
theorem nested_cons_concat (front back piece last : List Char) (inner : List (List Char)) :
    nested front back (piece :: (inner ++ [last]))
      = (front ++ back) :: nested (front ++ piece) (last ++ back) inner := by
  rw [nested]
  simp

/-- **The loop**: with `j` levels open, `j` pieces were taken from either end. -/
theorem nested_eq {k : Nat} :
    ∀ {front back : List Char} {inner : List (List Char)}, inner.length = 2 * k →
      nested front back inner = (List.range (k + 1)).map fun j =>
        front ++ (inner.take j).flatten ++ ((inner.drop (2 * k - j)).flatten ++ back) := by
  induction k with
  | zero =>
      intro front back inner h
      rw [List.length_eq_zero_iff.mp h, nested]
      simp
  | succ k ih =>
      intro front back inner h
      -- at least two pieces are left, one at either end
      obtain ⟨piece, others, rfl⟩ := List.exists_cons_of_length_pos (by omega : 0 < inner.length)
      have hothers : others ≠ [] := by
        rintro rfl
        simp at h
        omega
      obtain ⟨middle, last, rfl⟩ : ∃ middle last, others = middle ++ [last] :=
        ⟨_, _, (List.dropLast_concat_getLast hothers).symm⟩
      have hmiddle : middle.length = 2 * k := by
        simp only [List.length_cons, List.length_append, List.length_nil] at h
        omega
      rw [nested_cons_concat, ih hmiddle, List.range_succ_eq_map (n := k + 1), List.map_cons,
        List.map_map]
      congr 1
      · -- nothing is taken yet
        have hnone : (piece :: (middle ++ [last])).drop (2 * (k + 1)) = [] :=
          List.drop_eq_nil_of_le (by omega)
        rw [Nat.sub_zero, hnone]
        simp
      · apply List.map_congr_left
        intro j hj
        have hjk : j ≤ k := Nat.lt_succ_iff.mp (List.mem_range.mp hj)
        have htake : (piece :: (middle ++ [last])).take (j + 1) = piece :: middle.take j := by
          rw [List.take_succ_cons, List.take_append_of_le_length (by omega)]
        have hdrop : (piece :: (middle ++ [last])).drop (2 * (k + 1) - (j + 1))
            = middle.drop (2 * k - j) ++ [last] := by
          rw [show 2 * (k + 1) - (j + 1) = (2 * k - j) + 1 by omega, List.drop_succ_cons,
            List.drop_append_of_le_length (by omega)]
        show _ = front ++ ((piece :: (middle ++ [last])).take (j + 1)).flatten
          ++ (((piece :: (middle ++ [last])).drop (2 * (k + 1) - (j + 1))).flatten ++ back)
        rw [htake, hdrop]
        simp

/-- A faulty template stands for itself. -/
theorem expand_of_fault {template : List Char} (h : (fault? template).isSome = true) :
    expand template = [template] := by
  obtain ⟨fault, hfault⟩ := Option.isSome_iff_exists.mp h
  unfold expand
  rw [hfault]

/-- **The family of a template without fault**: there are `2 * k` braces, and `k + 1` texts. -/
theorem expand_eq {template : List Char} (h : fault? template = none) :
    ∃ k, template.countP isBrace = 2 * k ∧
      expand template = (List.range (k + 1)).map fun j =>
        ((pieces template).take (j + 1)).flatten
          ++ ((pieces template).drop (2 * k - j + 1)).flatten := by
  have heven : ¬ template.countP isBrace % 2 = 1 := by
    intro hodd
    have hsome := (isSome_fault?_iff template).mpr (Or.inr (Or.inr hodd))
    rw [h] at hsome
    exact absurd hsome (by simp)
  obtain ⟨base, inner, hpieces⟩ := exists_pieces_eq_cons template
  have hlength := length_pieces template
  rw [hpieces, List.length_cons] at hlength
  refine ⟨template.countP isBrace / 2, by omega, ?_⟩
  unfold expand
  rw [h, hpieces]
  show nested base [] inner = _
  rw [nested_eq (by omega : inner.length = 2 * (template.countP isBrace / 2))]
  apply List.map_congr_left
  intro j _
  simp

end Template

namespace Link

open Template

/-- The variants of a family that is listed by the number of arguments. -/
theorem variantsOf_of_expand {destination : String} {n : Nat} {text : Nat → List Char}
    (h : expand destination.toList = (List.range n).map text) :
    variantsOf destination = (List.range n).map fun j => ⟨j, String.ofList (text j)⟩ := by
  rw [variantsOf, h]
  apply List.ext_getElem
  · simp
  · intro i hi hi'
    simp

/-- A faulty destination stands for itself, with a warning. -/
theorem variantsOf_of_fault {destination : String}
    (h : (fault? destination.toList).isSome = true) :
    variantsOf destination = [⟨0, destination⟩]
      ∧ ∃ message, warning? destination = some message := by
  obtain ⟨fault, hfault⟩ := Option.isSome_iff_exists.mp h
  refine ⟨?_, fault.message destination, ?_⟩
  · rw [variantsOf, expand_of_fault h]
    simp
  · rw [warning?, hfault]
    rfl

/-- The text that a template without fault gives to `j` arguments. -/
def textFor (f : List (List Char)) (k j : Nat) : String :=
  String.ofList ((f.take (j + 1)).flatten ++ (f.drop (2 * k - j + 1)).flatten)

/-- A destination without fault stands for a family, without a warning. -/
theorem variantsOf_of_sound {destination : String} (h : fault? destination.toList = none) :
    warning? destination = none ∧ ∃ k, destination.toList.countP isBrace = 2 * k
      ∧ variantsOf destination = (List.range (k + 1)).map fun j =>
        ⟨j, textFor (pieces destination.toList) k j⟩ := by
  obtain ⟨k, hk, hexpand⟩ := expand_eq h
  refine ⟨?_, k, hk, variantsOf_of_expand hexpand⟩
  rw [warning?, h]
  rfl

/-- At full depth nothing is left out but the braces. -/
theorem textFor_self (template : List Char) (k : Nat) :
    textFor (pieces template) k k = String.ofList (template.filter fun c => !isBrace c) := by
  rw [textFor, show 2 * k - k + 1 = k + 1 by omega, ← List.flatten_append, List.take_append_drop,
    flatten_pieces]

theorem not_isBrace_of_mem_textFor {template : List Char} {k j : Nat} {c : Char}
    (h : c ∈ (textFor (pieces template) k j).toList) : isBrace c = false := by
  rw [textFor, String.toList_ofList, ← List.flatten_append] at h
  obtain ⟨piece, hpiece, hc⟩ := List.mem_flatten.mp h
  have hmem : piece ∈ pieces template := by
    rcases List.mem_append.mp hpiece with hfront | hback
    · exact List.mem_of_mem_take hfront
    · exact List.mem_of_mem_drop hback
  exact not_isBrace_of_mem_pieces hmem c hc

/-- The variants are numbered by the arguments they take. -/
theorem arity_of_getElem? {destination : String} {i : Nat} {v : Variant}
    (h : (variantsOf destination)[i]? = some v) : v.arity = i := by
  rw [variantsOf, List.getElem?_mapIdx] at h
  obtain ⟨text, -, rfl⟩ := Option.map_eq_some_iff.mp h
  rfl

/-- **What a destination is compiled to**, for every text. Without braces it stands for itself. If a
brace is opened too late or never closed, or if the number of braces is odd, it stands for itself
and there is a warning. Otherwise there are `2 * k` braces and `k + 1` variants: that of `j`
arguments has the first `j + 1` pieces and the last `j`. None of these holds a brace, and the last
one is the destination with its braces left out. In every case the variants are numbered by their
arguments. -/
theorem variantsOf_exact (destination : String) :
    let text := destination.toList
    let f := pieces text
    let m := text.countP isBrace
    let faulty := OpensLate text ∨ ('{' ∈ text ∧ '}' ∉ text) ∨ m % 2 = 1
    f.length = m + 1 ∧
    (m = 0 → variantsOf destination = [⟨0, destination⟩] ∧ warning? destination = none) ∧
    (faulty → variantsOf destination = [⟨0, destination⟩]
      ∧ ∃ message, warning? destination = some message) ∧
    (m ≠ 0 → ¬ faulty → warning? destination = none ∧ ∃ k, 1 ≤ k ∧ m = 2 * k
      ∧ variantsOf destination = ((List.range (k + 1)).map fun j =>
          ⟨j, String.ofList ((f.take (j + 1)).flatten ++ (f.drop (2 * k - j + 1)).flatten)⟩)
      ∧ (∀ v ∈ variantsOf destination, ∀ c ∈ v.text.toList, isBrace c = false)
      ∧ (variantsOf destination).getLast?
          = some ⟨k, String.ofList (text.filter fun c => !isBrace c)⟩) ∧
    ∀ i (v : Variant), (variantsOf destination)[i]? = some v → v.arity = i := by
  intro text f m faulty
  have hfaulty : faulty ↔ (fault? text).isSome = true := (isSome_fault?_iff text).symm
  have hsound : ¬ faulty → fault? text = none := by
    intro hno
    rwa [hfaulty, Option.not_isSome_iff_eq_none] at hno
  refine ⟨length_pieces text, ?_, fun hyes => variantsOf_of_fault (hfaulty.mp hyes), ?_,
    fun i v => arity_of_getElem?⟩
  · intro hm
    have hplain : ∀ c ∈ text, isBrace c = false := by
      intro c hc
      simpa using List.countP_eq_zero.mp hm c hc
    have hno : ¬ faulty := by
      rintro (⟨front, back, heq, -, -⟩ | ⟨hopening, -⟩ | hodd)
      · have hmem : '}' ∈ text := heq ▸ List.mem_append_right front List.mem_cons_self
        exact absurd (hplain _ hmem) (by decide)
      · exact absurd (hplain _ hopening) (by decide)
      · omega
    obtain ⟨hwarning, k, hk, hvariants⟩ := variantsOf_of_sound (hsound hno)
    have hnone : 2 * k = 0 := hk.symm.trans hm
    obtain rfl : k = 0 := by omega
    refine ⟨?_, hwarning⟩
    have hself : text.filter (fun c => !isBrace c) = text :=
      List.filter_eq_self.mpr fun c hc => by simp [hplain c hc]
    rw [hvariants, List.range_one, List.map_singleton, textFor_self, hself, String.ofList_toList]
  · intro hm hno
    obtain ⟨hwarning, k, hk, hvariants⟩ := variantsOf_of_sound (hsound hno)
    have hsome : 2 * k ≠ 0 := fun hzero => hm (hk.trans hzero)
    refine ⟨hwarning, k, by omega, hk, hvariants, ?_, ?_⟩
    · intro v hv c hc
      rw [hvariants] at hv
      obtain ⟨j, -, rfl⟩ := List.mem_map.mp hv
      exact not_isBrace_of_mem_textFor hc
    · rw [hvariants, List.range_succ, List.map_append, List.map_singleton, List.getLast?_concat,
        textFor_self]

/-- A template with two levels stands for three texts. -/
theorem variantsOf_exact_nested :
    variantsOf "http://x.io\x7b/foo/$1\x7b/bar/$2\x7d\x7d" = [⟨0, "http://x.io"⟩,
        ⟨1, "http://x.io/foo/$1"⟩, ⟨2, "http://x.io/foo/$1/bar/$2"⟩]
      ∧ warning? "http://x.io\x7b/foo/$1\x7b/bar/$2\x7d\x7d" = none := by
  obtain ⟨-, -, -, hfamily, -⟩ :=
    variantsOf_exact "http://x.io\x7b/foo/$1\x7b/bar/$2\x7d\x7d"
  have hsound : ¬ (fault? "http://x.io\x7b/foo/$1\x7b/bar/$2\x7d\x7d".toList).isSome = true := by
    decide +kernel
  obtain ⟨hwarning, k, -, hk, hvariants, -⟩ :=
    hfamily (by decide +kernel) (fun hfaulty => hsound ((isSome_fault?_iff _).mpr hfaulty))
  have hbraces : "http://x.io\x7b/foo/$1\x7b/bar/$2\x7d\x7d".toList.countP isBrace = 4 := by
    decide +kernel
  obtain rfl : k = 2 := by omega
  refine ⟨?_, hwarning⟩
  rw [hvariants]
  decide +kernel

end Link

end Shortlink
