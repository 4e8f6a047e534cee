import Shortlink.Proofs.Template

/-!
# Which templates stand for themselves

A template is well formed if its braces are nested: first some that open, then as many that close.
One whose braces are not stands for itself, with a warning, in all cases but one: if its braces are
in order, and one at least closes, then their number may be even without as many opening as
closing ones. Such a template is read as if its braces were nested: `Link.stands_for_itself_iff`.

What is asked of a template, that no brace opens behind one that closes, says that its braces are in
order (`not_opensLate_iff`), and their numbers are counted together only.

## Contents

- **Order.** `braces`, `inOrder`; `not_opensLate_iff`, `counts_of_braces`.
- **Nesting.** `IsNested`, `IsLopsided`; `isSome_fault?_iff_not`.
- **Destinations.** `Link.stands_for_itself_iff`.
-/

namespace Shortlink

namespace Template

/-! ## Order -/

/-- The braces of a template, from left to right. -/
def braces (template : List Char) : List Char :=
  template.filter isBrace

/-- Braces in order: first those that open, then those that close. -/
def inOrder (opening closing : Nat) : List Char :=
  List.replicate opening '{' ++ List.replicate closing '}'

theorem isBrace_iff {c : Char} : isBrace c = true ↔ c = '{' ∨ c = '}' := by
  rw [isBrace, Bool.or_eq_true, beq_iff_eq, beq_iff_eq]

theorem braces_append (front back : List Char) :
    braces (front ++ back) = braces front ++ braces back :=
  List.filter_append front back

theorem braces_cons_of_isBrace {c : Char} (h : isBrace c = true) (rest : List Char) :
    braces (c :: rest) = c :: braces rest :=
  List.filter_cons_of_pos h

/-- Where only one of the two braces stands, the braces are so many of it. -/
theorem braces_eq_replicate {template : List Char} {brace : Char}
    (h : ∀ c ∈ template, isBrace c = true → c = brace) :
    braces template = List.replicate (braces template).length brace := by
  apply List.eq_replicate_of_mem
  intro c hc
  obtain ⟨hmem, hbrace⟩ := List.mem_filter.mp hc
  exact h c hmem hbrace

/-- In braces that are in order none that opens follows one that closes. -/
theorem pairwise_inOrder (opening closing : Nat) :
    (inOrder opening closing).Pairwise fun c d => ¬ (c = '}' ∧ d = '{') := by
  rw [inOrder, List.pairwise_append]
  refine ⟨?_, ?_, ?_⟩
  · exact List.pairwise_replicate.mpr (Or.inr (by decide))
  · exact List.pairwise_replicate.mpr (Or.inr (by decide))
  · rintro c hc d - ⟨hclosing, -⟩
    rw [List.eq_of_mem_replicate hc] at hclosing
    exact absurd hclosing (by decide)

/-- **No brace opens too late** just if the braces are in order. -/
theorem not_opensLate_iff (template : List Char) :
    ¬ OpensLate template ↔ ∃ opening closing, braces template = inOrder opening closing := by
  have hopens : ∀ s : List Char, '}' ∉ s → ∀ c ∈ s, isBrace c = true → c = '{' := by
    intro s hs c hc hbrace
    rcases isBrace_iff.mp hbrace with hopening | rfl
    · exact hopening
    · exact absurd hc hs
  constructor
  · intro h
    by_cases hclosing : '}' ∈ template
    · obtain ⟨front, back, rfl, hfront⟩ := List.eq_append_cons_of_mem hclosing
      have hcloses : ∀ c ∈ back, isBrace c = true → c = '}' := by
        intro c hc hbrace
        rcases isBrace_iff.mp hbrace with rfl | hclosing
        · exact absurd ⟨front, back, rfl, hfront, hc⟩ h
        · exact hclosing
      refine ⟨(braces front).length, (braces back).length + 1, ?_⟩
      rw [braces_append, braces_cons_of_isBrace (by decide), inOrder, List.replicate_succ,
        ← braces_eq_replicate hcloses, ← braces_eq_replicate (hopens front hfront)]
    · refine ⟨(braces template).length, 0, ?_⟩
      rw [inOrder, List.replicate_zero, List.append_nil]
      exact braces_eq_replicate (hopens template hclosing)
  · rintro ⟨opening, closing, horder⟩ ⟨front, back, rfl, -, hback⟩
    have hpairs := pairwise_inOrder opening closing
    rw [← horder, braces_append, braces_cons_of_isBrace (by decide)] at hpairs
    have hlate : '{' ∈ braces back := List.mem_filter.mpr ⟨hback, by decide⟩
    have hclosing := (List.pairwise_append.mp hpairs).2.1
    exact (List.pairwise_cons.mp hclosing).1 '{' hlate ⟨rfl, rfl⟩

section

variable {template : List Char} {opening closing : Nat}

/-- Braces in order are counted by their numbers. -/
theorem counts_of_braces (h : braces template = inOrder opening closing) :
    template.count '{' = opening ∧ template.count '}' = closing
      ∧ template.countP isBrace = opening + closing := by
  have hcount : ∀ c, isBrace c = true → template.count c = (inOrder opening closing).count c := by
    intro c hc
    rw [← h, braces, List.count_filter hc]
  refine ⟨?_, ?_, ?_⟩
  · rw [hcount '{' (by decide), inOrder, List.count_append, List.count_replicate_self,
      List.count_replicate]
    simp
  · rw [hcount '}' (by decide), inOrder, List.count_append, List.count_replicate_self,
      List.count_replicate]
    simp
  · rw [List.countP_eq_length_filter]
    show (braces template).length = _
    rw [h, inOrder, List.length_append, List.length_replicate, List.length_replicate]

/-! ## Nesting -/

/-- The braces are nested: first some that open, then as many that close. -/
def IsNested (template : List Char) : Prop :=
  ∃ k, braces template = inOrder k k

/-- **The braces are in order but lopsided**: not as many open as close, though one closes at least,
and together they are even in number. -/
def IsLopsided (template : List Char) : Prop :=
  ∃ opening closing, braces template = inOrder opening closing
    ∧ opening ≠ closing ∧ 0 < closing ∧ (opening + closing) % 2 = 0

theorem isNested_iff (h : braces template = inOrder opening closing) :
    IsNested template ↔ opening = closing := by
  obtain ⟨hopening, hclosing, -⟩ := counts_of_braces h
  constructor
  · rintro ⟨k, hk⟩
    obtain ⟨hopening', hclosing', -⟩ := counts_of_braces hk
    omega
  · rintro rfl
    exact ⟨opening, h⟩

theorem isLopsided_iff (h : braces template = inOrder opening closing) :
    IsLopsided template ↔ opening ≠ closing ∧ 0 < closing ∧ (opening + closing) % 2 = 0 := by
  obtain ⟨hopening, hclosing, -⟩ := counts_of_braces h
  constructor
  · rintro ⟨a, b, hab, hne, hpos, heven⟩
    obtain ⟨ha, hb, -⟩ := counts_of_braces hab
    exact ⟨by omega, by omega, by omega⟩
  · rintro ⟨hne, hpos, heven⟩
    exact ⟨opening, closing, h, hne, hpos, heven⟩

/-- The fault of a template whose braces are in order is one of their numbers. -/
theorem isSome_fault?_of_braces (h : braces template = inOrder opening closing) :
    (fault? template).isSome = true
      ↔ (0 < opening ∧ closing = 0) ∨ (opening + closing) % 2 = 1 := by
  obtain ⟨hopening, hclosing, hall⟩ := counts_of_braces h
  have horder : ¬ OpensLate template := (not_opensLate_iff template).mpr ⟨_, _, h⟩
  rw [isSome_fault?_iff, hall, ← List.count_pos_iff, ← List.count_eq_zero, hopening, hclosing]
  simp only [horder, false_or]

/-- **A template is faulty** just if its braces are neither nested nor in order and lopsided. -/
theorem isSome_fault?_iff_not (template : List Char) :
    (fault? template).isSome = true ↔ ¬ IsNested template ∧ ¬ IsLopsided template := by
  by_cases hlate : OpensLate template
  · -- braces that are nested or lopsided are in order
    have hdisorder : ∀ opening closing, braces template ≠ inOrder opening closing :=
      fun opening closing h => (not_opensLate_iff template).mpr ⟨opening, closing, h⟩ hlate
    constructor
    · intro _
      exact ⟨fun ⟨k, hk⟩ => hdisorder k k hk, fun ⟨a, b, hab, _⟩ => hdisorder a b hab⟩
    · intro _
      exact (isSome_fault?_iff template).mpr (Or.inl hlate)
  · obtain ⟨opening, closing, horder⟩ := (not_opensLate_iff template).mp hlate
    rw [isSome_fault?_of_braces horder, isNested_iff horder, isLopsided_iff horder]
    omega

end

end Template

namespace Link

open Template

/-! ## Destinations -/

/-- **A destination stands for itself, with a warning**, just if its braces are neither nested nor
in order and lopsided. Where they are lopsided there is no warning, and the destination stands for
more than one text, as if its braces were nested. -/
theorem stands_for_itself_iff (destination : String) :
    let text := destination.toList
    ((variantsOf destination = [⟨0, destination⟩]
        ∧ ∃ fault : Fault, warning? destination = some (fault.message destination))
      ↔ ¬ IsNested text ∧ ¬ IsLopsided text)
    ∧ (IsLopsided text → warning? destination = none ∧ 1 < (variantsOf destination).length) := by
  intro text
  constructor
  · rw [← isSome_fault?_iff_not]
    constructor
    · rintro ⟨-, fault, hwarning⟩
      rw [warning?, Option.map_eq_some_iff] at hwarning
      obtain ⟨found, hfound, -⟩ := hwarning
      rw [hfound]
      rfl
    · intro hfault
      obtain ⟨fault, hfound⟩ := Option.isSome_iff_exists.mp hfault
      refine ⟨(variantsOf_of_fault hfault).1, fault, ?_⟩
      rw [warning?, hfound]
      rfl
  · rintro ⟨opening, closing, horder, hne, hpos, heven⟩
    have hsound : fault? text = none := by
      rw [← Option.not_isSome_iff_eq_none, isSome_fault?_of_braces horder]
      omega
    obtain ⟨hwarning, k, hk, hvariants⟩ := variantsOf_of_sound hsound
    refine ⟨hwarning, ?_⟩
    have hsum : 2 * k = opening + closing := hk.symm.trans (counts_of_braces horder).2.2
    rw [hvariants, List.length_map, List.length_range]
    omega

/-- Two braces that close none are not noticed. -/
theorem closing_braces_unnoticed :
    ¬ IsNested "http://x.com/a/$1\x7d\x7d".toList
      ∧ variantsOf "http://x.com/a/$1\x7d\x7d"
        = [⟨0, "http://x.com/a/$1"⟩, ⟨1, "http://x.com/a/$1"⟩]
      ∧ warning? "http://x.com/a/$1\x7d\x7d" = none := by
  refine ⟨?_, by decide +kernel, by decide +kernel⟩
  rintro ⟨k, hk⟩
  obtain ⟨hopening, hclosing, -⟩ := counts_of_braces hk
  have hnone : "http://x.com/a/$1\x7d\x7d".toList.count '{' = 0 := by decide +kernel
  have htwo : "http://x.com/a/$1\x7d\x7d".toList.count '}' = 2 := by decide +kernel
  omega

end Link

end Shortlink
