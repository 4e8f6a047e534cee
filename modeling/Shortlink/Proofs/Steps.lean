import Mathlib.Data.List.Forall2

/-!
# Computations that may fail

What is done step by step fails in the first step that does, and succeeds if all of them succeed;
the same holds of a step taken for each member of a list.

## Contents

- **Two steps.** `exists_of_bind_ok`, `bind_eq_ok_iff`; `exists_of_bind_error`.
- **A list of steps.** `mapM_eq_ok_iff`, `mapM_eq_error_iff`.
-/

namespace Shortlink

variable {ε α β : Type}

/-! ## Two steps -/

section

variable {first : Except ε α} {others : α → Except ε β}

/-- What succeeds step by step succeeds in its first step, and then in the others. -/
theorem exists_of_bind_ok {b : β} (h : (first >>= others) = .ok b) :
    ∃ a, first = .ok a ∧ others a = .ok b := by
  cases first with
  | error e => cases h
  | ok a => exact ⟨a, rfl, h⟩

/-- And that is all it takes. -/
theorem bind_eq_ok_iff {b : β} :
    (first >>= others) = .ok b ↔ ∃ a, first = .ok a ∧ others a = .ok b := by
  refine ⟨exists_of_bind_ok, ?_⟩
  rintro ⟨a, rfl, hb⟩
  exact hb

/-- What fails step by step fails in its first step, or in the others. -/
theorem exists_of_bind_error {e : ε} (h : (first >>= others) = .error e) :
    first = .error e ∨ ∃ a, first = .ok a ∧ others a = .error e := by
  cases first with
  | error e' =>
      cases h
      exact Or.inl rfl
  | ok a => exact Or.inr ⟨a, rfl, h⟩

end

/-! ## A list of steps -/

section

variable {step : α → Except ε β}

/-- Steps for a list succeed just if each of them does. -/
theorem mapM_eq_ok_iff {inputs : List α} {outputs : List β} :
    inputs.mapM step = .ok outputs ↔ List.Forall₂ (fun a b => step a = .ok b) inputs outputs := by
  induction inputs generalizing outputs with
  | nil =>
      rw [List.mapM_nil]
      constructor
      · intro h
        cases h
        exact .nil
      · intro h
        cases h
        rfl
  | cons a rest ih =>
      rw [List.mapM_cons]
      constructor
      · intro h
        obtain ⟨b, hb, h⟩ := exists_of_bind_ok h
        obtain ⟨others, hothers, h⟩ := exists_of_bind_ok h
        cases h
        exact .cons hb (ih.mp hothers)
      · rintro (_ | ⟨hb, hothers⟩)
        rw [hb, ih.mpr hothers]
        rfl

/-- Steps for a list fail as the first of them that does. -/
theorem mapM_eq_error_iff {inputs : List α} {e : ε} :
    inputs.mapM step = .error e ↔
      ∃ front a back, inputs = front ++ a :: back ∧ (∀ u ∈ front, ∃ b, step u = .ok b)
        ∧ step a = .error e := by
  induction inputs with
  | nil =>
      constructor
      · intro h
        cases h
      · rintro ⟨front, a, back, h, -⟩
        exact absurd h.symm (by simp)
  | cons a rest ih =>
      rw [List.mapM_cons]
      constructor
      · intro h
        rcases exists_of_bind_error h with ha | ⟨b, hb, h⟩
        · exact ⟨[], a, rest, rfl, fun u hu => absurd hu List.not_mem_nil, ha⟩
        · rcases exists_of_bind_error h with hrest | ⟨others, -, h⟩
          · obtain ⟨front, c, back, rfl, hfront, hc⟩ := ih.mp hrest
            exact ⟨a :: front, c, back, rfl, List.forall_mem_cons.mpr ⟨⟨b, hb⟩, hfront⟩, hc⟩
          · cases h
      · rintro ⟨_ | ⟨u, front⟩, c, back, heq, hfront, hc⟩
        · obtain ⟨rfl, rfl⟩ := List.cons.inj heq
          rw [hc]
          rfl
        · obtain ⟨rfl, rfl⟩ := List.cons.inj heq
          obtain ⟨⟨b, hb⟩, hfront⟩ := List.forall_mem_cons.mp hfront
          rw [hb]
          show (_ >>= _) = _
          rw [ih.mpr ⟨front, c, back, rfl, hfront, hc⟩]
          rfl

end

end Shortlink
