import Shortlink.Text.Digits
import Shortlink.Text.Quoted
import Shortlink.Proofs.Text.Utf8

/-!
# Digits stand for the number that was written

Written numbers are made of digits (`exists_digit_of_mem_natText`, `exists_digit_of_mem_padded`) and
stand for the number they were made from: all digits of a number for itself (`natOfDigits_natText`),
its last ones for the remainder by a power of ten (`mapM_asciiDigit?_padded`). A number below the
power of ten with exponent `k` has no more than `k` digits (`length_natText_le`), and one from there
on has more (`lt_length_natText`).

## Contents

- **One digit.** `toNat_digit`, `asciiDigit?_digit`, `eq_digit_of_asciiDigit?`.
- **All digits.** `natText_of_lt`, `natText_of_ge`; `natOfDigits_natText`, `head?_natText`,
  `exists_natText_eq_cons`, `length_natText_le`, `lt_length_natText`.
- **The last digits.** `length_padded`, `mapM_asciiDigit?_padded`.
-/

namespace Shortlink.Text

/-! ## One digit -/

theorem toNat_digit {d : Nat} (h : d < 10) : (digit d).toNat = 48 + d :=
  toNat_ofNat (Or.inl (by omega))

@[simp] theorem asciiDigit?_digit {d : Nat} (h : d < 10) : asciiDigit? (digit d) = some d := by
  have hall : ∀ d < 10, asciiDigit? (digit d) = some d := by decide
  exact hall d h

theorem eq_digit_of_asciiDigit? {c : Char} {n : Nat} (h : asciiDigit? c = some n) :
    n < 10 ∧ c = digit n := by
  unfold asciiDigit? at h
  split at h
  · next hrange =>
      rw [Bool.and_eq_true, decide_eq_true_eq, decide_eq_true_eq] at hrange
      obtain ⟨hlow, hhigh⟩ := hrange
      have hlow : 48 ≤ c.toNat := hlow
      have hhigh : c.toNat ≤ 57 := hhigh
      have hn := Option.some.inj h
      refine ⟨by omega, ?_⟩
      rw [digit, ← hn, show 48 + (c.toNat - 48) = c.toNat by omega, Char.ofNat_toNat]
  · exact absurd h (by simp)

theorem natOfDigits_append (acc : Nat) (ds es : List Nat) :
    natOfDigits acc (ds ++ es) = natOfDigits (natOfDigits acc ds) es := by
  induction ds generalizing acc with
  | nil => rfl
  | cons d ds ih => exact ih (10 * acc + d)

/-! ## All digits -/

theorem natText_of_lt {n : Nat} (h : n < 10) : natText n = [digit n] := by
  rw [natText, if_pos h]

theorem natText_of_ge {n : Nat} (h : 10 ≤ n) :
    natText n = natText (n / 10) ++ [digit (n % 10)] := by
  rw [natText, if_neg (by omega)]

theorem natText_ne_nil (n : Nat) : natText n ≠ [] := by
  by_cases h : n < 10
  · simp [natText_of_lt h]
  · simp [natText_of_ge (by omega : 10 ≤ n)]

theorem exists_digit_of_mem_natText {n : Nat} {c : Char} (h : c ∈ natText n) :
    ∃ d, d < 10 ∧ c = digit d := by
  induction n using Nat.strongRecOn with
  | ind n ih =>
      by_cases hn : n < 10
      · rw [natText_of_lt hn, List.mem_singleton] at h
        exact ⟨n, hn, h⟩
      · rw [natText_of_ge (by omega)] at h
        rcases List.mem_append.mp h with hfront | hlast
        · exact ih (n / 10) (by omega) hfront
        · exact ⟨n % 10, by omega, List.mem_singleton.mp hlast⟩

/-- The digits of a number stand for it. -/
theorem natOfDigits_natText (n : Nat) :
    natOfDigits 0 ((natText n).map fun c => c.toNat - 48) = n := by
  induction n using Nat.strongRecOn with
  | ind n ih =>
      by_cases hn : n < 10
      · rw [natText_of_lt hn, List.map_singleton, toNat_digit hn]
        show 10 * 0 + (48 + n - 48) = n
        omega
      · rw [natText_of_ge (by omega), List.map_append, natOfDigits_append, ih (n / 10) (by omega),
          List.map_singleton, toNat_digit (by omega)]
        show 10 * (n / 10) + (48 + n % 10 - 48) = n
        omega

/-- Only zero is written with a zero in front. -/
theorem head?_natText {n : Nat} (h : 0 < n) : (natText n).head? ≠ some '0' := by
  induction n using Nat.strongRecOn with
  | ind n ih =>
      by_cases hn : n < 10
      · rw [natText_of_lt hn]
        intro hzero
        have hvalue := toNat_digit hn
        rw [Option.some.inj hzero] at hvalue
        have hcode : ('0' : Char).toNat = 48 := by decide
        omega
      · obtain ⟨c, rest, hfront⟩ := List.exists_cons_of_ne_nil (natText_ne_nil (n / 10))
        have hfirst := ih (n / 10) (by omega) (by omega)
        rw [natText_of_ge (by omega), hfront]
        rwa [hfront] at hfirst

/-- The first digit of a number: it is the whole number, or the number is larger than any digit. -/
theorem exists_natText_eq_cons {n : Nat} (h : 0 < n) :
    ∃ i more, i < 9 ∧ natText n = digit (i + 1) :: more ∧ (n = i + 1 ∧ more = [] ∨ 9 < n) := by
  induction n using Nat.strongRecOn with
  | ind n ih =>
      by_cases hn : n < 10
      · refine ⟨n - 1, [], by omega, ?_, Or.inl ⟨by omega, rfl⟩⟩
        rw [natText_of_lt hn, Nat.sub_add_cancel h]
      · obtain ⟨i, more, hi, hfront, -⟩ := ih (n / 10) (by omega) (by omega)
        refine ⟨i, more ++ [digit (n % 10)], hi, ?_, Or.inr (by omega)⟩
        rw [natText_of_ge (by omega), hfront, List.cons_append]

theorem length_natText_le {n k : Nat} (hk : 0 < k) (h : n < Nat.pow 10 k) :
    (natText n).length ≤ k := by
  induction k generalizing n with
  | zero => omega
  | succ k ih =>
      by_cases hn : n < 10
      · rw [natText_of_lt hn]
        simp
      · have hstep : Nat.pow 10 (k + 1) = Nat.pow 10 k * 10 := rfl
        have hfewer : n / 10 < Nat.pow 10 k := by omega
        -- with one digit allowed, the number would be below ten
        have hpos : 0 < k := by
          cases k with
          | zero =>
              have hone : Nat.pow 10 0 = 1 := rfl
              omega
          | succ k => omega
        rw [natText_of_ge (by omega), List.length_append, List.length_singleton]
        have := ih hpos hfewer
        omega

/-- A number from the power of ten on has more digits than its exponent. -/
theorem lt_length_natText {n k : Nat} (h : Nat.pow 10 k ≤ n) : k < (natText n).length := by
  induction k generalizing n with
  | zero => exact List.length_pos_iff.mpr (natText_ne_nil n)
  | succ k ih =>
      have hstep : Nat.pow 10 (k + 1) = Nat.pow 10 k * 10 := rfl
      have hpos : 0 < Nat.pow 10 k := Nat.pow_pos (by decide)
      have hfewer := ih (n := n / 10) (by omega)
      rw [natText_of_ge (by omega), List.length_append, List.length_singleton]
      omega

/-- A number with no more digits than may be read has so many at most. -/
theorem length_natText_le_maxDigits {n : Nat} (h : n < numberBound) :
    (natText n).length ≤ maxDigits := by
  unfold numberBound at h
  exact length_natText_le (by decide) h

/-! ## The last digits -/

theorem length_padded (width n : Nat) : (padded width n).length = width := by
  induction width generalizing n with
  | zero => rfl
  | succ width ih => rw [padded, List.length_append, ih, List.length_singleton]

theorem exists_digit_of_mem_padded {width n : Nat} {c : Char} (h : c ∈ padded width n) :
    ∃ d, d < 10 ∧ c = digit d := by
  induction width generalizing n with
  | zero => exact absurd h List.not_mem_nil
  | succ width ih =>
      rcases List.mem_append.mp h with hfront | hlast
      · exact ih hfront
      · exact ⟨n % 10, by omega, List.mem_singleton.mp hlast⟩

/-- The last digits of a number stand for what a power of ten leaves of it. -/
theorem mapM_asciiDigit?_padded (width n : Nat) :
    ∃ ds, (padded width n).mapM asciiDigit? = some ds
      ∧ natOfDigits 0 ds = n % Nat.pow 10 width := by
  induction width generalizing n with
  | zero => exact ⟨[], rfl, (Nat.mod_one n).symm⟩
  | succ width ih =>
      obtain ⟨ds, hds, hvalue⟩ := ih (n / 10)
      refine ⟨ds ++ [n % 10], ?_, ?_⟩
      · rw [padded, List.mapM_append, hds]
        simp [asciiDigit?_digit (Nat.mod_lt n (by omega : 0 < 10))]
      · have hstep : Nat.pow 10 (width + 1) = 10 * Nat.pow 10 width := Nat.mul_comm _ _
        rw [natOfDigits_append, hvalue, hstep, Nat.mod_mul]
        show 10 * (n / 10 % Nat.pow 10 width) + n % 10 = _
        omega

end Shortlink.Text
