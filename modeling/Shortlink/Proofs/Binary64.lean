import Mathlib.Algebra.Order.Field.Rat
import Mathlib.Data.Rat.Lemmas
import Mathlib.Tactic.Positivity
import Mathlib.Tactic.Ring
import Mathlib.Tactic.Zify
import Shortlink.Binary64

/-!
# Rounding keeps bounds

Rounding to the format does not lead out of a range whose ends are numbers of the format. This is
shown for whole numbers up to `2 ^ 52` (`roundRat_le`): a fraction below such a number has
units of at most one, so the number is a multiple of the unit, and a multiple of the unit that
bounds the fraction bounds its nearest multiple as well (`divNearest_le`).

## Contents

- `divNearest_le`: quotients.
- `scaled`, `scaled_succ`, `roundRat_of_nonneg`: significands with their powers of two.
- `unitExponent_nonpos`, `scaled_nearest_le`: fractions.
- `roundRat_nonneg`, `roundRat_le`: rational numbers.
-/

namespace Shortlink

/-- A whole number that bounds a quotient bounds the whole number nearest to it. -/
theorem divNearest_le {num den k : Nat} (h : num ≤ k * den) : divNearest num den ≤ k := by
  rcases Nat.eq_zero_or_pos den with rfl | hden
  · obtain rfl : num = 0 := by omega
    exact Nat.zero_le k
  have hquotient : num / den ≤ k := (Nat.div_le_iff_le_mul_add_pred hden).mpr (by
    rw [Nat.mul_comm]
    omega)
  unfold divNearest
  dsimp only
  split
  · exact hquotient
  · rename_i hround
    rcases Nat.lt_or_eq_of_le hquotient with hlt | heq
    · exact hlt
    · -- the quotient is the bound itself, so nothing is left over
      have hsum := Nat.div_add_mod num den
      rw [heq, Nat.mul_comm] at hsum
      omega

namespace Binary64

/-! ## Powers of two -/

/-- The value of a significand with its power of two. -/
def scaled (p : Nat × Int) : Rat :=
  mkRat (p.1 * (powerRatio 2 p.2).1 : Nat) (powerRatio 2 p.2).2

theorem roundRat_of_nonneg {q : Rat} (h : 0 ≤ q) :
    roundRat q = scaled (nearest q.num.natAbs q.den) := by
  unfold roundRat
  exact if_neg (not_lt.mpr h)

theorem scaled_nonneg (p : Nat × Int) : 0 ≤ scaled p :=
  Rat.mkRat_nonneg (Int.natCast_nonneg _) _

/-- The value is the significand times the power of two. -/
theorem scaled_eq (m : Nat) (e : Int) : scaled (m, e) = m * 2 ^ e := by
  unfold scaled powerRatio
  by_cases he : 0 ≤ e
  · obtain ⟨k, rfl⟩ := Int.eq_ofNat_of_zero_le he
    rw [if_pos he]
    simp [Rat.mkRat_eq_div]
  · obtain ⟨k, hk⟩ := Int.eq_ofNat_of_zero_le (show 0 ≤ -e by omega)
    obtain rfl : e = -k := by omega
    rw [if_neg he]
    simp [Rat.mkRat_eq_div, div_eq_mul_inv]

/-- A significand that has become too long is halved, and its power of two doubled. -/
theorem scaled_succ (m : Nat) (e : Int) : scaled (m, e + 1) = scaled (2 * m, e) := by
  rw [scaled_eq, scaled_eq, zpow_add_one₀ two_ne_zero]
  push_cast
  ring

theorem powerRatio_neg (k : Nat) : powerRatio 2 (-k) = (1, Nat.pow 2 k) := by
  cases k with
  | zero => rfl
  | succ k =>
      rw [powerRatio, if_neg (by omega), Int.neg_neg]
      rfl

/-! ## Fractions -/

/-- A fraction that is at most `2 ^ 52` has units of at most one. -/
theorem unitExponent_nonpos {num den : Nat} (hnum : num ≠ 0) (h : num ≤ 2 ^ 52 * den) :
    unitExponent num den ≤ 0 := by
  have hlog : num.log2 < den.log2 + 53 := by
    refine (Nat.log2_lt hnum).mpr ?_
    calc num ≤ 2 ^ 52 * den := h
      _ < 2 ^ 52 * 2 ^ (den.log2 + 1) := by
        exact Nat.mul_lt_mul_of_pos_left Nat.lt_log2_self (by decide)
      _ = 2 ^ (den.log2 + 53) := by
        rw [← Nat.pow_add]
        congr 1
        omega
  unfold unitExponent precision
  dsimp only
  split <;> omega

/-- **A whole number that bounds a fraction bounds its nearest number.** -/
theorem scaled_nearest_le {num den n : Nat} (h : num ≤ n * den) (hn : n ≤ 2 ^ 52) :
    scaled (nearest num den) ≤ n := by
  unfold nearest
  split
  · rw [scaled_eq]
    simp
  · rename_i hnum
    have hunit : unitExponent num den ≤ 0 :=
      unitExponent_nonpos hnum (h.trans (Nat.mul_le_mul_right den hn))
    obtain ⟨k, hk⟩ : ∃ k : Nat, max (unitExponent num den) minExponent = -k := by
      refine ⟨(-max (unitExponent num den) minExponent).toNat, ?_⟩
      unfold minExponent
      omega
    rw [hk]
    dsimp only
    rw [powerRatio_neg]
    dsimp only
    have hbound : divNearest (num * Nat.pow 2 k) (den * 1) ≤ n * Nat.pow 2 k := by
      refine divNearest_le ?_
      calc num * Nat.pow 2 k ≤ n * den * Nat.pow 2 k := Nat.mul_le_mul_right _ h
        _ = n * Nat.pow 2 k * (den * 1) := by ring
    have hvalue : scaled (divNearest (num * Nat.pow 2 k) (den * 1), -k) ≤ n := by
      rw [scaled_eq, zpow_neg, zpow_natCast, ← div_eq_mul_inv, div_le_iff₀ (by positivity)]
      exact_mod_cast hbound
    split
    · rename_i hcarry
      rw [scaled_succ]
      rw [hcarry] at hvalue
      exact hvalue
    · exact hvalue

/-! ## Rational numbers -/

theorem roundRat_nonneg {q : Rat} (h : 0 ≤ q) : 0 ≤ roundRat q := by
  rw [roundRat_of_nonneg h]
  exact scaled_nonneg _

/-- **Rounding keeps below a whole number** of moderate size. -/
theorem roundRat_le {q : Rat} {n : Nat} (h : 0 ≤ q) (hq : q ≤ n) (hn : n ≤ 2 ^ 52) :
    roundRat q ≤ n := by
  rw [roundRat_of_nonneg h]
  refine scaled_nearest_le ?_ hn
  have hnum : q.num ≤ n * q.den := by
    have hmul := (Rat.le_iff q n).mp hq
    simpa using hmul
  have hpos := Rat.num_nonneg.mpr h
  zify
  rwa [abs_of_nonneg hpos]

end Binary64

end Shortlink
