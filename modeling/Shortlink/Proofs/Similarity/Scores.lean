import Shortlink.Proofs.Binary64
import Shortlink.Proofs.Similarity.Subsequence
import Shortlink.Similarity.Ratio

/-!
# Scores lie between 0 and 100

A score is computed in rounded steps, and no step leads out of the range (`IsWithin`): likenesses of
texts lie between 0 and 1, weights as well, and scores between 0 and 100. This takes a bound on each
distance that is divided by a total (`isWithin_distanceScore`), and that rounding does not cross a
whole number. A text that is held against itself reaches the end of the range, and no weighted score
beside it is better (`weightedRatio_self`).

## Contents

- `IsWithin` and the operations: rounding, differences, products, quotients, the better of two.
- `isWithin_similarity`, `isWithin_ratio`, `isWithin_partialRatio`: texts and places.
- `isWithin_tokenRatio`, `isWithin_partialTokenRatio`: words.
- `isWithin_weightedRatio`; `ratio_self`, `weightedRatio_self`.
-/

namespace Shortlink.Similarity

/-! ## Ranges -/

/-- The number lies between zero and a bound. -/
structure IsWithin (bound : Nat) (q : Rat) : Prop where
  nonneg : 0 ≤ q
  le : q ≤ bound

namespace IsWithin

variable {bound : Nat} {a b : Rat}

theorem zero (bound : Nat) : IsWithin bound 0 :=
  ⟨le_refl 0, Nat.cast_nonneg bound⟩

theorem self (bound : Nat) : IsWithin bound bound :=
  ⟨Nat.cast_nonneg bound, le_refl _⟩

/-- Rounding stays within a bound that is a number of the format. -/
theorem fl (h : IsWithin bound a) (hbound : bound ≤ 2 ^ 52) : IsWithin bound (fl a) :=
  ⟨Binary64.roundRat_nonneg h.nonneg, Binary64.roundRat_le h.nonneg h.le hbound⟩

/-- What is left of the bound stays within it. -/
theorem sub (h : IsWithin bound a) : IsWithin bound (bound - a) :=
  ⟨sub_nonneg.mpr h.le, sub_le_self _ h.nonneg⟩

theorem mul {bound' : Nat} (ha : IsWithin bound a) (hb : IsWithin bound' b) :
    IsWithin (bound * bound') (a * b) where
  nonneg := mul_nonneg ha.nonneg hb.nonneg
  le := by
    rw [Nat.cast_mul]
    exact mul_le_mul ha.le hb.le hb.nonneg (Nat.cast_nonneg bound)

theorem better (ha : IsWithin bound a) (hb : IsWithin bound b) : IsWithin bound (better a b) := by
  unfold Similarity.better
  split
  · exact hb
  · exact ha

theorem foldl_better {scores : List Rat} (h : ∀ q ∈ scores, IsWithin bound q) :
    ∀ {a : Rat}, IsWithin bound a → IsWithin bound (scores.foldl Similarity.better a) := by
  induction scores with
  | nil =>
      intro a ha
      exact ha
  | cons q scores ih =>
      intro a ha
      exact ih (fun r hr => h r (List.mem_cons_of_mem q hr))
        (ha.better (h q List.mem_cons_self))

end IsWithin

/-- A quotient is bounded if its numerator is bounded in terms of the denominator. -/
theorem isWithin_mkRat {num den bound : Nat} (h : num ≤ bound * den) :
    IsWithin bound (mkRat num den) where
  nonneg := Rat.mkRat_nonneg (Int.natCast_nonneg num) den
  le := by
    rw [Rat.mkRat_eq_div]
    refine div_le_of_le_mul₀ (Nat.cast_nonneg den) (Nat.cast_nonneg bound) ?_
    exact_mod_cast h

/-- A weight of at most one keeps a score in its range. -/
theorem isWithin_weigh {score weight : Rat} (hscore : IsWithin 100 score)
    (hweight : IsWithin 1 weight) : IsWithin 100 (weigh score weight) :=
  (hscore.mul (hweight.fl (by decide))).fl (by decide)

/-- Nothing in the range is better than the end of it. -/
theorem better_hundred {q : Rat} (h : IsWithin 100 q) : better 100 q = 100 := by
  unfold better
  split
  · rename_i hle
    exact le_antisymm h.le hle
  · rfl

/-! ## Whole texts -/

theorem isWithin_similarity (s t : List Char) : IsWithin 1 (similarity s t) := by
  unfold similarity
  dsimp only
  split
  · exact IsWithin.self 1
  · have hdistance : IsWithin 1 (mkRat (editDistance s t) (s.length + t.length)) := by
      refine isWithin_mkRat ?_
      rw [Nat.one_mul]
      exact editDistance_le s t
    exact (hdistance.fl (by decide)).sub.fl (by decide)

theorem isWithin_ratio (s t : List Char) : IsWithin 100 (ratio s t) :=
  ((isWithin_similarity s t).mul (IsWithin.self 100)).fl (by decide)

theorem similarity_self (s : List Char) : similarity s s = 1 := by
  unfold similarity
  dsimp only
  split
  · rfl
  · rw [editDistance_self, Int.natCast_zero, Rat.zero_mkRat]
    decide +kernel

/-- **A text is wholly like itself.** -/
theorem ratio_self (s : List Char) : ratio s s = 100 := by
  rw [ratio, similarity_self]
  decide +kernel

/-! ## The best place -/

theorem isWithin_bestPlace (short long : List Char) : IsWithin 100 (bestPlace short long) := by
  have hplaces : ∀ q ∈ (places short long).map (similarity short), IsWithin 1 q := by
    intro q hq
    obtain ⟨place, -, rfl⟩ := List.mem_map.mp hq
    exact isWithin_similarity short place
  have hbest := IsWithin.foldl_better hplaces (IsWithin.zero 1)
  exact (hbest.mul (IsWithin.self 100)).fl (by decide)

theorem isWithin_partialRatio (s t : List Char) : IsWithin 100 (partialRatio s t) := by
  unfold partialRatio
  split
  · exact IsWithin.self 100
  split
  · exact isWithin_bestPlace s t
  split
  · exact isWithin_bestPlace t s
  · exact (isWithin_bestPlace s t).better (isWithin_bestPlace t s)

/-! ## Words -/

/-- A distance that is at most the total has a score in the range. -/
theorem isWithin_distanceScore {distance total : Nat} (h : distance ≤ total) :
    IsWithin 100 (distanceScore distance total) := by
  unfold distanceScore
  split
  · exact IsWithin.self 100
  · have hshare : IsWithin 100 (mkRat (100 * distance : Nat) total) :=
      isWithin_mkRat (Nat.mul_le_mul_left 100 h)
    exact (hshare.fl (by decide)).sub.fl (by decide)

theorem isWithin_tokenSetRatio (s t : List Char) : IsWithin 100 (tokenSetRatio s t) := by
  unfold tokenSetRatio
  dsimp only
  generalize joinWords (intersection (wordsOf s) (wordsOf t)) = common
  generalize joinWords (difference (wordsOf s) (wordsOf t)) = left
  generalize joinWords (difference (wordsOf t) (wordsOf s)) = right
  split
  · exact IsWithin.zero 100
  split
  · exact IsWithin.self 100
  cases common with
  | nil =>
      refine isWithin_distanceScore ?_
      have hle := editDistance_le left right
      simp only [List.isEmpty_nil, if_true]
      omega
  | cons c common =>
      -- the common words and the space behind them count on both sides
      have hle := editDistance_le left right
      simp only [List.isEmpty_cons, Bool.false_eq_true, if_false, List.length_cons]
      refine .better (isWithin_distanceScore ?_)
        (.better (isWithin_distanceScore ?_) (isWithin_distanceScore ?_)) <;> omega

theorem isWithin_tokenRatio (s t : List Char) : IsWithin 100 (tokenRatio s t) :=
  (isWithin_ratio _ _).better (isWithin_tokenSetRatio s t)

theorem isWithin_partialTokenRatio (s t : List Char) : IsWithin 100 (partialTokenRatio s t) := by
  unfold partialTokenRatio
  dsimp only
  split
  · exact IsWithin.self 100
  · exact (isWithin_partialRatio _ _).better (isWithin_partialRatio _ _)

/-! ## The best of all -/

/-- A constant weight is a quotient of whole numbers. -/
theorem isWithin_weight {num den : Nat} (h : num ≤ den) : IsWithin 1 (num / den) := by
  have hquotient : IsWithin 1 (mkRat num den) := isWithin_mkRat (by omega)
  rwa [Rat.mkRat_eq_div, Int.cast_natCast] at hquotient

/-- **The weighted score of two texts lies between 0 and 100.** -/
theorem isWithin_weightedRatio (s t : List Char) : IsWithin 100 (weightedRatio s t) := by
  have hdiscount : IsWithin 1 (95 / 100) := isWithin_weight (show 95 ≤ 100 by decide)
  unfold weightedRatio
  dsimp only
  split
  · exact IsWithin.zero 100
  split
  · exact (isWithin_ratio s t).better (isWithin_weigh (isWithin_tokenRatio s t) hdiscount)
  · generalize hweight : (if max s.length t.length ≤ 8 * min s.length t.length
      then (9 / 10 : Rat) else 6 / 10) = weight
    have hlength : IsWithin 1 weight := by
      rw [← hweight]
      split
      · exact isWithin_weight (show 9 ≤ 10 by decide)
      · exact isWithin_weight (show 6 ≤ 10 by decide)
    exact ((isWithin_ratio s t).better (isWithin_weigh (isWithin_partialRatio s t) hlength)).better
      (isWithin_weigh (isWithin_weigh (isWithin_partialTokenRatio s t) hdiscount) hlength)

/-- **The weighted score of a text and itself is full.** -/
theorem weightedRatio_self {s : List Char} (h : s ≠ []) : weightedRatio s s = 100 := by
  have hempty : s.isEmpty = false := by rwa [List.isEmpty_eq_false_iff]
  have hlength : 0 < s.length := List.length_pos_iff.mpr h
  unfold weightedRatio
  dsimp only
  rw [hempty, if_neg (by decide), Nat.max_self, Nat.min_self, if_pos (by omega), ratio_self]
  exact better_hundred (isWithin_weigh (isWithin_tokenRatio s s)
    (isWithin_weight (show 95 ≤ 100 by decide)))

end Shortlink.Similarity
