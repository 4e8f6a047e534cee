import Mathlib.Data.List.Sort
import Shortlink.Proofs.Suggestion.Ranking

/-!
# Records that come later

Candidates are sorted stably: of two that are equally good, the earlier one stays in front. So a
record that comes behind the others is put behind all candidates that precede it, and in front of
the rest (`mergeSort_concat`). It moves nothing among the first ones just if enough candidates
precede it.

This tells which suggestions stay the same when more records are looked at: `suggest_append_iff`.

## Contents

- **Stable sorting.** `orderedInsert_of_cut`, `mergeSort_cons_eq`, `orderedInsert_comm`,
  `mergeSort_concat`.
- **The first ones.** `countP_eq_zero_of_head`, `countP_take_of_sorted`, `take_orderedInsert`,
  `take_mergeSort_append`, `take_mergeSort_append_iff`.
- **Suggestions.** `candidates_append`, `exists_of_mem_suggest`, `suggest_append_iff`,
  `suggest_concat_ne`.
-/

namespace Shortlink

/-! ## Stable sorting -/

section

variable {α : Type} {le : α → α → Bool}

/-- What is inserted stands where the list was cut, if that is in front of the first member that it
has to precede. -/
theorem orderedInsert_of_cut {x : α} {front back : List α} (hfront : ∀ b ∈ front, le x b = false)
    (hback : ∀ b ∈ back, le x b = true) :
    (front ++ back).orderedInsert (le · ·) x = front ++ x :: back := by
  induction front with
  | nil =>
      cases back with
      | nil => rfl
      | cons b back => exact List.orderedInsert_cons_of_le _ _ (hback b List.mem_cons_self)
  | cons b front ih =>
      obtain ⟨hb, hrest⟩ := List.forall_mem_cons.mp hfront
      have hnot : ¬ le x b = true := Bool.eq_false_iff.mp hb
      rw [List.cons_append, List.orderedInsert_cons, if_neg hnot, ih hrest]
      rfl

variable (htrans : ∀ a b c, le a b = true → le b c = true → le a c = true)
  (htotal : ∀ a b, (le a b || le b a) = true)

include htrans htotal

/-- A member in front is sorted in before the first one that it may precede. -/
theorem mergeSort_cons_eq (x : α) (xs : List α) :
    (x :: xs).mergeSort le = (xs.mergeSort le).orderedInsert (le · ·) x := by
  obtain ⟨front, back, hwhole, hrest, hfront⟩ := List.mergeSort_cons htrans htotal x xs
  have hsorted := List.pairwise_mergeSort htrans htotal (x :: xs)
  rw [hwhole, List.pairwise_append, List.pairwise_cons] at hsorted
  obtain ⟨-, ⟨hback, -⟩, -⟩ := hsorted
  rw [hwhole, hrest, orderedInsert_of_cut _ hback]
  exact fun b hb => by simpa using hfront b hb

/-- One member goes before what it may precede and the other before what may not precede it; then it
does not matter which of them goes first. -/
theorem orderedInsert_comm (x y : α) (sorted : List α) :
    (sorted.orderedInsert (fun a b => le b a = false) y).orderedInsert (le · ·) x
      = (sorted.orderedInsert (le · ·) x).orderedInsert (fun a b => le b a = false) y := by
  induction sorted with
  | nil => cases hxy : le x y <;> simp [hxy]
  | cons b rest ih =>
      have hyb : le b y = false → le y b = true := by
        intro h
        have hor := htotal b y
        rwa [h, Bool.false_or] at hor
      -- three comparisons decide where the two go; transitivity excludes two of the eight outcomes
      cases hby : le b y <;> cases hxb : le x b <;> cases hxy : le x y
      · simp [hby, hxb, hxy]
      · have hxb' := htrans x y b hxy (hyb hby)
        rw [hxb] at hxb'
        exact absurd hxb' (by decide)
      · simp [hby, hxb, hxy]
      · simp [hby, hxb, hxy]
      · simp [hby, hxb, ih]
      · simp [hby, hxb, ih]
      · have hxy' := htrans x b y hxb hby
        rw [hxy] at hxy'
        exact absurd hxy' (by decide)
      · simp [hby, hxb, hxy]

/-- **A member behind the others is sorted in behind all that precede it.** -/
theorem mergeSort_concat (xs : List α) (y : α) :
    (xs ++ [y]).mergeSort le
      = (xs.mergeSort le).orderedInsert (fun a b => le b a = false) y := by
  induction xs with
  | nil => simp
  | cons x xs ih =>
      -- a sort is described from its front only, so the last member is taken past all others
      rw [List.cons_append, mergeSort_cons_eq htrans htotal, ih,
        orderedInsert_comm htrans htotal, mergeSort_cons_eq htrans htotal]

end

/-! ## The first ones -/

section

variable {α : Type} {le : α → α → Bool}
  (htrans : ∀ a b c, le a b = true → le b c = true → le a c = true)

include htrans

/-- If the first member of a sorted list does not precede a given one, none of them does. -/
theorem countP_eq_zero_of_head {b y : α} {rest : List α}
    (hsorted : (b :: rest).Pairwise fun a b => le a b = true) (h : le b y = false) :
    (b :: rest).countP (le · y) = 0 := by
  have hnot : ¬ le b y = true := Bool.eq_false_iff.mp h
  refine List.countP_eq_zero.mpr fun c hc hcy => ?_
  rcases List.mem_cons.mp hc with rfl | hc
  · exact hnot hcy
  · exact hnot (htrans b c y ((List.pairwise_cons.mp hsorted).1 c hc) hcy)

/-- In a sorted list, the members that precede a given one come first. -/
theorem countP_take_of_sorted {sorted : List α} (hsorted : sorted.Pairwise fun a b => le a b = true)
    (y : α) (n : Nat) : (sorted.take n).countP (le · y) = min n (sorted.countP (le · y)) := by
  induction sorted generalizing n with
  | nil => simp
  | cons b rest ih =>
      cases n with
      | zero => simp
      | succ n =>
          cases hby : le b y with
          | false =>
              have hnone := countP_eq_zero_of_head htrans hsorted hby
              have hle := (List.take_sublist (n + 1) (b :: rest)).countP_le (p := (le · y))
              omega
          | true =>
              rw [List.take_succ_cons, List.countP_cons_of_pos (p := (le · y)) hby,
                List.countP_cons_of_pos (p := (le · y)) hby, ih (List.pairwise_cons.mp hsorted).2]
              omega

/-- What is sorted in behind enough others is not among the first ones. -/
theorem take_orderedInsert {sorted : List α} (hsorted : sorted.Pairwise fun a b => le a b = true)
    {y : α} {n : Nat} (hn : n ≤ sorted.countP (le · y)) :
    (sorted.orderedInsert (fun a b => le b a = false) y).take n = sorted.take n := by
  induction sorted generalizing n with
  | nil => rw [Nat.le_zero.mp hn, List.take_zero, List.take_zero]
  | cons b rest ih =>
      cases n with
      | zero => rfl
      | succ n =>
          cases hby : le b y with
          | false =>
              have hnone := countP_eq_zero_of_head htrans hsorted hby
              omega
          | true =>
              have hnot : ¬ le b y = false := by rw [hby]; decide
              rw [List.countP_cons_of_pos (p := (le · y)) hby] at hn
              rw [List.orderedInsert_cons, if_neg hnot, List.take_succ_cons, List.take_succ_cons,
                ih (List.pairwise_cons.mp hsorted).2 (by omega)]

variable (htotal : ∀ a b, (le a b || le b a) = true)

include htotal

/-- Members behind the others do not get among the first ones if enough of the others precede each
of them. -/
theorem take_mergeSort_append {xs ys : List α} {n : Nat}
    (h : ∀ y ∈ ys, n ≤ xs.countP (le · y)) :
    ((xs ++ ys).mergeSort le).take n = (xs.mergeSort le).take n := by
  induction ys generalizing xs with
  | nil => rw [List.append_nil]
  | cons y ys ih =>
      obtain ⟨hy, hrest⟩ := List.forall_mem_cons.mp h
      have hsorted := List.pairwise_mergeSort htrans htotal xs
      calc ((xs ++ y :: ys).mergeSort le).take n
          = (((xs ++ [y]) ++ ys).mergeSort le).take n := by rw [List.append_cons]
        _ = ((xs ++ [y]).mergeSort le).take n := by
            refine ih fun z hz => Nat.le_trans (hrest z hz) ?_
            rw [List.countP_append]
            exact Nat.le_add_right _ _
        _ = ((xs.mergeSort le).orderedInsert (fun a b => le b a = false) y).take n := by
            rw [mergeSort_concat htrans htotal]
        _ = (xs.mergeSort le).take n := by
            refine take_orderedInsert htrans hsorted ?_
            rwa [(List.mergeSort_perm xs le).countP_eq]

/-- **Members behind the others leave the first ones as they are** just if enough of the others
precede each of them. -/
theorem take_mergeSort_append_iff (xs ys : List α) (n : Nat) :
    ((xs ++ ys).mergeSort le).take n = (xs.mergeSort le).take n
      ↔ ∀ y ∈ ys, n ≤ xs.countP (le · y) := by
  constructor
  · -- the lists agree in the first members, so in how many of them precede a late one
    intro h y hy
    have hcount : ∀ zs : List α, ((zs.mergeSort le).take n).countP (le · y)
        = min n (zs.countP (le · y)) := by
      intro zs
      rw [countP_take_of_sorted htrans (List.pairwise_mergeSort htrans htotal zs),
        (List.mergeSort_perm zs le).countP_eq]
    -- the late member precedes itself, so it counts
    have hself : 0 < ys.countP (le · y) :=
      List.countP_pos_iff.mpr ⟨y, hy, by simpa using htotal y y⟩
    have hmin := hcount (xs ++ ys)
    rw [h, hcount xs, List.countP_append] at hmin
    omega
  · exact take_mergeSort_append htrans htotal

end

/-! ## Suggestions -/

open Text

variable {spelling : Spelling}

theorem candidates_append (spelling : Spelling) (query : String) (early late : List Redirect)
    (threshold : Threshold) : candidates spelling query (early ++ late) threshold
      = candidates spelling query early threshold ++ candidates spelling query late threshold := by
  rw [candidates, List.map_append, List.filter_append]
  rfl

theorem exists_of_mem_suggest {query : String} {records : List Redirect} {limit : Nat}
    {threshold : Threshold} {s : Suggestion}
    (h : s ∈ suggest spelling query records limit threshold) :
    ∃ r ∈ records, r.suggestion spelling query = s := by
  rw [suggest_eq_take] at h
  exact (mem_candidates_iff.mp (List.mem_mergeSort.mp (List.mem_of_mem_take h))).1

/-- **Later records change nothing of what is suggested** just if each of them that reaches the
threshold is preceded by as many earlier candidates as are asked for. -/
theorem suggest_append_iff (spelling : Spelling) (query : String) (early late : List Redirect)
    (limit : Nat) (threshold : Threshold) :
    suggest spelling query (early ++ late) limit threshold
        = suggest spelling query early limit threshold
      ↔ ∀ s ∈ candidates spelling query late threshold,
        limit ≤ (candidates spelling query early threshold).countP (·.precedes s) := by
  rw [suggest_eq_take, suggest_eq_take, candidates_append]
  exact take_mergeSort_append_iff Suggestion.precedes_trans Suggestion.precedes_total _ _ limit

/-- A record that comes last and ranks before all others changes what is suggested. -/
theorem suggest_concat_ne {query : String} {early : List Redirect} {late : Redirect} {limit : Nat}
    {threshold : Threshold} (hlimit : 1 ≤ limit)
    (hadmits : threshold.admits (late.suggestion spelling query).score = true)
    (hbefore : ∀ r ∈ early,
      (late.suggestion spelling query).RanksBefore (r.suggestion spelling query)) :
    suggest spelling query (early ++ [late]) limit threshold
      ≠ suggest spelling query early limit threshold := by
  intro hsame
  have hcandidate : late.suggestion spelling query ∈ candidates spelling query [late] threshold :=
    mem_candidates_iff.mpr ⟨⟨late, List.mem_singleton_self _, rfl⟩, hadmits⟩
  have hmany :=
    (suggest_append_iff spelling query early [late] limit threshold).mp hsame _ hcandidate
  have hnone : (candidates spelling query early threshold).countP
      (·.precedes (late.suggestion spelling query)) = 0 := by
    refine List.countP_eq_zero.mpr fun s hs => ?_
    obtain ⟨⟨r, hr, rfl⟩, -⟩ := mem_candidates_iff.mp hs
    exact (hbefore r hr).not_precedes
  omega

end Shortlink
