import Mathlib.Algebra.Order.Ring.Unbundled.Rat
import Mathlib.Data.List.Nodup
import Shortlink.Proofs.Store.Call
import Shortlink.Suggestion

/-!
# The best suggestions

Of the records that are good enough, the best ones are suggested, in a strict order: the better
score comes first, and of equal ones the smaller alias. If no two records have one alias, this order
tells any two candidates apart. So there is just one ranking of them (`IsRanking.unique`), whatever
order the records are stored in, and what is suggested is the beginning of it (`suggest_is_best`).
How characters are spelled where texts are compared plays no part in this.

## Contents

- `Redirect.suggestion`, `candidates`, `mem_candidates_iff`: what may be suggested.
- `Suggestion.RanksBefore`: the order of a ranking.
- `IsRanking`, `IsRanking.unique`, `isRanking_mergeSort`.
- `suggest_eq_take`, `suggest_is_best`.
-/

namespace Shortlink

open Text

variable {spelling : Spelling}

/-! ## Candidates -/

/-- The record as it may be suggested for a query. -/
def Redirect.suggestion (r : Redirect) (spelling : Spelling) (query : String) : Suggestion :=
  ⟨r.aliasName, r.destination, r.score spelling (queryAlias query.toList)⟩

/-- The records whose scores reach the threshold, in the order in which they are stored. -/
def candidates (spelling : Spelling) (query : String) (records : List Redirect)
    (threshold : Threshold) : List Suggestion :=
  (records.map (·.suggestion spelling query)).filter fun s => threshold.admits s.score

theorem mem_candidates_iff {query : String} {records : List Redirect} {threshold : Threshold}
    {s : Suggestion} : s ∈ candidates spelling query records threshold
      ↔ (∃ r ∈ records, r.suggestion spelling query = s) ∧ threshold.admits s.score = true := by
  rw [candidates, List.mem_filter, List.mem_map]

theorem nodup_aliases_candidates {records : List Redirect}
    (h : (records.map (·.aliasName)).Nodup) (spelling : Spelling) (query : String)
    (threshold : Threshold) :
    ((candidates spelling query records threshold).map (·.aliasName)).Nodup := by
  have hsub : (candidates spelling query records threshold).Sublist
      (records.map (·.suggestion spelling query)) :=
    List.filter_sublist
  have haliases := hsub.map (·.aliasName)
  rw [List.map_map] at haliases
  exact h.sublist haliases

/-- The candidates do not depend on the order of the records, but for their own order. -/
theorem candidates_perm {records records' : List Redirect} (h : records'.Perm records)
    (spelling : Spelling) (query : String) (threshold : Threshold) :
    (candidates spelling query records' threshold).Perm
      (candidates spelling query records threshold) :=
  (h.map _).filter _

/-! ## The order -/

/-- **A suggestion ranks before another one**: its score is better, or the scores are equal and its
alias is smaller. -/
def Suggestion.RanksBefore (a b : Suggestion) : Prop :=
  b.score < a.score ∨ (a.score = b.score ∧ a.aliasName < b.aliasName)

instance (a b : Suggestion) : Decidable (a.RanksBefore b) :=
  inferInstanceAs (Decidable (_ ∨ _))

theorem Suggestion.RanksBefore.asymm {a b : Suggestion} (h : a.RanksBefore b) :
    ¬ b.RanksBefore a := by
  rintro (hscore | ⟨heq, hless⟩) <;> rcases h with hscore' | ⟨heq', hless'⟩
  · exact lt_asymm hscore hscore'
  · exact absurd heq' hscore.ne
  · exact absurd heq hscore'.ne
  · exact String.lt_asymm hless hless'

theorem Suggestion.precedes_iff {a b : Suggestion} :
    a.precedes b = true ↔ b.score < a.score ∨ (a.score = b.score ∧ a.aliasName ≤ b.aliasName) := by
  unfold Suggestion.precedes
  by_cases h : a.score = b.score
  · rw [if_pos h, h, decide_eq_true_iff]
    exact ⟨fun hle => Or.inr ⟨rfl, hle⟩, fun hor => hor.elim (absurd · (lt_irrefl _)) And.right⟩
  · rw [if_neg h, decide_eq_true_iff]
    exact ⟨Or.inl, fun hor => hor.elim id fun hand => absurd hand.1 h⟩

theorem Suggestion.precedes_trans (a b c : Suggestion) (hab : a.precedes b = true)
    (hbc : b.precedes c = true) : a.precedes c = true := by
  rw [precedes_iff] at hab hbc ⊢
  rcases hab with hab | ⟨hab, halias⟩ <;> rcases hbc with hbc | ⟨hbc, halias'⟩
  · exact Or.inl (hbc.trans hab)
  · exact Or.inl (hbc ▸ hab)
  · exact Or.inl (hab ▸ hbc)
  · exact Or.inr ⟨hab.trans hbc, String.le_trans halias halias'⟩

theorem Suggestion.precedes_total (a b : Suggestion) :
    (a.precedes b || b.precedes a) = true := by
  rw [Bool.or_eq_true, precedes_iff, precedes_iff]
  by_cases heq : a.score = b.score
  · exact (String.le_total a.aliasName b.aliasName).imp (fun h => Or.inr ⟨heq, h⟩)
      fun h => Or.inr ⟨heq.symm, h⟩
  · exact (lt_or_gt_of_ne heq).symm.imp Or.inl Or.inl

/-- What ranks behind another suggestion does not precede it. -/
theorem Suggestion.RanksBefore.not_precedes {a b : Suggestion} (h : a.RanksBefore b) :
    ¬ b.precedes a = true := by
  rw [precedes_iff]
  rintro (hscore | ⟨heq, hle⟩) <;> rcases h with hscore' | ⟨heq', hless⟩
  · exact lt_asymm hscore hscore'
  · exact absurd heq' hscore.ne
  · exact absurd heq hscore'.ne
  · exact String.not_le.mpr hless hle

/-- Between suggestions of different aliases, the order is strict. -/
theorem Suggestion.ranksBefore_of_precedes {a b : Suggestion} (h : a.precedes b = true)
    (hne : a.aliasName ≠ b.aliasName) : a.RanksBefore b := by
  rw [precedes_iff] at h
  refine h.imp id fun ⟨hscore, hle⟩ => ⟨hscore, ?_⟩
  refine String.not_le.mp fun hge => hne ?_
  exact String.le_antisymm hle hge

/-! ## Rankings -/

/-- **A ranking of candidates** holds each of them, each before those that it ranks before. -/
structure IsRanking (ranking candidates : List Suggestion) : Prop where
  perm : ranking.Perm candidates
  ordered : ranking.Pairwise Suggestion.RanksBefore

/-- **There is at most one ranking**, whatever the order of the candidates. -/
theorem IsRanking.unique {ranking ranking' these those : List Suggestion}
    (h : IsRanking ranking these) (h' : IsRanking ranking' those) (hperm : these.Perm those) :
    ranking = ranking' := by
  have hsame : ranking.Perm ranking' := (h.perm.trans hperm).trans h'.perm.symm
  exact hsame.eq_of_pairwise (fun a b _ _ hab hba => absurd hba hab.asymm) h.ordered h'.ordered

/-- Sorting candidates of different aliases ranks them. -/
theorem isRanking_mergeSort {these : List Suggestion} (h : (these.map (·.aliasName)).Nodup) :
    IsRanking (these.mergeSort Suggestion.precedes) these := by
  have hperm := List.mergeSort_perm these Suggestion.precedes
  refine ⟨hperm, ?_⟩
  have hsorted : (these.mergeSort Suggestion.precedes).Pairwise fun a b => a.precedes b = true :=
    List.pairwise_mergeSort Suggestion.precedes_trans Suggestion.precedes_total these
  have hdistinct : (these.mergeSort Suggestion.precedes).Pairwise
      fun a b => a.aliasName ≠ b.aliasName :=
    List.pairwise_map.mp ((hperm.map Suggestion.aliasName).nodup_iff.mpr h)
  exact hsorted.imp₂ (fun _ _ => Suggestion.ranksBefore_of_precedes) hdistinct

/-- In a ranking, what is cut off ranks behind what is kept. -/
theorem IsRanking.ranksBefore_of_omitted {ranking these : List Suggestion}
    (h : IsRanking ranking these) {limit : Nat} {kept omitted : Suggestion}
    (hkept : kept ∈ ranking.take limit) (homitted : omitted ∈ these)
    (hcut : omitted ∉ ranking.take limit) : kept.RanksBefore omitted := by
  have hmem : omitted ∈ ranking.take limit ++ ranking.drop limit := by
    rw [List.take_append_drop]
    exact h.perm.mem_iff.mpr homitted
  have hdrop : omitted ∈ ranking.drop limit := (List.mem_append.mp hmem).resolve_left hcut
  have hordered := h.ordered
  rw [← List.take_append_drop limit ranking] at hordered
  exact (List.pairwise_append.mp hordered).2.2 kept hkept omitted hdrop

/-! ## What is suggested -/

/-- The suggestions are the beginning of the sorted candidates. -/
theorem suggest_eq_take (spelling : Spelling) (query : String) (records : List Redirect)
    (limit : Nat) (threshold : Threshold) : suggest spelling query records limit threshold
      = ((candidates spelling query records threshold).mergeSort
        Suggestion.precedes).take limit := by
  have hslice := slice_of_nonneg
    ((candidates spelling query records threshold).mergeSort Suggestion.precedes)
    (Int.le_refl 0) (Int.natCast_nonneg limit)
  rw [Int.zero_add] at hslice
  exact hslice

/-- **What is suggested are the best candidates.** If no two records have one alias, there is just
one ranking of the candidates, and what is suggested is its beginning, of the length that was asked
for or all of it. So nothing that is left out ranks before anything that is suggested, who asks for
more gets the same and possibly more behind it, and the order in which the records are stored does
not matter. -/
theorem suggest_is_best (spelling : Spelling) {records : List Redirect}
    (hdistinct : (records.map (·.aliasName)).Nodup) (query : String) (threshold : Threshold) :
    let these := candidates spelling query records threshold
    ∃ ranking, IsRanking ranking these ∧ (∀ other, IsRanking other these → other = ranking)
      ∧ ∀ limit : Nat,
        let best := suggest spelling query records limit threshold
        best = ranking.take limit ∧ best.length = min limit these.length
        ∧ (∀ omitted ∈ these, omitted ∉ best → ∀ kept ∈ best,
          kept.RanksBefore omitted ∧ ¬ omitted.RanksBefore kept)
        ∧ (∀ more : Nat, limit ≤ more → best <+: suggest spelling query records more threshold)
        ∧ ∀ records', records'.Perm records →
          suggest spelling query records' limit threshold = best := by
  intro these
  have hranking : IsRanking (these.mergeSort Suggestion.precedes) these :=
    isRanking_mergeSort (nodup_aliases_candidates hdistinct spelling query threshold)
  refine ⟨_, hranking, fun other hother => hother.unique hranking (List.Perm.refl _), ?_⟩
  intro limit best
  have hbest : best = (these.mergeSort Suggestion.precedes).take limit :=
    suggest_eq_take spelling query records limit threshold
  refine ⟨hbest, ?_, ?_, ?_, ?_⟩
  · rw [hbest, List.length_take, hranking.perm.length_eq]
  · intro omitted homitted hcut kept hkept
    rw [hbest] at hcut hkept
    have hbefore := hranking.ranksBefore_of_omitted hkept homitted hcut
    exact ⟨hbefore, hbefore.asymm⟩
  · intro more hmore
    rw [hbest, suggest_eq_take]
    exact List.take_prefix_take_left hmore
  · intro records' hperm
    have hdistinct' : (records'.map (·.aliasName)).Nodup :=
      (hperm.map (·.aliasName)).nodup_iff.mpr hdistinct
    have hranking' :=
      isRanking_mergeSort (nodup_aliases_candidates hdistinct' spelling query threshold)
    rw [hbest, suggest_eq_take,
      hranking'.unique hranking (candidates_perm hperm spelling query threshold)]

/-- Records against the order of the ranking: one is called what is looked for, one nearly so, two
lead to a host of that name, and one has nothing to do with it. -/
def wikiShelf : List Redirect :=
  [.make (.atNewYear "Ref0000001") 1 "zine" "https://wiki.io" none,
    .make (.atNewYear "Ref0000002") 2 "wikia" "https://a.io" none,
    .make (.atNewYear "Ref0000003") 3 "blog" "https://b.io" none,
    .make (.atNewYear "Ref0000004") 4 "docs" "https://wiki.io" none,
    .make (.atNewYear "Ref0000005") 5 "wiki" "https://c.io" none]

/-- Four of them are good enough, and of these the first three are suggested: by their scores, and
by the alphabet where the scores are equal. -/
theorem suggest_is_best_wikiShelf :
    (wikiShelf.map (·.aliasName)).Nodup
    ∧ (wikiShelf.map (·.suggestion spellChar "/wiki page")).map (·.score)
      = [80, 3127499741229511 / 35184372088832, 1876499844737707 / 70368744177664, 80, 100]
    ∧ suggest spellChar "/wiki page" wikiShelf (3 : Nat) (.atLeast 60)
      = [⟨"wiki", "https://c.io", 100⟩,
        ⟨"wikia", "https://a.io", 3127499741229511 / 35184372088832⟩,
        ⟨"docs", "https://wiki.io", 80⟩] := by
  have hdistinct : (wikiShelf.map (·.aliasName)).Nodup := by decide +kernel
  obtain ⟨ranking, -, hunique, hbest⟩ :=
    suggest_is_best spellChar hdistinct "/wiki page" (.atLeast 60)
  have hcandidates : candidates spellChar "/wiki page" wikiShelf (.atLeast 60)
      = [⟨"zine", "https://wiki.io", 80⟩,
        ⟨"wikia", "https://a.io", 3127499741229511 / 35184372088832⟩,
        ⟨"docs", "https://wiki.io", 80⟩, ⟨"wiki", "https://c.io", 100⟩] := by
    decide +kernel
  have hranking : IsRanking
      [⟨"wiki", "https://c.io", 100⟩, ⟨"wikia", "https://a.io", 3127499741229511 / 35184372088832⟩,
        ⟨"docs", "https://wiki.io", 80⟩, ⟨"zine", "https://wiki.io", 80⟩]
      (candidates spellChar "/wiki page" wikiShelf (.atLeast 60)) := by
    rw [hcandidates]
    exact ⟨(List.reverse_perm _).symm.trans (by decide +kernel), by decide +kernel⟩
  refine ⟨hdistinct, by decide +kernel, ?_⟩
  rw [(hbest 3).1, ← hunique _ hranking]
  rfl

end Shortlink
