import Shortlink.Proofs.Alias
import Shortlink.Proofs.Similarity.Scores
import Shortlink.Proofs.Suggestion.Ranking
import Shortlink.Proofs.Text.Cutting

/-!
# Scores of suggestions

Every score lies between 0 and 100 (`Redirect.isWithin_score`), and who types an alias gives it a
full score: slashes in front do not count, nor does anything behind a space (`queryAlias_typed`).
What is left is compared with itself.

This takes an alias without blanks that does not begin with a slash, since blanks and slashes in
front of a query are dropped and a space ends what counts as the alias. It also takes an alias of
which something is left when it is reduced to words. A query without words scores nothing.

## Contents

- `IsTypable`, `typed`: aliases, and queries that are made from them.
- `queryAlias_typed`: what of such a query counts.
- `Redirect.isWithin_score`, `Redirect.score_self`.
- `typed_alias_scores_full`.
-/

namespace Shortlink

open Text Similarity

variable {spelling : Spelling}

/-! ## What counts of a query -/

/-- **An alias that a query can spell out**, and of which something is left for comparison. -/
structure IsTypable (spelling : Spelling) (aliasName : String) : Prop where
  noBlank : ∀ c ∈ aliasName.toList, isBlank c = false
  noSlash : aliasName.toList.head? ≠ some '/'
  hasWords : searchText spelling aliasName.toList ≠ []

/-- Slashes, an alias, and possibly a space with more behind it. -/
def typed (slashes : Nat) (aliasName : String) (more : Option String) : String :=
  String.ofList (List.replicate slashes '/'
    ++ (aliasName.toList ++ more.elim [] fun text => ' ' :: text.toList))

theorem IsTypable.ne_nil {aliasName : String} (h : IsTypable spelling aliasName) :
    aliasName.toList ≠ [] := by
  intro hnil
  refine h.hasWords ?_
  rw [hnil]
  rfl

/-- Slashes and an alias have no blank at either end. -/
theorem IsTypable.ends {aliasName : String} (h : IsTypable spelling aliasName) (slashes : Nat) :
    let front := List.replicate slashes '/' ++ aliasName.toList
    front.head?.any isBlank = false ∧ front.getLast?.any isBlank = false := by
  intro front
  have hall : ∀ c ∈ front, isBlank c = false := by
    intro c hc
    rcases List.mem_append.mp hc with hc | hc
    · rw [List.eq_of_mem_replicate hc]
      decide
    · exact h.noBlank c hc
  exact ⟨head?_any_of_forall hall, getLast?_any_of_forall hall⟩

/-- Trimming such a query can only shorten what is behind the alias. -/
theorem IsTypable.trim_append {aliasName : String} (h : IsTypable spelling aliasName)
    (slashes : Nat) (rest : List Char) :
    trim (List.replicate slashes '/' ++ aliasName.toList ++ rest)
      = List.replicate slashes '/' ++ aliasName.toList ++ trimEnd rest := by
  obtain ⟨hfront, hback⟩ := h.ends slashes
  have hne : List.replicate slashes '/' ++ aliasName.toList ≠ [] :=
    List.append_ne_nil_of_right_ne_nil _ h.ne_nil
  rw [trim, trimStart, dropWhile_of_head, trimEnd_append hback]
  rwa [List.head?_append_of_ne_nil _ hne]

/-- **Of a typed alias, the alias counts**, not the slashes in front of it nor what is behind it. -/
theorem queryAlias_typed {aliasName : String} (h : IsTypable spelling aliasName) (slashes : Nat)
    (more : Option String) :
    queryAlias (typed slashes aliasName more).toList = aliasName.toList := by
  have hspace : ∀ c ∈ aliasName.toList, (c != ' ') = true :=
    bne_of_not_mem fun hmem => absurd (h.noBlank ' ' hmem) (by decide)
  have hslash : ∀ rest, (aliasName.toList ++ rest).head?.any (· == '/') = false := by
    intro rest
    rw [List.head?_append_of_ne_nil _ h.ne_nil]
    cases hhead : aliasName.toList.head? with
    | none => rfl
    | some c => exact beq_eq_false_iff_ne.mpr fun hc => h.noSlash (hc ▸ hhead)
  rw [typed, String.toList_ofList, queryAlias, ← List.append_assoc, h.trim_append,
    List.append_assoc, List.dropWhile_append_of_pos (by simp), dropWhile_of_head (hslash _)]
  -- what the trimming has left behind the alias still begins with the space, if there is any
  cases more with
  | none =>
      rw [Option.elim_none, show trimEnd [] = [] from rfl, List.append_nil]
      exact List.takeWhile_eq_self_iff.mpr hspace
  | some text =>
      have hfront := trimEnd_isPrefix (' ' :: text.toList)
      rcases List.prefix_cons_iff.mp hfront with hnil | ⟨rest, hrest, -⟩
      · rw [Option.elim_some, hnil, List.append_nil]
        exact List.takeWhile_eq_self_iff.mpr hspace
      · rw [Option.elim_some, hrest]
        exact takeWhile_cut hspace (by decide)

/-! ## Scores -/

/-- **Every score lies between 0 and 100.** -/
theorem Redirect.isWithin_score (r : Redirect) (spelling : Spelling) (query : List Char) :
    IsWithin 100 (r.score spelling query) := by
  unfold Redirect.score
  dsimp only
  split
  · exact IsWithin.zero 100
  · exact (isWithin_weightedRatio _ _).better
      (isWithin_weigh (isWithin_partialRatio _ _) (isWithin_weight (show 8 ≤ 10 by decide)))

/-- A record has a full score for its own alias, if there is anything to compare. -/
theorem Redirect.score_self {r : Redirect} (h : searchText spelling r.aliasName.toList ≠ []) :
    r.score spelling r.aliasName.toList = 100 := by
  have hempty : (searchText spelling r.aliasName.toList).isEmpty = false := by
    rwa [List.isEmpty_eq_false_iff]
  unfold Redirect.score
  dsimp only
  rw [hempty, if_neg (by decide), weightedRatio_self h]
  exact better_hundred
    (isWithin_weigh (isWithin_partialRatio _ _) (isWithin_weight (show 8 ≤ 10 by decide)))

/-- **Who types an alias gives it a full score**, however characters are spelled. No score for any
query is less than 0 or more than 100. If the alias of a record can be typed, then the record is
suggested with the score 100 for every query that begins, but for slashes, with the alias, whatever
follows after a space. It is suggested whatever other records there are, if all that reach the
threshold are, and 100 does. -/
theorem typed_alias_scores_full (spelling : Spelling) (r : Redirect) :
    (∀ query : List Char, 0 ≤ r.score spelling query ∧ r.score spelling query ≤ 100)
    ∧ (IsTypable spelling r.aliasName → ∀ (slashes : Nat) (more : Option String),
      let query := typed slashes r.aliasName more
      r.suggestion spelling query = ⟨r.aliasName, r.destination, 100⟩
      ∧ ∀ records threshold, r ∈ records → threshold.admits 100 = true →
        ⟨r.aliasName, r.destination, 100⟩
          ∈ suggest spelling query records records.length threshold) := by
  refine ⟨fun query => ?_, fun h slashes more => ?_⟩
  · have hscore := r.isWithin_score spelling query
    exact ⟨hscore.nonneg, hscore.le⟩
  intro query
  have hsuggestion : r.suggestion spelling query = ⟨r.aliasName, r.destination, 100⟩ := by
    rw [Redirect.suggestion, queryAlias_typed h, Redirect.score_self h.hasWords]
  refine ⟨hsuggestion, fun records threshold hr hadmits => ?_⟩
  have hcandidate : r.suggestion spelling query ∈ candidates spelling query records threshold := by
    refine List.mem_filter.mpr ⟨List.mem_map_of_mem hr, ?_⟩
    rwa [hsuggestion]
  have hall : (candidates spelling query records threshold).length ≤ records.length := by
    have hle := List.length_filter_le (fun s => threshold.admits s.score)
      (records.map (·.suggestion spelling query))
    rwa [List.length_map] at hle
  rw [suggest_eq_take, List.take_of_length_le (by rwa [List.length_mergeSort]), ← hsuggestion]
  exact List.mem_mergeSort.mpr hcandidate

/-- A slash too many, a letter that is spelled by two and more words behind the alias do not keep
the score from being full. -/
theorem typed_alias_scores_full_wiki :
    let r := Redirect.make (.atNewYear "Ref0000001") 1 "straße-wiki" "https://wiki.io/{0}" none
    IsTypable spellChar r.aliasName
    ∧ ⟨"straße-wiki", "https://wiki.io/{0}", 100⟩
      ∈ suggest spellChar "//straße-wiki release notes" [r] (1 : Nat) (.atLeast 60) := by
  intro r
  have hblanks : r.aliasName.toList.any isBlank = false := by decide +kernel
  have htypable : IsTypable spellChar r.aliasName :=
    ⟨fun c hc => Bool.eq_false_iff.mpr (List.any_eq_false.mp hblanks c hc), by decide +kernel,
      by decide +kernel⟩
  have hquery : typed 2 r.aliasName (some "release notes") = "//straße-wiki release notes" := by
    decide +kernel
  have halias : r.aliasName = "straße-wiki" := by decide +kernel
  have hfull := ((typed_alias_scores_full spellChar r).2 htypable 2 (some "release notes")).2
    [r] (.atLeast 60) (List.mem_singleton_self r) (by decide)
  rw [hquery, halias] at hfull
  exact ⟨htypable, hfull⟩

end Shortlink
