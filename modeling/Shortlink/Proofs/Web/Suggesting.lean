import Mathlib.Data.String.Basic
import Shortlink.Proofs.Suggestion.Later
import Shortlink.Proofs.Suggestion.Score
import Shortlink.Proofs.Web.Listing
import Shortlink.Proofs.Web.Reach

/-!
# Which records are suggested from

Suggestions are made from one page of the records, the first one of full size. As long as all
records fit on that page, the best of all of them are suggested. A record behind it is not looked
at, however well it matches: `App.last_is_missed`.

`App.suggests_all_iff` says exactly which requests are answered with the best of all records: those
for which every record behind the page that is good enough is outdone on the page, as often as
suggestions are asked for.

## Contents

- **Shown suggestions.** `suggestionsValue`; `shownSuggestion_inj`, `suggestionsValue_inj`.
- **Asking.** `thresholdParameter_of_value`; `AsksForSuggestions`.
- **More than a page.** `exists_run_makings`, `exists_run_numerals`; `crowdedStore`,
  `exists_records_crowdedStore`; `outdoneStore`.
- **Answers.** `App.Suggests`; `page_searchedPage`, `App.suggests_searched`,
  `App.suggests_records_iff`, `App.suggests_all_iff`; `App.last_is_missed`.
-/

namespace Shortlink

open Text

namespace Web

variable {spelling : Spelling}

/-! ## Shown suggestions -/

/-- Lists are told apart by what a function makes of their members if the members are. -/
theorem eq_of_map_eq {α β : Type} {f : α → β} {xs ys : List α}
    (hinj : ∀ x ∈ xs, ∀ y ∈ ys, f x = f y → x = y) (h : xs.map f = ys.map f) : xs = ys := by
  induction xs generalizing ys with
  | nil => exact (List.map_eq_nil_iff.mp h.symm).symm
  | cons x xs ih =>
      obtain ⟨y, rest, rfl, hxy, hrest⟩ := List.map_eq_cons_iff.mp h.symm
      obtain rfl : x = y := hinj x List.mem_cons_self y List.mem_cons_self hxy.symm
      rw [ih (fun a ha b hb => hinj a (List.mem_cons_of_mem _ ha) b (List.mem_cons_of_mem _ hb))
        hrest.symm]

/-- What is shown of two records tells their suggestions apart: the score is rounded, but depends on
nothing besides the alias and the destination. -/
theorem shownSuggestion_inj {query : String} {r r' : Redirect}
    (h : shownSuggestion (r.suggestion spelling query)
      = shownSuggestion (r'.suggestion spelling query)) :
    r.suggestion spelling query = r'.suggestion spelling query := by
  have hfields := Json.obj.inj h
  simp only [List.cons.injEq, Prod.mk.injEq, Json.str.injEq, true_and] at hfields
  obtain ⟨halias, hdestination, -⟩ := hfields
  change r.aliasName = r'.aliasName at halias
  change r.destination = r'.destination at hdestination
  rw [Redirect.suggestion, Redirect.suggestion, Redirect.score, Redirect.score, halias,
    hdestination]

/-- What is shown of suggestions: the text that was asked for, and one after the other. -/
def suggestionsValue (query : String) (found : List Suggestion) : Json :=
  .obj [("query", .str query), ("suggestions", .arr (found.map shownSuggestion))]

/-- **Different suggestions for a text are shown differently.** -/
theorem suggestionsValue_inj {query : String} {records records' : List Redirect}
    {limit limit' : Nat} {threshold threshold' : Threshold}
    (h : suggestionsValue query (suggest spelling query records limit threshold)
      = suggestionsValue query (suggest spelling query records' limit' threshold')) :
    suggest spelling query records limit threshold
      = suggest spelling query records' limit' threshold' := by
  have hfields := Json.obj.inj h
  simp only [List.cons.injEq, Prod.mk.injEq, Json.arr.injEq, true_and, and_true] at hfields
  refine eq_of_map_eq (fun s hs s' hs' hshown => ?_) hfields
  obtain ⟨r, -, rfl⟩ := exists_of_mem_suggest hs
  obtain ⟨r', -, rfl⟩ := exists_of_mem_suggest hs'
  exact shownSuggestion_inj hshown

/-! ## Asking -/

/-- A threshold passes if it is within bounds, be it in the query or the default. -/
theorem thresholdParameter_of_value {name : String} {default least most threshold : Rat}
    {query : List Char}
    (hvalue : (queryValue? name query).elim (some default) (fun s => (readReal? s).bind (·.toRat?))
      = some threshold)
    (hleast : least ≤ threshold) (hmost : threshold ≤ most) :
    thresholdParameter name (.atLeast default) least most query = .ok (.atLeast threshold) := by
  rw [thresholdParameter]
  cases hquery : queryValue? name query with
  | none =>
      rw [hquery] at hvalue
      rw [← Option.some.inj hvalue]
  | some s =>
      rw [hquery, Option.elim_some] at hvalue
      dsimp only
      obtain ⟨x, hread, hx⟩ := Option.bind_eq_some_iff.mp hvalue
      rw [hread]
      cases x with
      | nan => exact absurd hx (by simp [Binary64.toRat?])
      | infinite negative => exact absurd hx (by simp [Binary64.toRat?])
      | finite negative m e =>
          dsimp only
          rw [hx]
          dsimp only
          rw [if_neg (not_lt.mpr hmost), if_neg (not_lt.mpr hleast)]

/-- **The query asks for suggestions**: of its values for the text, the limit and the threshold,
these are the ones that count. The limit and the threshold may be left to their defaults. -/
structure AsksForSuggestions (query : List Char) (text : String) (limit : Nat) (threshold : Rat) :
    Prop where
  text_eq : queryValue? "q" query = some text.toList
  limit_eq : (queryValue? "limit" query).elim (.ok defaultLimit) readWhole = .ok (limit : Int)
  threshold_eq :
    (queryValue? "threshold" query).elim (some 60) (fun s => (readReal? s).bind (·.toRat?))
      = some threshold

/-- The path under which records are suggested belongs to that. -/
theorem choose_search (hasUi : Bool) :
    choose hasUi "GET" "/_gadget/api/search".toList = .answer .search := by
  cases hasUi <;> decide +kernel

/-! ## More than a page -/

/-- The calls that make records with the given aliases, all with one destination. -/
def makings (aliases : List String) : List Store.Call :=
  aliases.map fun aliasName => .create (.atNewYear aliasName) aliasName "https://a.io" none

/-- An empty memory holds what is made in it, if no alias comes twice and all are in the stored
form. -/
theorem exists_run_makings {aliases : List String} (hnodup : aliases.Nodup)
    (hstored : ∀ a ∈ aliases, Alias.normalize a = a) :
    ∃ m : Memory, (Store.memory .empty).run (makings aliases) = .memory m
      ∧ m.records.map (fun r => (r.aliasName, r.destination))
        = aliases.map fun a => (a, "https://a.io") := by
  induction aliases using List.reverseRecOn with
  | nil => exact ⟨.empty, rfl, rfl⟩
  | append_singleton front a ih =>
      obtain ⟨hfront, -, hnew⟩ := List.nodup_append.mp hnodup
      obtain ⟨m, hrun, hfields⟩ := ih hfront fun b hb => hstored b (List.mem_append_left _ hb)
      have ha : Alias.normalize a = a := hstored a (by simp)
      have haliases : m.records.map (·.aliasName) = front := by
        have hfst := congrArg (List.map Prod.fst) hfields
        simpa [Function.comp_def] using hfst
      have hfree : Alias.normalize a ∉ m.records.map (·.aliasName) := by
        rw [ha, haliases]
        exact fun hmem => hnew a hmem a (List.mem_singleton_self a) rfl
      refine ⟨⟨m.records ++ [m.nextRecord (.atNewYear a) a "https://a.io" none]⟩, ?_, ?_⟩
      · rw [makings, List.map_append, Store.run, List.foldl_append]
        rw [makings, Store.run] at hrun
        rw [hrun, List.map_singleton, List.foldl_cons, List.foldl_nil, Store.perform, Store.create,
          Memory.create_of_free hfree]
        rfl
      · have hnext : (m.nextRecord (.atNewYear a) a "https://a.io" none).aliasName = a := by
          show Alias.normalize (Alias.normalize a) = a
          rw [ha, ha]
        rw [List.map_append, hfields, List.map_append, List.map_singleton, hnext]
        rfl

/-- A number as an alias. -/
def numeral (n : Nat) : String :=
  String.ofList (natText n)

theorem numeral_injective : Function.Injective numeral := by
  intro n m h
  have hchars : natText n = natText m := String.ofList_injective h
  rw [← natOfDigits_natText n, hchars, natOfDigits_natText]

theorem normalize_numeral (n : Nat) : Alias.normalize (numeral n) = numeral n := by
  have hdigit : ∀ d < 10, isBlank (digit d) = false ∧ (digit d == '/') = false
      ∧ digit d ≠ 'Σ' ∧ lowerChar (digit d) = [digit d] := by
    decide +kernel
  have hall : ∀ c ∈ natText n, isBlank c = false ∧ (c == '/') = false ∧ IsLower c := by
    intro c hc
    obtain ⟨d, hd, rfl⟩ := exists_digit_of_mem_natText hc
    exact hdigit d hd
  rw [Alias.normalize, numeral, String.toList_ofList, Alias.normalizeChars_eq_self
    (fun c hc => (hall c hc).1) (head?_any_of_forall fun c hc => (hall c hc).2.1)
    fun c hc => (hall c hc).2.2]

/-- A number begins with a digit. -/
theorem exists_digit_numeral (n : Nat) :
    ∃ d < 10, ∃ rest, (numeral n).toList = digit d :: rest := by
  obtain ⟨c, rest, hc⟩ := List.exists_cons_of_ne_nil (natText_ne_nil n)
  obtain ⟨d, hd, rfl⟩ := exists_digit_of_mem_natText (hc ▸ List.mem_cons_self)
  exact ⟨d, hd, rest, by rw [numeral, String.toList_ofList, hc]⟩

/-- A hyphen comes before all digits. -/
theorem hyphen_lt_numeral (n : Nat) : "-wiki" < numeral n := by
  obtain ⟨d, hd, rest, hrest⟩ := exists_digit_numeral n
  have hall : ∀ d < 10, '-' < digit d := by decide
  rw [String.lt_iff_toList_lt, hrest]
  exact List.cons_lt_cons_iff.mpr (Or.inl (hall d hd))

/-- A letter comes behind all digits. -/
theorem numeral_lt_wiki (n : Nat) : numeral n < "wiki" := by
  obtain ⟨d, hd, rest, hrest⟩ := exists_digit_numeral n
  have hall : ∀ d < 10, digit d < 'w' := by decide
  rw [String.lt_iff_toList_lt, hrest]
  exact List.cons_lt_cons_iff.mpr (Or.inl (hall d hd))

/-- The numbers below a bound as aliases. -/
def numerals (count : Nat) : List String :=
  (List.range count).map numeral

theorem length_numerals (count : Nat) : (numerals count).length = count := by
  rw [numerals, List.length_map, List.length_range]

/-- A memory holds what is made in it under some aliases, under numbers, and under a last alias. -/
theorem exists_run_numerals {front : List String} {last : String} (count : Nat)
    (hdistinct : (front ++ [last]).Nodup)
    (hstored : ∀ a ∈ front ++ [last], Alias.normalize a = a)
    (hother : ∀ a ∈ front ++ [last], ∀ n, numeral n ≠ a) :
    ∃ m : Memory,
      (Store.memory .empty).run (makings (front ++ numerals count ++ [last])) = .memory m
      ∧ ∃ early late, m.records = early ++ [late]
      ∧ early.map (fun r => (r.aliasName, r.destination))
        = (front ++ numerals count).map (fun a => (a, "https://a.io"))
      ∧ late.aliasName = last ∧ late.destination = "https://a.io" := by
  have hperm : (front ++ numerals count ++ [last]).Perm (front ++ [last] ++ numerals count) := by
    rw [List.append_assoc, List.append_assoc]
    exact List.perm_append_comm.append_left front
  have hnodup : (front ++ [last] ++ numerals count).Nodup := by
    refine List.nodup_append.mpr ⟨hdistinct, List.nodup_range.map numeral_injective, ?_⟩
    rintro a ha b hb rfl
    obtain ⟨n, -, hn⟩ := List.mem_map.mp hb
    exact hother a ha n hn
  obtain ⟨m, hrun, hfields⟩ := exists_run_makings (hperm.nodup_iff.mpr hnodup) (by
    intro a ha
    rcases List.mem_append.mp (hperm.mem_iff.mp ha) with ha | ha
    · exact hstored a ha
    · obtain ⟨n, -, rfl⟩ := List.mem_map.mp ha
      exact normalize_numeral n)
  rw [List.map_append] at hfields
  obtain ⟨early, back, hcut, hearly, hback⟩ := List.map_eq_append_iff.mp hfields
  obtain ⟨late, rfl, hlate⟩ := List.map_eq_singleton_iff.mp hback
  obtain ⟨halias, hdestination⟩ := Prod.mk.inj hlate
  exact ⟨m, hrun, early, late, hcut, hearly, halias, hdestination⟩

/-- A memory in which records were made under 10000 numbers, and then one more. -/
def crowdedStore : Store :=
  (Store.memory .empty).run (makings (numerals 10000 ++ ["-wiki"]))

theorem exists_records_crowdedStore : ∃ early late, crowdedStore.records = early ++ [late]
    ∧ early.length = 10000 ∧ (∀ r ∈ early, "-wiki" < r.aliasName)
    ∧ late.aliasName = "-wiki" ∧ late.destination = "https://a.io" := by
  have hother : ∀ a ∈ [] ++ ["-wiki"], ∀ n, numeral n ≠ a := by
    intro a ha n heq
    rw [List.mem_singleton.mp ha] at heq
    exact String.lt_irrefl _ (heq ▸ hyphen_lt_numeral n)
  obtain ⟨m, hrun, early, late, hcut, hearly, halias, hdestination⟩ :=
    exists_run_numerals 10000 (by simp) (by decide +kernel) hother
  rw [List.nil_append] at hrun hearly
  refine ⟨early, late, ?_, ?_, ?_, halias, hdestination⟩
  · rw [crowdedStore, hrun]
    exact hcut
  · have hlength := congrArg List.length hearly
    rwa [List.length_map, List.length_map, length_numerals] at hlength
  · intro r hr
    have hmem := List.mem_map_of_mem (f := fun r : Redirect => (r.aliasName, r.destination)) hr
    rw [hearly, numerals, List.map_map] at hmem
    obtain ⟨n, -, hn⟩ := List.mem_map.mp hmem
    rw [← (Prod.mk.inj hn).1]
    exact hyphen_lt_numeral n

/-- A memory in which a record was made first that matches, then many others, and last one that
matches nearly as well. -/
def outdoneStore : Store :=
  (Store.memory .empty).run (makings (["wiki"] ++ numerals 9999 ++ ["wikis"]))

/-! ## Answers -/

/-- **The service answers with these suggestions**, and nothing changes. -/
def App.Suggests (app : App) (fresh : Fresh) (r : Request) (query : String)
    (found : List Suggestion) : Prop :=
  app.handle fresh r = .still app.catalog (.ofJson 200 (suggestionsValue query found))

/-- The page that suggestions are made from holds the first 10000 records, in every kind of
store. -/
theorem page_searchedPage (c : Catalog) :
    c.page searchedPage.1 searchedPage.2 = .ok (c.store.records.take 10000) := by
  have hpage : c.store.page (0 : Nat) (10000 : Nat)
      = .ok ((c.store.records.drop (10000 * 0)).take 10000) :=
    Store.page_of_nonneg (by decide) fun _ => by decide
  exact hpage

section

variable {app : App} {r : Request} {query : String} {limit : Nat} {threshold : Rat}
  (hmethod : r.method = "GET") (hpath : r.path = "/_gadget/api/search".toList)
  (hasked : AsksForSuggestions r.query query limit threshold)
  (hlimit : 1 ≤ limit ∧ limit ≤ 100) (hthreshold : 0 ≤ threshold ∧ threshold ≤ 100)

include hmethod hpath hasked hlimit hthreshold

/-- **The best of the first page are suggested.** -/
theorem App.suggests_searched (fresh : Fresh) :
    app.Suggests fresh r query
      (suggest app.spelling query (app.catalog.store.records.take 10000) limit
        (.atLeast threshold)) := by
  have hchoice : choose app.site.isSome r.method r.path = .answer .search := by
    rw [hmethod, hpath]
    exact choose_search _
  have htext : textParameter "q" r.query = .ok query := by
    rw [textParameter, hasked.text_eq]
    dsimp only
    rw [String.ofList_toList]
  have hcount : wholeParameter "limit" defaultLimit 1 (some 100) r.query = .ok (limit : Int) :=
    wholeParameter_of_value hasked.limit_eq (by omega) (by simp; omega)
  have hscore : thresholdParameter "threshold" defaultThreshold 0 100 r.query
      = .ok (.atLeast threshold) :=
    thresholdParameter_of_value hasked.threshold_eq hthreshold.1 hthreshold.2
  rw [App.Suggests, App.handle_of_answer hchoice, App.answer, search, htext, hcount, hscore]
  dsimp only [Checked.both]
  rw [page_searchedPage]
  rfl

/-- **The best of all records are suggested** just if they are the best of the first page. -/
theorem App.suggests_records_iff (fresh : Fresh) :
    let records := app.catalog.store.records
    app.Suggests fresh r query (suggest app.spelling query records limit (.atLeast threshold))
      ↔ suggest app.spelling query records limit (.atLeast threshold)
        = suggest app.spelling query (records.take 10000) limit (.atLeast threshold) := by
  intro records
  have hsearched : app.Suggests fresh r query
      (suggest app.spelling query (records.take 10000) limit (.atLeast threshold)) :=
    App.suggests_searched hmethod hpath hasked hlimit hthreshold fresh
  constructor
  · intro h
    have hboth := hsearched.symm.trans h
    have hvalue := Body.json.inj (congrArg Response.body
      (Reply.response.inj (congrArg Outcome.reply hboth)))
    exact (suggestionsValue_inj hvalue).symm
  · intro h
    rw [h]
    exact hsearched

/-- **When the best of all records are suggested.** The service always answers with the best of the
first 10000 records. These are the best of all records just if each later record that reaches the
threshold is preceded by as many of the first 10000 as suggestions are asked for: by records with a
better score, or with the same one and an alias that is not greater. -/
theorem App.suggests_all_iff (fresh : Fresh) :
    let records := app.catalog.store.records
    let searched := records.take 10000
    let reaching := fun these => Shortlink.candidates app.spelling query these (.atLeast threshold)
    app.Suggests fresh r query (suggest app.spelling query searched limit (.atLeast threshold))
    ∧ (app.Suggests fresh r query (suggest app.spelling query records limit (.atLeast threshold))
      ↔ ∀ late ∈ reaching (records.drop 10000),
        limit ≤ (reaching searched).countP (·.precedes late)) := by
  intro records searched reaching
  refine ⟨App.suggests_searched hmethod hpath hasked hlimit hthreshold fresh, ?_⟩
  have happend := suggest_append_iff app.spelling query searched (records.drop 10000) limit
    (.atLeast threshold)
  rw [List.take_append_drop] at happend
  exact (App.suggests_records_iff hmethod hpath hasked hlimit hthreshold fresh).trans happend

end

/-- A client looks for an alias, with a slash in front, and wants one suggestion. -/
def wikiRequest : Request :=
  .reading "/_gadget/api/search?q=%2Fwiki&limit=1"

/-- The record behind 10000 others is good enough, but outdone by the first one. So the suggestion
is the best one of all. -/
theorem App.suggests_all_iff_outdone :
    AsksForSuggestions wikiRequest.query "/wiki" 1 60
    ∧ (∃ late ∈ outdoneStore.records.drop 10000, late.aliasName = "wikis"
      ∧ 60 ≤ (late.suggestion spellChar "/wiki").score)
    ∧ ∀ fresh, (App.mk (.ofStore outdoneStore) none spellChar).Suggests fresh wikiRequest "/wiki"
      (suggest spellChar "/wiki" outdoneStore.records (1 : Nat) (.atLeast 60)) := by
  have hpath : wikiRequest.path = "/_gadget/api/search".toList := by decide +kernel
  have hasked : AsksForSuggestions wikiRequest.query "/wiki" 1 60 :=
    ⟨by decide +kernel, by decide +kernel, by decide +kernel⟩
  have hless : "wiki" < "wikis" := by decide +kernel
  have hother : ∀ a ∈ ["wiki"] ++ ["wikis"], ∀ n, numeral n ≠ a := by
    intro a ha n
    rcases List.mem_cons.mp ha with rfl | ha
    · exact (numeral_lt_wiki n).ne
    · rw [List.mem_singleton.mp ha]
      exact ((numeral_lt_wiki n).trans hless).ne
  obtain ⟨m, hrun, early, late, hcut, hearly, halias, hdestination⟩ :=
    exists_run_numerals 9999 (by decide) (by decide +kernel) hother
  have hrecords : outdoneStore.records = early ++ [late] := by
    rw [outdoneStore, hrun]
    exact hcut
  -- how the records got there does not matter from here on
  generalize outdoneStore = store at hrecords ⊢
  have hlength : early.length = 10000 := by
    have h := congrArg List.length hearly
    rwa [List.length_map, List.length_map, List.length_append, length_numerals] at h
  have htake : store.records.take 10000 = early := by
    rw [hrecords]
    exact List.take_left' hlength
  have hdrop : store.records.drop 10000 = [late] := by
    rw [hrecords]
    exact List.drop_left' hlength
  obtain ⟨first, rest, hfirst, hpair, -⟩ := List.map_eq_cons_iff.mp hearly
  have hname : first.aliasName = "wiki" := (Prod.mk.inj hpair).1
  have hwords : searchText spellChar "wiki".toList ≠ [] := by decide +kernel
  have htyped : queryAlias "/wiki".toList = "wiki".toList := by decide +kernel
  have hfull : first.suggestion spellChar "/wiki" = ⟨"wiki", first.destination, 100⟩ := by
    rw [Redirect.suggestion, htyped, ← hname, Redirect.score_self (hname ▸ hwords)]
  have hbefore : (first.suggestion spellChar "/wiki").precedes (late.suggestion spellChar "/wiki")
      = true := by
    rw [Suggestion.precedes_iff, hfull]
    have hnames : "wiki" ≤ late.aliasName := by
      rw [halias]
      decide +kernel
    rcases (late.isWithin_score spellChar (queryAlias "/wiki".toList)).le.lt_or_eq with hlt | heq
    · exact Or.inl hlt
    · exact Or.inr ⟨heq.symm, hnames⟩
  have hcandidate : first.suggestion spellChar "/wiki"
      ∈ Shortlink.candidates spellChar "/wiki" early (.atLeast 60) := by
    refine mem_candidates_iff.mpr ⟨⟨first, hfirst ▸ List.mem_cons_self, rfl⟩, ?_⟩
    have hgood : (Threshold.atLeast 60).admits 100 = true := by decide
    rw [hfull]
    exact hgood
  have houtdone : ∀ s ∈ Shortlink.candidates spellChar "/wiki" [late] (.atLeast 60),
      1 ≤ (Shortlink.candidates spellChar "/wiki" early (.atLeast 60)).countP (·.precedes s) := by
    intro s hs
    obtain ⟨⟨r, hr, rfl⟩, -⟩ := mem_candidates_iff.mp hs
    rw [List.mem_singleton.mp hr]
    exact List.countP_pos_iff.mpr ⟨_, hcandidate, hbefore⟩
  refine ⟨hasked, ⟨late, ?_, halias, ?_⟩, fun fresh => ?_⟩
  · rw [hdrop]
    exact List.mem_singleton_self late
  · rw [Redirect.suggestion, Redirect.score, halias, hdestination]
    decide +kernel
  · rw [← htake, ← hdrop] at houtdone
    exact (App.suggests_all_iff rfl hpath hasked (by decide) (by decide) fresh).2.mpr houtdone

/-- A client looks for an alias with a hyphen in front, and for nothing but that. -/
def hyphenRequest : Request :=
  .reading "/_gadget/api/search?q=-wiki&threshold=100"

/-- **The best record of all is missed** when 10000 others were made before it. -/
theorem App.last_is_missed :
    AsksForSuggestions hyphenRequest.query "-wiki" 10 100
    ∧ ∃ early late, crowdedStore.records = early ++ [late]
      ∧ late.suggestion spellChar "-wiki" = ⟨"-wiki", "https://a.io", 100⟩
      ∧ (∀ r ∈ early,
        (late.suggestion spellChar "-wiki").RanksBefore (r.suggestion spellChar "-wiki"))
      ∧ ∀ fresh,
        ¬ (App.mk (.ofStore crowdedStore) none spellChar).Suggests fresh hyphenRequest "-wiki"
          (suggest spellChar "-wiki" crowdedStore.records (10 : Nat) (.atLeast 100)) := by
  have hpath : hyphenRequest.path = "/_gadget/api/search".toList := by decide +kernel
  have hasked : AsksForSuggestions hyphenRequest.query "-wiki" 10 100 :=
    ⟨by decide +kernel, by decide +kernel, by decide +kernel⟩
  obtain ⟨early, late, hrecords, hlength, hless, halias, hdestination⟩ :=
    exists_records_crowdedStore
  -- how the records got there does not matter from here on
  generalize crowdedStore = store at hrecords ⊢
  have hwords : searchText spellChar "-wiki".toList ≠ [] := by decide +kernel
  have htyped : queryAlias "-wiki".toList = "-wiki".toList := by decide +kernel
  have hfull : late.suggestion spellChar "-wiki" = ⟨"-wiki", "https://a.io", 100⟩ := by
    rw [Redirect.suggestion, htyped, ← halias, Redirect.score_self (halias ▸ hwords), hdestination]
  have hbefore : ∀ r ∈ early,
      (late.suggestion spellChar "-wiki").RanksBefore (r.suggestion spellChar "-wiki") := by
    intro r hr
    rw [hfull]
    rcases (r.isWithin_score spellChar (queryAlias "-wiki".toList)).le.lt_or_eq with hscore | hscore
    · exact Or.inl hscore
    · exact Or.inr ⟨hscore.symm, hless r hr⟩
  refine ⟨hasked, early, late, hrecords, hfull, hbefore, fun fresh h => ?_⟩
  have hsame := (App.suggests_records_iff rfl hpath hasked (by decide) (by decide) fresh).mp h
  have htake : store.records.take 10000 = early := by
    rw [hrecords]
    exact List.take_left' hlength
  change suggest spellChar "-wiki" store.records _ _
    = suggest spellChar "-wiki" (store.records.take 10000) _ _ at hsame
  rw [htake, hrecords] at hsame
  refine suggest_concat_ne (by decide) ?_ hbefore hsame
  rw [hfull]
  decide

end Web

end Shortlink
