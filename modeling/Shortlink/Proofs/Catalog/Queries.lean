import Shortlink.Proofs.Catalog.Tidiness

/-!
# Compiling once

As long as nothing is written, a catalog compiles no record twice, whatever it is asked and however
often (`compiled_once`). All that a query can do is to compile the record whose link it seeks
(`ask_cases`), and it compiles it only when no link is kept for its present destination. Then such a
link is kept, and it stays (`cached?_askAll`): another record has another reference, so its link
takes another place. What was kept at the start does not matter, nor does what earlier writes have
left there.

## Contents

- **Queries.** `Query`, `ask`, `askAll`; `Query.sought?`, `ask_cases`.
- **Compilations.** `keeps`, `compiledBy`, `compilations`; `askAll_eq`: they are all that a run of
  queries does.
- **What is kept stays.** `lookup_put_of_ne`, `cached?_compile_of_ne`; `cached?_ask`,
  `cached?_askAll`.
- **Runs.** `not_mem_compilations`, `nodup_compilations`, `exists_answer_find`, `askAll_of_kept`;
  `compiled_once`, and a run that finds an entry from before a write.
-/

namespace Shortlink

namespace Catalog

/-! ## Queries -/

/-- What a catalog can be asked without anything being written. -/
inductive Query where
  | find (reference : String)
  | resolve (path : String)
  | get (reference : String)
  | page (page limit : Int)
  | count

/-- What a query is answered. -/
inductive Query.Answer where
  | link (found : Option Link)
  | destination (found : Option String)
  | record (found : Option Redirect)
  | page (records : Except StoreError (List Redirect))
  | count (number : Nat)

/-- The answer to a query. -/
def ask (c : Catalog) : Query → Outcome Query.Answer
  | .find reference =>
    let o := c.find? reference
    ⟨.link o.answer, o.catalog, o.warnings⟩
  | .resolve path =>
    let o := c.resolve path
    ⟨.destination o.answer, o.catalog, o.warnings⟩
  | .get reference => ⟨.record (c.get? reference), c, []⟩
  | .page page limit => ⟨.page (c.page page limit), c, []⟩
  | .count => ⟨.count c.count, c, []⟩

/-- The answers to queries that are asked one after the other, and all warnings on the way. -/
def askAll (c : Catalog) : List Query → Outcome (List Query.Answer)
  | [] => ⟨[], c, []⟩
  | q :: rest =>
    let o := c.ask q
    let later := o.catalog.askAll rest
    ⟨o.answer :: later.answer, later.catalog, o.warnings ++ later.warnings⟩

/-- The record whose link a query seeks. -/
def Query.sought? (s : Store) : Query → Option Redirect
  | .find reference => s.find? reference
  | .resolve path =>
    let aliasName := aliasOf path.toList
    if aliasName.isEmpty then none else s.find? (String.ofList aliasName)
  | .get _ | .page _ _ | .count => none

theorem Query.mem_of_sought? {s : Store} {q : Query} {r : Redirect} (h : q.sought? s = some r) :
    r ∈ s.records := by
  cases q with
  | find reference => exact Store.mem_of_find? h
  | resolve path =>
      simp only [sought?] at h
      split at h
      · exact absurd h (by simp)
      · exact Store.mem_of_find? h
  | get reference => exact absurd h (by simp [sought?])
  | page page limit => exact absurd h (by simp [sought?])
  | count => exact absurd h (by simp [sought?])

/-- **What a query does.** It answers from the store, or it compiles the record whose link it seeks
and answers from that link; the links that are kept have no other say in it. -/
theorem ask_cases (s : Store) (q : Query) :
    (q.sought? s = none ∧ ∃ answer, ∀ c : Catalog, c.store = s → c.ask q = ⟨answer, c, []⟩) ∨
    ∃ (r : Redirect) (shown : Link → Query.Answer), q.sought? s = some r ∧
      ∀ c : Catalog, c.store = s → c.ask q
        = ⟨shown (c.compile r).answer, (c.compile r).catalog, (c.compile r).warnings⟩ := by
  cases q with
  | find reference =>
      cases hf : s.find? reference with
      | none =>
          refine Or.inl ⟨hf, .link none, ?_⟩
          rintro c rfl
          simp only [ask, find?, get?, hf]
      | some r =>
          refine Or.inr ⟨r, fun link => .link (some link), hf, ?_⟩
          rintro c rfl
          simp only [ask, find?, get?, hf]
  | resolve path =>
      by_cases hempty : (aliasOf path.toList).isEmpty = true
      · refine Or.inl ⟨if_pos hempty, .destination none, ?_⟩
        rintro c rfl
        simp only [ask, resolve, if_pos hempty]
      · cases hf : s.find? (String.ofList (aliasOf path.toList)) with
        | none =>
            refine Or.inl ⟨(if_neg hempty).trans hf, .destination none, ?_⟩
            rintro c rfl
            simp only [ask, resolve, if_neg hempty, find?, get?, hf, Option.map_none]
        | some r =>
            refine Or.inr ⟨r,
              fun link => .destination (some (String.ofList (link.destination path.toList))),
              (if_neg hempty).trans hf, ?_⟩
            rintro c rfl
            simp only [ask, resolve, if_neg hempty, find?, get?, hf, Option.map_some]
  | get reference =>
      refine Or.inl ⟨rfl, .record (s.find? reference), ?_⟩
      rintro c rfl
      rfl
  | page page limit =>
      refine Or.inl ⟨rfl, .page (s.page page limit), ?_⟩
      rintro c rfl
      rfl
  | count =>
      refine Or.inl ⟨rfl, .count s.count, ?_⟩
      rintro c rfl
      rfl

theorem store_ask (c : Catalog) (q : Query) : (c.ask q).catalog.store = c.store := by
  rcases ask_cases c.store q with ⟨-, answer, hask⟩ | ⟨r, shown, -, hask⟩
  · rw [hask c rfl]
  · rw [hask c rfl]
    exact store_compile c r

theorem store_askAll (queries : List Query) :
    ∀ c : Catalog, (c.askAll queries).catalog.store = c.store := by
  induction queries with
  | nil =>
      intro c
      rfl
  | cons q rest ih =>
      intro c
      exact (ih (c.ask q).catalog).trans (store_ask c q)

/-! ## Compilations -/

/-- A link is kept for the present destination of the record. -/
def keeps (c : Catalog) (r : Redirect) : Bool :=
  (c.cached? r.publicRef).any fun entry => entry.destination == r.destination

theorem keeps_iff {c : Catalog} {r : Redirect} :
    c.keeps r = true ↔ ∃ link, c.cached? r.publicRef = some ⟨r.destination, link⟩ := by
  rw [keeps, Option.any_eq_true]
  constructor
  · rintro ⟨⟨destination, link⟩, hentry, hdest⟩
    rw [← beq_iff_eq.mp hdest]
    exact ⟨link, hentry⟩
  · rintro ⟨link, hentry⟩
    exact ⟨_, hentry, beq_self_eq_true _⟩

/-- A link that is kept for the destination of a record serves. -/
theorem compile_of_cached? {c : Catalog} {r : Redirect} {link : Link}
    (h : c.cached? r.publicRef = some ⟨r.destination, link⟩) : c.compile r = ⟨link, c, []⟩ := by
  unfold compile
  rw [h]
  exact if_pos rfl

theorem compile_of_not_keeps {c : Catalog} {r : Redirect} (h : c.keeps r = false) :
    c.compile r = compile.compileAnew c r := by
  rcases c.compile_cases r with ⟨link, hcached, -⟩ | ⟨-, heq⟩
  · rw [keeps_iff.mpr ⟨link, hcached⟩] at h
    exact absurd h (by simp)
  · exact heq

/-- The record that a query compiles: the one whose link it seeks, unless a link is kept for it. -/
def compiledBy (c : Catalog) (q : Query) : Option Redirect :=
  (q.sought? c.store).filter fun r => !c.keeps r

/-- The records that are compiled when queries are asked one after the other. -/
def compilations (c : Catalog) : List Query → List Redirect
  | [] => []
  | q :: rest => (c.compiledBy q).toList ++ (c.ask q).catalog.compilations rest

/-- The catalog after some records are compiled anew, one after the other. -/
def compileAllAnew (c : Catalog) (records : List Redirect) : Catalog :=
  records.foldl (fun c r => (compile.compileAnew c r).catalog) c

theorem compiledBy_eq_some_iff {c : Catalog} {q : Query} {r : Redirect} :
    c.compiledBy q = some r ↔ q.sought? c.store = some r ∧ c.keeps r = false := by
  rw [compiledBy, Option.filter_eq_some_iff, Bool.not_eq_true']

/-- A query compiles one record anew or none, and that is all that it does to the links. -/
theorem ask_eq (c : Catalog) (q : Query) :
    (c.ask q).catalog = c.compileAllAnew (c.compiledBy q).toList
      ∧ (c.ask q).warnings
        = (c.compiledBy q).toList.filterMap fun r => Link.warning? r.destination := by
  rcases ask_cases c.store q with ⟨hnone, answer, hask⟩ | ⟨r, shown, hsome, hask⟩
  · rw [hask c rfl, compiledBy, hnone]
    exact ⟨rfl, rfl⟩
  · rw [hask c rfl]
    cases hkeeps : c.keeps r with
    | true =>
        obtain ⟨link, hlink⟩ := keeps_iff.mp hkeeps
        rw [compile_of_cached? hlink, compiledBy, hsome, Option.filter_some, hkeeps]
        exact ⟨rfl, rfl⟩
    | false =>
        rw [compile_of_not_keeps hkeeps, compiledBy_eq_some_iff.mpr ⟨hsome, hkeeps⟩]
        refine ⟨rfl, ?_⟩
        rw [Option.toList_some, List.filterMap_cons]
        cases hwarning : Link.warning? r.destination with
        | none => simp [compile.compileAnew, hwarning]
        | some w => simp [compile.compileAnew, hwarning]

/-- **The compilations are all that a run of queries does**: they make up what is kept after it, and
all that it warns of. -/
theorem askAll_eq (queries : List Query) :
    ∀ c : Catalog, (c.askAll queries).catalog = c.compileAllAnew (c.compilations queries)
      ∧ (c.askAll queries).warnings
        = (c.compilations queries).filterMap fun r => Link.warning? r.destination := by
  induction queries with
  | nil =>
      intro c
      exact ⟨rfl, rfl⟩
  | cons q rest ih =>
      intro c
      obtain ⟨hcatalog, hwarnings⟩ := ask_eq c q
      obtain ⟨hcatalog', hwarnings'⟩ := ih (c.ask q).catalog
      constructor
      · show ((c.ask q).catalog.askAll rest).catalog = _
        rw [hcatalog', compilations, compileAllAnew, compileAllAnew, List.foldl_append]
        congr 1
      · show (c.ask q).warnings ++ ((c.ask q).catalog.askAll rest).warnings = _
        rw [hwarnings, hwarnings', compilations, List.filterMap_append]

theorem compilations_subset (queries : List Query) :
    ∀ c : Catalog, c.compilations queries ⊆ c.store.records := by
  induction queries with
  | nil =>
      intro c
      exact List.nil_subset _
  | cons q rest ih =>
      intro c
      refine List.append_subset.mpr ⟨?_, ?_⟩
      · intro r hr
        exact Query.mem_of_sought? (compiledBy_eq_some_iff.mp (Option.mem_toList.mp hr)).1
      · have hrest := ih (c.ask q).catalog
        rwa [store_ask] at hrest

/-! ## What is kept stays -/

/-- What is put under a reference does not touch the others. -/
theorem lookup_put_of_ne {publicRef key : String} (h : key ≠ publicRef) (entry : Compiled)
    (links : List (String × Compiled)) :
    (put publicRef entry links).lookup key = links.lookup key := by
  have hkey : (key == publicRef) = false := beq_eq_false_iff_ne.mpr h
  induction links with
  | nil => rw [put, List.lookup_cons, hkey]
  | cons first rest ih =>
      obtain ⟨k, old⟩ := first
      rw [put]
      by_cases hk : k = publicRef
      · rw [if_pos hk, List.lookup_cons, List.lookup_cons, hk, hkey]
      · rw [if_neg hk, List.lookup_cons, List.lookup_cons, ih]

theorem cached?_compile_of_ne (c : Catalog) {r : Redirect} {key : String}
    (h : key ≠ r.publicRef) : (c.compile r).catalog.cached? key = c.cached? key := by
  rcases c.compile_cases r with ⟨link, -, heq⟩ | ⟨-, heq⟩
  · rw [heq]
  · rw [heq]
    exact lookup_put_of_ne h _ _

section Kept

variable {c : Catalog} {r : Redirect} {link : Link}

theorem nodup_refs_ask (hrefs : (c.store.records.map (·.publicRef)).Nodup) (q : Query) :
    ((c.ask q).catalog.store.records.map (·.publicRef)).Nodup := by
  rwa [store_ask]

theorem mem_records_ask (hr : r ∈ c.store.records) (q : Query) :
    r ∈ (c.ask q).catalog.store.records := by
  rwa [store_ask]

/-- **A query leaves the link that is kept for a stored record**, if no other record has its
reference. -/
theorem cached?_ask (hrefs : (c.store.records.map (·.publicRef)).Nodup)
    (hr : r ∈ c.store.records) (hkept : c.cached? r.publicRef = some ⟨r.destination, link⟩)
    (q : Query) : (c.ask q).catalog.cached? r.publicRef = some ⟨r.destination, link⟩ := by
  rcases ask_cases c.store q with ⟨-, answer, hask⟩ | ⟨other, shown, hother, hask⟩
  · rw [hask c rfl]
    exact hkept
  · rw [hask c rfl]
    by_cases hsame : r.publicRef = other.publicRef
    · -- it is the record itself that is sought, and its link serves
      obtain rfl := List.inj_on_of_nodup_map hrefs hr (Query.mem_of_sought? hother) hsame
      rw [compile_of_cached? hkept]
      exact hkept
    · exact (cached?_compile_of_ne c hsame).trans hkept

theorem cached?_askAll {queries : List Query} :
    ∀ {c : Catalog}, (c.store.records.map (·.publicRef)).Nodup → r ∈ c.store.records →
      c.cached? r.publicRef = some ⟨r.destination, link⟩ →
      (c.askAll queries).catalog.cached? r.publicRef = some ⟨r.destination, link⟩ := by
  induction queries with
  | nil =>
      intro c _ _ hkept
      exact hkept
  | cons q rest ih =>
      intro c hrefs hr hkept
      exact ih (nodup_refs_ask hrefs q) (mem_records_ask hr q) (cached?_ask hrefs hr hkept q)

/-- Once a query has sought the link of a record, it is kept. -/
theorem cached?_ask_of_sought? {q : Query} (h : q.sought? c.store = some r) :
    (c.ask q).catalog.cached? r.publicRef = some ⟨r.destination, (c.compile r).answer⟩ := by
  rcases ask_cases c.store q with ⟨hnone, -⟩ | ⟨other, shown, hother, hask⟩
  · rw [hnone] at h
    exact absurd h (by simp)
  · obtain rfl := Option.some.inj (hother.symm.trans h)
    rw [hask c rfl]
    exact cached?_compile c other

theorem cached?_askAll_of_sought? (hrefs : (c.store.records.map (·.publicRef)).Nodup) {q : Query}
    (h : q.sought? c.store = some r) (rest : List Query) :
    (c.askAll (q :: rest)).catalog.cached? r.publicRef
      = some ⟨r.destination, (c.compile r).answer⟩ := by
  show ((c.ask q).catalog.askAll rest).catalog.cached? r.publicRef = _
  exact cached?_askAll (nodup_refs_ask hrefs q) (mem_records_ask (Query.mem_of_sought? h) q)
    (cached?_ask_of_sought? h)

/-! ## Runs -/

/-- A record for which a link is kept is not compiled. -/
theorem not_mem_compilations {queries : List Query} :
    ∀ {c : Catalog}, (c.store.records.map (·.publicRef)).Nodup → r ∈ c.store.records →
      c.cached? r.publicRef = some ⟨r.destination, link⟩ → r ∉ c.compilations queries := by
  induction queries with
  | nil =>
      intro c _ _ _
      exact List.not_mem_nil
  | cons q rest ih =>
      intro c hrefs hr hkept hmem
      rcases List.mem_append.mp hmem with hnow | hlater
      · have hkeeps := (compiledBy_eq_some_iff.mp (Option.mem_toList.mp hnow)).2
        rw [keeps_iff.mpr ⟨link, hkept⟩] at hkeeps
        exact absurd hkeeps (by simp)
      · exact ih (nodup_refs_ask hrefs q) (mem_records_ask hr q) (cached?_ask hrefs hr hkept q)
          hlater

/-- **No record is compiled twice.** -/
theorem nodup_compilations (queries : List Query) :
    ∀ {c : Catalog}, (c.store.records.map (·.publicRef)).Nodup →
      (c.compilations queries).Nodup := by
  induction queries with
  | nil =>
      intro c _
      exact List.nodup_nil
  | cons q rest ih =>
      intro c hrefs
      have hrefs' := nodup_refs_ask hrefs q
      cases hnow : c.compiledBy q with
      | none =>
          rw [compilations, hnow, Option.toList_none, List.nil_append]
          exact ih hrefs'
      | some r =>
          have hsought := (compiledBy_eq_some_iff.mp hnow).1
          rw [compilations, hnow, Option.toList_some, List.singleton_append, List.nodup_cons]
          -- from now on a link is kept for the record
          have hmem := mem_records_ask (Query.mem_of_sought? hsought) q
          exact ⟨not_mem_compilations hrefs' hmem (cached?_ask_of_sought? hsought), ih hrefs'⟩

/-- **Whoever finds a record is answered the link that is kept for it in the end.** -/
theorem exists_answer_find {reference : String} {queries : List Query} :
    ∀ {c : Catalog} {i : Nat}, (c.store.records.map (·.publicRef)).Nodup →
      queries[i]? = some (.find reference) → c.store.find? reference = some r →
      ∃ link, (c.askAll queries).answer[i]? = some (.link (some link))
        ∧ (c.askAll queries).catalog.cached? r.publicRef = some ⟨r.destination, link⟩ := by
  induction queries with
  | nil =>
      intro c i _ hi _
      exact absurd hi (by simp)
  | cons q rest ih =>
      intro c i hrefs hi hr
      have hrefs' := nodup_refs_ask hrefs q
      cases i with
      | zero =>
          obtain rfl := Option.some.inj hi
          have hsought : (Query.find reference).sought? c.store = some r := hr
          refine ⟨(c.compile r).answer, ?_, cached?_askAll_of_sought? hrefs hsought rest⟩
          show some (c.ask (.find reference)).answer = _
          simp only [ask, find?, get?, hr]
      | succ i =>
          refine ih hrefs' hi ?_
          rw [store_ask]
          exact hr

/-- **A catalog that keeps all links which a run of queries has left** answers the run alike and
compiles nothing. -/
theorem askAll_of_kept {queries : List Query} :
    ∀ {c c' : Catalog}, (c.store.records.map (·.publicRef)).Nodup → c'.store = c.store →
      (∀ r ∈ c.store.records, ∀ link,
        (c.askAll queries).catalog.cached? r.publicRef = some ⟨r.destination, link⟩ →
        c'.cached? r.publicRef = some ⟨r.destination, link⟩) →
      c'.askAll queries = ⟨(c.askAll queries).answer, c', []⟩ ∧ c'.compilations queries = [] := by
  induction queries with
  | nil =>
      intro c c' _ _ _
      exact ⟨rfl, rfl⟩
  | cons q rest ih =>
      intro c c' hrefs hstore hkept
      have hrefs' := nodup_refs_ask hrefs q
      have hnow : c'.ask q = ⟨(c.ask q).answer, c', []⟩ ∧ c'.compiledBy q = none := by
        rcases ask_cases c.store q with ⟨hnone, answer, hask⟩ | ⟨r, shown, hsome, hask⟩
        · rw [hask c rfl, hask c' hstore, compiledBy, hstore, hnone]
          exact ⟨rfl, rfl⟩
        · have hlink : c'.cached? r.publicRef = some ⟨r.destination, (c.compile r).answer⟩ :=
            hkept r (Query.mem_of_sought? hsome) _ (cached?_askAll_of_sought? hrefs hsome rest)
          rw [hask c rfl, hask c' hstore, compile_of_cached? hlink, compiledBy, hstore, hsome,
            Option.filter_some, keeps_iff.mpr ⟨_, hlink⟩]
          exact ⟨rfl, rfl⟩
      obtain ⟨hask, hcompiled⟩ := hnow
      obtain ⟨hrest, hcompiled'⟩ := ih hrefs' (hstore.trans (store_ask c q).symm) (by
        rw [store_ask]
        exact hkept)
      constructor
      · rw [askAll, hask]
        dsimp only
        rw [hrest]
        rfl
      · rw [compilations, hcompiled, hask]
        exact hcompiled'

end Kept

/-- **A record is compiled at most once between writes.** If no two stored records share a
reference, then whatever is kept at the start and whatever is asked:

- the catalog after the queries and their warnings come from compiling some stored records, none of
  them twice, so there are no more warnings than records with a faulty destination;
- all queries that find one record are answered one link, which is the one that is kept for it;
- asked once more, the queries are answered alike, compile and warn of nothing, and leave the
  catalog as it is. -/
theorem compiled_once {c : Catalog} (hrefs : (c.store.records.map (·.publicRef)).Nodup)
    (queries : List Query) :
    let o := c.askAll queries
    let compiled := c.compilations queries
    (o.catalog = c.compileAllAnew compiled
      ∧ o.warnings = compiled.filterMap fun r => Link.warning? r.destination)
    ∧ (compiled.Nodup ∧ compiled ⊆ c.store.records)
    ∧ o.warnings.length
      ≤ c.store.records.countP (fun r => (Link.warning? r.destination).isSome)
    ∧ (∀ (i j : Nat) (reference reference' : String) (r : Redirect),
      queries[i]? = some (.find reference) → queries[j]? = some (.find reference') →
      c.store.find? reference = some r → c.store.find? reference' = some r →
      ∃ link, o.answer[i]? = some (.link (some link)) ∧ o.answer[j]? = some (.link (some link))
        ∧ o.catalog.cached? r.publicRef = some ⟨r.destination, link⟩)
    ∧ o.catalog.askAll queries = ⟨o.answer, o.catalog, []⟩
    ∧ o.catalog.compilations queries = [] := by
  intro o compiled
  obtain ⟨hcatalog, hwarnings⟩ := askAll_eq queries c
  have hnodup : compiled.Nodup := nodup_compilations queries hrefs
  have hsubset : compiled ⊆ c.store.records := compilations_subset queries c
  obtain ⟨hagain, hnothing⟩ :=
    askAll_of_kept hrefs (store_askAll queries c) fun r _ link hlink => hlink
  refine ⟨⟨hcatalog, hwarnings⟩, ⟨hnodup, hsubset⟩, ?_, ?_, hagain, hnothing⟩
  · calc o.warnings.length
        = compiled.countP (fun r => (Link.warning? r.destination).isSome) := by
          rw [hwarnings, List.length_filterMap_eq_countP]
      _ ≤ c.store.records.countP (fun r => (Link.warning? r.destination).isSome) :=
          (hnodup.subperm hsubset).countP_le _
  · intro i j reference reference' r hi hj hr hr'
    obtain ⟨link, hanswer, hkept⟩ := exists_answer_find hrefs hi hr
    obtain ⟨link', hanswer', hkept'⟩ := exists_answer_find hrefs hj hr'
    rw [hkept] at hkept'
    cases hkept'
    exact ⟨link, hanswer, hanswer', hkept⟩

/-- Two records whose links are from before their last change, of which the catalog knows nothing;
the braces of one destination are faulty now. -/
def staleCatalog : Catalog :=
  (ofStore (.memory .empty)).run
    [.call (.create (.atNewYear "Ref0000001") "wiki" "https://a.io/\x7b$1\x7d" none),
      .call (.create (.atNewYear "Ref0000002") "docs" "https://b.io" none),
      .behind (.update "wiki" "https://c.io/\x7b$1\x7d" none),
      .behind (.update "docs" "https://d.io/\x7d\x7b" none)]

/-- Both records are looked up more than once, in turn. -/
def mixedQueries : List Query :=
  [.find "/WIKI", .resolve "docs%20x", .count, .find "docs", .get "wiki", .resolve "wiki y",
    .page 0 10, .find "Ref0000001"]

/-- Each record is compiled once, with one warning in all, and both finds of the first record are
answered alike. -/
theorem compiled_once_mixedQueries :
    (staleCatalog.store.records.map (·.publicRef)).Nodup
    ∧ (staleCatalog.compilations mixedQueries).map (·.aliasName) = ["wiki", "docs"]
    ∧ (staleCatalog.askAll mixedQueries).warnings.length ≤ 1
    ∧ (∃ link, (staleCatalog.askAll mixedQueries).answer[0]? = some (.link (some link))
      ∧ (staleCatalog.askAll mixedQueries).answer[7]? = some (.link (some link)))
    ∧ ((staleCatalog.askAll mixedQueries).catalog.askAll mixedQueries).warnings = [] := by
  have hrefs : (staleCatalog.store.records.map (·.publicRef)).Nodup := by decide +kernel
  obtain ⟨-, -, hwarnings, hfinds, hagain, -⟩ := compiled_once hrefs mixedQueries
  have hfaulty : staleCatalog.store.records.countP
      (fun r => (Link.warning? r.destination).isSome) = 1 := by
    decide +kernel
  obtain ⟨link, hfirst, hlast, -⟩ := hfinds 0 7 "/WIKI" "Ref0000001" _ rfl rfl rfl rfl
  refine ⟨hrefs, by decide +kernel, ?_, ⟨link, hfirst, hlast⟩, ?_⟩
  · rw [← hfaulty]
    exact hwarnings
  · rw [hagain]

end Catalog

end Shortlink
