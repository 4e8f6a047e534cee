import Shortlink.Proofs.Catalog.Transparency
import Shortlink.Proofs.Store.Keyed
import Shortlink.Proofs.Web.Handling

/-!
# What requests keep

A service may answer any number of requests before the one that matters, and any number after it.
The links that it has compiled are those of its records (`App.exists_faithful_serve`), references
are only those that the requests came with (`App.refs_serve`), and a record is found under a text
for as long as no request changes or removes it (`App.find?_serve`).

## Contents

- **Runs.** `App.exists_faithful_serve`, `App.hasKeys_serve`, `App.refs_serve`.
- **What stays found.** `App.Changes`, `App.Spares`; `App.find?_serve`.
-/

namespace Shortlink.Web

open Text

/-! ## Runs -/

/-- After any requests to a service whose catalog has compiled nothing, the compiled links are
those of the records. -/
theorem App.exists_faithful_serve (s : Store) (site : Option Site) (spelling : Spelling)
    (requests : List (Fresh × Request)) :
    ∃ given,
      Catalog.Faithful given ((App.mk (.ofStore s) site spelling).serve requests).catalog := by
  refine App.serve_induction (motive := fun app => ∃ given, Catalog.Faithful given app.catalog) ?_
    ⟨_, Catalog.faithful_ofStore s⟩
  rintro app fresh r - ⟨given, hgiven⟩
  obtain ⟨a, -, ha⟩ := app.exists_asks fresh r
  show ∃ given, Catalog.Faithful given (app.handle fresh r).catalog
  rw [ha]
  exact ⟨_, hgiven.act a⟩

theorem App.hasKeys_handle {app : App} (h : app.catalog.store.HasKeys) (fresh : Fresh)
    (r : Request) : (app.handle fresh r).catalog.store.HasKeys := by
  obtain ⟨a, hasks, hstore⟩ := app.exists_store_handle fresh r
  rw [hstore]
  cases hasks with
  | resolve path => exact h
  | nothing => exact h
  | create hasked => exact Store.hasKeys_perform h _
  | update hroute hmethod hasked => exact Store.hasKeys_perform h _
  | delete hroute hmethod => exact Store.hasKeys_perform h _

theorem App.hasKeys_serve {app : App} (h : app.catalog.store.HasKeys)
    (requests : List (Fresh × Request)) : (app.serve requests).catalog.store.HasKeys :=
  App.serve_induction (motive := fun app => app.catalog.store.HasKeys)
    (fun _ fresh r _ h => App.hasKeys_handle h fresh r) h

/-- **References are only those that the requests came with.** -/
theorem App.refs_serve {allowed : String → Prop} {requests : List (Fresh × Request)}
    (hallowed : ∀ p ∈ requests, allowed p.1.publicRef) {app : App}
    (h : ∀ m ∈ app.catalog.store.records, allowed m.publicRef) :
    ∀ m ∈ (app.serve requests).catalog.store.records, allowed m.publicRef := by
  refine App.serve_induction
    (motive := fun app => ∀ m ∈ app.catalog.store.records, allowed m.publicRef) ?_ h
  intro app fresh r hmem h m hm
  obtain ⟨a, hasks, hstore⟩ := app.exists_store_handle fresh r
  change m ∈ (app.handle fresh r).catalog.store.records at hm
  rw [hstore] at hm
  rcases Catalog.names_onStore app.catalog.store a with
    ⟨hsub, -⟩ | ⟨fresh', _, _, _, new, ha, happend, -, hnew, -⟩
  · obtain ⟨old, hold, hnames⟩ := List.mem_map.mp (hsub.subset (List.mem_map_of_mem hm))
    rw [← (Prod.mk.inj hnames).1]
    exact h old hold
  · rw [happend] at hm
    rcases List.mem_append.mp hm with hold | hlast
    · exact h m hold
    · -- the one creation that a request asks for takes what the request came with
      rw [List.mem_singleton.mp hlast, hnew]
      rcases ha with rfl | rfl
      · cases hasks
        exact hallowed (fresh, r) hmem
      · cases hasks

/-! ## What stays found -/

/-- **A request changes or removes a record**: it is at the route of a reference that finds the
record, and gives it another destination that passes the checks, or removes it. -/
def App.Changes (app : App) (r : Request) (m : Redirect) : Prop :=
  ∃ reference, choose app.site.isSome r.method r.path = .answer (.record reference)
    ∧ app.catalog.store.find? (String.ofList reference) = some m
    ∧ (r.method = "DELETE" ∨ (r.method = "PUT" ∧ ∃ asked, checkedChange r = .ok asked))

/-- None of the requests changes or removes the record when its turn comes. -/
def App.Spares (m : Redirect) : App → List (Fresh × Request) → Prop
  | _, [] => True
  | app, (fresh, r) :: rest =>
    ¬ app.Changes r m ∧ App.Spares m (app.after (app.handle fresh r)) rest

/-- A request that does not change or remove the record leaves it found. -/
theorem App.find?_handle {app : App} (hkeys : app.catalog.store.HasKeys) {reference : String}
    {m : Redirect} (hm : app.catalog.store.find? reference = some m) {fresh : Fresh} {r : Request}
    (hspares : ¬ app.Changes r m) :
    (app.handle fresh r).catalog.store.find? reference = some m := by
  obtain ⟨a, hasks, hstore⟩ := app.exists_store_handle fresh r
  rw [hstore]
  cases hasks with
  | resolve path => exact hm
  | nothing => exact hm
  | create hasked =>
      refine Store.find?_perform hkeys hm ?_
      rintro _ ⟨⟩
  | update hroute hmethod hasked =>
      refine Store.find?_perform hkeys hm ?_
      rintro _ ⟨⟩ hf
      exact hspares ⟨_, hroute, hf, Or.inr ⟨hmethod, _, hasked⟩⟩
  | delete hroute hmethod =>
      refine Store.find?_perform hkeys hm ?_
      rintro _ ⟨⟩ hf
      exact hspares ⟨_, hroute, hf, Or.inl hmethod⟩

/-- **A record stays found until a request changes or removes it.** -/
theorem App.find?_serve {reference : String} {m : Redirect} {later : List (Fresh × Request)} :
    ∀ {app : App}, app.catalog.store.HasKeys → app.catalog.store.find? reference = some m →
      App.Spares m app later →
      (app.serve later).catalog.store.find? reference = some m := by
  induction later with
  | nil =>
      intro app _ hm _
      exact hm
  | cons first rest ih =>
      intro app hkeys hm hspares
      obtain ⟨hfirst, hrest⟩ := hspares
      exact ih (App.hasKeys_handle hkeys _ _) (App.find?_handle hkeys hm hfirst) hrest

end Shortlink.Web
