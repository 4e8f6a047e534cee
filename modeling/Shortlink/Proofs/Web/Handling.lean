import Shortlink.Proofs.Steps
import Shortlink.Proofs.Store.Managed
import Shortlink.Web.App

/-!
# What requests do to a store

Every request comes down to one action on the catalog, which may be to do nothing, and a change has
passed the checks of the service: `App.exists_asks`. So the store is left as it was, or gets one
creation, update or deletion that keeps it sound (`App.edit_handle`), and a service that begins with
an empty store has managed records after any requests: `App.records_managed`.

## Contents

- **Checks.** `of_checkedNew`, `of_checkedChange`.
- **Handlers.** `catalog_create`, `catalog_update`, `catalog_delete` and those that change nothing.
- **One request.** `App.Asks`, `App.exists_asks`; `App.edit_handle`.
- **Runs.** `App.serve`, `App.serve_induction`; `App.isSound_serve`, `App.records_managed`.
-/

namespace Shortlink.Web

open Text

/-! ## Checks -/

theorem of_checkAlias {aliasName : String} (h : checkAlias aliasName = .ok ()) :
    Alias.isRoutable aliasName = true := by
  unfold checkAlias at h
  split at h
  · assumption
  · exact absurd h (by simp)

theorem of_checkDestination {destination : Loose} (h : checkDestination destination = .ok ()) :
    Url.isDestination destination.text = true := by
  unfold checkDestination at h
  split at h
  · assumption
  · split at h <;> exact absurd h (by simp)

/-- What passes the checks on a new record has an alias that a path can reach, and a URL. -/
theorem of_checkedNew {r : Request} {asked : NewRedirect} (h : checkedNew r = .ok asked) :
    Alias.isRoutable asked.aliasName = true ∧ Url.isDestination asked.destination = true := by
  obtain ⟨sent, -, h⟩ := exists_of_bind_ok h
  obtain ⟨_, halias, h⟩ := exists_of_bind_ok h
  obtain ⟨_, hurl, h⟩ := exists_of_bind_ok h
  cases h
  exact ⟨of_checkAlias halias, of_checkDestination hurl⟩

/-- What passes the checks on a change leads to a URL. -/
theorem of_checkedChange {r : Request} {asked : ChangedRedirect}
    (h : checkedChange r = .ok asked) : Url.isDestination asked.destination = true := by
  obtain ⟨sent, -, h⟩ := exists_of_bind_ok h
  obtain ⟨_, hurl, h⟩ := exists_of_bind_ok h
  cases h
  exact of_checkDestination hurl

/-! ## Handlers -/

@[simp] theorem catalog_storeFailure (r : Request) (c : Catalog) (e : StoreError) :
    (storeFailure r c e).catalog = c := by
  unfold storeFailure
  split <;> rfl

@[simp] theorem catalog_showRecord (c : Catalog) (status : Nat) (r : Redirect)
    (notices : List Log.Notice) : (showRecord c status r notices).catalog = c := by
  unfold showRecord
  split <;> rfl

theorem catalog_list (c : Catalog) (r : Request) : (list c r).catalog = c := by
  unfold list
  split
  · rfl
  · split
    · exact catalog_storeFailure _ _ _
    · split <;> rfl

theorem catalog_get (c : Catalog) (reference : String) : (get c reference).catalog = c := by
  unfold get
  split
  · exact catalog_showRecord _ _ _ _
  · rfl

theorem catalog_search (spelling : Spelling) (c : Catalog) (r : Request) :
    (search spelling c r).catalog = c := by
  unfold search
  dsimp only
  split
  · rfl
  · split
    · exact catalog_storeFailure _ _ _
    · rfl

/-- A creation that passes the checks leaves the catalog that the catalog's own creation leaves. -/
theorem catalog_create {c : Catalog} {r : Request} {asked : NewRedirect}
    (h : checkedNew r = .ok asked) (fresh : Fresh) : (create c fresh r).catalog
      = (c.create fresh asked.aliasName asked.written (some r.user)).catalog := by
  unfold create
  rw [h]
  dsimp only
  split
  · exact catalog_showRecord _ _ _ _
  · rfl
  · rfl
  · exact catalog_storeFailure _ _ _

theorem catalog_update {c : Catalog} {r : Request} {asked : ChangedRedirect}
    (h : checkedChange r = .ok asked) (reference : String) : (update c r reference).catalog
      = (c.update reference asked.written (some r.user)).catalog := by
  unfold update
  rw [h]
  dsimp only
  split
  · rfl
  · rfl
  · exact catalog_storeFailure _ _ _

theorem catalog_delete (c : Catalog) (r : Request) (reference : String) :
    (delete c r reference).catalog = (c.delete reference).catalog := by
  unfold delete
  dsimp only
  split
  · rfl
  · rfl
  · exact catalog_storeFailure _ _ _

/-! ## One request -/

/-- **What a request may ask of the catalog**: nothing, a look-up, or a change that has passed the
checks; a change of a record, only at the record's own route. -/
inductive App.Asks (app : App) (fresh : Fresh) (r : Request) : Catalog.Action → Prop where
  | nothing : Asks app fresh r (.call .count)
  | resolve (path : String) : Asks app fresh r (.resolve path)
  | create {asked : NewRedirect} (hasked : checkedNew r = .ok asked) :
      Asks app fresh r (.call (.create fresh asked.aliasName asked.written (some r.user)))
  | update {reference : List Char} {asked : ChangedRedirect}
      (hroute : choose app.site.isSome r.method r.path = .answer (.record reference))
      (hmethod : r.method = "PUT") (hasked : checkedChange r = .ok asked) :
      Asks app fresh r
        (.call (.update (String.ofList reference) asked.written (some r.user)))
  | delete {reference : List Char}
      (hroute : choose app.site.isSome r.method r.path = .answer (.record reference))
      (hmethod : r.method = "DELETE") :
      Asks app fresh r (.call (.delete (String.ofList reference)))

/-- **A request is one action on the catalog.** -/
theorem App.exists_asks (app : App) (fresh : Fresh) (r : Request) :
    ∃ a, app.Asks fresh r a ∧ (app.handle fresh r).catalog = app.catalog.act a := by
  -- what leaves the catalog alone asks nothing
  have hstill : ∀ {o : Outcome}, o.catalog = app.catalog →
      ∃ a, app.Asks fresh r a ∧ o.catalog = app.catalog.act a := by
    intro o ho
    exact ⟨_, .nothing, ho⟩
  unfold App.handle
  split
  · next route hroute =>
      unfold App.answer
      cases route with
      | records =>
          dsimp only
          split
          · cases hasked : checkedNew r with
            | error reply => exact hstill (by simp [create, hasked])
            | ok asked => exact ⟨_, .create hasked, catalog_create hasked fresh⟩
          · exact hstill (catalog_list _ _)
      | record reference =>
          dsimp only
          split
          · next hput =>
              cases hasked : checkedChange r with
              | error reply => exact hstill (by simp [update, hasked])
              | ok asked => exact ⟨_, .update hroute hput hasked, catalog_update hasked _⟩
          · split
            · next hdelete => exact ⟨_, .delete hroute hdelete, catalog_delete _ _ _⟩
            · exact hstill (catalog_get _ _)
      | search => exact hstill (catalog_search _ _ _)
      | ui path =>
          dsimp only
          split
          · exact hstill rfl
          · split <;> exact hstill rfl
      | gateway =>
          dsimp only
          unfold lookup
          dsimp only
          split
          · exact hstill rfl
          · exact ⟨_, .resolve _, rfl⟩
      | generated name => exact hstill rfl
      | signIn => exact hstill rfl
      | health => exact hstill rfl
      | icon => exact hstill rfl
      | reserved endpoint => exact hstill rfl
  · exact hstill rfl
  · exact hstill rfl
  · exact hstill rfl

/-- A request does to the store what its action does. -/
theorem App.exists_store_handle (app : App) (fresh : Fresh) (r : Request) :
    ∃ a, app.Asks fresh r a
      ∧ (app.handle fresh r).catalog.store = a.onStore app.catalog.store := by
  obtain ⟨a, hasks, ha⟩ := app.exists_asks fresh r
  exact ⟨a, hasks, by rw [ha, Catalog.store_act]⟩

/-- What a request asks for is admitted. -/
theorem App.Asks.edit {app : App} {fresh : Fresh} {r : Request} {a : Catalog.Action}
    (h : app.Asks fresh r a) : app.catalog.store.Edit (a.onStore app.catalog.store) := by
  cases h with
  | nothing => exact .nothing
  | resolve path => exact .nothing
  | create hasked =>
      obtain ⟨halias, hurl⟩ := of_checkedNew hasked
      exact .create fresh (some r.user) halias hurl
  | update hroute hmethod hasked => exact .update _ (some r.user) (of_checkedChange hasked)
  | delete hroute hmethod => exact .delete _

/-- **A request leaves the store as it is, or makes one admitted change.** -/
theorem App.edit_handle (app : App) (fresh : Fresh) (r : Request) :
    app.catalog.store.Edit (app.handle fresh r).catalog.store := by
  obtain ⟨a, hasks, hstore⟩ := app.exists_store_handle fresh r
  rw [hstore]
  exact hasks.edit

/-! ## Runs -/

/-- The service after some requests, each with what a record that it makes gets from outside. -/
def App.serve (app : App) (requests : List (Fresh × Request)) : App :=
  requests.foldl (fun app (fresh, r) => app.after (app.handle fresh r)) app

/-- **What every request keeps, a run keeps.** -/
theorem App.serve_induction {motive : App → Prop} {requests : List (Fresh × Request)}
    (hstep : ∀ app fresh r, (fresh, r) ∈ requests → motive app →
      motive (app.after (app.handle fresh r))) :
    ∀ {app : App}, motive app → motive (app.serve requests) := by
  induction requests with
  | nil =>
      intro app h
      exact h
  | cons first rest ih =>
      intro app h
      refine ih ?_ (hstep app first.1 first.2 List.mem_cons_self h)
      intro app fresh r hmem
      exact hstep app fresh r (List.mem_cons_of_mem _ hmem)

/-- **Requests keep the store sound.** -/
theorem App.isSound_serve {app : App} (h : app.catalog.store.IsSound)
    (requests : List (Fresh × Request)) : (app.serve requests).catalog.store.IsSound :=
  App.serve_induction (motive := fun app => app.catalog.store.IsSound)
    (fun app fresh r _ h => Store.isSound_of_edit h (app.edit_handle fresh r)) h

/-- **From an empty store, the records are managed after any requests**: their aliases are not
empty, hold no blank, do not begin with a slash, are in the stored form and differ from each other;
their destinations are URLs; their numbers ascend. -/
theorem App.records_managed {app : App} (h : app.catalog.store.records = [])
    (requests : List (Fresh × Request)) : IsManaged (app.serve requests).catalog.store.records :=
  (App.isSound_serve (Store.isSound_of_records_eq_nil h) requests).managed

/-- The request of a client that sends a value. -/
def Request.sending (method target value : String) : Request :=
  .ofTarget method target [("Content-Type", "application/json")] (Utf8.encode value.toList) true

/-- Two records are made under untidy aliases, one more alias is taken and another one is split by a
blank; the first record is removed, the second one gets another destination. -/
def editingRequests : List (Fresh × Request) :=
  [(.atNewYear "Ref0000001", .sending "POST" "/_gadget/api/redirect"
      "\x7b\"alias\": \"/Wiki \", \"destination\": \"https://a.io\"\x7d"),
    (.atNewYear "Ref0000002", .sending "POST" "/_gadget/api/redirect"
      "\x7b\"alias\": \"//Team/Plan\", \"destination\": \"https://b.io\"\x7d"),
    (.atNewYear "Ref0000003", .sending "POST" "/_gadget/api/redirect"
      "\x7b\"alias\": \"WIKI\", \"destination\": \"https://c.io\"\x7d"),
    (.atNewYear "Ref0000004", .sending "POST" "/_gadget/api/redirect"
      "\x7b\"alias\": \"/ wiki\", \"destination\": \"https://d.io\"\x7d"),
    (.atNewYear "Ref0000005", .sending "DELETE" "/_gadget/api/redirect/wiki" ""),
    (.atNewYear "Ref0000006", .sending "PUT" "/_gadget/api/redirect/Ref0000002"
      "\x7b\"destination\": \"https://e.io/$1\"\x7d")]

/-- The requests leave one record in a table, which is managed. -/
theorem App.records_managed_editing :
    let app : App := ⟨.ofStore (.table .empty), none, spellChar⟩
    let records := (app.serve editingRequests).catalog.store.records
    records.map (fun r => (r.id, r.aliasName, r.destination))
        = [(2, "team/plan", "https://e.io/$1")]
      ∧ app.catalog.store.records = [] ∧ IsManaged records := by
  refine ⟨by decide +kernel, rfl, ?_⟩
  exact App.records_managed rfl editingRequests

end Shortlink.Web
