import Shortlink.Proofs.Web.Success

/-!
# Records that only grow

Requests that do not remove put new records behind the others or give a record another destination
and writer. Whatever such requests come, what was stored stays where it was and keeps the rest:
`App.extends_serve`. As long as the destinations in them are texts, all that they write can be shown
afterwards (`App.isShowable_serve`).

## Contents

- **Records.** `Redirect.kept`, `Extends`.
- **Requests.** `App.extends_serve`; `Request.WritesText`, `App.isShowable_serve`.
-/

namespace Shortlink

/-! ## Records -/

/-- What a record keeps when it is changed: all but its destination and its writer. -/
def Redirect.kept (r : Redirect) : Redirect :=
  { r with written := "", createdBy := .null }

@[simp] theorem Redirect.kept_withDestination (r : Redirect) (destination : Text.Loose)
    (user : Option String) : (r.withDestination destination user).kept = r.kept := rfl

/-- **The records have only grown**: those that were there still are, at the same places, and have
kept what records keep. -/
def Extends (before after : List Redirect) : Prop :=
  before.map Redirect.kept <+: after.map Redirect.kept

theorem Extends.trans {a b c : List Redirect} (hab : Extends a b) (hbc : Extends b c) :
    Extends a c :=
  List.IsPrefix.trans hab hbc

theorem Extends.length_le {before after : List Redirect} (h : Extends before after) :
    before.length ≤ after.length := by
  simpa using List.IsPrefix.length_le h

namespace Web

/-! ## Requests -/

/-- A request that is not one to remove leaves the records, but for what is made or changed. -/
theorem App.extends_handle (app : App) (fresh : Fresh) {r : Request} (h : r.method ≠ "DELETE") :
    Extends app.catalog.store.records (app.handle fresh r).catalog.store.records := by
  obtain ⟨a, hasks, hstore⟩ := app.exists_store_handle fresh r
  rw [hstore]
  cases hasks with
  | nothing => exact List.prefix_refl _
  | resolve path => exact List.prefix_refl _
  | @create asked hasked =>
      show Extends _ (app.catalog.store.create fresh asked.aliasName asked.written
        (some r.user)).state.records
      rcases Store.records_create app.catalog.store fresh asked.aliasName asked.written
          (some r.user) with heq | ⟨new, heq, -⟩
      · rw [heq]
        exact List.prefix_refl _
      · rw [heq, Extends, List.map_append]
        exact List.prefix_append _ _
  | @update reference asked hroute hmethod hasked =>
      show Extends _ (app.catalog.store.update (String.ofList reference) asked.written
        (some r.user)).state.records
      refine ⟨[], ?_⟩
      rw [List.append_nil]
      exact (Store.map_update (fun m _ _ => m.kept_withDestination _ _) _ _ _ _).symm
  | delete hroute hmethod => exact absurd hmethod h

/-- **Without removals, the records only grow.** -/
theorem App.extends_serve (app : App) {requests : List (Fresh × Request)}
    (h : ∀ p ∈ requests, p.2.method ≠ "DELETE") :
    Extends app.catalog.store.records (app.serve requests).catalog.store.records := by
  refine App.serve_induction
    (motive := fun now => Extends app.catalog.store.records now.catalog.store.records) ?_
    (List.prefix_refl _)
  intro now fresh r hmem hnow
  exact hnow.trans (now.extends_handle fresh (h _ hmem))

/-- **The request writes texts**: where its body holds a destination, that is one. -/
def Request.WritesText (r : Request) : Prop :=
  ∀ destination, r.Says "destination" destination → destination.isWhole = true

theorem App.isTable_handle (app : App) (fresh : Fresh) (r : Request) :
    (app.handle fresh r).catalog.store.isTable = app.catalog.store.isTable := by
  obtain ⟨a, -, hstore⟩ := app.exists_store_handle fresh r
  rw [hstore]
  exact Catalog.isTable_onStore app.catalog.store a

theorem App.isTable_serve (app : App) (requests : List (Fresh × Request)) :
    (app.serve requests).catalog.store.isTable = app.catalog.store.isTable :=
  App.serve_induction
    (motive := fun now => now.catalog.store.isTable = app.catalog.store.isTable)
    (fun now fresh r _ h => (now.isTable_handle fresh r).trans h) rfl

/-- A request leaves records that can be shown, if it writes texts or the store takes no others. -/
theorem App.isShowable_handle {app : App} (h : ∀ m ∈ app.catalog.store.records, m.IsShowable)
    (fresh : Fresh) {r : Request} (hwrites : app.catalog.store.isTable = true ∨ r.WritesText) :
    ∀ m ∈ (app.handle fresh r).catalog.store.records, m.IsShowable := by
  have hwhole : ∀ destination, r.Says "destination" destination →
      app.catalog.store.CanHold destination → destination.isWhole = true := by
    intro destination hsays hhold
    rcases hwrites with htable | htexts
    · exact hhold htable
    · exact htexts destination hsays
  intro m hm
  obtain ⟨a, hasks, hstore⟩ := app.exists_store_handle fresh r
  rw [hstore] at hm
  cases hasks with
  | nothing => exact h m hm
  | resolve path => exact h m hm
  | @create asked hasked =>
      change m ∈ (app.catalog.store.create fresh asked.aliasName asked.written
        (some r.user)).state.records at hm
      by_cases hhold : app.catalog.store.CanHold asked.written
      · rcases Store.records_create app.catalog.store fresh asked.aliasName asked.written
            (some r.user) with heq | ⟨new, heq, -⟩
        · exact h m (heq ▸ hm)
        · obtain ⟨-, hwritten, hwriter⟩ := Store.fields_of_create heq
          rw [heq] at hm
          rcases List.mem_append.mp hm with hold | hlast
          · exact h m hold
          · rw [List.mem_singleton.mp hlast]
            refine ⟨?_, Redirect.hasWriter_of_eq hwriter⟩
            rw [hwritten]
            exact hwhole _ (says_of_checkedNew hasked).2 hhold
      · rw [Store.state_create_of_not_canHold hhold] at hm
        exact h m hm
  | @update reference asked hroute hmethod hasked =>
      change m ∈ (app.catalog.store.update (String.ofList reference) asked.written
        (some r.user)).state.records at hm
      by_cases hhold : app.catalog.store.CanHold asked.written
      · rcases Store.mem_update hm with hold | ⟨old, -, rfl⟩
        · exact h m hold
        · exact ⟨hwhole _ (says_of_checkedChange hasked) hhold,
            Redirect.hasWriter_of_eq (show _ = Redirect.writer (some r.user) from rfl)⟩
      · rw [Store.state_update_of_not_canHold hhold] at hm
        exact h m hm
  | delete hroute hmethod => exact h m ((Store.sublist_delete _ _).subset hm)

/-- **Requests leave records that can be shown.** -/
theorem App.isShowable_serve {app : App} (h : ∀ m ∈ app.catalog.store.records, m.IsShowable)
    {requests : List (Fresh × Request)}
    (hwrites : app.catalog.store.isTable = true ∨ ∀ p ∈ requests, p.2.WritesText) :
    ∀ m ∈ (app.serve requests).catalog.store.records, m.IsShowable := by
  suffices hboth : (app.serve requests).catalog.store.isTable = app.catalog.store.isTable
      ∧ ∀ m ∈ (app.serve requests).catalog.store.records, m.IsShowable from hboth.2
  refine App.serve_induction (motive := fun now =>
    now.catalog.store.isTable = app.catalog.store.isTable
      ∧ ∀ m ∈ now.catalog.store.records, m.IsShowable) ?_ ⟨rfl, h⟩
  rintro now fresh r hmem ⟨htable, hnow⟩
  refine ⟨(now.isTable_handle fresh r).trans htable, App.isShowable_handle hnow fresh ?_⟩
  exact hwrites.imp (fun h => htable.trans h) (fun h => h (fresh, r) hmem)

end Web

end Shortlink
