import Shortlink.Catalog
import Shortlink.Proofs.Alias
import Shortlink.Proofs.Store.Call

/-!
# Runs of a catalog

A catalog lives through a run of actions: calls that go through it, calls on the store behind its
back, look-ups, and changes of what stands under the name of the file, so that any write may fail.
What a run does to the store does not depend on the compiled links (`store_run`).

A run also **issues** records: each action adds those that stand behind the ones that were there.
Every record that is stored later goes by the names of one that was there at the start or was issued
(`mem_names_onStore`), and the alias of an issued record is one that normalizing gives.

## Contents

- `Catalog.Action`, `Catalog.act`, `Catalog.run`.
- `Action.onStore`, `store_act`, `store_run`: the store of a run; `answer_create`,
  `answer_update`, `answer_delete`.
- `made`, `issued`, `names_onStore`, `mem_names_onStore`, `exists_normalize_of_mem_issued`: the
  records of a run.
-/

namespace Shortlink

open Text (Loose)

/-! ## What a run does to the store -/

theorem Store.mem_of_find? {s : Store} {reference : String} {r : Redirect}
    (h : s.find? reference = some r) : r ∈ s.records := by
  cases s <;> exact List.mem_of_find?_eq_some h

namespace Catalog

/-- What can happen to a catalog and to the store behind it. -/
inductive Action where
  /-- A call that goes through the catalog. -/
  | call (call : Store.Call)
  /-- A call on the store itself, of which the catalog learns nothing. -/
  | behind (call : Store.Call)
  | find (reference : String)
  | resolve (path : String)
  /-- Something else is put under the name of the file. -/
  | replace (disk : Disk)

/-- The catalog after an action. -/
def act (c : Catalog) : Action → Catalog
  | .call (.create fresh aliasName destination user) =>
    (c.create fresh aliasName destination user).catalog
  | .call (.update reference destination user) => (c.update reference destination user).catalog
  | .call (.delete reference) => (c.delete reference).catalog
  | .call _ => c
  | .behind call => { c with store := (c.store.perform call).state }
  | .find reference => (c.find? reference).catalog
  | .resolve path => (c.resolve path).catalog
  | .replace disk => { c with store := c.store.withDisk disk }

/-- The catalog after a run of actions. -/
def run (c : Catalog) (actions : List Action) : Catalog :=
  actions.foldl act c

/-- What an action does to a store. -/
def Action.onStore (a : Action) (s : Store) : Store :=
  match a with
  | .call k | .behind k => (s.perform k).state
  | .replace disk => s.withDisk disk
  | .find _ | .resolve _ => s

theorem store_compile (c : Catalog) (r : Redirect) : (c.compile r).catalog.store = c.store := by
  unfold compile
  split
  · split <;> rfl
  · rfl

theorem store_find? (c : Catalog) (reference : String) :
    (c.find? reference).catalog.store = c.store := by
  unfold find?
  split
  · rfl
  · exact store_compile c _

theorem store_create (c : Catalog) (fresh : Fresh) (aliasName : String) (destination : Loose)
    (user : Option String) : (c.create fresh aliasName destination user).catalog.store
      = (c.store.create fresh aliasName destination user).state := by
  unfold create
  dsimp only
  split
  · rfl
  · exact store_compile _ _

theorem store_update (c : Catalog) (reference : String) (destination : Loose)
    (user : Option String) :
    (c.update reference destination user).catalog.store
      = (c.store.update reference destination user).state := by
  unfold update
  dsimp only
  split
  · rfl
  · exact store_compile _ _

theorem store_delete (c : Catalog) (reference : String) :
    (c.delete reference).catalog.store = (c.store.delete reference).state := by
  unfold delete
  dsimp only
  split
  · rfl
  · split <;> rfl

/-- An operation answers in the catalog what it answers in the store. -/
theorem answer_create (c : Catalog) (fresh : Fresh) (aliasName : String) (destination : Loose)
    (user : Option String) : (c.create fresh aliasName destination user).answer
      = (c.store.create fresh aliasName destination user).answer := by
  unfold create
  dsimp only
  split
  · next e he => rw [he]
  · next r hr => rw [hr]

theorem answer_update (c : Catalog) (reference : String) (destination : Loose)
    (user : Option String) :
    (c.update reference destination user).answer
      = (c.store.update reference destination user).answer := by
  unfold update
  dsimp only
  split
  · next e he => rw [he]
  · next r hr => rw [hr]

theorem answer_delete (c : Catalog) (reference : String) :
    (c.delete reference).answer = (c.store.delete reference).answer := by
  unfold delete
  dsimp only
  split
  · next e he => rw [he]
  · next n hn =>
      rw [hn]
      split <;> rfl

/-- **The compiled links have no say in what is stored.** -/
theorem store_act (c : Catalog) (a : Action) : (c.act a).store = a.onStore c.store := by
  cases a with
  | call k =>
      cases k with
      | create fresh aliasName destination user =>
          exact store_create c fresh aliasName destination user
      | update reference destination user => exact store_update c reference destination user
      | delete reference => exact store_delete c reference
      | find reference => rfl
      | page page limit => rfl
      | count => rfl
  | behind k => rfl
  | find reference => exact store_find? c reference
  | resolve path =>
      show (c.resolve path).catalog.store = c.store
      unfold resolve
      dsimp only
      split
      · rfl
      · exact store_find? c _
  | replace disk => rfl

theorem store_run (c : Catalog) (actions : List Action) :
    (c.run actions).store = actions.foldl (fun s a => a.onStore s) c.store := by
  induction actions generalizing c with
  | nil => rfl
  | cons a rest ih =>
      show ((c.act a).run rest).store = _
      rw [ih (c.act a), store_act]
      rfl

/-! ## The records of a run -/

/-- The records that an action adds: they stand behind those that were there. -/
def made (s : Store) (a : Action) : List Redirect :=
  (a.onStore s).records.drop s.records.length

/-- The records that are added in a run, in their order. -/
def issued (s : Store) (actions : List Action) : List Redirect :=
  Store.issuedBy (fun s a => a.onStore s) s actions

theorem issued_cons (s : Store) (a : Action) (rest : List Action) :
    issued s (a :: rest) = made s a ++ issued (a.onStore s) rest := rfl

/-- **What an action does to the names**: it leaves some of those that were there and makes no
record, or it is a creation that makes one record and leaves the others as they were. -/
theorem names_onStore (s : Store) (a : Action) :
    (((a.onStore s).records.map Redirect.names).Sublist (s.records.map Redirect.names)
        ∧ made s a = []) ∨
    ∃ fresh aliasName destination user r,
      (a = .call (.create fresh aliasName destination user) ∨
        a = .behind (.create fresh aliasName destination user))
      ∧ (a.onStore s).records = s.records ++ [r] ∧ made s a = [r] ∧ r.publicRef = fresh.publicRef
      ∧ r.aliasName = s.storedAlias aliasName
      ∧ Alias.normalize aliasName ∉ s.records.map (·.aliasName) := by
  cases a with
  | call k =>
      rcases Store.names_perform s k with h | ⟨fresh, aliasName, destination, user, r, rfl, h⟩
      · exact Or.inl h
      · exact Or.inr ⟨fresh, aliasName, destination, user, r, Or.inl rfl, h⟩
  | behind k =>
      rcases Store.names_perform s k with h | ⟨fresh, aliasName, destination, user, r, rfl, h⟩
      · exact Or.inl h
      · exact Or.inr ⟨fresh, aliasName, destination, user, r, Or.inr rfl, h⟩
  | find reference => exact Or.inl ⟨List.Sublist.refl _, List.drop_length⟩
  | resolve path => exact Or.inl ⟨List.Sublist.refl _, List.drop_length⟩
  | replace disk =>
      have hrecords : (s.withDisk disk).records = s.records := s.records_withDisk disk
      refine Or.inl ⟨?_, ?_⟩
      · show ((s.withDisk disk).records.map _).Sublist _
        simp only [hrecords, List.Sublist.refl]
      · show (s.withDisk disk).records.drop _ = []
        rw [hrecords, List.drop_length]

/-- A record that is stored after an action goes by the names of one that was stored before, or the
action has made it. -/
theorem mem_names_onStore {s : Store} {a : Action} {r : Redirect}
    (hr : r ∈ (a.onStore s).records) :
    r ∈ made s a ∨ ∃ old ∈ s.records, old.names = r.names := by
  rcases names_onStore s a with ⟨h, -⟩ | ⟨-, -, -, -, new, -, happend, hmade, -⟩
  · -- nothing was made: the names of the record were there before
    obtain ⟨old, hold, heq⟩ := List.mem_map.mp (h.subset (List.mem_map_of_mem hr))
    exact Or.inr ⟨old, hold, heq⟩
  · rw [happend] at hr
    rcases List.mem_append.mp hr with h | h
    · exact Or.inr ⟨r, h, rfl⟩
    · rw [hmade]
      exact Or.inl h

theorem exists_normalize_eq_storedAlias (s : Store) (aliasName : String) :
    ∃ text, s.storedAlias aliasName = Alias.normalize text := by
  unfold Store.storedAlias
  split
  · exact ⟨aliasName, rfl⟩
  · exact ⟨Alias.normalize aliasName, rfl⟩

/-- The alias of a record that was issued is the normal form of some text. -/
theorem exists_normalize_of_mem_issued {actions : List Action} :
    ∀ {s : Store} {r : Redirect}, r ∈ issued s actions →
      ∃ text, r.aliasName = Alias.normalize text := by
  induction actions with
  | nil =>
      intro s r hr
      exact absurd hr List.not_mem_nil
  | cons a rest ih =>
      intro s r hr
      rw [issued_cons] at hr
      rcases List.mem_append.mp hr with h | h
      · rcases names_onStore s a with
          ⟨-, hmade⟩ | ⟨-, aliasName, -, -, new, -, -, hmade, -, halias, -⟩
        · rw [hmade] at h
          exact absurd h List.not_mem_nil
        · rw [hmade] at h
          rw [List.mem_singleton.mp h, halias]
          exact exists_normalize_eq_storedAlias s aliasName
      · exact ih h

end Catalog

end Shortlink
