import Mathlib.Data.List.Nodup
import Shortlink.Proofs.Catalog.Run

/-!
# One record for each alias

A table never holds two records of one alias. Memory and file look for an alias in the form that one
pass of normalizing gives, but store what a second pass makes of it. So the same alias can be stored
twice if its second form is another one, which is the case just when its slashes hide a blank
(`Alias.isStable_iff`).

Which aliases may be created without a repetition ever being reached is said exactly by
`aliases_distinct_iff`.

## Contents

- `AliasesDistinct`; what an action keeps (`aliasesDistinct_onStore`) and a run
  (`aliasesDistinct_foldl`).
- `not_aliasesDistinct_createTwice`: a run that stores an alias twice.
- `aliases_distinct_iff`.
-/

namespace Shortlink

open Text (Loose)

/-! ## What every action keeps -/

/-- No two records of the store have the same alias. -/
def Store.AliasesDistinct (s : Store) : Prop :=
  (s.records.map (·.aliasName)).Nodup

instance (s : Store) : Decidable s.AliasesDistinct :=
  inferInstanceAs (Decidable (List.Nodup _))

namespace Catalog

/-- The alias for which an action is to create a record. -/
def Action.created? : Action → Option String
  | .call k | .behind k => k.created?
  | .find _ | .resolve _ | .replace _ => none

theorem isTable_onStore (s : Store) (a : Action) : (a.onStore s).isTable = s.isTable := by
  cases a with
  | call k => exact Store.isTable_perform s k
  | behind k => exact Store.isTable_perform s k
  | find reference => rfl
  | resolve path => rfl
  | replace disk => exact Store.isTable_withDisk s disk

/-- A table stores what it has looked for, and so do the others if the alias is stable. -/
theorem storedAlias_of_isStable {s : Store} {aliasName : String}
    (h : s.isTable = true ∨ Alias.IsStable aliasName) :
    s.storedAlias aliasName = Alias.normalize aliasName := by
  unfold Store.storedAlias
  rcases h with htable | hstable
  · exact if_pos htable
  · split
    · rfl
    · exact hstable

/-- **An action keeps the aliases distinct**, on a table or if it creates a stable one. -/
theorem aliasesDistinct_onStore {s : Store} {a : Action} (h : s.AliasesDistinct)
    (ha : s.isTable = true ∨ ∀ aliasName ∈ a.created?, Alias.IsStable aliasName) :
    (a.onStore s).AliasesDistinct := by
  unfold Store.AliasesDistinct at h ⊢
  rcases names_onStore s a with
    ⟨hsub, -⟩ | ⟨fresh, aliasName, destination, user, r, hcreate, happend, -, -, halias, hfree⟩
  · have haliases := hsub.map Prod.snd
    rw [List.map_map, List.map_map] at haliases
    exact h.sublist haliases
  · have hstored : r.aliasName = Alias.normalize aliasName := by
      rw [halias]
      refine storedAlias_of_isStable (ha.imp id fun hstable => hstable aliasName ?_)
      rcases hcreate with rfl | rfl <;> rfl
    rw [happend, List.map_append, List.nodup_append]
    refine ⟨h, by simp, ?_⟩
    intro old hold new hnew heq
    -- the one new alias is the form that was looked for among the old ones
    rw [List.map_singleton, List.mem_singleton, hstored] at hnew
    rw [heq, hnew] at hold
    exact hfree hold

/-- **A run keeps the aliases distinct**, on a table or if it creates only stable ones. -/
theorem aliasesDistinct_foldl {actions : List Action} :
    ∀ {s : Store}, s.AliasesDistinct →
      (s.isTable = true ∨
        ∀ a ∈ actions, ∀ aliasName ∈ a.created?, Alias.IsStable aliasName) →
      (actions.foldl (fun s a => a.onStore s) s).AliasesDistinct := by
  induction actions with
  | nil =>
      intro s h _
      exact h
  | cons a rest ih =>
      intro s h hstable
      have hfirst : s.isTable = true ∨ ∀ aliasName ∈ a.created?, Alias.IsStable aliasName :=
        hstable.imp id fun hall => hall a List.mem_cons_self
      have hrest : (a.onStore s).isTable = true ∨
          ∀ b ∈ rest, ∀ aliasName ∈ b.created?, Alias.IsStable aliasName := by
        rw [isTable_onStore]
        exact hstable.imp id fun hall b hb => hall b (List.mem_cons_of_mem a hb)
      exact ih (aliasesDistinct_onStore h hfirst) hrest

/-! ## Runs from empty storage -/

/-- Memory and file store a free alias in the form that two passes of normalizing give. -/
theorem aliases_create_of_free {s : Store} (hs : s.isTable = false) {aliasName : String}
    (h : Alias.normalize aliasName ∉ s.records.map (·.aliasName)) (fresh : Fresh)
    (destination : Loose) (user : Option String) :
    (s.create fresh aliasName destination user).state.records.map (·.aliasName)
      = s.records.map (·.aliasName) ++ [Alias.normalize (Alias.normalize aliasName)] := by
  cases s with
  | memory m =>
      show (m.create fresh aliasName destination user).state.records.map _ = _
      rw [Memory.create_of_free h, List.map_append]
      rfl
  | file f =>
      show (f.commit _).state.memory.records.map _ = _
      rw [FileStore.memory_commit, Memory.create_of_free h, List.map_append]
      rfl
  | table t => exact absurd hs (by simp [Store.isTable])

/-- Two creations of one alias that is not stable both succeed in an empty memory or file. -/
theorem aliases_create_create {s : Store} (hs : s.isTable = false) (hempty : s.records = [])
    {aliasName : String} (h : ¬ Alias.IsStable aliasName) (fresh fresh' : Fresh)
    (destination : Loose) (user : Option String) :
    ((s.create fresh aliasName destination user).state.create fresh' aliasName destination
        user).state.records.map (·.aliasName)
      = [Alias.normalize (Alias.normalize aliasName),
        Alias.normalize (Alias.normalize aliasName)] := by
  have htable : (s.create fresh aliasName destination user).state.isTable = false :=
    (Store.isTable_perform s (.create fresh aliasName destination user)).trans hs
  have hfirst : (s.create fresh aliasName destination user).state.records.map (·.aliasName)
      = [Alias.normalize (Alias.normalize aliasName)] := by
    rw [aliases_create_of_free hs (by simp [hempty]), hempty]
    rfl
  -- the second creation looks for the first form, but only the second one is there
  have hfree : Alias.normalize aliasName ∉
      (s.create fresh aliasName destination user).state.records.map (·.aliasName) := by
    rw [hfirst, List.mem_singleton]
    exact fun heq => h heq.symm
  rw [aliases_create_of_free htable hfree, hfirst]
  rfl

/-- Creates a record for the alias, and then another one. -/
def createTwice (aliasName : String) : List Action :=
  [.call (.create (.atNewYear "Ref0000001") aliasName "https://a.io" none),
    .call (.create (.atNewYear "Ref0000002") aliasName "https://a.io" none)]

/-- **An alias that is not stable can be stored twice** in memory and in a file. -/
theorem not_aliasesDistinct_createTwice {s : Store} (hs : s.isTable = false)
    (hempty : s.records = []) {aliasName : String} (h : ¬ Alias.IsStable aliasName) :
    ¬ ((ofStore s).run (createTwice aliasName)).store.AliasesDistinct := by
  have haliases : ((ofStore s).run (createTwice aliasName)).store.records.map (·.aliasName)
      = [Alias.normalize (Alias.normalize aliasName),
        Alias.normalize (Alias.normalize aliasName)] := by
    rw [store_run]
    exact aliases_create_create hs hempty h _ _ _ _
  rw [Store.AliasesDistinct, haliases]
  simp

/-- **Which aliases are never repeated.** From a store that is opened where nothing stands, consider
all runs that create records for *allowed* aliases only. No such run ever leads to two records of
one alias just when the store is a table or no allowed alias hides a blank behind its slashes. -/
theorem aliases_distinct_iff {now : Timestamp} {l : Location} {s : Store}
    (hs : l.start now .vacant = .ok s) (allowed : String → Prop) :
    (∀ actions : List Action,
      (∀ a ∈ actions, ∀ aliasName ∈ a.created?, allowed aliasName) →
        ((ofStore s).run actions).store.AliasesDistinct) ↔
    s.isTable = true ∨ ∀ aliasName, allowed aliasName → Alias.hidesBlank aliasName = false := by
  have hempty := (Store.isNew_of_start hs).records_eq
  constructor
  · intro hruns
    cases htable : s.isTable with
    | true => exact Or.inl rfl
    | false =>
        refine Or.inr fun aliasName hallowed => ?_
        rw [← Alias.isStable_iff]
        by_contra hunstable
        refine not_aliasesDistinct_createTwice htable hempty hunstable (hruns _ ?_)
        intro a ha created hcreated
        have heq : created = aliasName := by
          rcases List.mem_pair.mp ha with rfl | rfl <;> exact (Option.some.inj hcreated).symm
        rw [heq]
        exact hallowed
  · intro hstable actions hactions
    have hstart : s.AliasesDistinct := by simp [Store.AliasesDistinct, hempty]
    rw [store_run]
    refine aliasesDistinct_foldl hstart (hstable.imp id fun hall a ha aliasName hmem => ?_)
    exact (Alias.isStable_iff aliasName).mpr (hall aliasName (hactions a ha aliasName hmem))

/-- In memory, runs that create nothing but `/Wiki` are safe, and those that create `/ wiki` are
not. -/
theorem aliases_distinct_iff_memory :
    (∀ actions : List Action,
      (∀ a ∈ actions, ∀ aliasName ∈ a.created?, aliasName = "/Wiki") →
        ((ofStore (.memory .empty)).run actions).store.AliasesDistinct) ∧
    ¬ ∀ actions : List Action,
      (∀ a ∈ actions, ∀ aliasName ∈ a.created?, aliasName = "/ wiki") →
        ((ofStore (.memory .empty)).run actions).store.AliasesDistinct := by
  have hs : Location.memory.start (Fresh.atNewYear "").now .vacant = .ok (.memory .empty) := rfl
  constructor
  · refine (aliases_distinct_iff hs (· = "/Wiki")).mpr (Or.inr ?_)
    rintro aliasName rfl
    decide +kernel
  · rw [aliases_distinct_iff hs (· = "/ wiki")]
    rintro (htable | hall)
    · exact absurd htable (by decide)
    · exact absurd (hall "/ wiki" rfl) (by decide +kernel)

/-- A record for `wiki` is stored, and another one for the same alias with a slash and a blank in
front. -/
theorem aliases_repeated_in_memory :
    ((ofStore (.memory .empty)).run
      [.call (.create (.atNewYear "Ref0000001") "wiki" "https://a.io" none),
        .call (.create (.atNewYear "Ref0000002") "/ wiki" "https://b.io" none)]).store.records.map
          (·.aliasName) = ["wiki", "wiki"] := by
  decide +kernel

end Catalog

end Shortlink
