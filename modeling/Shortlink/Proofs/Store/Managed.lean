import Shortlink.Proofs.Catalog.Uniqueness
import Shortlink.Url.Split

/-!
# Managed records

Records are **managed** if a path can reach each of them, no two share an alias, every destination
is a URL, and the numbers grow in the order of the records. A store stays so under creations of
routable aliases, under updates and under deletions, as long as every destination it is given is a
URL.

The order of the numbers needs more than the records show: a table counts on its own, so its counter
has to be ahead of all rows (`Store.IsNumbered`). Memory and file take the largest number in use and
are ahead by themselves.

## Contents

- `Alias.IsStored`, `isStored_normalize`.
- `IsManaged`: the records; `IsManaged.sublist`, `IsManaged.append`.
- `Store.IsNumbered`, `Store.IsSound`.
- `Store.Edit`: the changes that keep a store sound, `isSound_of_edit`.
-/

namespace Shortlink

open Text

/-! ## Stored aliases -/

namespace Alias

/-- **An alias in the form in which it is stored**, and in which a path can name it. -/
structure IsStored (aliasName : String) : Prop where
  ne_nil : aliasName.toList ≠ []
  noBlank : ∀ c ∈ aliasName.toList, isBlank c = false
  noSlash : aliasName.toList.head? ≠ some '/'
  normalize_eq : normalize aliasName = aliasName

/-- The stored form of a routable alias is one that stays. -/
theorem isStored_normalize {aliasName : String} (h : isRoutable aliasName = true) :
    IsStored (normalize aliasName) := by
  have hstable := isStable_of_isRoutable h
  simp only [isRoutable, Bool.and_eq_true, Bool.not_eq_true', List.any_eq_false,
    List.isEmpty_eq_false_iff] at h
  obtain ⟨hne, hblank⟩ := h
  refine ⟨?_, ?_, head?_normalize aliasName, hstable⟩
  · rw [normalize, String.toList_ofList]
    exact hne
  · intro c hc
    rw [normalize, String.toList_ofList] at hc
    exact Bool.eq_false_iff.mpr (hblank c hc)

end Alias

/-! ## Managed records -/

/-- **Managed records**: reachable, told apart by their aliases, leading to URLs, and numbered in
their order. -/
structure IsManaged (records : List Redirect) : Prop where
  aliases_stored : ∀ r ∈ records, Alias.IsStored r.aliasName
  aliases_nodup : (records.map (·.aliasName)).Nodup
  destinations : ∀ r ∈ records, Url.isDestination r.destination = true
  ids_ascend : (records.map (·.id)).Pairwise (· < ·)

theorem isManaged_nil : IsManaged [] :=
  ⟨by simp, by simp, by simp, by simp⟩

/-- Taking records out leaves the others as they should be. -/
theorem IsManaged.sublist {records kept : List Redirect} (h : IsManaged records)
    (hsub : kept.Sublist records) : IsManaged kept where
  aliases_stored := fun r hr => h.aliases_stored r (hsub.subset hr)
  aliases_nodup := h.aliases_nodup.sublist (hsub.map _)
  destinations := fun r hr => h.destinations r (hsub.subset hr)
  ids_ascend := h.ids_ascend.sublist (hsub.map _)

/-- A record may be put behind managed ones if it is new by its alias and by its number. -/
theorem IsManaged.append {records : List Redirect} {r : Redirect} (h : IsManaged records)
    (halias : Alias.IsStored r.aliasName) (hfree : r.aliasName ∉ records.map (·.aliasName))
    (hurl : Url.isDestination r.destination = true) (hid : ∀ old ∈ records, old.id < r.id) :
    IsManaged (records ++ [r]) where
  aliases_stored := by
    intro a ha
    rcases List.mem_append.mp ha with hold | hnew
    · exact h.aliases_stored a hold
    · rw [List.mem_singleton.mp hnew]
      exact halias
  aliases_nodup := by
    rw [List.map_append, List.nodup_append]
    refine ⟨h.aliases_nodup, by simp, ?_⟩
    intro old hold new hnew heq
    rw [List.map_singleton, List.mem_singleton] at hnew
    rw [heq, hnew] at hold
    exact hfree hold
  destinations := by
    intro a ha
    rcases List.mem_append.mp ha with hold | hnew
    · exact h.destinations a hold
    · rw [List.mem_singleton.mp hnew]
      exact hurl
  ids_ascend := by
    rw [List.map_append, List.pairwise_append]
    refine ⟨h.ids_ascend, by simp, ?_⟩
    intro old hold new hnew
    obtain ⟨a, ha, rfl⟩ := List.mem_map.mp hold
    rw [List.map_singleton, List.mem_singleton] at hnew
    rw [hnew]
    exact hid a ha

/-! ## Numbers -/

namespace Store

/-- All numbers in use are smaller than the next one. -/
def IsNumbered (s : Store) : Prop :=
  ∀ r ∈ s.records, r.id < s.nextId

/-- Memory and file are ahead of their records. -/
theorem isNumbered_of_not_isTable {s : Store} (h : s.isTable = false) : s.IsNumbered := by
  cases s with
  | memory m => exact fun r hr => Memory.id_lt_nextId hr
  | file f => exact fun r hr => Memory.id_lt_nextId hr
  | table t => exact absurd h (by simp [isTable])

theorem isNumbered_create {s : Store} (h : s.IsNumbered) (fresh : Fresh)
    (aliasName : String) (destination : Loose) (user : Option String) :
    (s.create fresh aliasName destination user).state.IsNumbered := by
  cases s with
  | memory m => exact isNumbered_of_not_isTable rfl
  | file f => exact isNumbered_of_not_isTable rfl
  | table t =>
      show (table (t.create fresh aliasName destination user).state).IsNumbered
      by_cases hwhole : destination.isWhole = false
      · rw [Table.create_of_torn hwhole]
        exact h
      rw [Bool.not_eq_false] at hwhole
      rcases t.clash_or_free fresh aliasName with ⟨old, hold, hclash⟩ | hfree
      · rw [Table.create_of_clash hwhole hold hclash]
        exact h
      · rw [Table.create_of_free hwhole hfree]
        intro r hr
        show r.id < ((t.lastId + 1 + 1 : Nat) : Int)
        rcases List.mem_append.mp hr with hold | hnew
        · have hlt : r.id < ((t.lastId + 1 : Nat) : Int) := h r hold
          omega
        · rw [List.mem_singleton.mp hnew]
          show ((t.lastId + 1 : Nat) : Int) < _
          omega

theorem isNumbered_update {s : Store} (h : s.IsNumbered) (reference : String) (destination : Loose)
    (user : Option String) : (s.update reference destination user).state.IsNumbered := by
  cases s with
  | memory m => exact isNumbered_of_not_isTable rfl
  | file f => exact isNumbered_of_not_isTable rfl
  | table t =>
      have hcounter : (t.update reference destination user).state.lastId = t.lastId := by
        unfold Table.update
        split
        · split <;> rfl
        · rfl
      intro r hr
      show r.id < (((t.update reference destination user).state.lastId + 1 : Nat) : Int)
      rw [hcounter]
      rcases Table.mem_update hr with hold | ⟨old, hold, rfl⟩
      · exact h r hold
      · exact h old hold

theorem isNumbered_delete {s : Store} (h : s.IsNumbered) (reference : String) :
    (s.delete reference).state.IsNumbered := by
  cases s with
  | memory m => exact isNumbered_of_not_isTable rfl
  | file f => exact isNumbered_of_not_isTable rfl
  | table t =>
      have hcounter : (t.delete reference).state.lastId = t.lastId := by
        unfold Table.delete
        split <;> rfl
      intro r hr
      show r.id < (((t.delete reference).state.lastId + 1 : Nat) : Int)
      rw [hcounter]
      exact h r ((t.sublist_delete reference).subset hr)

/-! ## Sound stores -/

/-- **A sound store**: its records are managed, and the next number is ahead of theirs. -/
structure IsSound (s : Store) : Prop where
  managed : IsManaged s.records
  numbered : s.IsNumbered

theorem isSound_of_records_eq_nil {s : Store} (h : s.records = []) : s.IsSound where
  managed := by
    rw [h]
    exact isManaged_nil
  numbered := by
    intro r hr
    rw [h] at hr
    exact absurd hr List.not_mem_nil

/-- **The changes that are admitted**: creations of routable aliases, updates and deletions, every
destination being a URL. -/
inductive Edit (s : Store) : Store → Prop where
  | nothing : Edit s s
  | create {aliasName : String} {destination : Loose} (fresh : Fresh) (user : Option String)
      (halias : Alias.isRoutable aliasName = true)
      (hurl : Url.isDestination destination.text = true) :
      Edit s (s.create fresh aliasName destination user).state
  | update {destination : Loose} (reference : String) (user : Option String)
      (hurl : Url.isDestination destination.text = true) :
      Edit s (s.update reference destination user).state
  | delete (reference : String) : Edit s (s.delete reference).state

theorem isManaged_create {s : Store} (h : s.IsSound) {aliasName : String} {destination : Loose}
    (halias : Alias.isRoutable aliasName = true)
    (hurl : Url.isDestination destination.text = true) (fresh : Fresh) (user : Option String) :
    IsManaged (s.create fresh aliasName destination user).state.records := by
  rcases records_create s fresh aliasName destination user with heq | ⟨r, heq, -, hname, hfree⟩
  · rw [heq]
    exact h.managed
  · -- the alias is stable: what was looked for is what is stored
    have hstored : r.aliasName = Alias.normalize aliasName :=
      hname.trans (Catalog.storedAlias_of_isStable (Or.inr (Alias.isStable_of_isRoutable halias)))
    obtain ⟨hid, hdestination, -⟩ := fields_of_create heq
    rw [heq]
    refine h.managed.append ?_ ?_ ?_ ?_
    · rw [hstored]
      exact Alias.isStored_normalize halias
    · rw [hstored]
      exact hfree
    · rw [Redirect.destination, hdestination]
      exact hurl
    · intro old hold
      rw [hid]
      exact h.numbered old hold

theorem isManaged_update {s : Store} (h : IsManaged s.records) {destination : Loose}
    (hurl : Url.isDestination destination.text = true) (reference : String) (user : Option String) :
    IsManaged (s.update reference destination user).state.records where
  aliases_stored := by
    intro r hr
    rcases mem_update hr with hold | ⟨old, hold, rfl⟩
    · exact h.aliases_stored r hold
    · exact h.aliases_stored old hold
  aliases_nodup := by
    rw [map_update (fun _ _ _ => rfl)]
    exact h.aliases_nodup
  destinations := by
    intro r hr
    rcases mem_update hr with hold | ⟨old, hold, rfl⟩
    · exact h.destinations r hold
    · exact hurl
  ids_ascend := by
    rw [map_update (fun _ _ _ => rfl)]
    exact h.ids_ascend

/-- **An admitted change keeps a store sound.** -/
theorem isSound_of_edit {s s' : Store} (h : s.IsSound) (hedit : s.Edit s') : s'.IsSound := by
  cases hedit with
  | nothing => exact h
  | create fresh user halias hurl =>
      exact ⟨isManaged_create h halias hurl fresh user, isNumbered_create h.numbered _ _ _ _⟩
  | update reference user hurl =>
      exact ⟨isManaged_update h.managed hurl reference user, isNumbered_update h.numbered _ _ _⟩
  | delete reference =>
      exact ⟨h.managed.sublist (sublist_delete s reference), isNumbered_delete h.numbered _⟩

end Store

end Shortlink
