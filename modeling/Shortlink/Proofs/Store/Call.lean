import Shortlink.Proofs.Store.Laws
import Shortlink.Store.Location

/-!
# Calls on a store

A store is driven by calls, each with a reply and a state after it. Over all three kinds of store,
a creation leaves the records as they are or puts one behind them (`records_create`), an update
keeps all names (`names_update`), and a deletion only takes records out (`sublist_delete`). So a
call leaves some of the names that were there, in their order, or adds those of one new record:
`names_perform` is what the invariants of whole runs are built on.

## Contents

- `Fresh.atNewYear`, `Step.map`, `Store.Call`, `Store.Reply`, `Store.perform`, `Store.replies`;
  `Call.created?`, `isRoutable_of_all`.
- `Store.isTable`, `Store.CanHold`, `Store.storedAlias`.
- `records_create`, `eq_of_create`, `fields_of_create`, `map_update`, `mem_update`,
  `sublist_delete`: the three changes.
- `Store.added`, `names_perform`: any call; `issuedBy`, `issued`: the records of a run.
- `Store.IsNew`, `isNew_memory_empty`, `isNew_table_empty`, `isNew_of_start`: the stores to begin
  with.
- `Store.withDisk`; `exists_perform_file`, `answer_perform_file`: a file store beside its memory.
-/

namespace Shortlink

open Text (Loose)

/-! ## Calls and runs -/

/-- What a creation gets at the first moment of the year 2024, with the given reference. -/
def Fresh.atNewYear (publicRef : String) : Fresh :=
  ⟨⟨⟨2024, 1, 1, by decide⟩, Clock.midnight, none⟩, publicRef⟩

/-- The same step with another form of answer. -/
def Step.map {σ α β : Type} (f : α → β) (s : Step σ α) : Step σ β where
  answer := s.answer.map f
  state := s.state

namespace Store

/-- A call on a store, with all that is handed to it. -/
inductive Call where
  | create (fresh : Fresh) (aliasName : String) (destination : Loose) (user : Option String)
  | update (reference : String) (destination : Loose) (user : Option String)
  | delete (reference : String)
  | find (reference : String)
  | page (page limit : Int)
  | count

/-- The alias for which a call is to create a record. -/
def Call.created? : Call → Option String
  | .create _ aliasName _ _ => some aliasName
  | _ => none

/-- Whether paths can reach the aliases that a run creates can be computed. -/
theorem isRoutable_of_all {calls : List Call}
    (h : (calls.all fun call => call.created?.all Alias.isRoutable) = true) :
    ∀ call ∈ calls, ∀ aliasName ∈ call.created?, Alias.isRoutable aliasName = true := by
  simpa [List.all_eq_true, Option.all_eq_true] using h

/-- What a call replies if it does not fail. -/
inductive Reply where
  | record (r : Redirect)
  | removed (n : Nat)
  | found (r : Option Redirect)
  | listed (rs : List Redirect)
  | counted (n : Nat)

/-- One call. -/
def perform (s : Store) : Call → Step Store Reply
  | .create fresh aliasName destination user =>
    (s.create fresh aliasName destination user).map .record
  | .update reference destination user => (s.update reference destination user).map .record
  | .delete reference => (s.delete reference).map .removed
  | .find reference => ⟨.ok (.found (s.find? reference)), s⟩
  | .page page limit => ⟨(s.page page limit).map .listed, s⟩
  | .count => ⟨.ok (.counted s.count), s⟩

/-- What the calls of a run reply, one after the other. -/
def replies : Store → List Call → List (Except StoreError Reply)
  | _, [] => []
  | s, call :: rest => (s.perform call).answer :: replies (s.perform call).state rest

end Store

/-! ## Store -/

namespace Store

/-- The store is a table. -/
def isTable : Store → Bool
  | table _ => true
  | _ => false

/-- **The store can hold the destination**: a table holds none that is no text. -/
def CanHold (s : Store) (destination : Loose) : Prop :=
  s.isTable = true → destination.isWhole = true

/-- The form in which a store keeps an alias: a table normalizes it once, the others twice. -/
def storedAlias (s : Store) (aliasName : String) : String :=
  if s.isTable then Alias.normalize aliasName else Alias.normalize (Alias.normalize aliasName)

/-- **What a creation does to the records**: nothing, or it puts one record behind them, under an
alias that was looked for among the others in the form that one pass of normalizing gives. -/
theorem records_create (s : Store) (fresh : Fresh) (aliasName : String) (destination : Loose)
    (user : Option String) :
    (s.create fresh aliasName destination user).state.records = s.records ∨
    ∃ r, (s.create fresh aliasName destination user).state.records = s.records ++ [r]
      ∧ r.publicRef = fresh.publicRef ∧ r.aliasName = s.storedAlias aliasName
      ∧ Alias.normalize aliasName ∉ s.records.map (·.aliasName) := by
  cases s with
  | memory m => exact m.records_create fresh aliasName destination user
  | file f =>
      show (f.commit _).state.memory.records = _ ∨ ∃ r, (f.commit _).state.memory.records = _ ∧ _
      rw [FileStore.memory_commit]
      exact f.memory.records_create fresh aliasName destination user
  | table t => exact t.rows_create fresh aliasName destination user

/-- The number that the next record gets. -/
def nextId : Store → Int
  | memory m => m.nextId
  | file f => f.memory.nextId
  | table t => ((t.lastId + 1 : Nat) : Int)

/-- **The record that a creation adds**: it has the next number, what it gets from outside, and what
it was asked to hold. -/
theorem eq_of_create {s : Store} {fresh : Fresh} {aliasName : String} {destination : Loose}
    {user : Option String} {r : Redirect}
    (h : (s.create fresh aliasName destination user).state.records = s.records ++ [r]) :
    r = { id := s.nextId, publicRef := fresh.publicRef, aliasName := s.storedAlias aliasName,
          written := destination, createdOn := fresh.now, createdBy := Redirect.writer user } := by
  have hmemory : ∀ m : Memory,
      (m.create fresh aliasName destination user).state.records = m.records ++ [r] →
        r = m.nextRecord fresh aliasName destination user := by
    intro m hm
    by_cases htaken : Alias.normalize aliasName ∈ m.records.map (·.aliasName)
    · rw [Memory.create_of_taken htaken] at hm
      simp at hm
    · rw [Memory.create_of_free htaken] at hm
      exact (List.singleton_inj.mp (List.append_cancel_left hm)).symm
  cases s with
  | memory m => exact hmemory m h
  | file f =>
      change (f.commit _).state.memory.records = _ at h
      rw [FileStore.memory_commit] at h
      exact hmemory f.memory h
  | table t =>
      change (t.create fresh aliasName destination user).state.rows = t.rows ++ [r] at h
      by_cases hwhole : destination.isWhole = false
      · rw [Table.create_of_torn hwhole] at h
        simp at h
      rw [Bool.not_eq_false] at hwhole
      rcases t.clash_or_free fresh aliasName with ⟨old, hold, hclash⟩ | hfree
      · rw [Table.create_of_clash hwhole hold hclash] at h
        simp at h
      · rw [Table.create_of_free hwhole hfree] at h
        exact (List.singleton_inj.mp (List.append_cancel_left h)).symm

/-- It has the next number, and says what it was asked to say. -/
theorem fields_of_create {s : Store} {fresh : Fresh} {aliasName : String} {destination : Loose}
    {user : Option String} {r : Redirect}
    (h : (s.create fresh aliasName destination user).state.records = s.records ++ [r]) :
    r.id = s.nextId ∧ r.written = destination ∧ r.createdBy = Redirect.writer user := by
  rw [eq_of_create h]
  exact ⟨rfl, rfl, rfl⟩

/-- **An update leaves every field** that a change of the destination leaves, in the order of the
records. -/
theorem map_update {α : Type} {field : Redirect → α}
    (hfield : ∀ r destination user, field (r.withDestination destination user) = field r)
    (s : Store) (reference : String) (destination : Loose) (user : Option String) :
    (s.update reference destination user).state.records.map field = s.records.map field := by
  cases s with
  | memory m => exact Memory.map_update hfield m reference destination user
  | file f =>
      show (f.commit _).state.memory.records.map _ = _
      rw [FileStore.memory_commit]
      exact Memory.map_update hfield f.memory reference destination user
  | table t => exact Table.map_update hfield t reference destination user

theorem names_update (s : Store) (reference : String) (destination : Loose) (user : Option String) :
    (s.update reference destination user).state.records.map Redirect.names
      = s.records.map Redirect.names :=
  map_update Redirect.names_withDestination s reference destination user

theorem mem_update {s : Store} {reference : String} {destination : Loose} {user : Option String}
    {r : Redirect} (hr : r ∈ (s.update reference destination user).state.records) :
    r ∈ s.records ∨ ∃ old ∈ s.records, r = old.withDestination destination user := by
  cases s with
  | memory m => exact Memory.mem_update hr
  | file f =>
      change r ∈ (f.commit _).state.memory.records at hr
      rw [FileStore.memory_commit] at hr
      exact Memory.mem_update hr
  | table t => exact Table.mem_update hr

/-- **A deletion only takes records out.** -/
theorem sublist_delete (s : Store) (reference : String) :
    (s.delete reference).state.records.Sublist s.records := by
  cases s with
  | memory m => exact m.sublist_delete reference
  | file f =>
      show ((f.commit _).state.memory.records).Sublist _
      rw [FileStore.memory_commit]
      exact f.memory.sublist_delete reference
  | table t => exact t.sublist_delete reference

/-- **The record that a creation answers is put behind the others.** -/
theorem records_of_create_ok {s : Store} {fresh : Fresh} {aliasName : String} {destination : Loose}
    {user : Option String} {r : Redirect}
    (h : (s.create fresh aliasName destination user).answer = .ok r) :
    (s.create fresh aliasName destination user).state.records = s.records ++ [r] := by
  cases s with
  | memory m => exact Memory.records_of_create_ok h
  | file f =>
      show (f.commit _).state.memory.records = _
      rw [FileStore.memory_commit]
      exact Memory.records_of_create_ok (FileStore.answer_of_commit_ok h)
  | table t => exact Table.rows_of_create_ok h

theorem mem_of_create_ok {s : Store} {fresh : Fresh} {aliasName : String} {destination : Loose}
    {user : Option String} {r : Redirect}
    (h : (s.create fresh aliasName destination user).answer = .ok r) :
    r ∈ (s.create fresh aliasName destination user).state.records := by
  rw [records_of_create_ok h]
  exact List.mem_append_right _ (List.mem_singleton_self _)

theorem mem_of_update_ok {s : Store} {reference : String} {destination : Loose}
    {user : Option String} {r : Redirect}
    (h : (s.update reference destination user).answer = .ok r) :
    r ∈ (s.update reference destination user).state.records := by
  cases s with
  | memory m => exact Memory.mem_of_update_ok h
  | file f =>
      show r ∈ (f.commit _).state.memory.records
      rw [FileStore.memory_commit]
      exact Memory.mem_of_update_ok (FileStore.answer_of_commit_ok h)
  | table t => exact Table.mem_of_update_ok h

/-- The records that a call adds: they stand behind those that were there. -/
def added (s : Store) (call : Call) : List Redirect :=
  (s.perform call).state.records.drop s.records.length

theorem drop_eq_nil_of_names_sublist {new old : List Redirect}
    (h : (new.map Redirect.names).Sublist (old.map Redirect.names)) :
    new.drop old.length = [] := by
  have hlen := h.length_le
  rw [List.length_map, List.length_map] at hlen
  exact List.drop_eq_nil_of_le hlen

/-- The records that a run of steps adds, in their order: each step adds those that stand behind the
ones that were there. -/
def issuedBy {α : Type} (step : Store → α → Store) : Store → List α → List Redirect
  | _, [] => []
  | s, a :: rest => (step s a).records.drop s.records.length ++ issuedBy step (step s a) rest

/-- The records that a run of calls adds. -/
def issued (s : Store) (calls : List Call) : List Redirect :=
  issuedBy (fun s call => (s.perform call).state) s calls

theorem issued_cons (s : Store) (call : Call) (rest : List Call) :
    s.issued (call :: rest) = s.added call ++ (s.perform call).state.issued rest := rfl

/-- **What a call does to the names**: it leaves some of those that were there, in their order, and
adds no record, or it adds one record and leaves the others as they were. -/
theorem names_perform (s : Store) (call : Call) :
    (((s.perform call).state.records.map Redirect.names).Sublist (s.records.map Redirect.names)
        ∧ s.added call = []) ∨
    ∃ fresh aliasName destination user r, call = .create fresh aliasName destination user
      ∧ (s.perform call).state.records = s.records ++ [r] ∧ s.added call = [r]
      ∧ r.publicRef = fresh.publicRef ∧ r.aliasName = s.storedAlias aliasName
      ∧ Alias.normalize aliasName ∉ s.records.map (·.aliasName) := by
  have hkeep : ((s.perform call).state.records.map Redirect.names).Sublist
        (s.records.map Redirect.names) →
      ((s.perform call).state.records.map Redirect.names).Sublist (s.records.map Redirect.names)
        ∧ s.added call = [] := fun h => ⟨h, drop_eq_nil_of_names_sublist h⟩
  cases call with
  | create fresh aliasName destination user =>
      rcases records_create s fresh aliasName destination user with h | ⟨r, hr, h⟩
      · refine Or.inl (hkeep ?_)
        show ((s.create fresh aliasName destination user).state.records.map _).Sublist _
        simp only [h, List.Sublist.refl]
      · have hadded : s.added (.create fresh aliasName destination user) = [r] := by
          show (s.create fresh aliasName destination user).state.records.drop _ = _
          rw [hr, List.drop_left]
        exact Or.inr ⟨fresh, aliasName, destination, user, r, rfl, hr, hadded, h⟩
  | update reference destination user =>
      refine Or.inl (hkeep ?_)
      show ((s.update reference destination user).state.records.map _).Sublist _
      simp only [names_update, List.Sublist.refl]
  | delete reference => exact Or.inl (hkeep ((sublist_delete s reference).map Redirect.names))
  | find reference => exact Or.inl (hkeep (List.Sublist.refl _))
  | page page limit => exact Or.inl (hkeep (List.Sublist.refl _))
  | count => exact Or.inl (hkeep (List.Sublist.refl _))

/-- The store with something else under the name of its file. -/
def withDisk (s : Store) (disk : Disk) : Store :=
  match s with
  | file f => .file { f with disk := disk }
  | s => s

@[simp] theorem records_withDisk (s : Store) (disk : Disk) :
    (s.withDisk disk).records = s.records := by
  cases s <;> rfl

@[simp] theorem isTable_withDisk (s : Store) (disk : Disk) :
    (s.withDisk disk).isTable = s.isTable := by
  cases s <;> rfl

theorem isTable_perform (s : Store) (call : Call) : (s.perform call).state.isTable = s.isTable := by
  cases s <;> cases call <;> rfl

/-! ## New stores -/

/-- A store without records that can write its file, if it has one. -/
structure IsNew (s : Store) : Prop where
  records_eq : s.records = []
  writable : ∀ f, s = file f → f.disk ≠ .directory

theorem isNew_memory_empty : (memory .empty).IsNew :=
  ⟨rfl, fun f hf => absurd hf (by simp)⟩

theorem isNew_table_empty : (table .empty).IsNew :=
  ⟨rfl, fun f hf => absurd hf (by simp)⟩

/-- A store that is opened where nothing stands is new. -/
theorem isNew_of_start {now : Timestamp} {l : Location} {s : Store}
    (h : l.start now .vacant = .ok s) : s.IsNew := by
  unfold Location.start at h
  split at h
  · exact absurd h (by simp)
  · cases l with
    | memory =>
        rw [← Except.ok.inj h]
        exact ⟨rfl, fun f hf => absurd hf (by simp)⟩
    | file path =>
        rw [← Except.ok.inj h]
        refine ⟨rfl, fun f hf => ?_⟩
        rw [← Store.file.inj hf]
        simp [Disk.ofText]
    | table path =>
        dsimp only at h
        split at h
        · exact absurd h (by simp)
        · rw [← Except.ok.inj h]
          exact ⟨rfl, fun f hf => absurd hf (by simp)⟩

/-! ## A file store follows its memory -/

/-- A file store gets the records that its memory would get alone, and a directory stays in the
place of its file if one is there. -/
theorem exists_perform_file (f : FileStore) (call : Call) :
    ∃ disk, (disk = .directory ↔ f.disk = .directory) ∧ ((file f).perform call).state
      = file ⟨f.path, disk, ⟨((memory f.memory).perform call).state.records⟩⟩ := by
  cases call with
  | create fresh aliasName destination user =>
      obtain ⟨disk, hdisk, hstate⟩ :=
        f.exists_commit (f.memory.create fresh aliasName destination user)
      exact ⟨disk, hdisk, congrArg file hstate⟩
  | update reference destination user =>
      obtain ⟨disk, hdisk, hstate⟩ := f.exists_commit (f.memory.update reference destination user)
      exact ⟨disk, hdisk, congrArg file hstate⟩
  | delete reference =>
      obtain ⟨disk, hdisk, hstate⟩ := f.exists_commit (f.memory.delete reference)
      exact ⟨disk, hdisk, congrArg file hstate⟩
  | find reference => exact ⟨f.disk, Iff.rfl, rfl⟩
  | page page limit => exact ⟨f.disk, Iff.rfl, rfl⟩
  | count => exact ⟨f.disk, Iff.rfl, rfl⟩

/-- **A file store answers what its memory would alone**, or why it cannot write its file. -/
theorem answer_perform_file_or (f : FileStore) (call : Call) :
    ((file f).perform call).answer = ((memory f.memory).perform call).answer ∨
    ∃ e, ((file f).perform call).answer = .error e
      ∧ (e = .longNumber ∨ (f.disk = .directory ∧ e = .unwritable f.path)) := by
  have hmap : ∀ {α : Type} (step : Step Memory α) (g : α → Reply),
      (f.commit step).answer.map g = step.answer.map g ∨
      ∃ e, (f.commit step).answer.map g = .error e
        ∧ (e = .longNumber ∨ (f.disk = .directory ∧ e = .unwritable f.path)) := by
    intro α step g
    rcases f.answer_commit step with heq | ⟨e, heq, hcause⟩
    · exact Or.inl (by rw [heq])
    · exact Or.inr ⟨e, by rw [heq]; rfl, hcause⟩
  cases call with
  | create fresh aliasName destination user => exact hmap _ .record
  | update reference destination user => exact hmap _ .record
  | delete reference => exact hmap _ .removed
  | find reference => exact Or.inl rfl
  | page page limit => exact Or.inl rfl
  | count => exact Or.inl rfl

/-- A file store that writes its file answers as its memory would alone. -/
theorem answer_perform_file {f : FileStore} {call : Call}
    (h : IsSaved ((file f).perform call).answer) :
    ((file f).perform call).answer = ((memory f.memory).perform call).answer := by
  rcases answer_perform_file_or f call with heq | ⟨e, heq, hcause⟩
  · exact heq
  · have hsaved := h e heq
    rcases hcause with rfl | ⟨-, rfl⟩ <;> exact absurd hsaved (by simp [StoreError.isSaveFault])

end Store

end Shortlink
