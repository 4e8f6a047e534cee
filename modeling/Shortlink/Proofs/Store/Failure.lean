import Shortlink.Proofs.Store.Call

/-!
# Calls that fail

A failed call leaves memory and table as they were. A file store takes a change over into its memory
before the file is written, and does not take it back if that fails: then the call fails, and the
change is served all the same. This is the only way in which a failed call is seen
(`sameService_iff_of_error`, which leaves out numbers that have too many digits to be written).

## Contents

- `SameService`: what can be seen of a store from outside; `sameService_iff`.
- `IsChangedBy`: the calls that change what memory holds; `perform_memory`.
- `perform_memory_of_error`, `perform_table_of_error`: failing without a trace.
- `KeepsUnsaved`, `sameService_file_iff`, `answer_of_directory`; `sameService_iff_of_error`.
-/

namespace Shortlink

namespace Store

/-! ## What is served -/

/-- **The stores serve the same**: every look-up, every page and the count. -/
structure SameService (s t : Store) : Prop where
  find : ∀ reference, s.find? reference = t.find? reference
  page : ∀ page limit, s.page page limit = t.page page limit
  count : s.count = t.count

theorem SameService.refl (s : Store) : SameService s s :=
  ⟨fun _ => rfl, fun _ _ => rfl, rfl⟩

theorem page_of_not_table {s : Store} (h : s.isTable = false) (page limit : Int) :
    s.page page limit = .ok ((Memory.mk s.records).page page limit) := by
  cases s with
  | memory m => rfl
  | file f => rfl
  | table t => exact absurd h (by simp [isTable])

/-- The first page of a memory is everything if its limit is not too small. -/
theorem page_zero_of_length_le {m : Memory} {limit : Nat} (h : m.records.length ≤ limit) :
    m.page 0 limit = m.records := by
  have hslice := slice_of_nonneg m.records (Int.le_refl 0) (Int.natCast_nonneg limit)
  rw [Memory.page, Int.mul_zero, hslice]
  simp [List.take_of_length_le h]

/-- Stores that are no tables serve the same just when they hold the same records. -/
theorem sameService_iff {s t : Store} (hs : s.isTable = false) (ht : t.isTable = false) :
    SameService s t ↔ s.records = t.records := by
  constructor
  · intro h
    -- a page that is large enough for both shows all that they hold
    have hpage := h.page 0 (max s.records.length t.records.length : Nat)
    rw [page_of_not_table hs, page_of_not_table ht] at hpage
    have heq := Except.ok.inj hpage
    rwa [page_zero_of_length_le (Nat.le_max_left _ _),
      page_zero_of_length_le (Nat.le_max_right _ _)] at heq
  · intro h
    refine ⟨?_, ?_, ?_⟩
    · intro reference
      have hfind : ∀ u : Store, u.find? reference = u.records.find? (·.refersTo reference) := by
        intro u
        cases u <;> rfl
      rw [hfind s, hfind t, h]
    · intro page limit
      rw [page_of_not_table hs, page_of_not_table ht, h]
    · rw [count, count, h]

/-! ## Calls on memory and table -/

/-- **The calls that change what memory holds**: the creation of a free alias, an update with
something new, and the deletion of a record that is there. -/
def IsChangedBy (m : Memory) : Call → Prop
  | .create _ aliasName _ _ => Alias.normalize aliasName ∉ m.records.map (·.aliasName)
  | .update reference destination user =>
    ∃ r, m.find? reference = some r ∧ r.withDestination destination user ≠ r
  | .delete reference => ∃ r, m.find? reference = some r
  | _ => False

/-- **What a call does on a memory**: it fails and leaves everything as it was, or it succeeds and
the records become others just when it is one of the calls that change them. -/
theorem perform_memory (m : Memory) (call : Call) :
    (∃ e, (memory m).perform call = ⟨.error e, memory m⟩ ∧ ¬ IsChangedBy m call) ∨
    ∃ reply, ((memory m).perform call).answer = .ok reply
      ∧ (m.records ≠ ((memory m).perform call).state.records ↔ IsChangedBy m call) := by
  have hsame : ¬ m.records ≠ m.records := fun hne => hne rfl
  cases call with
  | create fresh aliasName destination user =>
      by_cases htaken : Alias.normalize aliasName ∈ m.records.map (·.aliasName)
      · refine Or.inl ⟨.taken (Alias.normalize aliasName), ?_, fun hfree => hfree htaken⟩
        rw [perform, create, Memory.create_of_taken htaken]
        rfl
      · rw [perform, create, Memory.create_of_free htaken]
        refine Or.inr ⟨_, rfl, iff_of_true ?_ htaken⟩
        intro heq
        exact absurd (congrArg List.length heq) (by simp [Step.map, Step.lift, records])
  | update reference destination user =>
      cases hf : m.find? reference with
      | none =>
          refine Or.inl ⟨.missing reference, ?_, ?_⟩
          · rw [perform, update, Memory.update_of_missing hf]
            rfl
          · rintro ⟨r, hr, -⟩
            exact absurd (hf.symm.trans hr) (by simp)
      | some r =>
          obtain ⟨front, back, hcut⟩ := exists_cut hf
          rw [perform, update, Memory.update_of_cut hcut, hcut.eq]
          refine Or.inr ⟨_, rfl, ?_⟩
          show front ++ r :: back ≠ front ++ r.withDestination destination user :: back ↔ _
          constructor
          · intro hne
            refine ⟨r, hf, fun heq => hne ?_⟩
            rw [heq]
          · rintro ⟨r', hr', hne⟩ heq
            obtain rfl : r = r' := Option.some.inj (hf.symm.trans hr')
            exact hne (List.cons.inj (List.append_cancel_left heq)).1.symm
  | delete reference =>
      cases hf : m.find? reference with
      | none =>
          refine Or.inl ⟨.missing reference, ?_, ?_⟩
          · rw [perform, delete, Memory.delete_of_missing hf]
            rfl
          · rintro ⟨r, hr⟩
            exact absurd (hf.symm.trans hr) (by simp)
      | some r =>
          obtain ⟨front, back, hcut⟩ := exists_cut hf
          rw [perform, delete, Memory.delete_of_cut hcut, hcut.eq]
          refine Or.inr ⟨_, rfl, iff_of_true ?_ ⟨r, hf⟩⟩
          intro heq
          exact absurd (congrArg List.length heq) (by simp [Step.map, Step.lift, records])
  | find reference => exact Or.inr ⟨_, rfl, iff_of_false hsame id⟩
  | page page limit => exact Or.inr ⟨_, rfl, iff_of_false hsame id⟩
  | count => exact Or.inr ⟨_, rfl, iff_of_false hsame id⟩

/-- A call that fails on a memory leaves it as it was. -/
theorem perform_memory_of_error {m : Memory} {call : Call} {e : StoreError}
    (h : ((memory m).perform call).answer = .error e) :
    ((memory m).perform call).state = memory m := by
  rcases perform_memory m call with ⟨e', heq, -⟩ | ⟨reply, hok, -⟩
  · rw [heq]
  · exact absurd (hok.symm.trans h) (by simp)

theorem records_ne_iff_isChangedBy (m : Memory) (call : Call) :
    m.records ≠ ((memory m).perform call).state.records ↔ IsChangedBy m call := by
  rcases perform_memory m call with ⟨e, heq, hunchanged⟩ | ⟨reply, -, hiff⟩
  · rw [heq]
    exact iff_of_false (fun hne => hne rfl) hunchanged
  · exact hiff

/-- A call that fails on a table leaves it as it was. -/
theorem perform_table_of_error {t : Table} {call : Call} {e : StoreError}
    (h : ((table t).perform call).answer = .error e) :
    ((table t).perform call).state = table t := by
  cases call with
  | create fresh aliasName destination user =>
      cases hwhole : destination.isWhole with
      | false =>
          rw [perform, create, Table.create_of_torn hwhole]
          rfl
      | true =>
      rcases t.clash_or_free fresh aliasName with ⟨r, hr, hclash⟩ | hfree
      · rw [perform, create, Table.create_of_clash hwhole hr hclash]
        rfl
      · rw [perform, create, Table.create_of_free hwhole hfree] at h
        exact absurd h (by simp [Step.map, Step.lift, Except.map])
  | update reference destination user =>
      cases hf : t.find? reference with
      | none =>
          rw [perform, update, Table.update_of_missing hf]
          rfl
      | some r =>
          cases hwhole : destination.isWhole with
          | false => exact congrArg table (t.state_update_of_torn reference hwhole user).1
          | true =>
              rw [perform, update, Table.update_of_found hf hwhole] at h
              exact absurd h (by simp [Step.map, Step.lift, Except.map])
  | delete reference =>
      cases hf : t.find? reference with
      | none =>
          rw [perform, delete, Table.delete_of_missing hf]
          rfl
      | some r =>
          rw [perform, delete, Table.delete, hf] at h
          exact absurd h (by simp [Step.map, Step.lift, Except.map])
  | find reference => rfl
  | page page limit => rfl
  | count => rfl

/-! ## What is seen of a failure -/

/-- The call changes what the memory of a file store holds while its file cannot be written. -/
def KeepsUnsaved (s : Store) (call : Call) : Prop :=
  ∃ f, s = file f ∧ f.disk = .directory ∧ IsChangedBy f.memory call

/-- A call on a file store that cannot write changes the memory, or is not seen. -/
theorem sameService_file_iff (f : FileStore) (call : Call) :
    SameService (file f) ((file f).perform call).state ↔ ¬ IsChangedBy f.memory call := by
  obtain ⟨disk, -, hstate⟩ := exists_perform_file f call
  rw [hstate, sameService_iff rfl rfl, ← records_ne_iff_isChangedBy, Classical.not_not]
  exact Iff.rfl

/-- A call that changes the memory fails while a directory stands in the place of the file. -/
theorem answer_of_directory {f : FileStore} (h : f.disk = .directory) {call : Call}
    (hchange : IsChangedBy f.memory call) :
    ((file f).perform call).answer = .error
      (if FileStore.hasLongNumber ((memory f.memory).perform call).state.records then .longNumber
        else .unwritable f.path) := by
  cases call with
  | create fresh aliasName destination user =>
      exact congrArg (Except.map Reply.record) (FileStore.answer_commit_of_directory h _)
  | update reference destination user =>
      exact congrArg (Except.map Reply.record) (FileStore.answer_commit_of_directory h _)
  | delete reference =>
      exact congrArg (Except.map Reply.removed) (FileStore.answer_commit_of_directory h _)
  | find reference => exact hchange.elim
  | page page limit => exact hchange.elim
  | count => exact hchange.elim

/-- **How a failed call is seen.** After a call that fails, and not for a number of too many digits,
the store serves the same as before just when it is not a change taken over by the memory of a file
store that cannot write its file. In that case the error is that of writing, and what is served is
what the memory would serve if the call had succeeded. -/
theorem sameService_iff_of_error {s : Store} {call : Call} {e : StoreError}
    (h : (s.perform call).answer = .error e) (hlong : e ≠ .longNumber) :
    (SameService s (s.perform call).state ↔ ¬ s.KeepsUnsaved call) ∧
    ∀ f, s = file f → f.disk = .directory → IsChangedBy f.memory call →
      e = .unwritable f.path ∧ ((memory f.memory).perform call).answer.isOk = true
      ∧ SameService (s.perform call).state ((memory f.memory).perform call).state := by
  constructor
  · cases s with
    | memory m =>
        rw [perform_memory_of_error h]
        refine iff_of_true (SameService.refl _) ?_
        rintro ⟨f, hf, -⟩
        exact absurd hf (by simp)
    | table t =>
        rw [perform_table_of_error h]
        refine iff_of_true (SameService.refl _) ?_
        rintro ⟨f, hf, -⟩
        exact absurd hf (by simp)
    | file f =>
        rw [sameService_file_iff]
        constructor
        · rintro hunchanged ⟨f', hf', -, hchange⟩
          obtain rfl : f = f' := by simpa using hf'
          exact hunchanged hchange
        · intro hkeeps hchange
          by_cases hdisk : f.disk = .directory
          · exact hkeeps ⟨f, rfl, hdisk, hchange⟩
          · -- a file that can be written fails only when its memory fails, and then nothing changes
            have hmemory : ((memory f.memory).perform call).answer = .error e := by
              rcases answer_perform_file_or f call with heq | ⟨e', heq, rfl | ⟨hdir, -⟩⟩
              · exact heq.symm.trans h
              · exact absurd (Except.error.inj (h.symm.trans heq)) hlong
              · exact absurd hdir hdisk
            refine (records_ne_iff_isChangedBy f.memory call).mpr hchange ?_
            rw [perform_memory_of_error hmemory]
            rfl
  · rintro f rfl hdisk hchange
    have hunwritable : e = .unwritable f.path := by
      have heq := Except.error.inj (h.symm.trans (answer_of_directory hdisk hchange))
      split at heq
      · exact absurd heq hlong
      · exact heq
    refine ⟨hunwritable, ?_, ?_⟩
    · rcases perform_memory f.memory call with ⟨e', heq, hunchanged⟩ | ⟨reply, hok, -⟩
      · exact absurd hchange hunchanged
      · rw [hok]
        rfl
    · obtain ⟨disk, -, hstate⟩ := exists_perform_file f call
      rw [hstate]
      exact (sameService_iff rfl (isTable_perform _ _)).mpr rfl

/-- The first creation in an empty store for which a directory stands in the place of the file. -/
theorem answer_firstCreation :
    ((file ⟨"db", .directory, .empty⟩).perform
      (.create (.atNewYear "Ref0000001") "wiki" "https://a.io" none)).answer
        = .error (.unwritable "db") := by
  have hfree : IsChangedBy .empty
      (.create (.atNewYear "Ref0000001") "wiki" "https://a.io" none) := List.not_mem_nil
  rw [answer_of_directory (f := ⟨"db", .directory, .empty⟩) rfl hfree, if_neg]
  decide +kernel

/-- Without a file to write to, a creation fails and its record is served. -/
theorem sameService_iff_of_error_create :
    let s : Store := file ⟨"db", .directory, .empty⟩
    let call : Call := .create (.atNewYear "Ref0000001") "wiki" "https://a.io" none
    (s.perform call).answer = .error (.unwritable "db")
      ∧ ¬ SameService s (s.perform call).state := by
  intro s call
  have hchange : IsChangedBy .empty call := List.not_mem_nil
  refine ⟨answer_firstCreation, fun hsame => ?_⟩
  exact (sameService_iff_of_error answer_firstCreation (by simp)).1.mp hsame ⟨_, rfl, rfl, hchange⟩

/-- A file store is opened, a directory takes the place of its file, and a creation fails: there was
no record before, and there is one after. -/
theorem failed_creation_is_served :
    ∃ s, (Location.file "db").start (Fresh.atNewYear "Ref0000001").now .vacant = .ok s ∧
      let t := s.withDisk .directory
      let step := t.perform (.create (.atNewYear "Ref0000001") "wiki" "https://a.io" none)
      step.answer = .error (.unwritable "db") ∧ t.count = 0 ∧ t.find? "wiki" = none
        ∧ step.state.count = 1 ∧ (step.state.find? "wiki").isSome = true := by
  refine ⟨_, rfl, answer_firstCreation, rfl, rfl, ?_, ?_⟩
  · decide +kernel
  · decide +kernel

end Store

end Shortlink
