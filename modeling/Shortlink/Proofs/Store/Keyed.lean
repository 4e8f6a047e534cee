import Shortlink.Proofs.Store.Managed

/-!
# A store as a map

From a new store, and as long as paths can reach the aliases that are created, a store behaves as a
map from aliases to records (`acts_as_map`): what was put there is found again under its reference
and under every spelling of its alias, a change of one record leaves all others as they are and
where they are, and what was removed is not found any more.

What a look-up finds is the first record that answers. Two facts carry the rest. A call that finds
another record cannot come between a reference and what it finds, whatever else is stored
(`find?_perform`). And if no alias is a spelling of a reference, no two records answer to the same
text (`IsKeyed.eq_of_refersTo`), so the first one is the only one.

## Contents

- `find?_of_removed`, `find?_of_replaced`: the first record of a list that changes elsewhere.
- `Store.HasKeys`, `hasKeys_perform`: numbers of rows.
- `Store.update_of_cut`, `Store.delete_of_cut`: the two changes, over all kinds of store.
- `Store.run`, `Call.changed?`; `find?_perform`, `find?_run`: what stays found.
- `NamesApart`, `IsKeyed`, `isKeyed_run`, `IsKeyed.eq_of_refersTo`: one record for one name.
- `acts_as_map`.
-/

namespace Shortlink

open Text (Loose)

/-! ## The first of a list -/

section First

variable {α : Type} {p : α → Bool} {front back : List α} {r m : α}

/-- What is found in a list stays found if the end of the list is exchanged for one in which it is
found as well. -/
theorem find?_append_of_find? {rest rest' : List α} (h : (front ++ rest).find? p = some m)
    (hrest : rest.find? p = some m → rest'.find? p = some m) :
    (front ++ rest').find? p = some m := by
  rw [List.find?_append] at h ⊢
  cases hfront : front.find? p with
  | some a =>
      rw [hfront] at h
      exact h
  | none =>
      rw [hfront, Option.none_or] at h
      rw [Option.none_or]
      exact hrest h

/-- What is found behind another member is found without that member. -/
theorem find?_tail (h : (r :: back).find? p = some m) (hne : r ≠ m) :
    p r = false ∧ back.find? p = some m := by
  rw [List.find?_cons] at h
  cases hr : p r with
  | true =>
      rw [hr] at h
      exact absurd (Option.some.inj h) hne
  | false =>
      rw [hr] at h
      exact ⟨rfl, h⟩

/-- Taking another member out leaves what is found. -/
theorem find?_of_removed (h : (front ++ r :: back).find? p = some m) (hne : r ≠ m) :
    (front ++ back).find? p = some m :=
  find?_append_of_find? h fun hrest => (find?_tail hrest hne).2

/-- So does putting something in its place from which the test does not tell it apart. -/
theorem find?_of_replaced {r' : α} (h : (front ++ r :: back).find? p = some m) (hne : r ≠ m)
    (hp : p r' = p r) : (front ++ r' :: back).find? p = some m := by
  refine find?_append_of_find? h fun hrest => ?_
  obtain ⟨hr, hback⟩ := find?_tail hrest hne
  rw [List.find?_cons, hp, hr]
  exact hback

end First

namespace Store

theorem find?_eq_find? (s : Store) (reference : String) :
    s.find? reference = s.records.find? (·.refersTo reference) := by
  cases s <;> rfl

/-! ## Numbers of rows -/

/-- **A store with keys**: if it is a table, no two rows have one number, nor has any row that of
the next one. Memory and file do without. -/
def HasKeys (s : Store) : Prop :=
  s.isTable = true → (s.records.map (·.id)).Nodup ∧ s.IsNumbered

theorem hasKeys_of_not_isTable {s : Store} (h : s.isTable = false) : s.HasKeys :=
  fun htable => absurd (h.symm.trans htable) (by simp)

theorem hasKeys_of_records_eq_nil {s : Store} (h : s.records = []) : s.HasKeys := by
  intro _
  refine ⟨by simp [h], ?_⟩
  intro r hr
  rw [h] at hr
  exact absurd hr List.not_mem_nil

/-- **Every call leaves a store with keys.** -/
theorem hasKeys_perform {s : Store} (h : s.HasKeys) (call : Call) :
    (s.perform call).state.HasKeys := by
  intro htable
  rw [isTable_perform] at htable
  obtain ⟨hids, hnumbered⟩ := h htable
  cases call with
  | create fresh aliasName destination user =>
      refine ⟨?_, isNumbered_create hnumbered fresh aliasName destination user⟩
      show ((s.create fresh aliasName destination user).state.records.map (·.id)).Nodup
      rcases records_create s fresh aliasName destination user with heq | ⟨r, heq, -⟩
      · rw [heq]
        exact hids
      · -- the new number is the next one, which no row has
        obtain ⟨hid, -, -⟩ := fields_of_create heq
        rw [heq, List.map_append, List.nodup_append]
        refine ⟨hids, by simp, ?_⟩
        intro old hold new hnew
        obtain ⟨a, ha, rfl⟩ := List.mem_map.mp hold
        rw [List.map_singleton, List.mem_singleton, hid] at hnew
        have hlt := hnumbered a ha
        omega
  | update reference destination user =>
      refine ⟨?_, isNumbered_update hnumbered reference destination user⟩
      show ((s.update reference destination user).state.records.map (·.id)).Nodup
      rw [map_update fun _ _ _ => rfl]
      exact hids
  | delete reference =>
      exact ⟨hids.sublist ((sublist_delete s reference).map _),
        isNumbered_delete hnumbered reference⟩
  | find reference => exact ⟨hids, hnumbered⟩
  | page page limit => exact ⟨hids, hnumbered⟩
  | count => exact ⟨hids, hnumbered⟩

/-! ## Changing one record -/

theorem answer_commit_of_isSaved {f : FileStore} {α : Type} {step : Step Memory α}
    (h : IsSaved (f.commit step).answer) : (f.commit step).answer = step.answer := by
  rw [FileStore.commit_of_saved (FileStore.saveFault?_of_isSaved h)]

section Changes

variable {s : Store} {reference : String} {front back : List Redirect} {r : Redirect}

/-- **An update changes the record at the cut and leaves the others as and where they are**; unless
the file cannot be written, it answers the changed record. -/
theorem update_of_cut (hkeys : s.HasKeys) (h : IsCut s.records reference front r back)
    {destination : Loose} (hhold : s.CanHold destination) (user : Option String) :
    (s.update reference destination user).state.records
        = front ++ r.withDestination destination user :: back
      ∧ (IsSaved (s.update reference destination user).answer →
        (s.update reference destination user).answer
          = .ok (r.withDestination destination user)) := by
  cases s with
  | memory m =>
      rw [update, Memory.update_of_cut h]
      exact ⟨rfl, fun _ => rfl⟩
  | file f =>
      have hmemory := Memory.update_of_cut (m := f.memory) h destination user
      constructor
      · show (f.commit _).state.memory.records = _
        rw [FileStore.memory_commit, hmemory]
      · intro hsaved
        show (f.commit _).answer = _
        rw [answer_commit_of_isSaved hsaved, hmemory]
  | table t =>
      rw [update, Table.update_of_cut (hkeys rfl).1 h (hhold rfl)]
      exact ⟨rfl, fun _ => rfl⟩

/-- What a store cannot hold is no text, and the store is a table. -/
theorem exists_table_of_not_canHold {destination : Loose} (h : ¬ s.CanHold destination) :
    ∃ t, s = table t ∧ destination.isWhole = false := by
  obtain ⟨htable, hwhole⟩ := Classical.not_imp.mp h
  cases s with
  | memory m => exact absurd htable (by simp [isTable])
  | file f => exact absurd htable (by simp [isTable])
  | table t => exact ⟨t, rfl, Bool.eq_false_iff.mpr hwhole⟩

/-- A destination that the store cannot hold makes no record. -/
theorem state_create_of_not_canHold {destination : Loose} (h : ¬ s.CanHold destination)
    (fresh : Fresh) (aliasName : String) (user : Option String) :
    (s.create fresh aliasName destination user).state = s := by
  obtain ⟨t, rfl, htorn⟩ := exists_table_of_not_canHold h
  show table (t.create fresh aliasName destination user).state = table t
  rw [Table.create_of_torn htorn]

/-- And it changes none. -/
theorem state_update_of_not_canHold {destination : Loose} (h : ¬ s.CanHold destination)
    (reference : String) (user : Option String) :
    (s.update reference destination user).state = s := by
  obtain ⟨t, rfl, htorn⟩ := exists_table_of_not_canHold h
  show table (t.update reference destination user).state = table t
  rw [(t.state_update_of_torn reference htorn user).1]

/-- **A deletion takes the record at the cut out and leaves the others in their order.** -/
theorem delete_of_cut (hkeys : s.HasKeys) (h : IsCut s.records reference front r back) :
    (s.delete reference).state.records = front ++ back
      ∧ (IsSaved (s.delete reference).answer → (s.delete reference).answer = .ok 1) := by
  cases s with
  | memory m =>
      rw [delete, Memory.delete_of_cut h]
      exact ⟨rfl, fun _ => rfl⟩
  | file f =>
      have hmemory := Memory.delete_of_cut (m := f.memory) h
      constructor
      · show (f.commit _).state.memory.records = _
        rw [FileStore.memory_commit, hmemory]
      · intro hsaved
        show (f.commit _).answer = _
        rw [answer_commit_of_isSaved hsaved, hmemory]
  | table t =>
      rw [delete, Table.delete_of_cut (hkeys rfl).1 h]
      exact ⟨rfl, fun _ => rfl⟩

theorem update_of_missing (h : s.find? reference = none) (destination : Loose)
    (user : Option String) :
    (s.update reference destination user).state.records = s.records := by
  cases s with
  | memory m => rw [update, Memory.update_of_missing h]; rfl
  | file f =>
      show (f.commit _).state.memory.records = _
      rw [FileStore.memory_commit, Memory.update_of_missing h]
      rfl
  | table t => rw [update, Table.update_of_missing h]; rfl

theorem delete_of_missing (h : s.find? reference = none) :
    (s.delete reference).state.records = s.records := by
  cases s with
  | memory m => rw [delete, Memory.delete_of_missing h]; rfl
  | file f =>
      show (f.commit _).state.memory.records = _
      rw [FileStore.memory_commit, Memory.delete_of_missing h]
      rfl
  | table t => rw [delete, Table.delete_of_missing h]; rfl

end Changes

/-! ## What stays found -/

/-- The store after a run of calls. -/
def run (s : Store) (calls : List Call) : Store :=
  calls.foldl (fun s call => (s.perform call).state) s

/-- The reference under which a call is to change or remove a record. -/
def Call.changed? : Call → Option String
  | .update reference _ _ | .delete reference => some reference
  | _ => none

/-- **A call that is not about the record leaves it found**, under whatever text it was found. -/
theorem find?_perform {s : Store} (hkeys : s.HasKeys) {reference : String} {m : Redirect}
    (hm : s.find? reference = some m) {call : Call}
    (hother : ∀ other ∈ call.changed?, s.find? other ≠ some m) :
    (s.perform call).state.find? reference = some m := by
  rw [find?_eq_find?] at hm ⊢
  cases call with
  | create fresh aliasName destination user =>
      show (s.create fresh aliasName destination user).state.records.find? _ = _
      rcases records_create s fresh aliasName destination user with heq | ⟨r, heq, -⟩
      · rw [heq]
        exact hm
      · -- what is new stands behind all that was there
        rw [heq, List.find?_append, hm, Option.some_or]
  | update other destination user =>
      show (s.update other destination user).state.records.find? _ = _
      cases hf : s.find? other with
      | none =>
          rw [update_of_missing hf]
          exact hm
      | some r =>
          by_cases hhold : s.CanHold destination
          · have hne : r ≠ m := fun heq => hother other rfl (heq ▸ hf)
            obtain ⟨front, back, hcut⟩ := exists_cut ((find?_eq_find? s other).symm.trans hf)
            rw [(update_of_cut hkeys hcut hhold user).1]
            rw [hcut.eq] at hm
            exact find?_of_replaced hm hne rfl
          · rw [state_update_of_not_canHold hhold]
            exact hm
  | delete other =>
      show (s.delete other).state.records.find? _ = _
      cases hf : s.find? other with
      | none =>
          rw [delete_of_missing hf]
          exact hm
      | some r =>
          have hne : r ≠ m := fun heq => hother other rfl (heq ▸ hf)
          obtain ⟨front, back, hcut⟩ := exists_cut ((find?_eq_find? s other).symm.trans hf)
          rw [(delete_of_cut hkeys hcut).1]
          rw [hcut.eq] at hm
          exact find?_of_removed hm hne
  | find other => exact hm
  | page page limit => exact hm
  | count => exact hm

/-- What a look-up finds answers to the text. -/
theorem refersTo_of_find? {s : Store} {reference : String} {r : Redirect}
    (h : s.find? reference = some r) : r.refersTo reference = true := by
  rw [find?_eq_find?] at h
  exact List.find?_some (p := fun a : Redirect => a.refersTo reference) h

/-- A record that is alone in answering to a text is found under it. -/
theorem find?_of_unique {s : Store} {reference : String} {r : Redirect} (hr : r ∈ s.records)
    (href : r.refersTo reference = true)
    (hunique : ∀ other ∈ s.records, other.refersTo reference = true → other = r) :
    s.find? reference = some r := by
  cases hf : s.find? reference with
  | none =>
      rw [find?_eq_find?] at hf
      exact absurd href (List.find?_eq_none.mp hf r hr)
  | some found => rw [hunique found (mem_of_find? hf) (refersTo_of_find? hf)]

/-- **A run without a change that names the record leaves it found.** -/
theorem find?_run {reference : String} {m : Redirect} {later : List Call} :
    ∀ {s : Store}, s.HasKeys → s.find? reference = some m →
      (∀ call ∈ later, ∀ other ∈ call.changed?, m.refersTo other = false) →
      (s.run later).find? reference = some m := by
  induction later with
  | nil =>
      intro s _ hm _
      exact hm
  | cons call rest ih =>
      intro s hkeys hm hother
      obtain ⟨hfirst, hrest⟩ := List.forall_mem_cons.mp hother
      refine ih (hasKeys_perform hkeys call) (find?_perform hkeys hm ?_) hrest
      intro other hmem hf
      have hnot := hfirst other hmem
      rw [refersTo_of_find? hf] at hnot
      exact absurd hnot (by simp)

end Store

/-! ## One record for one name -/

/-- **The names of records do not get mixed up**: no two have one public reference, and no alias is
what a reference becomes when it is taken for an alias. -/
structure NamesApart (records : List Redirect) : Prop where
  refs_nodup : (records.map (·.publicRef)).Nodup
  alias_ne : ∀ a ∈ records, ∀ b ∈ records, a.aliasName ≠ Alias.normalize b.publicRef

instance (records : List Redirect) : Decidable (NamesApart records) :=
  decidable_of_iff
    ((records.map (·.publicRef)).Nodup ∧
      ∀ a ∈ records, ∀ b ∈ records, a.aliasName ≠ Alias.normalize b.publicRef)
    ⟨fun h => ⟨h.1, h.2⟩, fun h => ⟨h.1, h.2⟩⟩

theorem Redirect.refersTo_iff {r : Redirect} {reference : String} :
    r.refersTo reference = true ↔
      r.publicRef = reference ∨ r.aliasName = Alias.normalize reference := by
  rw [refersTo, Bool.or_eq_true, beq_iff_eq, beq_iff_eq]

namespace Store

/-- **A keyed store**: its numbers are keys, its aliases are in the stored form, and no two are the
same. -/
structure IsKeyed (s : Store) : Prop where
  hasKeys : s.HasKeys
  stored : ∀ r ∈ s.records, Alias.normalize r.aliasName = r.aliasName
  distinct : s.AliasesDistinct

theorem isKeyed_of_records_eq_nil {s : Store} (h : s.records = []) : s.IsKeyed where
  hasKeys := hasKeys_of_records_eq_nil h
  stored := by
    intro r hr
    rw [h] at hr
    exact absurd hr List.not_mem_nil
  distinct := by simp [AliasesDistinct, h]

/-- **A call keeps a store keyed** if a path can reach the alias that it creates. -/
theorem isKeyed_perform {s : Store} (h : s.IsKeyed) {call : Call}
    (hroutable : ∀ aliasName ∈ call.created?, Alias.isRoutable aliasName = true) :
    (s.perform call).state.IsKeyed := by
  have hstable : ∀ aliasName ∈ call.created?, Alias.IsStable aliasName :=
    fun aliasName hmem => Alias.isStable_of_isRoutable (hroutable aliasName hmem)
  refine ⟨hasKeys_perform h.hasKeys call, ?_, ?_⟩
  · intro r hr
    rcases names_perform s call with
      ⟨hsub, -⟩ | ⟨_, aliasName, _, _, new, rfl, happend, -, -, hnew, -⟩
    · obtain ⟨old, hold, hnames⟩ := List.mem_map.mp (hsub.subset (List.mem_map_of_mem hr))
      rw [← (Prod.mk.inj hnames).2]
      exact h.stored old hold
    · rw [happend] at hr
      rcases List.mem_append.mp hr with hold | hlast
      · exact h.stored r hold
      · have hname := Catalog.storedAlias_of_isStable (s := s) (Or.inr (hstable aliasName rfl))
        rw [List.mem_singleton.mp hlast, hnew, hname]
        exact hstable aliasName rfl
  · exact Catalog.aliasesDistinct_onStore (a := .call call) h.distinct (Or.inr hstable)

/-- **A run keeps a store keyed** if paths can reach the aliases that it creates. -/
theorem isKeyed_run {calls : List Call} :
    ∀ {s : Store}, s.IsKeyed →
      (∀ call ∈ calls, ∀ aliasName ∈ call.created?, Alias.isRoutable aliasName = true) →
      (s.run calls).IsKeyed := by
  induction calls with
  | nil =>
      intro s h _
      exact h
  | cons call rest ih =>
      intro s h hroutable
      obtain ⟨hfirst, hrest⟩ := List.forall_mem_cons.mp hroutable
      exact ih (isKeyed_perform h hfirst) hrest

variable {s : Store}

/-- **No two records answer to one text.** -/
theorem IsKeyed.eq_of_refersTo (h : s.IsKeyed) (hapart : NamesApart s.records) {reference : String}
    {a b : Redirect} (ha : a ∈ s.records) (hb : b ∈ s.records)
    (haref : a.refersTo reference = true) (hbref : b.refersTo reference = true) : a = b := by
  rcases Redirect.refersTo_iff.mp haref with haref | haalias
  · rcases Redirect.refersTo_iff.mp hbref with hbref | hbalias
    · exact List.inj_on_of_nodup_map hapart.refs_nodup ha hb (haref.trans hbref.symm)
    · exact absurd (haref ▸ hbalias) (hapart.alias_ne b hb a ha)
  · rcases Redirect.refersTo_iff.mp hbref with hbref | hbalias
    · exact absurd (hbref ▸ haalias) (hapart.alias_ne a ha b hb)
    · exact List.inj_on_of_nodup_map h.distinct ha hb (haalias.trans hbalias.symm)

/-- So a record is found under every text that it answers to. -/
theorem IsKeyed.find?_eq (h : s.IsKeyed) (hapart : NamesApart s.records) {reference : String}
    {r : Redirect} (hr : r ∈ s.records) (href : r.refersTo reference = true) :
    s.find? reference = some r :=
  find?_of_unique hr href fun _ hother hotherRef =>
    h.eq_of_refersTo hapart hother hr hotherRef href

theorem IsKeyed.exists_cut (h : s.IsKeyed) (hapart : NamesApart s.records) {reference : String}
    {r : Redirect} (hr : r ∈ s.records) (href : r.refersTo reference = true) :
    ∃ front back, IsCut s.records reference front r back :=
  Shortlink.exists_cut ((find?_eq_find? s reference).symm.trans (h.find?_eq hapart hr href))

/-- When the record is taken out, no text that it answers to finds another one. -/
theorem IsKeyed.find?_eq_none (h : s.IsKeyed) (hapart : NamesApart s.records)
    {front back : List Redirect} {r : Redirect} (hrecords : s.records = front ++ r :: back)
    {reference : String} (href : r.refersTo reference = true) :
    (front ++ back).find? (·.refersTo reference) = none := by
  have hr : r ∈ s.records := hrecords ▸ List.mem_append_right _ List.mem_cons_self
  have hnodup : (front ++ r :: back).Nodup := hrecords ▸ List.Nodup.of_map _ h.distinct
  have hnot : r ∉ front ++ back := (List.nodup_cons.mp (List.nodup_middle.mp hnodup)).1
  refine List.find?_eq_none.mpr fun other hmem hother => hnot ?_
  have hstored : other ∈ s.records := by
    rw [hrecords]
    exact (List.sublist_cons_self r back).append_left front |>.subset hmem
  rw [h.eq_of_refersTo hapart hr hstored href hother]
  exact hmem

/-! ## The map -/

/-- **A store acts as a map from aliases to records.** Take a run of calls from a new store in which
paths can reach the aliases that are created, and let no alias be what a reference becomes when it
is taken for an alias, nor two records have one reference.

A record that is created is found under its reference and under every spelling of its alias, until a
call names it that changes or removes a record. An update with a destination that the store can hold
gives the record that is named this destination and its writer, and nothing else changes. A deletion
takes the record that is named out and nothing else, and then neither its alias nor its reference
finds anything. Unless the file cannot be written, both succeed. -/
theorem acts_as_map {s : Store} (hs : s.IsNew) {calls : List Call}
    (hroutable : ∀ call ∈ calls, ∀ aliasName ∈ call.created?, Alias.isRoutable aliasName = true) :
    let t := s.run calls
    (∀ fresh aliasName destination user m, Alias.isRoutable aliasName = true →
      let step := t.create fresh aliasName destination user
      step.answer = .ok m → NamesApart step.state.records →
      ∀ later, (∀ call ∈ later, ∀ other ∈ call.changed?, m.refersTo other = false) →
      ∀ reference, reference = m.publicRef ∨ Alias.normalize reference = m.aliasName →
        (step.state.run later).find? reference = some m)
    ∧ (NamesApart t.records → ∀ r ∈ t.records, ∀ reference, r.refersTo reference = true →
      (∀ destination user, t.CanHold destination → ∃ front back,
        let changed := { r with written := destination, createdBy := Redirect.writer user }
        let step := t.update reference destination user
        t.records = front ++ r :: back ∧ step.state.records = front ++ changed :: back
          ∧ (IsSaved step.answer → step.answer = .ok changed))
      ∧ ∃ front back,
        let step := t.delete reference
        t.records = front ++ r :: back ∧ step.state.records = front ++ back
          ∧ (IsSaved step.answer → step.answer = .ok 1)
          ∧ step.state.find? r.aliasName = none ∧ step.state.find? r.publicRef = none) := by
  intro t
  have ht : t.IsKeyed := isKeyed_run (isKeyed_of_records_eq_nil hs.records_eq) hroutable
  constructor
  · intro fresh aliasName destination user m halias step hm hapart later hlater reference href
    have hcreated : ∀ created ∈ (Call.create fresh aliasName destination user).created?,
        Alias.isRoutable created = true := by
      rintro _ ⟨⟩
      exact halias
    have hstep : step.state.IsKeyed := isKeyed_perform ht hcreated
    refine find?_run hstep.hasKeys (hstep.find?_eq hapart (mem_of_create_ok hm) ?_) hlater
    rw [Redirect.refersTo_iff]
    exact href.imp Eq.symm Eq.symm
  · intro hapart r hr reference href
    obtain ⟨front, back, hcut⟩ := ht.exists_cut hapart hr href
    constructor
    · intro destination user hhold
      obtain ⟨hrecords, hanswer⟩ := update_of_cut ht.hasKeys hcut hhold user
      exact ⟨front, back, hcut.eq, hrecords, hanswer⟩
    · obtain ⟨hrecords, hanswer⟩ := delete_of_cut ht.hasKeys hcut
      have hnone : ∀ other, r.refersTo other = true →
          (t.delete reference).state.find? other = none := by
        intro other hother
        rw [find?_eq_find?, hrecords]
        exact ht.find?_eq_none hapart hcut.eq hother
      refine ⟨front, back, hcut.eq, hrecords, hanswer, hnone _ ?_, hnone _ ?_⟩
      · exact Redirect.refersTo_iff.mpr (Or.inr (ht.stored r hr).symm)
      · exact Redirect.refersTo_iff.mpr (Or.inl rfl)

/-- Aliases in untidy spellings; one of them is taken already, and one reference names nothing. -/
def spelledRun : List Call :=
  [.create (.atNewYear "Ref0000001") "/Wiki" "https://a.io" (some "ann"),
    .create (.atNewYear "Ref0000002") "DOCS" "https://b.io" none,
    .create (.atNewYear "Ref0000003") "wiki " "https://c.io" none,
    .update "nothing" "https://d.io" none,
    .create (.atNewYear "Ref0000003") "//Team/Plan" "https://e.io" none]

/-- After the run, a record of a table is still found when others have been changed and removed, and
the removal of one that is found under another spelling takes it out between its neighbours. -/
theorem acts_as_map_spelledRun :
    let t := (table .empty).run spelledRun
    let step := t.create (.atNewYear "Ref0000004") "/Blog" "https://f.io" none
    let later : List Call := [.update "WIKI" "https://g.io" none, .delete "/docs"]
    (∃ m, step.answer = .ok m ∧ (step.state.run later).find? "BLOG" = some m)
    ∧ ∃ r front back, t.find? "/Docs" = some r ∧ t.records = front ++ r :: back
      ∧ (t.delete "/Docs").state.records = front ++ back
      ∧ (t.delete "/Docs").state.find? "Ref0000002" = none := by
  intro t step later
  have hroutable : ∀ call ∈ spelledRun, ∀ aliasName ∈ call.created?,
      Alias.isRoutable aliasName = true :=
    isRoutable_of_all (by decide +kernel)
  obtain ⟨hcreate, hchange⟩ := acts_as_map isNew_table_empty hroutable
  constructor
  · obtain ⟨m, hm⟩ : ∃ m, step.answer = .ok m := ⟨_, rfl⟩
    refine ⟨m, hm, hcreate _ _ _ _ m (by decide +kernel) hm (by decide +kernel) later ?_ _ ?_⟩
    · rw [← Except.ok.inj hm]
      decide +kernel
    · rw [← Except.ok.inj hm]
      decide +kernel
  · obtain ⟨r, hr⟩ := Option.isSome_iff_exists.mp
      (show (t.find? "/Docs").isSome = true by decide +kernel)
    have href : r.publicRef = "Ref0000002" := by
      have hfound : (t.find? "/Docs").map (·.publicRef) = some "Ref0000002" := by decide +kernel
      rw [hr] at hfound
      exact Option.some.inj hfound
    obtain ⟨-, front, back, hrecords, hkept, -, -, hnone⟩ :=
      hchange (by decide +kernel) r (mem_of_find? hr) "/Docs" (refersTo_of_find? hr)
    exact ⟨r, front, back, hr, hrecords, hkept, href ▸ hnone⟩

end Store

end Shortlink
