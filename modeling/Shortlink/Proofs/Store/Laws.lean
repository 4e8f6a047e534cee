import Shortlink.Store

/-!
# Laws of the three stores

What each operation of a store does to its records, said once so that no invariant has to open the
operations again. A reference **cuts** the records at the first one that answers to it, and memory
and table change just that one; for a table this takes that no number is given twice. A file store
does to its records what the memory does, whether the file can be written or not.

## Contents

- **Names and cuts.** `Redirect.names`, `IsCut`.
- **Pages.** `slice_of_nonneg`.
- **Memory.** `nextRecord`, `create_of_taken`, `create_of_free`, `update_of_cut`, `delete_of_cut`
  and the laws of its names.
- **Table.** The same, with `nextRow` and `page?_of_nonneg`.
- **File store.** `IsSaved`; `commit_of_saved`, `commit_of_fault`, `exists_commit`.
-/

namespace Shortlink

open Text (Loose)

/-! ## Cutting records at a reference -/

/-- What names a record: its public reference and its alias. -/
def Redirect.names (r : Redirect) : String × String :=
  (r.publicRef, r.aliasName)

@[simp] theorem Redirect.names_withDestination (r : Redirect) (destination : Loose)
    (user : Option String) : (r.withDestination destination user).names = r.names := rfl

/-- **The cut at a reference**: `r` is the first record that answers to it, with `front` before it
and `back` behind it. -/
structure IsCut (records : List Redirect) (reference : String) (front : List Redirect)
    (r : Redirect) (back : List Redirect) : Prop where
  eq : records = front ++ r :: back
  refers : r.refersTo reference = true
  front_not : ∀ a ∈ front, a.refersTo reference = false

theorem exists_cut {records : List Redirect} {reference : String} {r : Redirect}
    (h : records.find? (·.refersTo reference) = some r) :
    ∃ front back, IsCut records reference front r back := by
  obtain ⟨hr, front, back, heq, hfront⟩ := List.find?_eq_some_iff_append.mp h
  exact ⟨front, back, heq, hr, fun a ha => by simpa using hfront a ha⟩

theorem IsCut.find?_eq {records : List Redirect} {reference : String} {front back : List Redirect}
    {r : Redirect} (h : IsCut records reference front r back) :
    records.find? (·.refersTo reference) = some r :=
  List.find?_eq_some_iff_append.mpr
    ⟨h.refers, front, back, h.eq, fun a ha => by simp [h.front_not a ha]⟩

theorem IsCut.findIdx?_eq {records : List Redirect} {reference : String}
    {front back : List Redirect} {r : Redirect} (h : IsCut records reference front r back) :
    records.findIdx? (·.refersTo reference) = some front.length := by
  have hnone : front.findIdx? (·.refersTo reference) = none :=
    List.findIdx?_eq_none_iff.mpr h.front_not
  rw [h.eq, List.findIdx?_append, hnone, List.findIdx?_cons, h.refers]
  simp

/-! ## Pages -/

/-- Between bounds that are not negative, a slice drops and takes. -/
theorem slice_of_nonneg {α : Type} (xs : List α) {start limit : Int} (hstart : 0 ≤ start)
    (hlimit : 0 ≤ limit) :
    slice xs start (start + limit) = (xs.drop start.toNat).take limit.toNat := by
  have hfirst : position xs.length start = min start.toNat xs.length := if_neg (by omega)
  have hlast : position xs.length (start + limit) = min (start + limit).toNat xs.length :=
    if_neg (by omega)
  show (xs.drop (position xs.length start)).take
    (position xs.length (start + limit) - position xs.length start) = _
  rw [hfirst, hlast]
  -- a slice never reaches beyond the end, and dropping or taking too much changes nothing
  by_cases h : start.toNat ≤ xs.length
  · rw [Nat.min_eq_left h, List.take_eq_take_iff, List.length_drop]
    omega
  · have hbeyond : xs.length ≤ start.toNat := by omega
    rw [Nat.min_eq_right hbeyond, List.drop_length, List.drop_eq_nil_of_le hbeyond]
    simp

/-! ## Memory -/

namespace Memory

/-- The record that a creation puts behind the others. -/
def nextRecord (m : Memory) (fresh : Fresh) (aliasName : String) (destination : Loose)
    (user : Option String) : Redirect :=
  Redirect.make fresh m.nextId (Alias.normalize aliasName) destination user

theorem update_of_cut {m : Memory} {reference : String} {front back : List Redirect} {r : Redirect}
    (h : IsCut m.records reference front r back) (destination : Loose) (user : Option String) :
    m.update reference destination user = ⟨.ok (r.withDestination destination user),
      ⟨front ++ r.withDestination destination user :: back⟩⟩ := by
  rw [update, index?, h.findIdx?_eq, find?, h.find?_eq]
  show (⟨_, ⟨m.records.set front.length _⟩⟩ : Step Memory Redirect) = _
  rw [h.eq, List.set_append_right _ _ (Nat.le_refl _), Nat.sub_self, List.set_cons_zero]

theorem delete_of_cut {m : Memory} {reference : String} {front back : List Redirect} {r : Redirect}
    (h : IsCut m.records reference front r back) :
    m.delete reference = ⟨.ok 1, ⟨front ++ back⟩⟩ := by
  rw [delete, index?, h.findIdx?_eq]
  show (⟨_, ⟨m.records.eraseIdx front.length⟩⟩ : Step Memory Nat) = _
  rw [h.eq, List.eraseIdx_append_of_length_le (Nat.le_refl _), Nat.sub_self,
    List.eraseIdx_cons_zero]

theorem update_of_missing {m : Memory} {reference : String} (h : m.find? reference = none)
    (destination : Loose) (user : Option String) :
    m.update reference destination user = ⟨.error (.missing reference), m⟩ := by
  rw [update, h]
  split
  · rename_i hr; exact absurd hr (by simp)
  · rfl

theorem delete_of_missing {m : Memory} {reference : String} (h : m.find? reference = none) :
    m.delete reference = ⟨.error (.missing reference), m⟩ := by
  have hnone : m.index? reference = none :=
    List.findIdx?_eq_none_iff.mpr fun a ha => by simpa using List.find?_eq_none.mp h a ha
  rw [delete, hnone]

theorem create_of_taken {m : Memory} {fresh : Fresh} {aliasName : String} {destination : Loose}
    {user : Option String} (h : Alias.normalize aliasName ∈ m.records.map (·.aliasName)) :
    m.create fresh aliasName destination user
      = ⟨.error (.taken (Alias.normalize aliasName)), m⟩ := by
  obtain ⟨r, hr, heq⟩ := List.mem_map.mp h
  rw [create]
  exact if_pos (List.any_eq_true.mpr ⟨r, hr, by simpa using heq⟩)

theorem create_of_free {m : Memory} {fresh : Fresh} {aliasName : String} {destination : Loose}
    {user : Option String} (h : Alias.normalize aliasName ∉ m.records.map (·.aliasName)) :
    m.create fresh aliasName destination user
      = ⟨.ok (m.nextRecord fresh aliasName destination user),
        ⟨m.records ++ [m.nextRecord fresh aliasName destination user]⟩⟩ := by
  rw [create]
  refine if_neg fun hany => h ?_
  obtain ⟨r, hr, heq⟩ := List.any_eq_true.mp hany
  exact List.mem_map.mpr ⟨r, hr, by simpa using heq⟩

/-- A creation leaves the records as they are, or puts one behind them. -/
theorem records_create (m : Memory) (fresh : Fresh) (aliasName : String) (destination : Loose)
    (user : Option String) :
    (m.create fresh aliasName destination user).state.records = m.records ∨
    ∃ r, (m.create fresh aliasName destination user).state.records = m.records ++ [r]
      ∧ r.publicRef = fresh.publicRef
      ∧ r.aliasName = Alias.normalize (Alias.normalize aliasName)
      ∧ Alias.normalize aliasName ∉ m.records.map (·.aliasName) := by
  by_cases h : Alias.normalize aliasName ∈ m.records.map (·.aliasName)
  · rw [create_of_taken h]
    exact Or.inl rfl
  · rw [create_of_free h]
    exact Or.inr ⟨_, rfl, rfl, rfl, h⟩

/-- An update leaves every field that a change of the destination leaves. -/
theorem map_update {α : Type} {field : Redirect → α}
    (hfield : ∀ r destination user, field (r.withDestination destination user) = field r)
    (m : Memory) (reference : String) (destination : Loose) (user : Option String) :
    (m.update reference destination user).state.records.map field = m.records.map field := by
  cases hf : m.find? reference with
  | none => rw [update_of_missing hf]
  | some r =>
      obtain ⟨front, back, hcut⟩ := exists_cut hf
      rw [update_of_cut hcut, hcut.eq]
      simp [hfield]

/-- What is stored after an update was stored before, or has been given the new destination. -/
theorem mem_update {m : Memory} {reference : String} {destination : Loose} {user : Option String}
    {r : Redirect} (hr : r ∈ (m.update reference destination user).state.records) :
    r ∈ m.records ∨ ∃ old ∈ m.records, r = old.withDestination destination user := by
  cases hf : m.find? reference with
  | none =>
      rw [update_of_missing hf] at hr
      exact Or.inl hr
  | some found =>
      obtain ⟨front, back, hcut⟩ := exists_cut hf
      rw [update_of_cut hcut] at hr
      rw [hcut.eq]
      rcases List.mem_append.mp hr with hfront | hback
      · exact Or.inl (List.mem_append_left _ hfront)
      · rcases List.mem_cons.mp hback with rfl | hrest
        · exact Or.inr ⟨found, List.mem_append_right _ List.mem_cons_self, rfl⟩
        · exact Or.inl (List.mem_append_right _ (List.mem_cons_of_mem _ hrest))

/-- The next number is larger than all that are in use. -/
theorem id_lt_nextId {m : Memory} {r : Redirect} (hr : r ∈ m.records) : r.id < m.nextId := by
  have hmem : r.id ∈ m.records.map (·.id) := List.mem_map_of_mem hr
  obtain ⟨largest, hlargest⟩ := Option.isSome_iff_exists.mp (List.isSome_max?_of_mem hmem)
  have hle := (List.max?_le_iff hlargest).mp (Int.le_refl largest) r.id hmem
  rw [nextId, hlargest, Option.getD_some]
  omega

theorem sublist_delete (m : Memory) (reference : String) :
    (m.delete reference).state.records.Sublist m.records := by
  cases hf : m.find? reference with
  | none =>
      simp only [delete_of_missing hf, List.Sublist.refl]
  | some r =>
      obtain ⟨front, back, hcut⟩ := exists_cut hf
      rw [delete_of_cut hcut, hcut.eq]
      exact (List.sublist_cons_self r back).append_left front

/-- The record that a creation answers is put behind the others. -/
theorem records_of_create_ok {m : Memory} {fresh : Fresh} {aliasName : String} {destination : Loose}
    {user : Option String} {r : Redirect}
    (h : (m.create fresh aliasName destination user).answer = .ok r) :
    (m.create fresh aliasName destination user).state.records = m.records ++ [r] := by
  by_cases htaken : Alias.normalize aliasName ∈ m.records.map (·.aliasName)
  · rw [create_of_taken htaken] at h
    exact absurd h (by simp)
  · rw [create_of_free htaken] at h ⊢
    rw [← Except.ok.inj h]

/-- The record that an update answers is stored. -/
theorem mem_of_update_ok {m : Memory} {reference : String} {destination : Loose}
    {user : Option String} {r : Redirect}
    (h : (m.update reference destination user).answer = .ok r) :
    r ∈ (m.update reference destination user).state.records := by
  cases hf : m.find? reference with
  | none =>
      rw [update_of_missing hf] at h
      exact absurd h (by simp)
  | some old =>
      obtain ⟨front, back, hcut⟩ := exists_cut hf
      rw [update_of_cut hcut] at h ⊢
      rw [← Except.ok.inj h]
      exact List.mem_append_right _ List.mem_cons_self

end Memory

/-! ## Table -/

namespace Table

/-- The row that a creation puts behind the others. -/
def nextRow (t : Table) (fresh : Fresh) (aliasName : String) (destination : Loose)
    (user : Option String) : Redirect where
  id := ((t.lastId + 1 : Nat) : Int)
  publicRef := fresh.publicRef
  aliasName := Alias.normalize aliasName
  written := destination
  createdOn := fresh.now
  createdBy := Redirect.writer user

/-- What cannot be encoded is not stored. -/
theorem create_of_torn {t : Table} {fresh : Fresh} {aliasName : String} {destination : Loose}
    {user : Option String} (h : destination.isWhole = false) :
    t.create fresh aliasName destination user = ⟨.error .unencodable, t⟩ := by
  rw [create, h]
  rfl

theorem create_of_clash {t : Table} {fresh : Fresh} {aliasName : String} {destination : Loose}
    {user : Option String} (hwhole : destination.isWhole = true) {r : Redirect} (hr : r ∈ t.rows)
    (h : r.aliasName = Alias.normalize aliasName ∨ r.publicRef = fresh.publicRef) :
    t.create fresh aliasName destination user
      = ⟨.error (.clash (Alias.normalize aliasName)), t⟩ := by
  rw [create, hwhole]
  refine if_pos (List.any_eq_true.mpr ⟨r, hr, ?_⟩)
  rw [Bool.or_eq_true, beq_iff_eq, beq_iff_eq]
  exact h

theorem create_of_free {t : Table} {fresh : Fresh} {aliasName : String} {destination : Loose}
    {user : Option String} (hwhole : destination.isWhole = true)
    (h : ∀ r ∈ t.rows, r.aliasName ≠ Alias.normalize aliasName ∧ r.publicRef ≠ fresh.publicRef) :
    t.create fresh aliasName destination user = ⟨.ok (t.nextRow fresh aliasName destination user),
      ⟨t.rows ++ [t.nextRow fresh aliasName destination user], t.lastId + 1⟩⟩ := by
  have hnone : ¬ (t.rows.any fun r =>
      r.aliasName == Alias.normalize aliasName || r.publicRef == fresh.publicRef) = true := by
    intro hany
    obtain ⟨r, hr, heq⟩ := List.any_eq_true.mp hany
    rw [Bool.or_eq_true, beq_iff_eq, beq_iff_eq] at heq
    exact heq.elim (h r hr).1 (h r hr).2
  rw [create, hwhole]
  exact if_neg hnone

/-- A row clashes with what is to be created, or none does. -/
theorem clash_or_free (t : Table) (fresh : Fresh) (aliasName : String) :
    (∃ r ∈ t.rows, r.aliasName = Alias.normalize aliasName ∨ r.publicRef = fresh.publicRef) ∨
    ∀ r ∈ t.rows, r.aliasName ≠ Alias.normalize aliasName ∧ r.publicRef ≠ fresh.publicRef := by
  by_cases h : ∃ r ∈ t.rows,
      r.aliasName = Alias.normalize aliasName ∨ r.publicRef = fresh.publicRef
  · exact Or.inl h
  · refine Or.inr fun r hr => ⟨?_, ?_⟩
    · intro ha
      exact h ⟨r, hr, Or.inl ha⟩
    · intro hp
      exact h ⟨r, hr, Or.inr hp⟩

/-- A table whose rows have numbers of their own has none twice on the two sides of a cut. -/
theorem id_ne_of_cut {front back : List Redirect} {r : Redirect}
    (hids : ((front ++ r :: back).map (·.id)).Nodup) :
    (∀ a ∈ front, a.id ≠ r.id) ∧ ∀ a ∈ back, a.id ≠ r.id := by
  rw [List.map_append, List.map_cons, List.nodup_append, List.nodup_cons] at hids
  obtain ⟨-, ⟨hback, -⟩, hdisjoint⟩ := hids
  refine ⟨?_, ?_⟩
  · intro a ha
    exact hdisjoint _ (List.mem_map_of_mem ha) _ List.mem_cons_self
  · intro a ha heq
    exact hback (heq ▸ List.mem_map_of_mem ha)

/-- A change of the rows with one number leaves alone the rows that have others. -/
theorem map_of_id_ne {rows : List Redirect} {n : Int} (h : ∀ a ∈ rows, a.id ≠ n)
    (change : Redirect → Redirect) :
    rows.map (fun a => if a.id = n then change a else a) = rows := by
  calc rows.map (fun a => if a.id = n then change a else a)
      = rows.map id := List.map_congr_left fun a ha => if_neg (h a ha)
    _ = rows := List.map_id rows

theorem partition_of_id_ne {rows : List Redirect} {n : Int} (h : ∀ a ∈ rows, a.id ≠ n) :
    rows.filter (fun a => decide (a.id = n)) = []
      ∧ rows.filter (fun a => !decide (a.id = n)) = rows :=
  ⟨List.filter_eq_nil_iff.mpr fun a ha => by simp [h a ha],
    List.filter_eq_self.mpr fun a ha => by simp [h a ha]⟩

/-- **Setting the columns of a row changes its destination.** This happens to every row with the
number of the one that is found. -/
theorem update_of_found {t : Table} {reference : String} {found : Redirect}
    (h : t.find? reference = some found) {destination : Loose}
    (hwhole : destination.isWhole = true) (user : Option String) :
    t.update reference destination user = ⟨.ok (found.withDestination destination user), { t with
      rows := t.rows.map fun r =>
        if r.id = found.id then r.withDestination destination user else r }⟩ := by
  rw [update, h, hwhole]
  rfl

theorem update_of_cut {t : Table} (hids : (t.rows.map (·.id)).Nodup) {reference : String}
    {front back : List Redirect} {r : Redirect} (h : IsCut t.rows reference front r back)
    {destination : Loose} (hwhole : destination.isWhole = true) (user : Option String) :
    t.update reference destination user = ⟨.ok (r.withDestination destination user),
      ⟨front ++ r.withDestination destination user :: back, t.lastId⟩⟩ := by
  rw [h.eq] at hids
  obtain ⟨hfront, hback⟩ := id_ne_of_cut hids
  rw [update_of_found h.find?_eq hwhole]
  simp only [h.eq, List.map_append, List.map_cons, if_pos]
  rw [map_of_id_ne hfront (·.withDestination destination user),
    map_of_id_ne hback (·.withDestination destination user)]

theorem delete_of_cut {t : Table} (hids : (t.rows.map (·.id)).Nodup) {reference : String}
    {front back : List Redirect} {r : Redirect} (h : IsCut t.rows reference front r back) :
    t.delete reference = ⟨.ok 1, ⟨front ++ back, t.lastId⟩⟩ := by
  rw [h.eq] at hids
  obtain ⟨hfront, hback⟩ := id_ne_of_cut hids
  obtain ⟨hnone, hall⟩ := partition_of_id_ne hfront
  obtain ⟨hnone', hall'⟩ := partition_of_id_ne hback
  rw [delete, find?, h.find?_eq]
  simp only [h.eq, List.partition_eq_filter_filter, List.filter_append, List.filter_cons,
    decide_true, Function.comp_def, Bool.not_true, if_pos, Bool.false_eq_true, if_false]
  rw [hnone, hall, hnone', hall']
  rfl

theorem update_of_missing {t : Table} {reference : String} (h : t.find? reference = none)
    (destination : Loose) (user : Option String) :
    t.update reference destination user = ⟨.error (.missing reference), t⟩ := by
  rw [update, h]

/-- What cannot be encoded changes no row. -/
theorem state_update_of_torn (t : Table) (reference : String) {destination : Loose}
    (h : destination.isWhole = false) (user : Option String) :
    (t.update reference destination user).state = t ∧
      ∀ r, (t.update reference destination user).answer ≠ .ok r := by
  rw [update, h]
  cases t.find? reference <;> exact ⟨rfl, fun r hr => absurd hr (by simp)⟩

theorem delete_of_missing {t : Table} {reference : String} (h : t.find? reference = none) :
    t.delete reference = ⟨.error (.missing reference), t⟩ := by
  rw [delete, h]

theorem rows_create (t : Table) (fresh : Fresh) (aliasName : String) (destination : Loose)
    (user : Option String) :
    (t.create fresh aliasName destination user).state.rows = t.rows ∨
    ∃ r, (t.create fresh aliasName destination user).state.rows = t.rows ++ [r]
      ∧ r.publicRef = fresh.publicRef ∧ r.aliasName = Alias.normalize aliasName
      ∧ Alias.normalize aliasName ∉ t.rows.map (·.aliasName) := by
  cases hwhole : destination.isWhole with
  | false =>
      rw [create_of_torn hwhole]
      exact Or.inl rfl
  | true =>
  rcases t.clash_or_free fresh aliasName with ⟨r, hr, hclash⟩ | hfree
  · rw [create_of_clash hwhole hr hclash]
    exact Or.inl rfl
  · rw [create_of_free hwhole hfree]
    refine Or.inr ⟨_, rfl, rfl, rfl, ?_⟩
    intro hmem
    obtain ⟨r, hr, heq⟩ := List.mem_map.mp hmem
    exact (hfree r hr).1 heq

/-- An update leaves every field that a change of the destination leaves, also in a table in which
numbers are repeated. -/
theorem map_update {α : Type} {field : Redirect → α}
    (hfield : ∀ r destination user, field (r.withDestination destination user) = field r)
    (t : Table) (reference : String) (destination : Loose) (user : Option String) :
    (t.update reference destination user).state.rows.map field = t.rows.map field := by
  cases hf : t.find? reference with
  | none => rw [update_of_missing hf]
  | some found =>
      cases hwhole : destination.isWhole with
      | false => rw [(t.state_update_of_torn reference hwhole user).1]
      | true =>
          rw [update_of_found hf hwhole]
          simp only [List.map_map]
          apply List.map_congr_left
          intro r _
          by_cases hid : r.id = found.id
          · rw [Function.comp, if_pos hid, hfield]
          · rw [Function.comp, if_neg hid]

theorem mem_update {t : Table} {reference : String} {destination : Loose} {user : Option String}
    {r : Redirect} (hr : r ∈ (t.update reference destination user).state.rows) :
    r ∈ t.rows ∨ ∃ old ∈ t.rows, r = old.withDestination destination user := by
  cases hf : t.find? reference with
  | none =>
      rw [update_of_missing hf] at hr
      exact Or.inl hr
  | some found =>
      cases hwhole : destination.isWhole with
      | false =>
          rw [(t.state_update_of_torn reference hwhole user).1] at hr
          exact Or.inl hr
      | true =>
          rw [update_of_found hf hwhole] at hr
          obtain ⟨old, hold, heq⟩ := List.mem_map.mp hr
          split at heq
          · exact Or.inr ⟨old, hold, heq.symm⟩
          · exact Or.inl (heq ▸ hold)

theorem sublist_delete (t : Table) (reference : String) :
    (t.delete reference).state.rows.Sublist t.rows := by
  cases hf : t.find? reference with
  | none =>
      simp only [delete_of_missing hf, List.Sublist.refl]
  | some found =>
      rw [delete, hf]
      simp only [List.partition_eq_filter_filter]
      exact List.filter_sublist

/-- What a table has stored could be encoded. -/
theorem isWhole_of_create_ok {t : Table} {fresh : Fresh} {aliasName : String} {destination : Loose}
    {user : Option String} {r : Redirect}
    (h : (t.create fresh aliasName destination user).answer = .ok r) :
    destination.isWhole = true := by
  cases hwhole : destination.isWhole with
  | true => rfl
  | false =>
      rw [create_of_torn hwhole] at h
      exact absurd h (by simp)

theorem isWhole_of_update_ok {t : Table} {reference : String} {destination : Loose}
    {user : Option String} {r : Redirect}
    (h : (t.update reference destination user).answer = .ok r) : destination.isWhole = true := by
  cases hwhole : destination.isWhole with
  | true => rfl
  | false => exact absurd h ((t.state_update_of_torn reference hwhole user).2 r)

theorem rows_of_create_ok {t : Table} {fresh : Fresh} {aliasName : String} {destination : Loose}
    {user : Option String} {r : Redirect}
    (h : (t.create fresh aliasName destination user).answer = .ok r) :
    (t.create fresh aliasName destination user).state.rows = t.rows ++ [r] := by
  have hwhole : destination.isWhole = true := isWhole_of_create_ok h
  rcases t.clash_or_free fresh aliasName with ⟨clashing, hr, hclash⟩ | hfree
  · rw [create_of_clash hwhole hr hclash] at h
    exact absurd h (by simp)
  · rw [create_of_free hwhole hfree] at h ⊢
    rw [← Except.ok.inj h]

theorem mem_of_update_ok {t : Table} {reference : String} {destination : Loose}
    {user : Option String} {r : Redirect}
    (h : (t.update reference destination user).answer = .ok r) :
    r ∈ (t.update reference destination user).state.rows := by
  cases hf : t.find? reference with
  | none =>
      rw [update_of_missing hf] at h
      exact absurd h (by simp)
  | some found =>
      have hwhole := isWhole_of_update_ok h
      rw [update_of_found hf hwhole] at h ⊢
      rw [← Except.ok.inj h]
      exact List.mem_map.mpr ⟨found, List.mem_of_find?_eq_some hf, if_pos rfl⟩

theorem inRange_of_nonneg {n : Int} (h : 0 ≤ n) (hbound : n < countBound) : inRange n = true := by
  have hlow : -countBound ≤ n := by
    unfold countBound
    omega
  rw [inRange, decide_eq_true hlow, decide_eq_true hbound]
  rfl

/-- Within the numbers that a table counts with, a page drops and takes. -/
theorem page?_of_nonneg {t : Table} {page limit : Int} (hlimit : 0 ≤ limit)
    (hlimitBound : limit < countBound) (hstart : 0 ≤ limit * page)
    (hstartBound : limit * page < countBound) :
    t.page? page limit = some ((t.rows.drop (limit * page).toNat).take limit.toNat) := by
  simp only [page?, inRange_of_nonneg hlimit hlimitBound, inRange_of_nonneg hstart hstartBound,
    Bool.and_self, if_true, if_neg (Int.not_lt.mpr hlimit)]

end Table

/-! ## File store -/

/-- The error is one of writing the file. -/
def StoreError.isSaveFault : StoreError → Bool
  | unwritable _ | longNumber => true
  | _ => false

/-- **The file was written**: the answer, good or bad, is not an error of writing it. -/
def IsSaved {α : Type} (answer : Except StoreError α) : Prop :=
  ∀ e, answer = .error e → e.isSaveFault = false

instance {α : Type} (answer : Except StoreError α) : Decidable (IsSaved answer) :=
  match answer with
  | .ok _ => .isTrue fun _ h => absurd h (by simp)
  | .error e =>
    decidable_of_iff (e.isSaveFault = false)
      ⟨fun h _ he => Except.error.inj he ▸ h, fun h => h e rfl⟩

theorem isSaved_map_iff {α β : Type} {f : α → β} {answer : Except StoreError α} :
    IsSaved (answer.map f) ↔ IsSaved answer := by
  cases answer <;> simp [IsSaved, Except.map]

namespace FileStore

/-- If nothing prevents it, the file is written and the memory has the answer. -/
theorem commit_of_saved {f : FileStore} {α : Type} {step : Step Memory α}
    (h : saveFault? { f with memory := step.state } = none) :
    f.commit step = ⟨step.answer,
      { f with memory := step.state, disk := Disk.ofText (fileText step.state.records) }⟩ := by
  simp [commit, save, h]

/-- What prevents the file from being written makes every operation fail, after the memory has done
it. -/
theorem commit_of_fault {f : FileStore} {α : Type} {step : Step Memory α} {e : StoreError}
    (h : saveFault? { f with memory := step.state } = some e) :
    f.commit step = ⟨.error e, { f with memory := step.state }⟩ := by
  simp [commit, save, h]

/-- The ways in which a file can fail to be written. -/
theorem eq_of_saveFault? {f : FileStore} {e : StoreError} (h : f.saveFault? = some e) :
    e = .longNumber ∨ (f.disk = .directory ∧ e = .unwritable f.path) := by
  unfold saveFault? at h
  split at h
  · exact Or.inl (Option.some.inj h).symm
  · split at h
    · rename_i hdisk
      exact Or.inr ⟨hdisk, (Option.some.inj h).symm⟩
    · exact absurd h (by simp)

theorem isSaveFault_of_saveFault? {f : FileStore} {e : StoreError} (h : f.saveFault? = some e) :
    e.isSaveFault = true := by
  rcases eq_of_saveFault? h with rfl | ⟨-, rfl⟩ <;> rfl

/-- If the file was written, nothing prevented it. -/
theorem saveFault?_of_isSaved {f : FileStore} {α : Type} {step : Step Memory α}
    (h : IsSaved (f.commit step).answer) : saveFault? { f with memory := step.state } = none := by
  cases hfault : saveFault? { f with memory := step.state } with
  | none => rfl
  | some e =>
      rw [commit_of_fault hfault] at h
      exact absurd ((h e rfl).symm.trans (isSaveFault_of_saveFault? hfault)) (by simp)

/-- A file that can be written is no directory, and no number of its records is too long. -/
theorem saveFault?_eq_none_iff {f : FileStore} :
    f.saveFault? = none ↔ f.disk ≠ .directory ∧ hasLongNumber f.memory.records = false := by
  unfold saveFault?
  cases hlong : hasLongNumber f.memory.records with
  | true => simp
  | false => cases f.disk <;> simp

/-- A file store answers what its memory answers, or why the file cannot be written. -/
theorem answer_commit (f : FileStore) {α : Type} (step : Step Memory α) :
    (f.commit step).answer = step.answer ∨
    ∃ e, (f.commit step).answer = .error e
      ∧ (e = .longNumber ∨ (f.disk = .directory ∧ e = .unwritable f.path)) := by
  cases h : saveFault? { f with memory := step.state } with
  | none => exact Or.inl (by rw [commit_of_saved h])
  | some e =>
      have hcause := eq_of_saveFault? h
      exact Or.inr ⟨e, by rw [commit_of_fault h], hcause⟩

/-- A directory in the place of the file makes every operation fail. -/
theorem answer_commit_of_directory {f : FileStore} (h : f.disk = .directory) {α : Type}
    (step : Step Memory α) :
    (f.commit step).answer = .error
      (if hasLongNumber step.state.records then .longNumber else .unwritable f.path) := by
  have hfault : saveFault? { f with memory := step.state }
      = some (if hasLongNumber step.state.records then .longNumber else .unwritable f.path) := by
    unfold saveFault?
    rw [h]
    cases hasLongNumber step.state.records <;> rfl
  rw [commit_of_fault hfault]

/-- Whether the file can be written or not, the records become those of the memory. -/
theorem memory_commit (f : FileStore) {α : Type} (step : Step Memory α) :
    (f.commit step).state.memory = step.state := by
  cases h : saveFault? { f with memory := step.state } with
  | none => rw [commit_of_saved h]
  | some e => rw [commit_of_fault h]

/-- A file store takes over the state of its memory, and what could not be written before cannot be
written after. -/
theorem exists_commit (f : FileStore) {α : Type} (step : Step Memory α) :
    ∃ disk, (disk = .directory ↔ f.disk = .directory)
      ∧ (f.commit step).state = ⟨f.path, disk, step.state⟩ := by
  cases h : saveFault? { f with memory := step.state } with
  | none =>
      refine ⟨Disk.ofText (fileText step.state.records), ?_, by rw [commit_of_saved h]⟩
      exact iff_of_false (by simp [Disk.ofText]) (saveFault?_eq_none_iff.mp h).1
  | some e => exact ⟨f.disk, Iff.rfl, by rw [commit_of_fault h]⟩

/-- A file store that answers has the answer from its memory. -/
theorem answer_of_commit_ok {f : FileStore} {α : Type} {step : Step Memory α} {a : α}
    (h : (f.commit step).answer = .ok a) : step.answer = .ok a := by
  cases hfault : saveFault? { f with memory := step.state } with
  | none =>
      rw [commit_of_saved hfault] at h
      exact h
  | some e =>
      rw [commit_of_fault hfault] at h
      exact absurd h (by simp)

end FileStore

end Shortlink
