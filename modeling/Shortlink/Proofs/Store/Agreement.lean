import Shortlink.Proofs.Alias
import Shortlink.Proofs.Store.Call

/-!
# The stores agree

From new stores, a run of calls has the same outcomes on a memory and on a file, up to the numbers
of records, and on a table just if the table never has to encode what is no text:
`outcomes_agree_iff`. This takes that paths can reach the aliases of new records, that no two
records are given one public reference, and that pages stay within the numbers that a table counts
with. A table that has to encode what is no text fails where the others do not
(`outcomes_differ_torn`).

A file store that writes its file answers what its memory answers. Between memory and table there is
a simulation, `Matches`: the same records in the same order, whatever their numbers, and in the
table no number twice and none above its counter. It goes on as long as the table can encode what it
is handed; the first call for which it cannot tells the two apart (`outcome_ne_of_not_encodes`).

## Contents

- `Redirect.unnumbered`, `StoreError.Kind`, `outcome`, `outcomes`: what is compared.
- `Matches`, `Matches.create`, `Matches.update`, `Matches.delete`, `Matches.page`.
- `Encodes`, `Call.IsInRange`; `Matches.perform`, `outcome_ne_of_not_encodes`: one call.
- `EncodesAll`, `HasDistinctRefs`; `Matches.outcomes_eq_iff`: a run.
- `AllSaved`, `replies_file`; `outcomes_agree_iff`, `outcomes_differ_torn`.
-/

namespace Shortlink

open Text (Loose)

/-! ## What is compared -/

/-- The record without its number. -/
def Redirect.unnumbered (r : Redirect) : Redirect :=
  { r with id := 0 }

@[simp] theorem Redirect.refersTo_unnumbered (r : Redirect) (reference : String) :
    r.unnumbered.refersTo reference = r.refersTo reference := rfl

@[simp] theorem Redirect.unnumbered_withDestination (r : Redirect) (destination : Loose)
    (user : Option String) : (r.withDestination destination user).unnumbered
      = r.unnumbered.withDestination destination user := rfl

/-- The classes of errors. -/
inductive StoreError.Kind where
  | taken
  | missing
  | unencodable
  | unwritable
  | longNumber
  | beyondRange
deriving DecidableEq, Repr

/-- The class of an error. A table reports a taken alias as a clash. -/
def StoreError.kind : StoreError → Kind
  | taken _ | clash _ => .taken
  | missing _ => .missing
  | unencodable => .unencodable
  | unwritable _ => .unwritable
  | longNumber => .longNumber
  | beyondRange => .beyondRange

namespace Store

/-- The reply with its records unnumbered. -/
def Reply.unnumbered : Reply → Reply
  | record r => .record r.unnumbered
  | removed n => .removed n
  | found r => .found (r.map Redirect.unnumbered)
  | listed rs => .listed (rs.map Redirect.unnumbered)
  | counted n => .counted n

/-- What is compared of an answer: all but the numbers of records, and of an error its class and its
message. -/
def outcome : Except StoreError Reply → Except (StoreError.Kind × String) Reply
  | .ok reply => .ok reply.unnumbered
  | .error e => .error (e.kind, e.message)

/-- The outcomes of a run of calls, one after the other. -/
def outcomes (s : Store) (calls : List Call) : List (Except (StoreError.Kind × String) Reply) :=
  (s.replies calls).map outcome

end Store

/-! ## Records but for their numbers -/

section Unnumbered

variable {xs ys : List Redirect} (h : xs.map Redirect.unnumbered = ys.map Redirect.unnumbered)
include h

theorem map_eq_of_unnumbered {α : Type} (field : Redirect → α)
    (hfield : field ∘ Redirect.unnumbered = field) : xs.map field = ys.map field := by
  have hmap := congrArg (List.map field) h
  rwa [List.map_map, List.map_map, hfield] at hmap

theorem find?_eq_of_unnumbered (reference : String) :
    (xs.find? (·.refersTo reference)).map Redirect.unnumbered
      = (ys.find? (·.refersTo reference)).map Redirect.unnumbered := by
  have hfind := congrArg (List.find? (·.refersTo reference)) h
  rwa [List.find?_map, List.find?_map] at hfind

/-- A reference cuts both lists at the same place. -/
theorem exists_cut_of_unnumbered {reference : String} {front back : List Redirect} {r : Redirect}
    (hcut : IsCut ys reference front r back) :
    ∃ front' r' back', IsCut xs reference front' r' back'
      ∧ front'.map Redirect.unnumbered = front.map Redirect.unnumbered
      ∧ r'.unnumbered = r.unnumbered
      ∧ back'.map Redirect.unnumbered = back.map Redirect.unnumbered := by
  -- the unnumbered lists are equal, so the other list falls into parts of the same lengths
  rw [hcut.eq, List.map_append, List.map_cons] at h
  obtain ⟨front', tail, rfl, hfront, htail⟩ := List.map_eq_append_iff.mp h
  obtain ⟨r', back', rfl, hr, hback⟩ := List.map_eq_cons_iff.mp htail
  refine ⟨front', r', back', ⟨rfl, ?_, ?_⟩, hfront, hr, hback⟩
  · rw [← Redirect.refersTo_unnumbered, hr, Redirect.refersTo_unnumbered]
    exact hcut.refers
  · intro a ha
    have hmem : a.unnumbered ∈ front.map Redirect.unnumbered := hfront ▸ List.mem_map_of_mem ha
    obtain ⟨b, hb, heq⟩ := List.mem_map.mp hmem
    rw [← Redirect.refersTo_unnumbered, ← heq, Redirect.refersTo_unnumbered]
    exact hcut.front_not b hb

end Unnumbered

namespace Store

/-! ## The simulation -/

/-- **Memory and table match**: the same records but for their numbers, and the numbers of the rows
are among those that were given, none of them twice. -/
structure Matches (m : Memory) (t : Table) : Prop where
  same : t.rows.map Redirect.unnumbered = m.records.map Redirect.unnumbered
  ids : (t.rows.map (·.id)).Nodup
  given : ∀ r ∈ t.rows, r.id ≤ t.lastId

variable {m : Memory} {t : Table}

theorem matches_of_nil (hm : m.records = []) (ht : t.rows = []) : Matches m t := by
  refine ⟨by rw [hm, ht], by simp [ht], ?_⟩
  intro r hr
  rw [ht] at hr
  exact absurd hr List.not_mem_nil

theorem Matches.aliases_eq (h : Matches m t) :
    t.rows.map (·.aliasName) = m.records.map (·.aliasName) :=
  map_eq_of_unnumbered h.same _ rfl

theorem Matches.refs_eq (h : Matches m t) :
    t.rows.map (·.publicRef) = m.records.map (·.publicRef) :=
  map_eq_of_unnumbered h.same _ rfl

/-- **Creating a record.** A stable alias is stored alike, and a table finds no other clash than
that of the alias, for the reference is new if the alias is. -/
theorem Matches.create (h : Matches m t) {fresh : Fresh} {aliasName : String}
    (hstable : Alias.IsStable aliasName)
    (href : Alias.normalize aliasName ∉ m.records.map (·.aliasName) →
      fresh.publicRef ∉ m.records.map (·.publicRef))
    {destination : Loose} (hwhole : destination.isWhole = true) (user : Option String) :
    outcome ((m.create fresh aliasName destination user).answer.map .record)
        = outcome ((t.create fresh aliasName destination user).answer.map .record)
      ∧ Matches (m.create fresh aliasName destination user).state
          (t.create fresh aliasName destination user).state := by
  by_cases htaken : Alias.normalize aliasName ∈ m.records.map (·.aliasName)
  · have hrow : Alias.normalize aliasName ∈ t.rows.map (·.aliasName) := by
      rw [h.aliases_eq]
      exact htaken
    obtain ⟨r, hr, halias⟩ := List.mem_map.mp hrow
    -- the errors are two, but their class and their message are the same
    rw [Memory.create_of_taken htaken, Table.create_of_clash hwhole hr (Or.inl halias)]
    exact ⟨rfl, h⟩
  · have hfree : ∀ r ∈ t.rows,
        r.aliasName ≠ Alias.normalize aliasName ∧ r.publicRef ≠ fresh.publicRef := by
      intro r hr
      constructor
      · intro heq
        refine htaken ?_
        rw [← h.aliases_eq, ← heq]
        exact List.mem_map_of_mem hr
      · intro heq
        refine href htaken ?_
        rw [← h.refs_eq, ← heq]
        exact List.mem_map_of_mem hr
    have hnew : (m.nextRecord fresh aliasName destination user).unnumbered
        = (t.nextRow fresh aliasName destination user).unnumbered := by
      simp only [Memory.nextRecord, Redirect.make, Table.nextRow, Redirect.unnumbered]
      rw [show Alias.normalize (Alias.normalize aliasName) = _ from hstable]
    rw [Memory.create_of_free htaken, Table.create_of_free hwhole hfree]
    refine ⟨?_, ?_, ?_, ?_⟩
    · show Except.ok (Reply.record _) = Except.ok (Reply.record _)
      rw [hnew]
    · simp [h.same, hnew]
    · -- the new number is above all that were given
      rw [List.map_append, List.nodup_append]
      refine ⟨h.ids, by simp, ?_⟩
      intro old hold new hnewId heq
      obtain ⟨r, hr, hid⟩ := List.mem_map.mp hold
      have hbound := h.given r hr
      simp only [List.map_cons, List.map_nil, List.mem_singleton, Table.nextRow] at hnewId
      omega
    · intro r hr
      rcases List.mem_append.mp hr with hold | hlast
      · have hbound := h.given r hold
        simp only
        omega
      · rw [List.mem_singleton.mp hlast]
        exact Int.le_refl _

/-- What memory does not find, a table does not find. -/
theorem Matches.find?_eq_none (h : Matches m t) {reference : String}
    (hm : m.find? reference = none) : t.find? reference = none := by
  have hfind := find?_eq_of_unnumbered h.same reference
  rw [show m.records.find? (·.refersTo reference) = none from hm] at hfind
  exact Option.map_eq_none_iff.mp hfind

/-- **Updating a record.** Both change the first record that answers to the reference. -/
theorem Matches.update (h : Matches m t) {reference : String} {destination : Loose}
    (hwhole : (m.find? reference).isSome = true → destination.isWhole = true)
    (user : Option String) :
    outcome ((m.update reference destination user).answer.map .record)
        = outcome ((t.update reference destination user).answer.map .record)
      ∧ Matches (m.update reference destination user).state
          (t.update reference destination user).state := by
  cases hf : m.find? reference with
  | none =>
      rw [Memory.update_of_missing hf, Table.update_of_missing (h.find?_eq_none hf)]
      exact ⟨rfl, h⟩
  | some r =>
      obtain ⟨front, back, hcut⟩ := exists_cut hf
      obtain ⟨front', r', back', hcut', hfront, hr, hback⟩ := exists_cut_of_unnumbered h.same hcut
      have hids := h.ids
      have hgiven := h.given
      rw [hcut'.eq] at hids hgiven
      rw [Memory.update_of_cut hcut,
        Table.update_of_cut h.ids hcut' (hwhole (Option.isSome_iff_exists.mpr ⟨r, hf⟩))]
      refine ⟨?_, ?_, ?_, ?_⟩
      · show Except.ok (Reply.record _) = Except.ok (Reply.record _)
        rw [Redirect.unnumbered_withDestination, Redirect.unnumbered_withDestination, hr]
      · simp [hfront, hr, hback]
      · rw [List.map_append, List.map_cons] at hids ⊢
        exact hids
      · intro a ha
        rcases List.mem_append.mp ha with hbefore | hrest
        · exact hgiven a (List.mem_append_left _ hbefore)
        · rcases List.mem_cons.mp hrest with rfl | hbehind
          · exact hgiven r' (List.mem_append_right _ List.mem_cons_self)
          · exact hgiven a (List.mem_append_right _ (List.mem_cons_of_mem _ hbehind))

/-- **Deleting a record.** Both remove the first record that answers to the reference, and no
other. -/
theorem Matches.delete (h : Matches m t) (reference : String) :
    outcome ((m.delete reference).answer.map .removed)
        = outcome ((t.delete reference).answer.map .removed)
      ∧ Matches (m.delete reference).state (t.delete reference).state := by
  cases hf : m.find? reference with
  | none =>
      rw [Memory.delete_of_missing hf, Table.delete_of_missing (h.find?_eq_none hf)]
      exact ⟨rfl, h⟩
  | some r =>
      obtain ⟨front, back, hcut⟩ := exists_cut hf
      obtain ⟨front', r', back', hcut', hfront, -, hback⟩ := exists_cut_of_unnumbered h.same hcut
      have hsub : (front' ++ back').Sublist t.rows := by
        rw [hcut'.eq]
        exact (List.sublist_cons_self r' back').append_left front'
      rw [Memory.delete_of_cut hcut, Table.delete_of_cut h.ids hcut']
      refine ⟨rfl, ?_, ?_, ?_⟩
      · simp [hfront, hback]
      · exact h.ids.sublist (hsub.map _)
      · intro a ha
        exact h.given a (hsub.subset ha)

/-! ## Calls -/

/-- **A table that has the records can encode what the call hands to it**: the destination of a new
record is a text, and so is the one that a record is given. -/
def Encodes (s : Store) : Call → Prop
  | .create _ _ destination _ => destination.isWhole = true
  | .update reference destination _ =>
    (s.find? reference).isSome = true → destination.isWhole = true
  | .delete _ | .find _ | .page _ _ | .count => True

instance (s : Store) : (call : Call) → Decidable (s.Encodes call)
  | .create _ _ destination _ => inferInstanceAs (Decidable (destination.isWhole = true))
  | .update reference destination _ =>
    inferInstanceAs (Decidable ((s.find? reference).isSome = true → destination.isWhole = true))
  | .delete _ | .find _ | .page _ _ | .count => inferInstanceAs (Decidable True)

/-- The bounds of the page that a call asks for are no negative numbers and not too large for a
table. -/
def Call.IsInRange : Call → Prop
  | .page number limit =>
    0 ≤ number ∧ 0 ≤ limit ∧ limit < Table.countBound ∧ limit * number < Table.countBound
  | _ => True

/-- **Asking for a page.** -/
theorem Matches.page (h : Matches m t) {page limit : Int}
    (hrange : (Call.page page limit).IsInRange) :
    ∃ rows, (table t).page page limit = .ok rows
      ∧ rows.map Redirect.unnumbered = (m.page page limit).map Redirect.unnumbered := by
  obtain ⟨hpage, hlimit, hlimitBound, hstartBound⟩ := hrange
  have hstart : 0 ≤ limit * page := Int.mul_nonneg hlimit hpage
  have hrows : t.page? page limit
      = some ((t.rows.drop (limit * page).toNat).take limit.toNat) :=
    Table.page?_of_nonneg hlimit hlimitBound hstart hstartBound
  refine ⟨(t.rows.drop (limit * page).toNat).take limit.toNat, ?_, ?_⟩
  · rw [Store.page, hrows]
  · rw [Memory.page, slice_of_nonneg _ hstart hlimit, List.map_take, List.map_drop, h.same,
      ← List.map_drop, ← List.map_take]

/-- **A call has the same outcome on memory and table, and they match again**, if the table can
encode what it is handed. -/
theorem Matches.perform (h : Matches m t) {call : Call} (hencodes : (memory m).Encodes call)
    (hstable : ∀ aliasName ∈ call.created?, Alias.IsStable aliasName) (hrange : call.IsInRange)
    (hrefs : ∀ fresh aliasName destination user,
      call = .create fresh aliasName destination user →
        Alias.normalize aliasName ∉ m.records.map (·.aliasName) →
          fresh.publicRef ∉ m.records.map (·.publicRef)) :
    outcome ((memory m).perform call).answer = outcome ((table t).perform call).answer
      ∧ ∃ m' t', ((memory m).perform call).state = memory m'
        ∧ ((table t).perform call).state = table t' ∧ Matches m' t' := by
  cases call with
  | create fresh aliasName destination user =>
      obtain ⟨heq, hmatch⟩ := h.create (hstable aliasName rfl) (hrefs _ _ _ _ rfl) hencodes user
      exact ⟨heq, _, _, rfl, rfl, hmatch⟩
  | update reference destination user =>
      obtain ⟨heq, hmatch⟩ := h.update hencodes user
      exact ⟨heq, _, _, rfl, rfl, hmatch⟩
  | delete reference =>
      obtain ⟨heq, hmatch⟩ := h.delete reference
      exact ⟨heq, _, _, rfl, rfl, hmatch⟩
  | find reference =>
      refine ⟨?_, m, t, rfl, rfl, h⟩
      show Except.ok (Reply.found _) = Except.ok (Reply.found _)
      exact congrArg (Except.ok ∘ Reply.found) (find?_eq_of_unnumbered h.same reference).symm
  | page page limit =>
      refine ⟨?_, m, t, rfl, rfl, h⟩
      obtain ⟨rows, hrows, hsame⟩ := h.page hrange
      show Except.ok (Reply.listed _) = outcome (((table t).page page limit).map Reply.listed)
      rw [hrows]
      exact congrArg (Except.ok ∘ Reply.listed) hsame.symm
  | count =>
      refine ⟨?_, m, t, rfl, rfl, h⟩
      have hlength : m.records.length = t.rows.length := by
        simpa using (congrArg List.length h.same).symm
      exact congrArg (Except.ok ∘ Reply.counted) hlength

/-- **A call that hands over what cannot be encoded tells a memory from every table.** -/
theorem outcome_ne_of_not_encodes {call : Call} (htorn : ¬ (memory m).Encodes call) (t : Table) :
    outcome ((memory m).perform call).answer ≠ outcome ((table t).perform call).answer := by
  cases call with
  | create fresh aliasName destination user =>
      show outcome ((m.create fresh aliasName destination user).answer.map .record)
        ≠ outcome ((t.create fresh aliasName destination user).answer.map .record)
      rw [Table.create_of_torn (Bool.eq_false_iff.mpr htorn)]
      by_cases htaken : Alias.normalize aliasName ∈ m.records.map (·.aliasName)
      · rw [Memory.create_of_taken htaken]
        simp [outcome, Except.map, StoreError.kind]
      · rw [Memory.create_of_free htaken]
        simp [outcome, Except.map]
  | update reference destination user =>
      obtain ⟨hfound, hwhole⟩ := Classical.not_imp.mp htorn
      obtain ⟨r, hr⟩ := Option.isSome_iff_exists.mp hfound
      obtain ⟨front, back, hcut⟩ := exists_cut hr
      show outcome ((m.update reference destination user).answer.map .record)
        ≠ outcome ((t.update reference destination user).answer.map .record)
      rw [Memory.update_of_cut hcut]
      -- the memory succeeds, and the table does not, whatever it finds
      cases hanswer : (t.update reference destination user).answer with
      | ok row =>
          have hnot := (t.state_update_of_torn reference (Bool.eq_false_iff.mpr hwhole) user).2 row
          exact absurd hanswer hnot
      | error e => simp [outcome, Except.map]
  | delete reference => exact absurd trivial htorn
  | find reference => exact absurd trivial htorn
  | page page limit => exact absurd trivial htorn
  | count => exact absurd trivial htorn

/-! ## Runs -/

/-- **A table that has the records can encode what the calls of a run hand to it**, one after the
other. -/
def EncodesAll : Store → List Call → Prop
  | _, [] => True
  | s, call :: rest => s.Encodes call ∧ EncodesAll (s.perform call).state rest

instance decidableEncodesAll : (s : Store) → (calls : List Call) → Decidable (s.EncodesAll calls)
  | _, [] => inferInstanceAs (Decidable True)
  | s, call :: rest =>
    have := decidableEncodesAll (s.perform call).state rest
    inferInstanceAs (Decidable (s.Encodes call ∧ EncodesAll (s.perform call).state rest))

/-- **No two records that the run makes are given one public reference.** What is handed to a
creation that fails does not count. -/
def HasDistinctRefs (calls : List Call) : Prop :=
  ((issued (memory .empty) calls).map (·.publicRef)).Nodup

instance (calls : List Call) : Decidable (HasDistinctRefs calls) :=
  inferInstanceAs (Decidable (List.Nodup _))

/-- The public reference that is handed to a call. -/
def Call.ref? : Call → Option String
  | .create fresh _ _ _ => some fresh.publicRef
  | _ => none

/-- The references of the records that a run makes are some of those that were handed to it. -/
theorem refs_issued_sublist {calls : List Call} :
    ∀ {s : Store}, ((issued s calls).map (·.publicRef)).Sublist (calls.filterMap Call.ref?) := by
  induction calls with
  | nil =>
      intro s
      exact List.Sublist.refl _
  | cons call rest ih =>
      intro s
      have hrest := ih (s := (s.perform call).state)
      rw [issued_cons, List.map_append]
      rcases names_perform s call with
        ⟨-, hadded⟩ | ⟨fresh, aliasName, destination, user, r, rfl, -, hadded, href, -⟩
      · rw [hadded]
        cases hcall : call.ref? with
        | none =>
            rw [List.filterMap_cons_none hcall]
            exact hrest
        | some publicRef =>
            rw [List.filterMap_cons_some hcall]
            exact hrest.cons publicRef
      · have hcall : (Call.create fresh aliasName destination user).ref? = some fresh.publicRef :=
          rfl
        rw [hadded, List.filterMap_cons_some hcall]
        show (r.publicRef :: _).Sublist _
        rw [href]
        exact hrest.cons_cons fresh.publicRef

/-- It is enough that no reference is handed to two creations. -/
theorem hasDistinctRefs_of_nodup {calls : List Call} (h : (calls.filterMap Call.ref?).Nodup) :
    HasDistinctRefs calls :=
  h.sublist refs_issued_sublist

/-- Distinct references stay distinct along a run, those of the records that are there and of those
that will be made taken together. -/
theorem nodup_refs_perform {s : Store} {call : Call} {rest : List Call}
    (h : ((s.records ++ issued s (call :: rest)).map (·.publicRef)).Nodup) :
    (((s.perform call).state.records ++ issued (s.perform call).state rest).map
      (·.publicRef)).Nodup := by
  rw [issued_cons, ← List.append_assoc] at h
  rcases names_perform s call with ⟨hsub, hadded⟩ | ⟨-, -, -, -, r, -, happend, hadded, -⟩
  · have hrefs := hsub.map Prod.fst
    rw [List.map_map, List.map_map] at hrefs
    rw [hadded, List.append_nil, List.map_append] at h
    rw [List.map_append]
    exact h.sublist (List.Sublist.append hrefs (List.Sublist.refl _))
  · rw [happend, ← hadded]
    exact h

/-- The reference of a record that will be made is not among those that are there. -/
theorem ref_not_mem_of_free {fresh : Fresh} {aliasName : String} {destination : Loose}
    {user : Option String} {rest : List Call}
    (h : ((m.records ++ issued (memory m) (.create fresh aliasName destination user :: rest)).map
      (·.publicRef)).Nodup)
    (hfree : Alias.normalize aliasName ∉ m.records.map (·.aliasName)) :
    fresh.publicRef ∉ m.records.map (·.publicRef) := by
  have hadded : (memory m).added (.create fresh aliasName destination user)
      = [m.nextRecord fresh aliasName destination user] := by
    show (m.create fresh aliasName destination user).state.records.drop _ = _
    rw [Memory.create_of_free hfree]
    exact List.drop_left
  rw [issued_cons, hadded, List.map_append, List.nodup_append] at h
  obtain ⟨-, -, hdisjoint⟩ := h
  intro hmem
  exact hdisjoint _ hmem _ List.mem_cons_self rfl

/-- **Matching memory and table have the same outcomes along a run just if the table can encode what
it is handed.** -/
theorem Matches.outcomes_eq_iff {calls : List Call} :
    ∀ {m : Memory} {t : Table}, Matches m t →
      (∀ call ∈ calls, ∀ aliasName ∈ call.created?, Alias.IsStable aliasName) →
      (∀ call ∈ calls, call.IsInRange) →
      ((m.records ++ issued (memory m) calls).map (·.publicRef)).Nodup →
      ((memory m).outcomes calls = (table t).outcomes calls ↔ (memory m).EncodesAll calls) := by
  induction calls with
  | nil =>
      intro m t _ _ _ _
      exact ⟨fun _ => trivial, fun _ => rfl⟩
  | cons call rest ih =>
      intro m t h hstable hrange hrefs
      show outcome _ :: outcomes _ rest = outcome _ :: outcomes _ rest
        ↔ (memory m).Encodes call ∧ EncodesAll _ rest
      by_cases hencodes : (memory m).Encodes call
      · have hfresh : ∀ fresh aliasName destination user,
            call = .create fresh aliasName destination user →
              Alias.normalize aliasName ∉ m.records.map (·.aliasName) →
                fresh.publicRef ∉ m.records.map (·.publicRef) := by
          rintro fresh aliasName destination user rfl
          exact ref_not_mem_of_free hrefs
        obtain ⟨houtcome, m', t', hm', ht', hmatch⟩ :=
          h.perform hencodes (hstable call List.mem_cons_self) (hrange call List.mem_cons_self)
            hfresh
        -- the references of the records that are there and of those to come carry the induction
        have hrest := nodup_refs_perform (s := memory m) hrefs
        rw [hm'] at hrest
        have htail := ih hmatch
          (fun later hlater => hstable later (List.mem_cons_of_mem call hlater))
          (fun later hlater => hrange later (List.mem_cons_of_mem call hlater)) hrest
        rw [houtcome, hm', ht', List.cons_inj_right, htail, and_iff_right hencodes]
      · exact ⟨fun heq => absurd (List.cons.inj heq).1 (outcome_ne_of_not_encodes hencodes t),
          fun hboth => absurd hboth.1 hencodes⟩

theorem perform_memory_eq (m : Memory) (call : Call) : ((memory m).perform call).state
    = memory ⟨((memory m).perform call).state.records⟩ := by
  cases call <;> rfl

/-- **All writes succeed**: no call of the run fails because the file could not be written. -/
def AllSaved (s : Store) (calls : List Call) : Prop :=
  ∀ answer ∈ s.replies calls, IsSaved answer

instance (s : Store) (calls : List Call) : Decidable (s.AllSaved calls) :=
  inferInstanceAs (Decidable (∀ answer ∈ s.replies calls, IsSaved answer))

/-- **A file store that writes its file replies what its memory replies.** -/
theorem replies_file {calls : List Call} :
    ∀ {f : FileStore}, (file f).AllSaved calls →
      (file f).replies calls = (memory f.memory).replies calls := by
  induction calls with
  | nil =>
      intro f _
      rfl
  | cons call rest ih =>
      intro f h
      obtain ⟨hfirst, hrest⟩ := List.forall_mem_cons.mp h
      obtain ⟨disk, -, hstate⟩ := exists_perform_file f call
      rw [hstate] at hrest
      rw [replies, replies, answer_perform_file hfirst, hstate, ih hrest, ← perform_memory_eq]

/-- A new memory or file has the outcomes of an empty memory. -/
theorem outcomes_of_isNew {s : Store} (hs : s.IsNew) (hkind : s.isTable = false)
    {calls : List Call} (hsaved : s.AllSaved calls) :
    s.outcomes calls = (memory .empty).outcomes calls := by
  have hnil := hs.records_eq
  cases s with
  | memory m =>
      have hm : m = .empty := congrArg Memory.mk hnil
      rw [hm]
  | file f =>
      have hm : f.memory = .empty := congrArg Memory.mk hnil
      rw [outcomes, replies_file hsaved, hm]
      rfl
  | table t => cases hkind

/-- **Memory and file agree, and the table agrees with them just if it can encode what it is
handed.** Take a new memory or file and another new store, of whatever kind, and a run of calls in
which all writes succeed, paths can reach the aliases of new records, pages stay in range, and no
two records are given one public reference. That each call has the same outcome on both is to say:
the same records in the same order but for their numbers, the same counts, and errors of the same
class with the same message. -/
theorem outcomes_agree_iff {s s' : Store} (hs : s.IsNew) (hs' : s'.IsNew)
    (hkind : s.isTable = false) {calls : List Call} (hsaved : s.AllSaved calls)
    (hsaved' : s'.AllSaved calls)
    (hroutable : ∀ call ∈ calls, ∀ aliasName ∈ call.created?, Alias.isRoutable aliasName = true)
    (hrange : ∀ call ∈ calls, call.IsInRange) (hrefs : HasDistinctRefs calls) :
    s.outcomes calls = s'.outcomes calls
      ↔ (s'.isTable = true → (memory .empty).EncodesAll calls) := by
  have hstable : ∀ call ∈ calls, ∀ aliasName ∈ call.created?, Alias.IsStable aliasName := by
    intro call hcall aliasName hmem
    exact Alias.isStable_of_isRoutable (hroutable call hcall aliasName hmem)
  rw [outcomes_of_isNew hs hkind hsaved]
  cases hkind' : s'.isTable with
  | false =>
      rw [outcomes_of_isNew hs' hkind' hsaved']
      exact ⟨fun _ h => absurd h (by decide), fun _ => rfl⟩
  | true =>
      cases s' with
      | memory m | file f => cases hkind'
      | table t =>
          have hmatch : Matches .empty t := matches_of_nil rfl hs'.records_eq
          rw [hmatch.outcomes_eq_iff hstable hrange hrefs]
          exact ⟨fun h _ => h, fun h => h rfl⟩

/-- What ends in the first half of a character. -/
def tornDestination : Loose :=
  .ofPieces ("https://a.io/".toList.map .char ++ [.half ⟨0, by decide⟩])

/-- A run with calls of all kinds, some of which fail. One of these has a destination that is no
text, for a record that is not there. -/
def mixedRun : List Call :=
  [.create (.atNewYear "Ref0000001") "/Wiki" "https://a.io" (some "ann"),
    .create (.atNewYear "Ref0000002") "WIKI" "https://b.io" none,
    .create (.atNewYear "Ref0000003") "docs" "https://c.io" none,
    .delete "wiki",
    .create (.atNewYear "Ref0000004") "wiki" "https://d.io" none,
    .update "Ref0000004" "https://e.io" (some "bob"),
    .update "nothing" tornDestination none,
    .find "DOCS",
    .page 0 10,
    .count]

/-- Memory, a file and a table have the same outcomes along the mixed run. -/
theorem outcomes_agree_iff_mixedRun :
    (memory .empty).outcomes mixedRun = (table .empty).outcomes mixedRun
      ∧ ∀ f, (Location.file "db").start (Fresh.atNewYear "").now .vacant = .ok (file f) →
        (file f).outcomes mixedRun = (table .empty).outcomes mixedRun := by
  have hroutable : ∀ call ∈ mixedRun, ∀ aliasName ∈ call.created?,
      Alias.isRoutable aliasName = true :=
    isRoutable_of_all (by decide +kernel)
  have hencodes : (memory .empty).EncodesAll mixedRun := by decide +kernel
  have hrange : ∀ call ∈ mixedRun, call.IsInRange := by
    simp [mixedRun, Call.IsInRange, Table.countBound]
  have hrefs : HasDistinctRefs mixedRun := hasDistinctRefs_of_nodup (by decide)
  have hsaved : (memory .empty).AllSaved mixedRun := by decide +kernel
  have hsaved' : (table .empty).AllSaved mixedRun := by decide +kernel
  refine ⟨(outcomes_agree_iff isNew_memory_empty isNew_table_empty rfl hsaved hsaved' hroutable
    hrange hrefs).mpr fun _ => hencodes, ?_⟩
  intro f hf
  have hsavedFile : (file f).AllSaved mixedRun := by
    rw [← Except.ok.inj hf]
    decide +kernel
  exact (outcomes_agree_iff (isNew_of_start hf) isNew_table_empty rfl hsavedFile hsaved' hroutable
    hrange hrefs).mpr fun _ => hencodes

/-- A record is made, and gets a destination that is no text. -/
def tornRun : List Call :=
  [.create (.atNewYear "Ref0000001") "wiki" "https://a.io" none,
    .update "wiki" tornDestination none]

/-- **What is no text tells memory and table apart**: a run to which all else applies ends well on a
memory, and on a table with an error. -/
theorem outcomes_differ_torn :
    (memory .empty).AllSaved tornRun ∧ (table .empty).AllSaved tornRun
      ∧ (∀ call ∈ tornRun, ∀ aliasName ∈ call.created?, Alias.isRoutable aliasName = true)
      ∧ (∀ call ∈ tornRun, call.IsInRange) ∧ HasDistinctRefs tornRun
      ∧ (memory .empty).outcomes tornRun ≠ (table .empty).outcomes tornRun := by
  refine ⟨by decide +kernel, by decide +kernel, isRoutable_of_all (by decide +kernel), ?_, ?_, ?_⟩
  · simp [tornRun, Call.IsInRange]
  · exact hasDistinctRefs_of_nodup (by decide)
  · intro h
    have hmemory : ((memory .empty).outcomes tornRun).map Except.isOk = [true, true] := by
      decide +kernel
    have htable : ((table .empty).outcomes tornRun).map Except.isOk = [true, false] := by
      decide +kernel
    rw [h, htable] at hmemory
    exact absurd hmemory (by decide)

end Store

end Shortlink
