import Shortlink.Proofs.Store.Durability
import Shortlink.Proofs.Web.Success

/-!
# Managing what was just made

A record is read, changed and removed at the path of a reference, which is one part of that path and
holds no slash. But an alias may hold slashes. So what a creation has made is managed under its
alias just when the alias holds none: `App.created_is_managed_iff`. Where it holds one, the path is
not in use (`App.reply_of_slash`), and only the public reference of the record is left.

## Contents

- **Files.** `Store.CanSave`; `Store.answer_update_of_cut`, `Store.answer_delete_of_cut`.
- **Routes.** `managedPath`, `candidates_managedPath`; `choose_managedPath`, `choose_get_of_slash`,
  `choose_of_slash`.
- **One record for an alias.** `HasOne`, `HasOne.eq`, `App.hasOne_serve`.
- **Managing.** `App.Manages`, `App.manages_of_find?`, `App.reply_of_slash`, `App.manages_iff`;
  `App.created_is_managed_iff`.
-/

namespace Shortlink

/-! ## Files -/

namespace Store

/-- The file of the store, if it has one, can be written. -/
def CanSave (s : Store) : Prop :=
  ∀ f, s = file f → f.saveFault? = none

/-- A file that can be written is written after a step that numbers no record anew. -/
theorem answer_commit_of_ids {f : FileStore} (h : f.saveFault? = none) {α : Type}
    {step : Step Memory α}
    (hids : ∀ r ∈ step.state.records, ∃ old ∈ f.memory.records, old.id = r.id) :
    (f.commit step).answer = step.answer := by
  obtain ⟨hdisk, hshort⟩ := FileStore.saveFault?_eq_none_iff.mp h
  have hshort' : FileStore.hasLongNumber step.state.records = false := by
    refine FileStore.hasLongNumber_eq_false_iff.mpr fun r hr => ?_
    obtain ⟨old, hold, hid⟩ := hids r hr
    rw [← hid]
    exact FileStore.hasLongNumber_eq_false_iff.mp hshort old hold
  rw [FileStore.commit_of_saved (FileStore.saveFault?_eq_none_iff.mpr ⟨hdisk, hshort'⟩)]

variable {s : Store} {reference : String} {front back : List Redirect} {r : Redirect}

/-- Where files can be written, an update of the record at a cut succeeds. -/
theorem answer_update_of_cut (hkeys : s.HasKeys) (hsave : s.CanSave)
    (h : IsCut s.records reference front r back) {destination : Text.Loose}
    (hhold : s.CanHold destination) (user : Option String) :
    (s.update reference destination user).answer = .ok (r.withDestination destination user) := by
  cases s with
  | memory m => rw [update, Memory.update_of_cut h]; rfl
  | file f =>
      have hmemory := Memory.update_of_cut (m := f.memory) h destination user
      have hrecords : f.memory.records = front ++ r :: back := h.eq
      show (f.commit _).answer = _
      rw [answer_commit_of_ids (hsave f rfl), hmemory]
      rw [hmemory, hrecords]
      intro a ha
      rcases List.mem_append.mp ha with hfront | hback
      · exact ⟨a, List.mem_append_left _ hfront, rfl⟩
      · rcases List.mem_cons.mp hback with rfl | hrest
        · exact ⟨r, List.mem_append_right _ List.mem_cons_self, rfl⟩
        · exact ⟨a, List.mem_append_right _ (List.mem_cons_of_mem _ hrest), rfl⟩
  | table t => rw [update, Table.update_of_cut (hkeys rfl).1 h (hhold rfl)]; rfl

/-- Where files can be written, a removal of the record at a cut succeeds. -/
theorem answer_delete_of_cut (hkeys : s.HasKeys) (hsave : s.CanSave)
    (h : IsCut s.records reference front r back) : (s.delete reference).answer = .ok 1 := by
  cases s with
  | memory m => rw [delete, Memory.delete_of_cut h]; rfl
  | file f =>
      have hmemory := Memory.delete_of_cut (m := f.memory) h
      have hrecords : f.memory.records = front ++ r :: back := h.eq
      show (f.commit _).answer = _
      rw [answer_commit_of_ids (hsave f rfl), hmemory]
      rw [hmemory, hrecords]
      intro a ha
      exact ⟨a, (List.sublist_cons_self r back).append_left front |>.subset ha, rfl⟩
  | table t => rw [delete, Table.delete_of_cut (hkeys rfl).1 h]; rfl

end Store

namespace Web

open Text Request

/-! ## Routes -/

/-- The path under which the record of a reference is managed. -/
def managedPath (reference : List Char) : List Char :=
  "/_gadget/api/redirect/".toList ++ reference

theorem oneLine?_of_not_mem {s : List Char} (h : '\n' ∉ s) : oneLine? s = some s := by
  have hlast : s.getLast? ≠ some '\n' := fun hlast => h (List.mem_of_getLast? hlast)
  simp [oneLine?, hlast, h]

/-- **The routes that claim the path of a reference**: that of the record, if the reference is one
part of a path, and after it what is left of the reserved paths, and the look-ups. -/
theorem candidates_managedPath (hasUi : Bool) {reference : List Char} (hne : reference ≠ [])
    (hline : '\n' ∉ reference) : candidates hasUi (managedPath reference)
      = (if '/' ∈ reference then [] else [.record reference])
        ++ [.reserved ("api/redirect/".toList ++ reference), .gateway] := by
  have hform : ∀ form : String,
      ¬ "/_gadget/api/redirect/".toList <+: form.toList ++ ['\n'] →
      isPath form (managedPath reference) = false := fun form h => isPath_of_start h reference
  have hrecord : after? "/_gadget/api/redirect/" (managedPath reference) = some reference :=
    after?_eq_some_iff.mpr rfl
  have hui : after? "/_gadget/ui/" (managedPath reference) = none :=
    after?_of_apart (by decide) (by decide) reference
  have hreserved : after? "/_gadget/" (managedPath reference)
      = some ("api/redirect/".toList ++ reference) := after?_eq_some_iff.mpr rfl
  have hgateway : after? "/" (managedPath reference)
      = some ("_gadget/api/redirect/".toList ++ reference) := after?_eq_some_iff.mpr rfl
  have hrest : ∀ start : String, '\n' ∉ start.toList → oneLine? (start.toList ++ reference)
      = some (start.toList ++ reference) := by
    intro start hstart
    refine oneLine?_of_not_mem fun hmem => ?_
    exact (List.mem_append.mp hmem).elim hstart hline
  have hpart : onePart? reference = if '/' ∈ reference then none else some reference := by
    rw [onePart?, List.isEmpty_eq_false_iff.mpr hne, Bool.false_or]
    simp only [List.contains_iff_mem]
  unfold candidates
  simp only [hform "/_gadget/openapi.json" (by decide), hform "/_gadget/docs" (by decide),
    hform "/docs/oauth2-redirect" (by decide), hform "/health" (by decide),
    hform "/status" (by decide), hform "/_gadget/api/redirect" (by decide),
    hform "/_gadget/api/search" (by decide), hform "/favicon.ico" (by decide), hrecord, hui,
    hreserved, hgateway, Option.bind_some, Option.bind_none, hpart,
    hrest "api/redirect/" (by decide), hrest "_gadget/api/redirect/" (by decide),
    Bool.false_eq_true, if_false, Option.map_none, Option.toList_none, ite_self]
  by_cases hslash : '/' ∈ reference
  · rw [if_pos hslash, if_pos hslash]
    rfl
  · rw [if_neg hslash, if_neg hslash]
    rfl

section

variable {reference : List Char}

/-- A reference that is one part of a path is managed by its own route. -/
theorem choose_managedPath (hasUi : Bool) (hne : reference ≠ []) (hline : '\n' ∉ reference)
    (hslash : '/' ∉ reference) {method : String} (hmethod : method ∈ ["GET", "PUT", "DELETE"]) :
    choose hasUi method (managedPath reference) = .answer (.record reference) := by
  have hoffers : (Route.record reference).offers method = true :=
    List.elem_eq_true_of_mem hmethod
  rw [choose, candidates_managedPath hasUi hne hline, if_neg hslash]
  simp only [List.cons_append, List.find?_cons, hoffers]

/-- With a slash in it, the reference is read as something that is not in use. -/
theorem choose_get_of_slash (hasUi : Bool) (hne : reference ≠ []) (hline : '\n' ∉ reference)
    (hslash : '/' ∈ reference) : choose hasUi "GET" (managedPath reference)
      = .answer (.reserved ("api/redirect/".toList ++ reference)) := by
  have hclaimed : candidates hasUi (managedPath reference)
      = .reserved ("api/redirect/".toList ++ reference) :: [.gateway] := by
    rw [candidates_managedPath hasUi hne hline, if_pos hslash]
    rfl
  exact choose_get_of_cons hclaimed

/-- And nothing can be changed there. -/
theorem choose_of_slash (hasUi : Bool) (hne : reference ≠ []) (hline : '\n' ∉ reference)
    (hslash : '/' ∈ reference) {method : String} (hmethod : method ≠ "GET") :
    choose hasUi method (managedPath reference) = .wrongMethod := by
  have hreserved : ∀ endpoint, (Route.reserved endpoint).offers method = false := by
    simp [Route.offers, Route.methods?, hmethod]
  have hgateway : Route.gateway.offers method = false := by
    simp [Route.offers, Route.methods?, hmethod]
  rw [choose, candidates_managedPath hasUi hne hline, if_pos hslash, List.nil_append]
  simp only [List.find?_cons, hreserved, hgateway, List.find?_nil]

end

/-! ## One record for an alias -/

/-- **At most one record has the alias**, and if one has, it was written by a client. -/
structure HasOne (aliasName : String) (records : List Redirect) : Prop where
  count_le : (records.map (·.aliasName)).count aliasName ≤ 1
  writer : ∀ r ∈ records, r.aliasName = aliasName → r.HasWriter

/-- No record has an alias that is free. -/
theorem hasOne_of_not_mem {aliasName : String} {records : List Redirect}
    (h : aliasName ∉ records.map (·.aliasName)) : HasOne aliasName records where
  count_le := by
    rw [List.count_eq_zero_of_not_mem h]
    exact Nat.zero_le 1
  writer := fun _ hr hname => absurd (List.mem_map.mpr ⟨_, hr, hname⟩) h

/-- Two records with the alias are one. -/
theorem HasOne.eq {aliasName : String} {records : List Redirect} (h : HasOne aliasName records)
    {a b : Redirect} (ha : a ∈ records) (hb : b ∈ records) (haname : a.aliasName = aliasName)
    (hbname : b.aliasName = aliasName) : a = b := by
  by_contra hne
  obtain ⟨front, back, rfl⟩ := List.append_of_mem ha
  -- apart from one of them, the other one is among the rest
  have hrest : aliasName ∈ (front ++ back).map (·.aliasName) := by
    refine List.mem_map.mpr ⟨b, ?_, hbname⟩
    rcases List.mem_append.mp hb with hfront | hback
    · exact List.mem_append_left _ hfront
    · exact List.mem_append_right _ ((List.mem_cons.mp hback).resolve_left (Ne.symm hne))
  have hcount := h.count_le
  rw [List.map_append, List.map_cons, List.count_append, List.count_cons, haname, beq_self_eq_true,
    if_pos rfl] at hcount
  have hpositive := List.count_pos_iff.mpr hrest
  rw [List.map_append, List.count_append] at hpositive
  omega

/-- A request leaves at most one record to an alias. -/
theorem App.hasOne_handle {app : App} {aliasName : String}
    (h : HasOne aliasName app.catalog.store.records) (fresh : Fresh) (r : Request) :
    HasOne aliasName (app.handle fresh r).catalog.store.records := by
  obtain ⟨a, hasks, hstore⟩ := app.exists_store_handle fresh r
  rw [hstore]
  cases hasks with
  | nothing => exact h
  | resolve path => exact h
  | @create asked hasked =>
      show HasOne aliasName (app.catalog.store.create fresh asked.aliasName asked.written
        (some r.user)).state.records
      rcases Store.records_create app.catalog.store fresh asked.aliasName asked.written
          (some r.user) with heq | ⟨new, heq, -, hname, hfree⟩
      · rw [heq]
        exact h
      · obtain ⟨-, -, hwriter⟩ := Store.fields_of_create heq
        rw [Catalog.storedAlias_of_isStable
          (Or.inr (Alias.isStable_of_isRoutable (of_checkedNew hasked).1))] at hname
        rw [← hname] at hfree
        rw [heq]
        constructor
        · -- the alias of the new record was free
          rw [List.map_append, List.map_singleton, List.count_append, List.count_singleton]
          have hcount := h.count_le
          split
          · next hsame =>
              rw [beq_iff_eq] at hsame
              have hnone := List.count_eq_zero_of_not_mem hfree
              rw [hsame] at hnone
              omega
          · exact hcount
        · intro other hother hotherName
          rcases List.mem_append.mp hother with hold | hlast
          · exact h.writer other hold hotherName
          · rw [List.mem_singleton.mp hlast]
            exact Redirect.hasWriter_of_eq hwriter
  | @update reference asked hroute hmethod hasked =>
      show HasOne aliasName (app.catalog.store.update (String.ofList reference) asked.written
        (some r.user)).state.records
      constructor
      · rw [Store.map_update fun _ _ _ => rfl]
        exact h.count_le
      · intro other hother hname
        rcases Store.mem_update hother with hold | ⟨old, hold, rfl⟩
        · exact h.writer other hold hname
        · exact Redirect.hasWriter_of_eq (show _ = Redirect.writer (some r.user) from rfl)
  | @delete reference hroute hmethod =>
      have hsub := Store.sublist_delete app.catalog.store (String.ofList reference)
      exact ⟨Nat.le_trans ((hsub.map _).count_le _) h.count_le,
        fun other hother => h.writer other (hsub.subset hother)⟩

/-- **Requests leave at most one record to an alias.** -/
theorem App.hasOne_serve {app : App} {aliasName : String}
    (h : HasOne aliasName app.catalog.store.records) (requests : List (Fresh × Request)) :
    HasOne aliasName (app.serve requests).catalog.store.records :=
  App.serve_induction (motive := fun app => HasOne aliasName app.catalog.store.records)
    (fun _ fresh r _ h => App.hasOne_handle h fresh r) h

/-! ## Managing -/

/-- **The record is managed at the target**: reading there shows it, a change that passes the checks
and that the store can hold is made to it and to no other record, and removing there takes it out
and no other. -/
structure App.Manages (app : App) (target : String) (m : Redirect) : Prop where
  reads : ∀ headers body keepsRawPath fresh,
    (app.handle fresh (.ofTarget "GET" target headers body keepsRawPath)).reply
      = .response (.ofJson 200 m.item)
  changes : ∀ headers body keepsRawPath fresh asked,
    let put := ofTarget "PUT" target headers body keepsRawPath
    checkedChange put = .ok asked → app.catalog.store.CanHold asked.written →
      (app.handle fresh put).reply = .response (.message 200 "ok")
      ∧ ∃ front back, app.catalog.store.records = front ++ m :: back
        ∧ (app.handle fresh put).catalog.store.records
          = front ++ { m with written := asked.written, createdBy := .str put.user } :: back
  removes : ∀ headers body keepsRawPath fresh,
    let delete := ofTarget "DELETE" target headers body keepsRawPath
    (app.handle fresh delete).reply = .response (.message 200 "ok")
      ∧ ∃ front back, app.catalog.store.records = front ++ m :: back
        ∧ (app.handle fresh delete).catalog.store.records = front ++ back

section

variable {app : App} {target : String} {reference : List Char} {m : Redirect}

/-- **A request to the path of a reference** is answered for the reference, where that is one part
of a path. -/
theorem App.handle_managedPath (hwrites : Writes target (managedPath reference))
    (hne : reference ≠ []) (hline : '\n' ∉ reference) (hslash : '/' ∉ reference) {method : String}
    (hmethod : method ∈ ["GET", "PUT", "DELETE"]) (headers : List (String × String))
    (body : List UInt8) (keepsRawPath : Bool) (fresh : Fresh) :
    let r := ofTarget method target headers body keepsRawPath
    app.handle fresh r = app.answer fresh r (.record reference) := by
  intro r
  have hchoice : choose app.site.isSome r.method r.path = .answer (.record reference) := by
    rw [show r.path = managedPath reference from path_of_writes hwrites keepsRawPath]
    exact choose_managedPath _ hne hline hslash hmethod
  exact App.handle_of_answer hchoice fresh

/-- **A record that a reference finds is managed at the path of the reference**, where that is one
part of a path, the record can be shown, and the file can be written. -/
theorem App.manages_of_find? (hkeys : app.catalog.store.HasKeys)
    (hsave : app.catalog.store.CanSave) (hwrites : Writes target (managedPath reference))
    (hne : reference ≠ []) (hline : '\n' ∉ reference) (hslash : '/' ∉ reference)
    (hm : app.catalog.store.find? (String.ofList reference) = some m)
    (hshow : m.IsShowable) : app.Manages target m := by
  have hhandle : ∀ method ∈ ["GET", "PUT", "DELETE"], ∀ headers body keepsRawPath fresh,
      let r := ofTarget method target headers body keepsRawPath
      app.handle fresh r = app.answer fresh r (.record reference) :=
    fun method hmethod => App.handle_managedPath hwrites hne hline hslash hmethod
  obtain ⟨front, back, hcut⟩ := exists_cut ((Store.find?_eq_find? _ _).symm.trans hm)
  constructor
  · intro headers body keepsRawPath fresh
    rw [hhandle "GET" (by decide)]
    exact (reply_get_iff hm).mpr ⟨hshow, rfl⟩
  · intro headers body keepsRawPath fresh asked put hasked hhold
    have hput : app.handle fresh put = update app.catalog put (String.ofList reference) :=
      hhandle "PUT" (by decide) headers body keepsRawPath fresh
    rw [hput, catalog_update hasked, Catalog.store_update]
    constructor
    · have hanswer := Store.answer_update_of_cut hkeys hsave hcut hhold (some put.user)
      rw [← Catalog.answer_update] at hanswer
      rw [update, hasked]
      dsimp only
      rw [hanswer]
    · exact ⟨front, back, hcut.eq, (Store.update_of_cut hkeys hcut hhold _).1⟩
  · intro headers body keepsRawPath fresh delete
    have hdelete : app.handle fresh delete
        = Web.delete app.catalog delete (String.ofList reference) :=
      hhandle "DELETE" (by decide) headers body keepsRawPath fresh
    rw [hdelete, catalog_delete, Catalog.store_delete]
    constructor
    · have hanswer := Store.answer_delete_of_cut hkeys hsave hcut
      rw [← Catalog.answer_delete] at hanswer
      rw [Web.delete, hanswer]
      rfl
    · exact ⟨front, back, hcut.eq, (Store.delete_of_cut hkeys hcut).1⟩

/-- **With a slash in it, the path of a reference is not in use**: nothing is read or changed
there. -/
theorem App.reply_of_slash (hwrites : Writes target (managedPath reference)) (hne : reference ≠ [])
    (hline : '\n' ∉ reference) (hslash : '/' ∈ reference) (method : String)
    (headers : List (String × String)) (body : List UInt8) (keepsRawPath : Bool) (fresh : Fresh) :
    (app.handle fresh (.ofTarget method target headers body keepsRawPath)).reply = .response
      (if method = "GET" then
        .message 404 ("Endpoint _gadget/" ++ String.ofList ("api/redirect/".toList ++ reference)
          ++ " not found")
      else .methodNotAllowed) := by
  have hpath : (ofTarget method target headers body keepsRawPath).path = managedPath reference :=
    path_of_writes hwrites keepsRawPath
  have hmethod : (ofTarget method target headers body keepsRawPath).method = method := rfl
  rw [App.handle, hpath, hmethod]
  by_cases hget : method = "GET"
  · rw [if_pos hget, hget, choose_get_of_slash _ hne hline hslash]
    rfl
  · rw [if_neg hget, choose_of_slash _ hne hline hslash hget]
    rfl

/-- **A record that a reference finds, written by a client, is managed at the path of the
reference** just if that is one part of a path and the destination of the record is a text. -/
theorem App.manages_iff (hkeys : app.catalog.store.HasKeys) (hsave : app.catalog.store.CanSave)
    (hwrites : Writes target (managedPath reference)) (hne : reference ≠ [])
    (hline : '\n' ∉ reference) (hm : app.catalog.store.find? (String.ofList reference) = some m)
    (hwriter : m.HasWriter) :
    app.Manages target m ↔ '/' ∉ reference ∧ m.written.isWhole = true := by
  constructor
  · intro hmanages
    have hreply := hmanages.reads [] [] true (.atNewYear "")
    have hslash : '/' ∉ reference := by
      intro hslash
      rw [App.reply_of_slash hwrites hne hline hslash, if_pos rfl] at hreply
      exact absurd (congrArg Response.status (Reply.response.inj hreply))
        (show (404 : Nat) ≠ 200 by decide)
    refine ⟨hslash, ?_⟩
    rw [App.handle_managedPath hwrites hne hline hslash (by decide)] at hreply
    exact ((reply_get_iff hm).mp hreply).1.whole
  · rintro ⟨hslash, hwhole⟩
    exact App.manages_of_find? hkeys hsave hwrites hne hline hslash hm ⟨hwhole, hwriter⟩

end

/-- **A record whose creation is answered 201 is managed under its alias**, from then on and as long
as it is stored, just if the alias holds no slash and the destination that the record has by then is
a text. No record may have the alias as its reference, and the file of the store must be one that
can be written. -/
theorem App.created_is_managed_iff {s : Store} (hkeys : s.HasKeys) (site : Option Site)
    (spelling : Spelling) (before : List (Fresh × Request)) (fresh : Fresh) {post : Request}
    (hmethod : post.method = "POST") (hpath : post.path = "/_gadget/api/redirect".toList)
    (hstatus : (((App.mk (.ofStore s) site spelling).serve before).handle fresh post).reply.status?
      = some 201) :
    let app := (App.mk (.ofStore s) site spelling).serve before
    let made := app.after (app.handle fresh post)
    ∃ asked m, newRedirect post = .ok asked
      ∧ made.catalog.store.records = app.catalog.store.records ++ [m]
      ∧ m.aliasName = Alias.normalize asked.aliasName ∧ m.destination = asked.destination
      ∧ ∀ later, let now := made.serve later
        now.catalog.store.CanSave →
        (∀ other ∈ now.catalog.store.records, other.publicRef ≠ m.aliasName) →
        ∀ m' ∈ now.catalog.store.records, m'.aliasName = m.aliasName →
        ∀ target, Writes target (managedPath m.aliasName.toList) →
          (now.Manages target m' ↔ '/' ∉ m.aliasName.toList ∧ m'.written.isWhole = true) := by
  intro app made
  obtain ⟨asked, m, hasked, hrecords, hname, hdestination, halias, hnew⟩ :=
    App.exists_of_created hmethod hpath hstatus
  refine ⟨asked, m, hasked, hrecords, hname, hdestination, ?_⟩
  intro later now hsave hfree m' hm' hname' target hwrites
  have hkeysApp : app.catalog.store.HasKeys := App.hasKeys_serve hkeys before
  have hkeysMade : made.catalog.store.HasKeys := App.hasKeys_handle hkeysApp fresh post
  have honeMade : HasOne m.aliasName made.catalog.store.records :=
    App.hasOne_handle (hasOne_of_not_mem hnew) fresh post
  have hkeysNow : now.catalog.store.HasKeys := App.hasKeys_serve hkeysMade later
  have hone : HasOne m.aliasName now.catalog.store.records := App.hasOne_serve honeMade later
  have hline : '\n' ∉ m.aliasName.toList := fun hmem =>
    absurd (halias.noBlank _ hmem) (by decide)
  -- no other record has the alias, and none has it as its reference
  have hfound : now.catalog.store.find? m.aliasName = some m' := by
    refine Store.find?_of_unique hm' (Redirect.refersTo_iff.mpr (Or.inr ?_)) ?_
    · rw [halias.normalize_eq, hname']
    · intro other hother href
      rcases Redirect.refersTo_iff.mp href with href | hother'
      · exact absurd href (hfree other hother)
      · rw [halias.normalize_eq] at hother'
        exact hone.eq hother hm' hother' hname'
  have hlookup : now.catalog.store.find? (String.ofList m.aliasName.toList) = some m' := by
    rw [String.ofList_toList]
    exact hfound
  exact App.manages_iff hkeysNow hsave hwrites halias.ne_nil hline hlookup
    (hone.writer m' hm' hname')

/-- A record gets another destination. -/
def movingRequests : List (Fresh × Request) :=
  [(.atNewYear "Ref0000002", .sending "PUT" "/_gadget/api/redirect/Ref0000001"
    "\x7b\"destination\": \"https://b.io\"\x7d")]

/-- A record that was made, and has got another destination since, is managed under its alias. -/
theorem App.created_is_managed_iff_umlaut :
    ∃ m, ((App.making "/MÜLL" "https://a.io").serve movingRequests).catalog.store.records = [m]
      ∧ m.aliasName = "müll" ∧ m.destination = "https://b.io"
      ∧ ((App.making "/MÜLL" "https://a.io").serve movingRequests).Manages
        "/_gadget/api/redirect/m%C3%BCll" m := by
  have hpath : (Request.making "/MÜLL" "https://a.io").path = "/_gadget/api/redirect".toList := by
    decide +kernel
  have hstatus : ((App.mk (.ofStore (.memory .empty)) none spellChar).handle
      (.atNewYear "Ref0000001") (.making "/MÜLL" "https://a.io")).reply.status? = some 201 := by
    decide +kernel
  obtain ⟨asked, m, -, hrecords, -, -, hmanaged⟩ :=
    App.created_is_managed_iff (s := .memory .empty) (Store.hasKeys_of_not_isTable rfl) none
      spellChar [] (.atNewYear "Ref0000001") rfl hpath hstatus
  have hbare : (App.mk (.ofStore (.memory .empty)) none spellChar).serve [] = App.bare := rfl
  have hmade : App.bare.after (App.bare.handle (.atNewYear "Ref0000001")
      (.making "/MÜLL" "https://a.io")) = App.making "/MÜLL" "https://a.io" :=
    rfl
  simp only [hbare, hmade] at hrecords hmanaged
  have hfields : (App.making "/MÜLL" "https://a.io").catalog.store.records.map (·.aliasName)
      = ["müll"] := by
    decide +kernel
  rw [hrecords, show App.bare.catalog.store.records = [] from rfl, List.nil_append,
    List.map_singleton, List.singleton_inj] at hfields
  have hmoved : ((App.making "/MÜLL" "https://a.io").serve movingRequests).catalog.store.records.map
      (fun m => (m.publicRef, m.aliasName, m.destination, m.written.isWhole))
        = [("Ref0000001", "müll", "https://b.io", true)] := by
    decide +kernel
  obtain ⟨m', hrecords', hm'⟩ := List.map_eq_singleton_iff.mp hmoved
  obtain ⟨href, hname⟩ := Prod.mk.inj hm'
  obtain ⟨halias, hdestination⟩ := Prod.mk.inj hname
  obtain ⟨hdestination, hwhole⟩ := Prod.mk.inj hdestination
  have hmemory : ((App.making "/MÜLL" "https://a.io").serve movingRequests).catalog.store.isFile
      = false := by
    decide +kernel
  have hwrites : Writes "/_gadget/api/redirect/m%C3%BCll" (managedPath "müll".toList) := by
    have htarget : targetPath "/_gadget/api/redirect/m%C3%BCll"
        = Percent.encode isTargetChar (managedPath "müll".toList) := by
      decide +kernel
    rw [Writes, htarget]
    exact Percent.isWritten_encode fun _ _ h => h
  refine ⟨m', hrecords', halias, hdestination, ?_⟩
  refine (hmanaged movingRequests ?_ ?_ m' ?_ ?_ _ ?_).mpr ?_
  · intro f hf
    rw [hf] at hmemory
    exact absurd hmemory (by simp [Store.isFile])
  · intro other hother
    rw [hrecords'] at hother
    rw [List.mem_singleton.mp hother, href, hfields]
    decide
  · rw [hrecords']
    exact List.mem_singleton_self m'
  · rw [halias, hfields]
  · rw [hfields]
    exact hwrites
  · rw [hfields]
    exact ⟨by decide, hwhole⟩

/-- An alias that is made with a slash names nothing that can be managed. -/
theorem App.slash_hides_record :
    let app := App.making "team/plan" "https://a.io"
    let sending := fun method => Request.sending method "/_gadget/api/redirect/team%2Fplan"
      "\x7b\"destination\": \"https://b.io\"\x7d"
    let status := fun method => (app.handle (.atNewYear "") (sending method)).reply.status?
    (App.bare.handle (.atNewYear "Ref0000001") (.making "team/plan" "https://a.io")).reply.status?
        = some 201
      ∧ app.catalog.store.records.map (fun m => (m.publicRef, m.aliasName))
        = [("Ref0000001", "team/plan")]
      ∧ status "GET" = some 404 ∧ status "PUT" = some 405 ∧ status "DELETE" = some 405 := by
  decide +kernel

end Web

end Shortlink
