import Shortlink.Proofs.Store.Failure
import Shortlink.Proofs.Web.Creation
import Shortlink.Proofs.Web.Showing

/-!
# What a success changes

A request that succeeds in making, changing or removing changes one record, and just as the request
says. Any other request leaves a memory or a table as it was, but for one kind: a creation in memory
whose destination is no text makes its record, and is not answered then, since the record cannot be
shown. Both is said by `App.one_record_changed`.

Each of the three changes has one handler (`App.handle_cases`), and the response of a handler tells
of success just when the store has done what it was asked to do, and can show it
(`isSuccess_create_iff`, `isSuccess_update_iff`, `isSuccess_delete_iff`). A memory or a table that
has not done it has done nothing.

## Contents

- **Stores.** `Store.isFile`; `Store.state_of_failed`, `Store.canHold_of_create_ok`,
  `Store.canHold_of_update_ok`, `Store.find?_of_update_ok`, `Store.find?_of_delete_ok`.
- **Handlers.** `Reply.IsSuccess`; `reply_get_iff`, `isSuccess_create_iff`, `isSuccess_update_iff`,
  `isSuccess_delete_iff`.
- **Routes.** `path_of_record`, `App.handle_cases`.
- **Records.** `Request.said?`, `Request.Says`, `ChangesOne`, `App.MakesTorn`;
  `App.one_record_changed`, `App.torn_record_is_kept`.
-/

namespace Shortlink

/-! ## Stores -/

namespace Store

/-- The store is a file. -/
def isFile : Store → Bool
  | file _ => true
  | _ => false

theorem isFile_perform (s : Store) (call : Call) : (s.perform call).state.isFile = s.isFile := by
  cases s <;> cases call <;> rfl

/-- A call that does not succeed leaves a memory or a table as it was. -/
theorem state_of_failed {s : Store} (hkind : s.isFile = false) (call : Call)
    (h : ∀ reply, (s.perform call).answer ≠ .ok reply) : (s.perform call).state = s := by
  cases hanswer : (s.perform call).answer with
  | ok reply => exact absurd hanswer (h reply)
  | error e =>
      cases s with
      | memory m => exact perform_memory_of_error hanswer
      | file f => exact absurd hkind (by simp [isFile])
      | table t => exact perform_table_of_error hanswer

/-- A step that does not succeed does not succeed in another form either. -/
theorem map_ne_ok {σ α β : Type} {step : Step σ α} (h : ¬ ∃ a, step.answer = .ok a) (f : α → β) :
    ∀ b, (step.map f).answer ≠ .ok b := by
  intro b hb
  cases hanswer : step.answer with
  | ok a => exact h ⟨a, hanswer⟩
  | error e => exact absurd hb (by simp [Step.map, hanswer, Except.map])

/-- A creation that succeeds writes what the store can hold, under an alias that was free. -/
theorem canHold_of_create_ok {s : Store} {fresh : Fresh} {aliasName : String}
    {destination : Text.Loose} {user : Option String} {r : Redirect}
    (h : (s.create fresh aliasName destination user).answer = .ok r) :
    s.CanHold destination ∧ Alias.normalize aliasName ∉ s.records.map (·.aliasName) := by
  constructor
  · cases s with
    | memory m => exact fun htable => absurd htable (by simp [isTable])
    | file f => exact fun htable => absurd htable (by simp [isTable])
    | table t => exact fun _ => Table.isWhole_of_create_ok (t := t) h
  · rcases records_create s fresh aliasName destination user with heq | ⟨-, -, -, -, hfree⟩
    · have hrecords := records_of_create_ok h
      rw [heq] at hrecords
      exact absurd hrecords (by simp)
    · exact hfree

/-- An update that succeeds writes what the store can hold. -/
theorem canHold_of_update_ok {s : Store} {reference : String} {destination : Text.Loose}
    {user : Option String} {r : Redirect}
    (h : (s.update reference destination user).answer = .ok r) : s.CanHold destination := by
  cases s with
  | memory m => exact fun htable => absurd htable (by simp [isTable])
  | file f => exact fun htable => absurd htable (by simp [isTable])
  | table t => exact fun _ => Table.isWhole_of_update_ok (t := t) h

/-- An update that succeeds has found its record. -/
theorem find?_of_update_ok {s : Store} {reference : String} {destination : Text.Loose}
    {user : Option String} {r : Redirect}
    (h : (s.update reference destination user).answer = .ok r) :
    ∃ found, s.find? reference = some found := by
  refine Option.ne_none_iff_exists'.mp fun hnone => ?_
  have hmemory : ∀ m : Memory, m.find? reference = none →
      (m.update reference destination user).answer ≠ .ok r := by
    intro m hm
    rw [Memory.update_of_missing hm]
    simp
  cases s with
  | memory m => exact hmemory m hnone h
  | file f => exact hmemory f.memory hnone (FileStore.answer_of_commit_ok h)
  | table t =>
      change (t.update reference destination user).answer = _ at h
      rw [Table.update_of_missing hnone] at h
      exact absurd h (by simp)

/-- A deletion that succeeds has found its record. -/
theorem find?_of_delete_ok {s : Store} {reference : String} {n : Nat}
    (h : (s.delete reference).answer = .ok n) : ∃ found, s.find? reference = some found := by
  refine Option.ne_none_iff_exists'.mp fun hnone => ?_
  have hmemory : ∀ m : Memory, m.find? reference = none →
      (m.delete reference).answer ≠ .ok n := by
    intro m hm
    rw [Memory.delete_of_missing hm]
    simp
  cases s with
  | memory m => exact hmemory m hnone h
  | file f => exact hmemory f.memory hnone (FileStore.answer_of_commit_ok h)
  | table t =>
      change (t.delete reference).answer = _ at h
      rw [Table.delete_of_missing hnone] at h
      exact absurd h (by simp)

end Store

namespace Web

open Text (Loose)

/-! ## Handlers -/

/-- The reply is a response that tells of success. -/
def Reply.IsSuccess (reply : Reply) : Prop :=
  ∃ status, reply.status? = some status ∧ 200 ≤ status ∧ status < 300

theorem Reply.not_isSuccess_of_status? {reply : Reply} {status : Nat}
    (h : reply.status? = some status) (hhigh : 300 ≤ status) : ¬ reply.IsSuccess := by
  rintro ⟨status', h', -, hlow⟩
  have heq := Option.some.inj (h.symm.trans h')
  omega

theorem Reply.IsRefusal.not_isSuccess {reply : Reply} (h : reply.IsRefusal) :
    ¬ reply.IsSuccess := by
  rintro ⟨status, hstatus, -, hlow⟩
  have hhigh := h status hstatus
  omega

theorem isRefusal_storeFailure (r : Request) (c : Catalog) (e : StoreError) :
    (storeFailure r c e).reply.IsRefusal := by
  unfold storeFailure
  split
  · exact Reply.isRefusal_crash _
  · exact Reply.isRefusal_crash _
  · exact Reply.isRefusal_crash _
  · exact Reply.isRefusal_message (by decide : 400 ≤ 500) _

section

variable {c : Catalog} {fresh : Fresh} {r : Request} {reference : String}

/-- **What is answered to a request for a record** shows the record that is found, if it can be
shown. -/
theorem reply_get_iff {found : Redirect} {body : Json} (h : c.get? reference = some found) :
    (get c reference).reply = .response (.ofJson 200 body)
      ↔ found.IsShowable ∧ body = found.item := by
  have hreply : (get c reference).reply = (showRecord c 200 found []).reply := by
    rw [get, h]
  rw [hreply]
  exact reply_showRecord_iff

/-- **A creation that passes the checks tells of success** just when the store has made the record
and the destination is a text. -/
theorem isSuccess_create_iff {asked : NewRedirect} (h : checkedNew r = .ok asked) :
    (create c fresh r).reply.IsSuccess ↔ asked.written.isWhole = true ∧ ∃ m,
      (c.store.create fresh asked.aliasName asked.written (some r.user)).answer = .ok m := by
  unfold create
  rw [h, ← Catalog.answer_create]
  dsimp only
  split
  · next m hm =>
      have hmade : ∃ m', (c.create fresh asked.aliasName asked.written (some r.user)).answer
          = .ok m' := ⟨m, hm⟩
      rw [Catalog.answer_create] at hm
      obtain ⟨-, hwritten, hwriter⟩ := Store.fields_of_create (Store.records_of_create_ok hm)
      rcases status?_showRecord (r := m) with ⟨hstatus, hshow⟩ | ⟨hstatus, hnot⟩
      · exact iff_of_true ⟨201, hstatus, by decide⟩ ⟨hwritten ▸ hshow.whole, hmade⟩
      · refine iff_of_false ?_ fun h =>
          hnot ⟨hwritten ▸ h.1, Redirect.hasWriter_of_eq hwriter⟩
        rintro ⟨status, hsuccess, -⟩
        exact absurd (hstatus.symm.trans hsuccess) (by simp)
  · next name hname =>
      exact iff_of_false (Reply.not_isSuccess_of_status? rfl (by decide : 300 ≤ 409))
        (by simp [hname])
  · next name hname =>
      exact iff_of_false (Reply.not_isSuccess_of_status? rfl (by decide : 300 ≤ 409))
        (by simp [hname])
  · next e _ _ he =>
      exact iff_of_false (isRefusal_storeFailure _ _ _).not_isSuccess (by simp [he])

/-- **A change that passes the checks tells of success** just when the store has made it. -/
theorem isSuccess_update_iff {asked : ChangedRedirect} (h : checkedChange r = .ok asked) :
    (update c r reference).reply.IsSuccess ↔ ∃ m,
      (c.store.update reference asked.written (some r.user)).answer = .ok m := by
  unfold update
  rw [h, ← Catalog.answer_update]
  dsimp only
  split
  · next m hm => exact iff_of_true ⟨200, rfl, by decide⟩ ⟨m, hm⟩
  · next name hname =>
      exact iff_of_false (Reply.not_isSuccess_of_status? rfl (by decide : 300 ≤ 404))
        (by simp [hname])
  · next e _ he =>
      exact iff_of_false (isRefusal_storeFailure _ _ _).not_isSuccess (by simp [he])

/-- **A removal tells of success** just when the store has made it. -/
theorem isSuccess_delete_iff :
    (delete c r reference).reply.IsSuccess ↔ ∃ n, (c.store.delete reference).answer = .ok n := by
  unfold delete
  rw [← Catalog.answer_delete]
  dsimp only
  split
  · next n hn => exact iff_of_true ⟨200, rfl, by decide⟩ ⟨n, hn⟩
  · next name hname =>
      exact iff_of_false (Reply.not_isSuccess_of_status? rfl (by decide : 300 ≤ 404))
        (by simp [hname])
  · next e _ he =>
      exact iff_of_false (isRefusal_storeFailure _ _ _).not_isSuccess (by simp [he])

end

/-! ## Routes -/

/-- The route that answers offers the method. -/
theorem offers_of_choose {hasUi : Bool} {method : String} {path : List Char} {route : Route}
    (h : choose hasUi method path = .answer route) : route.offers method = true :=
  List.find?_some (p := fun route : Route => route.offers method) (find?_of_choose h)

/-- The path of a record ends with the reference. -/
theorem path_of_record {hasUi : Bool} {method : String} {path reference : List Char}
    (h : choose hasUi method path = .answer (.record reference)) :
    path = "/_gadget/api/redirect/".toList ++ reference := by
  have hmem : Route.record reference ∈ candidates hasUi path :=
    List.mem_of_find?_eq_some (find?_of_choose h)
  have hfixed : ∀ (form : String) (route : Route), route ≠ .record reference →
      Route.record reference ∉ (if isPath form path then [route] else []) := by
    intro form route hne hmem
    split at hmem
    · exact hne (List.mem_singleton.mp hmem).symm
    · exact absurd hmem List.not_mem_nil
  have hmap : ∀ (rest : Option (List Char)) (route : List Char → Route),
      (∀ s, route s ≠ .record reference) → Route.record reference ∉ (rest.map route).toList := by
    intro rest route hne hmem
    obtain ⟨s, -, hs⟩ := Option.map_eq_some_iff.mp (Option.mem_toList.mp hmem)
    exact hne s hs
  have hui : Route.record reference ∉ (if hasUi then
      (((after? "/_gadget/ui/" path).bind oneLine?).map .ui).toList else []) := by
    split
    · exact hmap _ _ (by simp)
    · exact List.not_mem_nil
  unfold candidates at hmem
  simp only [List.mem_append, hfixed _ (.generated _) (by simp),
    hfixed _ _ (by simp : Route.signIn ≠ .record reference),
    hfixed _ _ (by simp : Route.health ≠ .record reference),
    hfixed _ _ (by simp : Route.records ≠ .record reference),
    hfixed _ _ (by simp : Route.search ≠ .record reference),
    hfixed _ _ (by simp : Route.icon ≠ .record reference), hui, false_or, or_false] at hmem
  rcases hmem with (hrecord | hreserved) | hgateway
  · obtain ⟨part, hpart, heq⟩ := Option.map_eq_some_iff.mp (Option.mem_toList.mp hrecord)
    obtain ⟨rest, hrest, hone⟩ := Option.bind_eq_some_iff.mp hpart
    rw [after?_eq_some_iff.mp hrest]
    unfold onePart? at hone
    split at hone
    · cases hone
    · rw [Option.some.inj hone, Route.record.inj heq]
  · exact absurd hreserved (hmap _ _ (by simp))
  · exact absurd hgateway (hmap _ _ (by simp))

/-- The methods by which records are changed. -/
def changingMethods : List String := ["POST", "PUT", "DELETE"]

/-- A route that offers to be read, or its head, offers no change. -/
theorem not_mem_changingMethods {route : Route} {method : String}
    (h : route.offers method = true)
    (hroute : route.methods? = some ["GET"] ∨ route.methods? = some ["GET", "HEAD"]) :
    method ∉ changingMethods := by
  have hread : method = "GET" ∨ method = "HEAD" := by
    rcases hroute with heq | heq
    · rw [Route.offers, heq] at h
      exact Or.inl (by simpa using h)
    · rw [Route.offers, heq] at h
      simpa using h
  rcases hread with rfl | rfl
  · decide
  · decide

/-- Files are only read. -/
theorem not_isSuccess_site {site : Site} {r : Request} {rest selfUrl : List Char}
    (hmethod : r.method ∈ changingMethods) :
    ¬ (Reply.response (site.answer r rest selfUrl)).IsSuccess := by
  have hread : r.method ≠ "GET" ∧ r.method ≠ "HEAD" := by
    constructor
    · intro heq
      rw [heq] at hmethod
      exact absurd hmethod (by decide)
    · intro heq
      rw [heq] at hmethod
      exact absurd hmethod (by decide)
  rw [Site.answer, if_pos hread]
  exact Reply.not_isSuccess_of_status? rfl (by decide : 300 ≤ 405)

/-- **Where a request can succeed in a change**: in the handlers of the three changes. Everything
else leaves the store, and does not tell of success if a change was asked for. -/
theorem App.handle_cases (app : App) (fresh : Fresh) (r : Request) :
    ((app.handle fresh r).catalog.store = app.catalog.store
        ∧ (r.method ∈ changingMethods → ¬ (app.handle fresh r).reply.IsSuccess))
      ∨ (r.method = "POST" ∧ choose app.site.isSome r.method r.path = .answer .records
        ∧ app.handle fresh r = create app.catalog fresh r)
      ∨ ∃ reference, r.path = "/_gadget/api/redirect/".toList ++ reference
        ∧ ((r.method = "PUT"
            ∧ app.handle fresh r = update app.catalog r (String.ofList reference))
          ∨ (r.method = "DELETE"
            ∧ app.handle fresh r = delete app.catalog r (String.ofList reference))) := by
  cases hchoice : choose app.site.isSome r.method r.path with
  | wrongMethod =>
      rw [App.handle, hchoice]
      exact Or.inl ⟨rfl, fun _ => Reply.not_isSuccess_of_status? rfl (by decide : 300 ≤ 405)⟩
  | elsewhere path =>
      rw [App.handle, hchoice]
      exact Or.inl ⟨rfl, fun _ => Reply.not_isSuccess_of_status? rfl (by decide : 300 ≤ 307)⟩
  | nowhere =>
      rw [App.handle, hchoice]
      exact Or.inl ⟨rfl, fun _ => Reply.not_isSuccess_of_status? rfl (by decide : 300 ≤ 404)⟩
  | answer route =>
      rw [App.handle_of_answer hchoice]
      have hoffers := offers_of_choose hchoice
      -- what is only read leaves the catalog, and was not asked for a change
      have hread : route.methods? = some ["GET"] ∨ route.methods? = some ["GET", "HEAD"] →
          (app.answer fresh r route).catalog.store = app.catalog.store →
          ((app.answer fresh r route).catalog.store = app.catalog.store
            ∧ (r.method ∈ changingMethods → ¬ (app.answer fresh r route).reply.IsSuccess)) :=
        fun hmethods hstore => ⟨hstore, fun hmem =>
          absurd hmem (not_mem_changingMethods hoffers hmethods)⟩
      cases route with
      | generated name => exact Or.inl (hread (Or.inr rfl) rfl)
      | signIn => exact Or.inl (hread (Or.inr rfl) rfl)
      | health => exact Or.inl (hread (Or.inl rfl) rfl)
      | icon => exact Or.inl (hread (Or.inl rfl) rfl)
      | reserved endpoint => exact Or.inl (hread (Or.inl rfl) rfl)
      | search =>
          refine Or.inl (hread (Or.inl rfl) ?_)
          exact congrArg Catalog.store (catalog_search app.spelling app.catalog r)
      | gateway =>
          refine Or.inl (hread (Or.inl rfl) ?_)
          show (lookup app.catalog r).catalog.store = _
          unfold lookup
          dsimp only
          split
          · rfl
          · exact Catalog.store_act app.catalog (.resolve _)
      | records =>
          by_cases hpost : r.method = "POST"
          · exact Or.inr (Or.inl ⟨hpost, rfl, if_pos hpost⟩)
          · have hget : r.method = "GET" := by
              simpa [Route.offers, Route.methods?, hpost] using hoffers
            have hlist : app.answer fresh r .records = list app.catalog r := if_neg hpost
            rw [hlist, catalog_list]
            refine Or.inl ⟨rfl, fun hmem => ?_⟩
            rw [hget] at hmem
            exact absurd hmem (by decide)
      | record reference =>
          by_cases hput : r.method = "PUT"
          · exact Or.inr (Or.inr ⟨reference, path_of_record hchoice, Or.inl ⟨hput, if_pos hput⟩⟩)
          · by_cases hdelete : r.method = "DELETE"
            · refine Or.inr (Or.inr ⟨reference, path_of_record hchoice, Or.inr ⟨hdelete, ?_⟩⟩)
              exact (if_neg hput).trans (if_pos hdelete)
            · have hget : r.method = "GET" := by
                simpa [Route.offers, Route.methods?, hput, hdelete] using hoffers
              have hanswer : app.answer fresh r (.record reference)
                  = get app.catalog (String.ofList reference) :=
                (if_neg hput).trans (if_neg hdelete)
              rw [hanswer, catalog_get]
              refine Or.inl ⟨rfl, fun hmem => ?_⟩
              rw [hget] at hmem
              exact absurd hmem (by decide)
      | ui path =>
          refine Or.inl ?_
          unfold App.answer
          dsimp only
          split
          · exact ⟨rfl, fun _ => Reply.not_isSuccess_of_status? rfl (by decide : 300 ≤ 404)⟩
          · next site hsite =>
              split
              · refine ⟨rfl, fun _ => ?_⟩
                rintro ⟨status, hstatus, -⟩
                exact absurd hstatus (by simp [Reply.status?])
              · exact ⟨rfl, not_isSuccess_site⟩

/-! ## Records -/

/-- The value of a field of the object in the body. -/
def Request.said? (r : Request) (name : String) : Option Json :=
  match readBody r with
  | .ok (.value v) => v.field? name
  | _ => none

/-- **The body says what a field is to hold**: it is an object, and this is the value of the
field. -/
def Request.Says (r : Request) (name : String) (value : Loose) : Prop :=
  r.said? name = some (.ofLoose value)

theorem said?_of_bodyFields {r : Request} {fields : List (String × Json)}
    (h : bodyFields r = .ok fields) (name : String) : r.said? name = Json.lookup? name fields := by
  unfold bodyFields at h
  dsimp only at h
  split at h
  case h_4 hbody =>
    rw [Request.said?, hbody, ← Except.ok.inj h]
    rfl
  all_goals cases h

theorem lookup?_of_looseField {name : String} {fields : List (String × Json)} {value : Loose}
    (h : looseField name fields = .ok value) :
    Json.lookup? name fields = some (.ofLoose value) := by
  unfold looseField at h
  split at h
  · cases h
  · next s hs => rw [hs, ← Except.ok.inj h, Json.ofLoose]
  · next t ht => rw [ht, ← Except.ok.inj h, Json.ofLoose]
  · cases h

theorem lookup?_of_textField {name : String} {fields : List (String × Json)} {value : String}
    (h : textField name fields = .ok value) :
    Json.lookup? name fields = some (.ofLoose value) := by
  unfold textField at h
  split at h
  · cases h
  · cases h
  · next s hs =>
      split at h
      · cases h
      · rw [← Except.ok.inj h]
        exact lookup?_of_looseField hs

/-- What is asked to be made stands in the body. -/
theorem says_of_checkedNew {r : Request} {asked : NewRedirect} (h : checkedNew r = .ok asked) :
    r.Says "alias" asked.aliasName ∧ r.Says "destination" asked.written := by
  have hnew := newRedirect_of_checkedNew h
  unfold newRedirect at hnew
  split at hnew
  · cases hnew
  · next fields hfields =>
      have hsaid := said?_of_bodyFields hfields
      cases halias : textField "alias" fields with
      | error issues =>
          cases hdestination : looseField "destination" fields
            <;> simp [halias, hdestination, Checked.both] at hnew
      | ok aliasName =>
          cases hdestination : looseField "destination" fields with
          | error issues => simp [halias, hdestination, Checked.both] at hnew
          | ok destination =>
              simp only [halias, hdestination, Checked.both] at hnew
              rw [← Except.ok.inj hnew]
              exact ⟨(hsaid "alias").trans (lookup?_of_textField halias),
                (hsaid "destination").trans (lookup?_of_looseField hdestination)⟩

/-- So does what a record is to be changed to. -/
theorem says_of_checkedChange {r : Request} {asked : ChangedRedirect}
    (h : checkedChange r = .ok asked) : r.Says "destination" asked.written := by
  obtain ⟨sent, hsent, h⟩ := exists_of_bind_ok h
  obtain ⟨_, -, h⟩ := exists_of_bind_ok h
  cases h
  unfold changedRedirect at hsent
  split at hsent
  · cases hsent
  · next fields hfields =>
      split at hsent
      · next destination hdestination =>
          rw [← Except.ok.inj hsent]
          exact (said?_of_bodyFields hfields _).trans (lookup?_of_looseField hdestination)
      · cases hsent

/-- **One record is changed, as the request says.** -/
inductive ChangesOne (fresh : Fresh) (r : Request) (before : Store) : List Redirect → Prop where
  /-- A new one is put behind the others, with the normalized alias and the destination that stand
  in the body, and with the sender as its writer. -/
  | made {aliasName : String} {destination : Loose} (hmethod : r.method = "POST")
      (halias : r.Says "alias" aliasName) (hdestination : r.Says "destination" destination) :
      ChangesOne fresh r before (before.records ++ [{
        id := before.nextId
        publicRef := fresh.publicRef
        aliasName := Alias.normalize aliasName
        written := destination
        createdOn := fresh.now
        createdBy := .str r.user }])
  /-- The first one that answers to the reference in the path gets the destination that stands in
  the body and the sender as its writer, and keeps the rest. -/
  | changed {reference : List Char} {front back : List Redirect} {m : Redirect}
      {destination : Loose} (hmethod : r.method = "PUT")
      (hpath : r.path = "/_gadget/api/redirect/".toList ++ reference)
      (hdestination : r.Says "destination" destination)
      (hcut : IsCut before.records (String.ofList reference) front m back) :
      ChangesOne fresh r before (front ++ {
        id := m.id
        publicRef := m.publicRef
        aliasName := m.aliasName
        written := destination
        createdOn := m.createdOn
        createdBy := .str r.user } :: back)
  /-- The first one that answers to the reference in the path is taken out. -/
  | removed {reference : List Char} {front back : List Redirect} {m : Redirect}
      (hmethod : r.method = "DELETE")
      (hpath : r.path = "/_gadget/api/redirect/".toList ++ reference)
      (hcut : IsCut before.records (String.ofList reference) front m back) :
      ChangesOne fresh r before (front ++ back)

/-- **The request makes a record that cannot be shown**: it is a creation that passes the checks
under an alias that is free, its destination is no text, and the store is none that refuses it. -/
structure App.MakesTorn (app : App) (r : Request) : Prop where
  method_eq : r.method = "POST"
  route : choose app.site.isSome r.method r.path = .answer .records
  notTable : app.catalog.store.isTable = false
  asks : ∃ asked, checkedNew r = .ok asked ∧ asked.written.isWhole = false
    ∧ Alias.normalize asked.aliasName ∉ app.catalog.store.records.map (·.aliasName)

theorem App.isFile_serve {app : App} (requests : List (Fresh × Request)) :
    (app.serve requests).catalog.store.isFile = app.catalog.store.isFile := by
  refine App.serve_induction
    (motive := fun app' => app'.catalog.store.isFile = app.catalog.store.isFile) ?_ rfl
  intro app' fresh r _ h
  obtain ⟨a, hasks, hstore⟩ := app'.exists_store_handle fresh r
  show (app'.handle fresh r).catalog.store.isFile = _
  rw [hstore, ← h]
  cases hasks with
  | nothing => rfl
  | resolve path => rfl
  | create hasked => exact Store.isFile_perform _ _
  | update hroute hmethod hasked => exact Store.isFile_perform _ _
  | delete hroute hmethod => exact Store.isFile_perform _ _

section

variable {c : Catalog} {fresh : Fresh} {r : Request}

/-- A creation that tells of success puts one record behind the others. -/
theorem changesOne_create (hmethod : r.method = "POST")
    (h : (create c fresh r).reply.IsSuccess) :
    ChangesOne fresh r c.store (create c fresh r).catalog.store.records := by
  cases hasked : checkedNew r with
  | error refused =>
      rw [create, hasked] at h
      exact absurd h (isRefusal_of_checkedNew_error hasked).not_isSuccess
  | ok asked =>
      obtain ⟨-, m, hm⟩ := (isSuccess_create_iff hasked).mp h
      have hrecords := Store.records_of_create_ok hm
      -- an alias that a path can name is stored in the form that one pass of normalizing gives
      have hname : c.store.storedAlias asked.aliasName = Alias.normalize asked.aliasName :=
        Catalog.storedAlias_of_isStable
          (Or.inr (Alias.isStable_of_isRoutable (of_checkedNew hasked).1))
      obtain ⟨halias, hdestination⟩ := says_of_checkedNew hasked
      rw [catalog_create hasked, Catalog.store_create, hrecords, Store.eq_of_create hrecords, hname]
      exact .made hmethod halias hdestination

/-- A creation that does not leaves a memory or a table, if its destination is a text. -/
theorem store_create_of_failed (hkind : c.store.isFile = false)
    (h : ¬ (create c fresh r).reply.IsSuccess)
    (hwhole : ∀ asked m, checkedNew r = .ok asked →
      (c.store.create fresh asked.aliasName asked.written (some r.user)).answer = .ok m →
        asked.written.isWhole = true) :
    (create c fresh r).catalog.store = c.store := by
  cases hasked : checkedNew r with
  | error refused => rw [create, hasked]
  | ok asked =>
      rw [isSuccess_create_iff hasked] at h
      have hfailed : ¬ ∃ m,
          (c.store.create fresh asked.aliasName asked.written (some r.user)).answer = .ok m := by
        rintro ⟨m, hm⟩
        exact h ⟨hwhole asked m hasked hm, m, hm⟩
      rw [catalog_create hasked, Catalog.store_create]
      exact Store.state_of_failed hkind (.create fresh asked.aliasName asked.written
        (some r.user)) (Store.map_ne_ok hfailed Store.Reply.record)

variable {reference : List Char}

/-- An update changes the record that the reference finds, or leaves a memory or a table. -/
theorem effect_update (fresh : Fresh) (hkeys : c.store.HasKeys) (hkind : c.store.isFile = false)
    (hmethod : r.method = "PUT") (hpath : r.path = "/_gadget/api/redirect/".toList ++ reference) :
    let o := update c r (String.ofList reference)
    (o.reply.IsSuccess → ChangesOne fresh r c.store o.catalog.store.records)
      ∧ (¬ o.reply.IsSuccess → o.catalog.store = c.store) := by
  intro o
  cases hasked : checkedChange r with
  | error refused =>
      have ho : o = ⟨refused, c, []⟩ := by
        show update c r _ = _
        rw [update, hasked]
      rw [ho]
      exact ⟨fun h => absurd h (isRefusal_of_checkedChange_error hasked).not_isSuccess,
        fun _ => rfl⟩
  | ok asked =>
      have hstore : o.catalog.store = (c.store.update (String.ofList reference) asked.written
          (some r.user)).state := by
        show (update c r _).catalog.store = _
        rw [catalog_update hasked, Catalog.store_update]
      rw [hstore, isSuccess_update_iff hasked]
      constructor
      · rintro ⟨m, hm⟩
        obtain ⟨found, hfound⟩ := Store.find?_of_update_ok hm
        rw [Store.find?_eq_find?] at hfound
        obtain ⟨front, back, hcut⟩ := exists_cut hfound
        rw [(Store.update_of_cut hkeys hcut (Store.canHold_of_update_ok hm) _).1]
        exact .changed hmethod hpath (says_of_checkedChange hasked) hcut
      · intro hfailed
        exact Store.state_of_failed hkind (.update _ asked.written (some r.user))
          (Store.map_ne_ok hfailed Store.Reply.record)

/-- A removal takes the record out that the reference finds, or leaves a memory or a table. -/
theorem effect_delete (fresh : Fresh) (hkeys : c.store.HasKeys) (hkind : c.store.isFile = false)
    (hmethod : r.method = "DELETE")
    (hpath : r.path = "/_gadget/api/redirect/".toList ++ reference) :
    let o := delete c r (String.ofList reference)
    (o.reply.IsSuccess → ChangesOne fresh r c.store o.catalog.store.records)
      ∧ (¬ o.reply.IsSuccess → o.catalog.store = c.store) := by
  intro o
  have hstore : o.catalog.store = (c.store.delete (String.ofList reference)).state := by
    show (delete c r _).catalog.store = _
    rw [catalog_delete, Catalog.store_delete]
  rw [hstore, isSuccess_delete_iff]
  constructor
  · rintro ⟨n, hn⟩
    obtain ⟨found, hfound⟩ := Store.find?_of_delete_ok hn
    rw [Store.find?_eq_find?] at hfound
    obtain ⟨front, back, hcut⟩ := exists_cut hfound
    rw [(Store.delete_of_cut hkeys hcut).1]
    exact .removed hmethod hpath hcut
  · intro hfailed
    exact Store.state_of_failed hkind (.delete _) (Store.map_ne_ok hfailed Store.Reply.removed)

end

/-- A record that cannot be shown is made all the same. -/
theorem App.MakesTorn.store_ne {app : App} {r : Request} (h : app.MakesTorn r) (fresh : Fresh) :
    (app.handle fresh r).catalog.store ≠ app.catalog.store := by
  obtain ⟨asked, hasked, -, hfree⟩ := h.asks
  have hhandle : app.handle fresh r = create app.catalog fresh r := by
    rw [App.handle_of_answer h.route]
    exact if_pos h.method_eq
  have hgrown : ∀ m : Memory, Alias.normalize asked.aliasName ∉ m.records.map (·.aliasName) →
      (m.create fresh asked.aliasName asked.written (some r.user)).state.records.length
        = m.records.length + 1 := by
    intro m hm
    rw [Memory.create_of_free hm, List.length_append, List.length_singleton]
  intro heq
  rw [hhandle, catalog_create hasked, Catalog.store_create] at heq
  have hlength := congrArg (fun s : Store => s.records.length) heq
  cases hstore : app.catalog.store with
  | memory m =>
      rw [hstore] at hlength hfree
      have hmore := hgrown m hfree
      change (m.create _ _ _ _).state.records.length = m.records.length at hlength
      omega
  | file f =>
      rw [hstore] at hlength hfree
      have hmore := hgrown f.memory hfree
      change (f.commit _).state.memory.records.length = f.memory.records.length at hlength
      rw [FileStore.memory_commit] at hlength
      omega
  | table t =>
      have hnot := h.notTable
      rw [hstore] at hnot
      exact absurd hnot (by simp [Store.isTable])

/-- **A success changes one record, and nothing else changes any**, but for records that cannot be
shown. In a service of a memory or of a table with numbers as keys, after any requests: a request
that is not answered by success, and one that only reads, leaves the store as it is, just if it does
not make a record that cannot be shown; one that succeeds in making, changing or removing does that
to one record, as it says. -/
theorem App.one_record_changed {s : Store} (hkeys : s.HasKeys) (hkind : s.isFile = false)
    (site : Option Site) (spelling : Text.Spelling) (before : List (Fresh × Request))
    (fresh : Fresh) (r : Request) :
    let app := (App.mk (.ofStore s) site spelling).serve before
    let o := app.handle fresh r
    (¬ o.reply.IsSuccess ∨ r.method = "GET" →
        (o.catalog.store = app.catalog.store ↔ ¬ app.MakesTorn r))
      ∧ (o.reply.IsSuccess → r.method ∈ changingMethods →
        ChangesOne fresh r app.catalog.store o.catalog.store.records) := by
  intro app o
  have hkeys : app.catalog.store.HasKeys := App.hasKeys_serve hkeys before
  have hkind : app.catalog.store.isFile = false := (App.isFile_serve before).trans hkind
  -- what is left is that nothing else changes the store
  suffices hrest : (¬ o.reply.IsSuccess ∨ r.method = "GET" → ¬ app.MakesTorn r →
        o.catalog.store = app.catalog.store)
      ∧ (o.reply.IsSuccess → r.method ∈ changingMethods →
        ChangesOne fresh r app.catalog.store o.catalog.store.records) by
    exact ⟨fun h => ⟨fun heq htorn => htorn.store_ne fresh heq, hrest.1 h⟩, hrest.2⟩
  -- a handler of one of the three changes is not reached by reading
  have hchange : ∀ method, r.method = method → method ≠ "GET" →
      (o.reply.IsSuccess → ChangesOne fresh r app.catalog.store o.catalog.store.records)
        ∧ (¬ o.reply.IsSuccess → ¬ app.MakesTorn r → o.catalog.store = app.catalog.store) →
      (¬ o.reply.IsSuccess ∨ r.method = "GET" → ¬ app.MakesTorn r →
          o.catalog.store = app.catalog.store)
        ∧ (o.reply.IsSuccess → r.method ∈ changingMethods →
          ChangesOne fresh r app.catalog.store o.catalog.store.records) := by
    rintro method rfl hget ⟨hone, hnone⟩
    exact ⟨fun h => hnone (h.resolve_right hget), fun hsuccess _ => hone hsuccess⟩
  rcases App.handle_cases app fresh r with
    ⟨hstore, hrefused⟩ | ⟨hpost, hroute, heq⟩
      | ⟨reference, hpath, ⟨hput, heq⟩ | ⟨hdelete, heq⟩⟩
  · exact ⟨fun _ _ => hstore, fun hsuccess hmem => absurd hsuccess (hrefused hmem)⟩
  · refine hchange "POST" hpost (by decide) ?_
    rw [show o = create app.catalog fresh r from heq]
    refine ⟨changesOne_create hpost, fun hfailed htorn => store_create_of_failed hkind hfailed ?_⟩
    intro asked m hasked hm
    obtain ⟨hhold, hfree⟩ := Store.canHold_of_create_ok hm
    by_contra hwhole
    rw [Bool.not_eq_true] at hwhole
    refine htorn ⟨hpost, hroute, ?_, asked, hasked, hwhole, hfree⟩
    rw [← Bool.not_eq_true]
    exact fun htable => absurd (hhold htable) (by simp [hwhole])
  · refine hchange "PUT" hput (by decide) ?_
    rw [show o = update app.catalog r (String.ofList reference) from heq]
    obtain ⟨hone, hnone⟩ := effect_update fresh hkeys hkind hput hpath
    exact ⟨hone, fun h _ => hnone h⟩
  · refine hchange "DELETE" hdelete (by decide) ?_
    rw [show o = delete app.catalog r (String.ofList reference) from heq]
    obtain ⟨hone, hnone⟩ := effect_delete fresh hkeys hkind hdelete hpath
    exact ⟨hone, fun h _ => hnone h⟩

/-- In a table with one record, an unknown one is not removed, and the known one is. -/
theorem App.one_record_changed_removals :
    let app := (App.mk (.ofStore (.table .empty)) none Text.spellChar).serve editingRequests
    let sending := fun path => Request.sending "DELETE" path ""
    let unknown := app.handle (.atNewYear "") (sending "/_gadget/api/redirect/wiki")
    let known := app.handle (.atNewYear "") (sending "/_gadget/api/redirect/Ref0000002")
    (unknown.reply.status? = some 404 ∧ unknown.catalog.store = app.catalog.store)
      ∧ known.reply.status? = some 200
      ∧ ChangesOne (.atNewYear "") (sending "/_gadget/api/redirect/Ref0000002")
        app.catalog.store known.catalog.store.records := by
  have hkeys : (Store.table .empty).HasKeys := Store.hasKeys_of_records_eq_nil rfl
  have hone := fun path => App.one_record_changed hkeys rfl none Text.spellChar editingRequests
    (.atNewYear "") (.sending "DELETE" path "")
  -- the requests stay written out: a name for one makes `exact` run it
  dsimp only at hone ⊢
  constructor
  · refine (fun hstatus => ⟨hstatus, ((hone _).1 (Or.inl ?_)).mpr ?_⟩) (by decide +kernel)
    · exact Reply.not_isSuccess_of_status? hstatus (by decide)
    · exact fun htorn => absurd htorn.method_eq (by decide)
  · refine (fun hstatus => ⟨hstatus, (hone _).2 ⟨200, hstatus, ?_⟩ ?_⟩) (by decide +kernel)
    · decide
    · decide

/-- A creation in memory that is not answered leaves its record behind. -/
theorem App.torn_record_is_kept :
    let o := App.bare.handle (.atNewYear "Ref0000001") (.making "wiki" "https://a.io/\\ud800")
    o.reply.status? = none ∧ App.bare.catalog.store.records.length = 0
      ∧ o.catalog.store.records.map (·.aliasName) = ["wiki"] := by
  decide +kernel

end Web

end Shortlink
