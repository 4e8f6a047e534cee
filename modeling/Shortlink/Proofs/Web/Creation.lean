import Shortlink.Proofs.Web.Reach

/-!
# Reaching what was just made

The response 201 tells a client that its record was made (`App.exists_of_created`). From then on,
and until a request changes or removes the record, its alias finds it, and reading the path of the
alias leads to the destination: `App.created_is_reached_iff`. The exceptions are aliases whose paths
belong to other routes, which a creation does not refuse.

## Contents

- **Refusals.** `Reply.IsRefusal`; `isRefusal_of_checkedNew_error`,
  `isRefusal_of_checkedChange_error`.
- **Creations.** `exists_of_create_created`, `App.exists_of_created`.
- **Reaching.** `App.created_is_reached_iff`.
-/

namespace Shortlink

/-- Without arguments, the text of the variant stays as it is. -/
theorem Link.fillIn_nil (link : Link) : link.fillIn [] = (link.select 0).text.toList := by
  rw [fillIn, Variant.fill, List.take_nil, List.drop_nil]
  rfl

namespace Web

open Text Request

/-! ## Refusals -/

/-- **The reply refuses what was asked for**: it is a response that says so, or none at all. -/
def Reply.IsRefusal (reply : Reply) : Prop :=
  ∀ status, reply.status? = some status → 400 ≤ status

theorem Reply.isRefusal_crash (cause : Crash) : (Reply.crash cause).IsRefusal :=
  fun _ h => absurd h (by simp [Reply.status?])

theorem Reply.isRefusal_message {status : Nat} (h : 400 ≤ status) (text : String) :
    (Reply.response (.message status text)).IsRefusal := by
  intro status' hstatus
  rwa [← Option.some.inj hstatus]

theorem Reply.isRefusal_refused (issues : List Issue) : (refused issues).IsRefusal := by
  unfold refused
  split
  · exact Reply.isRefusal_crash _
  · intro status hstatus
    rw [← Option.some.inj hstatus]
    exact (by decide : 400 ≤ 422)

theorem isRefusal_of_bodyFields_error {r : Request} {reply : Reply}
    (h : bodyFields r = .error reply) : reply.IsRefusal := by
  unfold bodyFields at h
  dsimp only at h
  split at h
  · rw [← Except.error.inj h]
    exact Reply.isRefusal_refused _
  · rw [← Except.error.inj h]
    exact Reply.isRefusal_message (Nat.le_refl 400) _
  · rw [← Except.error.inj h]
    exact Reply.isRefusal_refused _
  · exact absurd h (by simp)
  · rw [← Except.error.inj h]
    exact Reply.isRefusal_refused _
  · rw [← Except.error.inj h]
    exact Reply.isRefusal_refused _

theorem isRefusal_of_newRedirect_error {r : Request} {reply : Reply}
    (h : newRedirect r = .error reply) : reply.IsRefusal := by
  unfold newRedirect at h
  split at h
  · next hfields =>
      rw [← Except.error.inj h]
      exact isRefusal_of_bodyFields_error hfields
  · split at h
    · exact absurd h (by simp)
    · rw [← Except.error.inj h]
      exact Reply.isRefusal_refused _

theorem isRefusal_of_changedRedirect_error {r : Request} {reply : Reply}
    (h : changedRedirect r = .error reply) : reply.IsRefusal := by
  unfold changedRedirect at h
  split at h
  · next hfields =>
      rw [← Except.error.inj h]
      exact isRefusal_of_bodyFields_error hfields
  · split at h
    · exact absurd h (by simp)
    · rw [← Except.error.inj h]
      exact Reply.isRefusal_refused _

theorem isRefusal_of_checkDestination_error {destination : Loose} {reply : Reply}
    (h : checkDestination destination = .error reply) : reply.IsRefusal := by
  unfold checkDestination at h
  split at h
  · exact absurd h (by simp)
  · split at h
    · rw [← Except.error.inj h]
      exact Reply.isRefusal_message (Nat.le_refl 400) _
    · rw [← Except.error.inj h]
      exact Reply.isRefusal_crash _

theorem isRefusal_of_checkAlias_error {aliasName : String} {reply : Reply}
    (h : checkAlias aliasName = .error reply) : reply.IsRefusal := by
  unfold checkAlias at h
  split at h
  · exact absurd h (by simp)
  · rw [← Except.error.inj h]
    exact Reply.isRefusal_message (Nat.le_refl 400) _

/-- The checks on a new record hand on what the client sent. -/
theorem newRedirect_of_checkedNew {r : Request} {asked : NewRedirect}
    (h : checkedNew r = .ok asked) : newRedirect r = .ok asked := by
  obtain ⟨sent, hsent, h⟩ := exists_of_bind_ok h
  obtain ⟨_, -, h⟩ := exists_of_bind_ok h
  obtain ⟨_, -, h⟩ := exists_of_bind_ok h
  cases h
  exact hsent

/-- **A request that does not pass the checks on a new record is refused.** -/
theorem isRefusal_of_checkedNew_error {r : Request} {reply : Reply}
    (h : checkedNew r = .error reply) : reply.IsRefusal := by
  rcases exists_of_bind_error h with hsent | ⟨asked, -, h⟩
  · exact isRefusal_of_newRedirect_error hsent
  rcases exists_of_bind_error h with halias | ⟨_, -, h⟩
  · exact isRefusal_of_checkAlias_error halias
  rcases exists_of_bind_error h with hurl | ⟨_, -, h⟩
  · exact isRefusal_of_checkDestination_error hurl
  · exact absurd h (by simp [pure, Except.pure])

/-- **A request that does not pass the checks on a change is refused.** -/
theorem isRefusal_of_checkedChange_error {r : Request} {reply : Reply}
    (h : checkedChange r = .error reply) : reply.IsRefusal := by
  rcases exists_of_bind_error h with hsent | ⟨asked, -, h⟩
  · exact isRefusal_of_changedRedirect_error hsent
  rcases exists_of_bind_error h with hurl | ⟨_, -, h⟩
  · exact isRefusal_of_checkDestination_error hurl
  · exact absurd h (by simp [pure, Except.pure])

/-! ## Creations -/

theorem status?_storeFailure (r : Request) (c : Catalog) (e : StoreError) :
    (storeFailure r c e).reply.status? ≠ some 201 := by
  unfold storeFailure
  split
  · exact fun h => absurd h (by simp [Reply.status?])
  · exact fun h => absurd h (by simp [Reply.status?])
  · exact fun h => absurd h (by simp [Reply.status?])
  · exact fun h => absurd (Option.some.inj h) (by decide : (500 : Nat) ≠ 201)

/-- **A response 201 to a creation** stands for a record that the catalog has made. -/
theorem exists_of_create_created {c : Catalog} {fresh : Fresh} {r : Request}
    (h : (create c fresh r).reply.status? = some 201) :
    ∃ asked m, checkedNew r = .ok asked
      ∧ (c.create fresh asked.aliasName asked.written (some r.user)).answer = .ok m := by
  unfold create at h
  cases hasked : checkedNew r with
  | error refused =>
      rw [hasked] at h
      exact absurd (isRefusal_of_checkedNew_error hasked 201 h) (by decide)
  | ok asked =>
      rw [hasked] at h
      dsimp only at h
      split at h
      · next m hm => exact ⟨asked, m, rfl, hm⟩
      · exact absurd (Option.some.inj h) (by decide : (409 : Nat) ≠ 201)
      · exact absurd (Option.some.inj h) (by decide : (409 : Nat) ≠ 201)
      · exact absurd h (status?_storeFailure _ _ _)

/-- The path under which records are made and listed belongs to them. -/
theorem choose_records (hasUi : Bool) {method : String} (h : method ∈ ["GET", "POST"]) :
    choose hasUi method "/_gadget/api/redirect".toList = .answer .records := by
  have hall : ∀ method ∈ ["GET", "POST"],
      choose hasUi method "/_gadget/api/redirect".toList = .answer .records := by
    cases hasUi <;> decide +kernel
  exact hall method h

/-- **A creation that is answered 201** puts a record behind the others, under the normalized alias
that the client sent, which was free and is one that a path can name. -/
theorem App.exists_of_created {app : App} {fresh : Fresh} {post : Request}
    (hmethod : post.method = "POST") (hpath : post.path = "/_gadget/api/redirect".toList)
    (h : (app.handle fresh post).reply.status? = some 201) :
    ∃ asked m, newRedirect post = .ok asked
      ∧ (app.handle fresh post).catalog.store.records = app.catalog.store.records ++ [m]
      ∧ m.aliasName = Alias.normalize asked.aliasName ∧ m.destination = asked.destination
      ∧ Alias.IsStored m.aliasName
      ∧ m.aliasName ∉ app.catalog.store.records.map (·.aliasName) := by
  have hchoice : choose app.site.isSome post.method post.path = .answer .records := by
    rw [hmethod, hpath]
    exact choose_records _ (by decide)
  have hhandle : app.handle fresh post = create app.catalog fresh post := by
    rw [App.handle_of_answer hchoice]
    exact if_pos hmethod
  rw [hhandle] at h ⊢
  obtain ⟨asked, m, hasked, hm⟩ := exists_of_create_created h
  rw [Catalog.answer_create] at hm
  have hrecords := Store.records_of_create_ok hm
  obtain ⟨hroutable, -⟩ := of_checkedNew hasked
  -- an alias that a path can name is stored in the form that was looked for
  have hname : app.catalog.store.storedAlias asked.aliasName = Alias.normalize asked.aliasName :=
    Catalog.storedAlias_of_isStable (Or.inr (Alias.isStable_of_isRoutable hroutable))
  rcases Store.records_create app.catalog.store fresh asked.aliasName asked.written
      (some post.user) with heq | ⟨new, heq, -, halias, hfree⟩
  · rw [heq] at hrecords
    exact absurd hrecords (by simp)
  · have hnew : new = m := List.singleton_inj.mp (List.append_cancel_left (heq.symm.trans hrecords))
    subst hnew
    rw [hname] at halias
    obtain ⟨_, hwritten, -⟩ := Store.fields_of_create heq
    refine ⟨asked, new, newRedirect_of_checkedNew hasked, ?_, halias,
      congrArg Loose.text hwritten, ?_, ?_⟩
    · rw [catalog_create hasked, Catalog.store_create]
      exact heq
    · rw [halias]
      exact Alias.isStored_normalize hroutable
    · rw [halias]
      exact hfree

/-! ## Reaching -/

/-- **A record whose creation is answered 201 is reached under its alias**, from then on and until a
request changes or removes it: the look-ups are alone in claiming the path, and send the client to
the destination without arguments, just if the path is neither reserved nor fixed. -/
theorem App.created_is_reached_iff {s : Store} (hkeys : s.HasKeys) (site : Option Site)
    (spelling : Spelling) (before : List (Fresh × Request)) (fresh : Fresh) {post : Request}
    (hmethod : post.method = "POST") (hpath : post.path = "/_gadget/api/redirect".toList)
    (hstatus : (((App.mk (.ofStore s) site spelling).serve before).handle fresh post).reply.status?
      = some 201) :
    let app := (App.mk (.ofStore s) site spelling).serve before
    let made := app.after (app.handle fresh post)
    ∃ asked m, newRedirect post = .ok asked
      ∧ made.catalog.store.records = app.catalog.store.records ++ [m]
      ∧ m.aliasName = Alias.normalize asked.aliasName ∧ m.destination = asked.destination
      ∧ ((∀ other ∈ app.catalog.store.records, other.publicRef ≠ m.aliasName) →
        ∀ later, App.Spares m made later → ∀ target headers body fresh,
          Writes target (namedPath m.aliasName []) → (targetPath target).head? = some '/' →
          let get := ofTarget "GET" target headers body true
          (candidates site.isSome get.path = [.gateway]
            ∧ ((made.serve later).handle fresh get).reply = .response (sentTo
              (location ((Link.ofDestination m.aliasName m.destination).select 0).text.toList)))
          ↔ ¬ reservedStart.toList <+: namedPath m.aliasName []
            ∧ ∀ form ∈ fixedForms, namedPath m.aliasName [] ≠ form.toList) := by
  intro app made
  obtain ⟨asked, m, hasked, hrecords, hname, hdestination, halias, hnew⟩ :=
    App.exists_of_created hmethod hpath hstatus
  refine ⟨asked, m, hasked, hrecords, hname, hdestination, ?_⟩
  intro hfree later hspares target headers body fresh' hwrites hslash get
  have hgetPath : get.path = namedPath m.aliasName [] := path_of_writes hwrites true
  have hkeys : app.catalog.store.HasKeys := App.hasKeys_serve hkeys before
  have hfound : (made.serve later).catalog.store.find? m.aliasName = some m :=
    App.find?_serve (App.hasKeys_handle hkeys _ _)
      (Store.find?_of_append hrecords halias hnew hfree) hspares
  obtain ⟨given, hfaithful⟩ : ∃ given, Catalog.Faithful given (made.serve later).catalog := by
    -- the creation is one request among the others
    have hserve : made.serve later
        = (App.mk (.ofStore s) site spelling).serve (before ++ (fresh, post) :: later) := by
      rw [App.serve, App.serve, List.foldl_append, List.foldl_cons]
      rfl
    rw [hserve]
    exact App.exists_faithful_serve s site spelling _
  have hline : '\n' ∉ joinTokens [m.aliasName.toList] := not_mem_namedPath halias (by simp)
  -- both sides speak of a look-up path
  rw [hgetPath, candidates_eq_gateway_iff, namedPath, ← isLookupPath_iff hline]
  constructor
  · exact fun h => h.1
  · intro hlookup
    refine ⟨hlookup, ?_⟩
    rw [← Link.fillIn_nil]
    refine App.reply_of_find? hfaithful rfl ?_ (decode_lookup_of_slash hwrites hslash)
      halias.ne_nil halias.space_not_mem areArguments_nil ?_ fresh'
    · rw [hgetPath]
      exact hlookup
    · rw [String.ofList_toList]
      exact hfound

/-- Another record is made and removed. -/
def docsRequests : List (Fresh × Request) :=
  [(.atNewYear "Ref0000002", .making "docs" "https://b.io"),
    (.atNewYear "Ref0000003", .sending "DELETE" "/_gadget/api/redirect/docs" "")]

/-- A record is made; then another one is made and removed. -/
theorem App.created_is_reached_iff_wiki :
    ∃ m, (App.making "/Wiki" "https://a.io/\x7b$1\x7d").catalog.store.records = [m]
      ∧ (((App.making "/Wiki" "https://a.io/\x7b$1\x7d").serve docsRequests).handle (.atNewYear "")
        (.reading "/w%69ki")).reply = .response (sentTo "https://a.io/".toList) := by
  have hpath : (Request.making "/Wiki" "https://a.io/\x7b$1\x7d").path
      = "/_gadget/api/redirect".toList := by
    decide +kernel
  have hstatus : ((App.mk (.ofStore (.memory .empty)) none spellChar).handle
      (.atNewYear "Ref0000001") (.making "/Wiki" "https://a.io/\x7b$1\x7d")).reply.status?
        = some 201 := by
    decide +kernel
  obtain ⟨asked, m, -, hrecords, -, -, hreached⟩ :=
    App.created_is_reached_iff (s := .memory .empty) (Store.hasKeys_of_not_isTable rfl) none
      spellChar [] (.atNewYear "Ref0000001") rfl hpath hstatus
  have hbare : (App.mk (.ofStore (.memory .empty)) none spellChar).serve [] = App.bare := rfl
  have hmade : App.bare.after (App.bare.handle (.atNewYear "Ref0000001")
      (.making "/Wiki" "https://a.io/\x7b$1\x7d")) = App.making "/Wiki" "https://a.io/\x7b$1\x7d" :=
    rfl
  simp only [hbare, hmade] at hrecords hreached
  rw [show App.bare.catalog.store.records = [] from rfl, List.nil_append] at hrecords
  have hfields : (App.making "/Wiki" "https://a.io/\x7b$1\x7d").catalog.store.records.map
      (fun m => (m.aliasName, m.destination)) = [("wiki", "https://a.io/\x7b$1\x7d")] := by
    decide +kernel
  rw [hrecords, List.map_singleton, List.singleton_inj] at hfields
  obtain ⟨halias, hdestination⟩ := Prod.mk.inj hfields
  have hspares : App.Spares m (App.making "/Wiki" "https://a.io/\x7b$1\x7d") docsRequests := by
    simp only [docsRequests, App.Spares, and_true]
    constructor
    · rintro ⟨reference, hchoice, -⟩
      have hroute : ∀ hasUi, choose hasUi (Request.making "docs" "https://b.io").method
          (Request.making "docs" "https://b.io").path = .answer .records := by
        decide +kernel
      rw [hroute] at hchoice
      exact absurd hchoice (by simp)
    · -- what is removed is the other record
      rintro ⟨reference, hchoice, hfound, -⟩
      have hroute : ∀ hasUi, choose hasUi
          (Request.sending "DELETE" "/_gadget/api/redirect/docs" "").method
          (Request.sending "DELETE" "/_gadget/api/redirect/docs" "").path
            = .answer (.record "docs".toList) := by
        decide +kernel
      rw [hroute] at hchoice
      have hreference : "docs".toList = reference := Route.record.inj (Choice.answer.inj hchoice)
      have hdocs : (((App.making "/Wiki" "https://a.io/\x7b$1\x7d").after
          ((App.making "/Wiki" "https://a.io/\x7b$1\x7d").handle (.atNewYear "Ref0000002")
            (.making "docs" "https://b.io"))).catalog.store.find? (String.ofList "docs".toList)).map
          (·.aliasName) = some "docs" := by
        decide +kernel
      rw [hreference, hfound, Option.map_some, halias] at hdocs
      exact absurd (Option.some.inj hdocs) (by decide)
  have hwrites : Writes "/w%69ki" (namedPath "wiki" []) := by
    have hescape : Percent.AreEscapes (Utf8.encodeChar 'i') ['%', '6', '9'] :=
      .cons (by decide) .nil
    exact .plain (by decide) (.plain (by decide) (.escaped hescape
      (.plain (by decide) (.plain (by decide) .nil))))
  have hreply := ((hreached (fun other hother => absurd hother List.not_mem_nil) docsRequests
    hspares "/w%69ki" [] [] (.atNewYear "") (by rw [halias]; exact hwrites) (by decide +kernel)).mpr
      ⟨by rw [halias]; decide +kernel, by rw [halias]; decide +kernel⟩).2
  have hplace : location
      ((Link.ofDestination "wiki" "https://a.io/\x7b$1\x7d").select 0).text.toList
        = "https://a.io/".toList := by
    decide +kernel
  rw [halias, hdestination, hplace] at hreply
  exact ⟨m, hrecords, hreply⟩

/-- An alias that is made is not reached where the service tells of its state. -/
theorem App.health_hides_alias :
    (App.bare.handle (.atNewYear "Ref0000001") (.making "health" "https://a.io")).reply.status?
        = some 201
      ∧ (App.making "health" "https://a.io").catalog.store.records.map
        (fun m => (m.publicRef, m.aliasName)) = [("Ref0000001", "health")]
      ∧ ((App.making "health" "https://a.io").handle (.atNewYear "")
        (.reading "/health")).reply.status? = some 200 := by
  decide +kernel

end Web

end Shortlink
