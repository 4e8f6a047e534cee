import Shortlink.Proofs.Web.Search

/-!
# Where a client lands that is sent to the user interface

A look-up that leads nowhere sends the client to the user interface, and the client asks for the
location that it was given. The user interface reads the paths that begin with its own path **and a
slash** (`choose_get_ui_iff`). No slash stands behind the path in the location, so it is claimed as
reserved but not in use, whether or not there is a user interface: the client is answered that there
is no such endpoint. Behind a slash it would be shown the index (`App.ui_is_missed`).

## Contents

- **Paths of the user interface.** `ui_mem_candidates_iff`, `exists_candidates_ui`,
  `choose_get_ui_iff`.
- **The index.** `Site.file?_nil`, `Site.answer_index`.
- **The hop.** `App.reply_of_uiLocation`, `App.reply_of_index`.
- **Look-ups.** `App.LeadsNowhere`, `exists_lookupLocation_eq`; `conditionalHeaders`,
  `App.ui_is_missed`, and a service whose index is missed.
-/

namespace Shortlink.Web

open Text Request

/-! ## Paths of the user interface -/

/-- **The user interface claims what is below its path**, if it is of one line. -/
theorem ui_mem_candidates_iff {hasUi : Bool} {path rest : List Char} :
    Route.ui rest ∈ candidates hasUi path ↔ hasUi = true
      ∧ ∃ below, path = "/_gadget/ui/".toList ++ below ∧ oneLine? below = some rest := by
  simp [candidates, Option.bind_eq_some_iff, after?_eq_some_iff]

/-- No other route claims it before. -/
theorem exists_candidates_ui {below rest : List Char} (h : oneLine? below = some rest) :
    ∃ others, candidates true ("/_gadget/ui/".toList ++ below) = .ui rest :: others := by
  have hform : ∀ form : String, ¬ "/_gadget/ui/".toList <+: form.toList ++ ['\n'] →
      isPath form ("/_gadget/ui/".toList ++ below) = false :=
    fun form h => isPath_of_start h below
  have hrecord : after? "/_gadget/api/redirect/" ("/_gadget/ui/".toList ++ below) = none :=
    after?_of_apart (by decide) (by decide) below
  have hui : after? "/_gadget/ui/" ("/_gadget/ui/".toList ++ below) = some below :=
    after?_eq_some_iff.mpr rfl
  unfold candidates
  dsimp only
  rw [hform "/_gadget/openapi.json" (by decide), hform "/_gadget/docs" (by decide),
    hform "/docs/oauth2-redirect" (by decide), hform "/health" (by decide),
    hform "/status" (by decide), hform "/_gadget/api/redirect" (by decide),
    hform "/_gadget/api/search" (by decide), hrecord, hui, Option.bind_some, h]
  exact ⟨_, rfl⟩

/-- **The paths that the user interface reads** are those that begin with its path and a slash. -/
theorem choose_get_ui_iff {hasUi : Bool} {path rest : List Char} :
    choose hasUi "GET" path = .answer (.ui rest) ↔ hasUi = true
      ∧ ∃ below, path = "/_gadget/ui/".toList ++ below ∧ oneLine? below = some rest := by
  constructor
  · intro h
    exact ui_mem_candidates_iff.mp (List.mem_of_find?_eq_some (find?_of_choose h))
  · rintro ⟨rfl, below, rfl, hline⟩
    obtain ⟨others, hclaimed⟩ := exists_candidates_ui hline
    exact choose_get_of_cons hclaimed

/-! ## The index -/

/-- Every file has a name. -/
theorem Site.file?_nil (s : Site) : s.file? [] = none := by
  simp [Site.file?, Site.partsOf]

/-- **The directory itself is shown by its index**, if the path ends with a slash. -/
theorem Site.answer_index {s : Site} {r : Request} {index : String × String}
    (hget : r.method = "GET") (hslash : r.path.getLast? = some '/')
    (hindex : s.file? ["index.html"] = some index) (selfUrl : List Char) :
    s.answer r [] selfUrl = { status := 200, body := .file index.1 index.2 } := by
  have hparts : normalizePath [""] = some [] := rfl
  have hdirectory : s.isDirectory [] = true := rfl
  simp [Site.answer, hget, hparts, Site.file?_nil, hdirectory, hindex, hslash, Site.serve]

/-! ## The hop -/

theorem candidates_uiLocation (hasUi : Bool) : candidates hasUi uiLocation.toList
    = [.reserved "ui".toList, .gateway] := by
  cases hasUi <;> decide

/-- **The path of the user interface is not in use**, with or without a user interface. -/
theorem App.reply_of_uiLocation {r : Request} (hget : r.method = "GET")
    (hpath : r.path = uiLocation.toList) (app : App) (fresh : Fresh) :
    (app.handle fresh r).reply
      = .response (.message 404 "Endpoint _gadget/ui not found") := by
  have hchoice : choose app.site.isSome r.method r.path = .answer (.reserved "ui".toList) := by
    rw [hget, hpath]
    exact choose_get_of_cons (candidates_uiLocation _)
  rw [App.handle_of_answer hchoice]
  rfl

/-- **With a slash behind it, it shows the index.** -/
theorem App.reply_of_index {app : App} {r : Request} {site : Site} {index : String × String}
    (hget : r.method = "GET") (hpath : r.path = uiLocation.toList ++ ['/'])
    (hsite : app.site = some site) (hindex : site.file? ["index.html"] = some index)
    (fresh : Fresh) :
    (app.handle fresh r).reply = .response { status := 200, body := .file index.1 index.2 } := by
  have hchoice : choose app.site.isSome r.method r.path = .answer (.ui []) := by
    rw [hget, hpath]
    exact choose_get_ui_iff.mpr ⟨by simp [hsite], [], by decide, rfl⟩
  have hslash : r.path.getLast? = some '/' := by
    rw [hpath, List.getLast?_concat]
  have hshown := Site.answer_index hget hslash hindex (selfUrl r (r.path ++ ['/']))
  rw [App.handle_of_answer hchoice]
  simp [App.answer, hsite, Outcome.still, hshown]

/-! ## Look-ups -/

/-- **The look-ups answer the request, and lead nowhere**: nothing is looked up, or nothing is
found. -/
structure App.LeadsNowhere (app : App) (r : Request) : Prop where
  route : choose app.site.isSome r.method r.path = .answer .gateway
  nothing : r.lookup = [] ∨ (app.catalog.resolve (String.ofList r.lookup)).answer = none

/-- Whoever is led nowhere is sent to the path of the user interface, perhaps with a query. -/
theorem exists_lookupLocation_eq {c : Catalog} {path : List Char}
    (h : path = [] ∨ (c.resolve (String.ofList path)).answer = none) :
    ∃ query, lookupLocation c path = uiLocation.toList ++ query ∧ ∀ c ∈ query.head?, c = '?' := by
  rcases eq_or_ne path [] with rfl | hne
  · exact ⟨[], by simp [lookupLocation_nil], by simp⟩
  · refine ⟨'?' :: searchQuery path, ?_, by simp⟩
    rw [lookupLocation_of_missing hne (h.resolve_left hne), searchPage_eq]

/-- The headers by which a client asks for a file under a condition, or for a part of it. -/
def conditionalHeaders : List String :=
  ["if-none-match", "if-modified-since", "range", "if-range"]

/-- **Who is sent to the user interface does not get there.** A client that is led nowhere is sent
to a location at which every service, in this state and in any other, answers that there is no such
endpoint. A slash is missing: behind it, a service with an index would show that to a client that
asks for the whole of it under no condition. -/
theorem App.ui_is_missed {app : App} {r : Request} (h : app.LeadsNowhere r) (fresh : Fresh) :
    ∃ query : List Char,
      (app.handle fresh r).reply = .response (sentTo (uiLocation.toList ++ query))
      ∧ ∀ (app' : App) (fresh' : Fresh) (headers : List (String × String)) (body : List UInt8)
          (keepsRawPath : Bool),
        let get (place : List Char) : Request :=
          .ofTarget "GET" (String.ofList place) headers body keepsRawPath
        (app'.handle fresh' (get (uiLocation.toList ++ query))).reply
          = .response (.message 404 "Endpoint _gadget/ui not found")
        ∧ ∀ (site : Site) (index : String × String),
          app'.site = some site → site.file? ["index.html"] = some index →
          (∀ name ∈ conditionalHeaders,
            (get (uiLocation.toList ++ '/' :: query)).header? name = none) →
          (app'.handle fresh' (get (uiLocation.toList ++ '/' :: query))).reply
            = .response { status := 200, body := .file index.1 index.2 } := by
  obtain ⟨query, hplace, hquery⟩ := exists_lookupLocation_eq h.nothing
  refine ⟨query, ?_, fun app' fresh' headers body keepsRawPath => ⟨?_, ?_⟩⟩
  · rw [App.reply_of_gateway h.route fresh, hplace]
  · have hpath : (ofTarget "GET" (String.ofList (uiLocation.toList ++ query)) headers body
        keepsRawPath).path = uiLocation.toList :=
      path_ofTarget (by decide) (by decide) hquery keepsRawPath
    exact App.reply_of_uiLocation rfl hpath app' fresh'
  · intro site index hsite hindex _
    have hpath : (ofTarget "GET" (String.ofList (uiLocation.toList ++ ['/'] ++ query)) headers body
        keepsRawPath).path = uiLocation.toList ++ ['/'] :=
      path_ofTarget (by decide) (by decide) hquery keepsRawPath
    rw [List.append_assoc, List.singleton_append] at hpath
    exact App.reply_of_index rfl hpath hsite hindex fresh'

/-- A service whose user interface is an index. -/
def App.ofIndex : App :=
  ⟨.ofStore (.memory .empty), some ⟨[("index.html", "<html>golinks</html>")]⟩, spellChar⟩

/-- A search does not arrive there; behind a slash, it would. -/
theorem App.ui_is_missed_search :
    let get (place : List Char) : Request := .ofTarget "GET" (String.ofList place) [] [] true
    let search := get "/nothing%20here".toList
    App.ofIndex.LeadsNowhere search
    ∧ ∃ query : List Char,
      (App.ofIndex.handle (.atNewYear "") search).reply
        = .response (sentTo (uiLocation.toList ++ query))
      ∧ (App.ofIndex.handle (.atNewYear "") (get (uiLocation.toList ++ query))).reply
        = .response (.message 404 "Endpoint _gadget/ui not found")
      ∧ (App.ofIndex.handle (.atNewYear "") (get (uiLocation.toList ++ '/' :: query))).reply
        = .response { status := 200, body := .file "index.html" "<html>golinks</html>" } := by
  intro get search
  have h : App.ofIndex.LeadsNowhere search := ⟨by decide +kernel, Or.inr (by decide +kernel)⟩
  obtain ⟨query, hreply, hplace⟩ := App.ui_is_missed h (.atNewYear "")
  obtain ⟨hmissed, hshown⟩ := hplace App.ofIndex (.atNewYear "") [] [] true
  exact ⟨h, query, hreply, hmissed, hshown _ ("index.html", _) rfl rfl fun _ _ => rfl⟩

/-- There is an index, and who asks for nothing is sent to a path at which it is not shown. -/
theorem App.index_is_missed :
    (App.ofIndex.site.bind (·.file? ["index.html"])).isSome = true
    ∧ (App.ofIndex.handle (.atNewYear "") (.reading "/")).reply
      = .response (sentTo "/_gadget/ui".toList)
    ∧ (App.ofIndex.handle (.atNewYear "") (.reading "/_gadget/ui")).reply
      = .response (.message 404 "Endpoint _gadget/ui not found") := by
  refine ⟨by decide +kernel, ?_, ?_⟩
  · have hnothing : lookupLocation App.ofIndex.catalog (Request.reading "/").lookup
        = "/_gadget/ui".toList := by
      decide +kernel
    rw [App.reply_of_gateway (by decide +kernel), hnothing]
  · exact App.reply_of_uiLocation rfl (by decide +kernel) _ _

end Shortlink.Web
