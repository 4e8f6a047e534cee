import Shortlink.Proofs.Store.Call
import Shortlink.Proofs.Text.Escapes
import Shortlink.Proofs.Web.Routing
import Shortlink.Web.App

/-!
# What a look-up is answered

A look-up sends the client to the user interface, to a destination, or to the search for what was
looked up: `lookupLocation`. The requests that get this answer from every service are those that
read a look-up path, and no others (`lookup_answers_iff`): the four fixed paths are read by routes
of their own, and a path of several lines is claimed by no route.

## Contents

- **Locations.** `IsLocation`; `location_eq_self`, `isLocation_location`, `location_searchPage`.
- **Look-ups.** `lookupLocation`: nothing, what is found, what is missing; `reply_lookup`.
- **Other routes.** `Reply.status?`, `Reply.location?`; `App.location?_answer`.
- **Which requests are look-ups.** `lookup_answers_iff`.
-/

namespace Shortlink.Web

open Text

/-! ## Locations -/

/-- The text may stand in a response as it is. -/
def IsLocation (url : List Char) : Prop :=
  ∀ c ∈ url, c.toNat < 0x80 ∧ isLocationChar c = true

theorem IsLocation.append {front back : List Char} (hfront : IsLocation front)
    (hback : IsLocation back) : IsLocation (front ++ back) := by
  intro c hc
  rcases List.mem_append.mp hc with h | h
  · exact hfront c h
  · exact hback c h

/-- What may stand in a response is not escaped. -/
theorem location_eq_self {url : List Char} (h : IsLocation url) : location url = url :=
  Percent.encode_eq_self h

theorem isLocation_escape (b : UInt8) : IsLocation (Percent.escape b) := by
  have hdigit : ∀ n < 16, (Percent.upperHexDigit n).toNat < 0x80
      ∧ isLocationChar (Percent.upperHexDigit n) = true := by
    decide +kernel
  have hb : b.toNat < 256 := b.toNat_lt
  intro c hc
  rcases List.mem_cons.mp hc with rfl | hc
  · exact ⟨by decide, by decide⟩
  rcases List.mem_cons.mp hc with rfl | hc
  · exact hdigit _ (by omega)
  · rw [List.mem_singleton.mp hc]
    exact hdigit _ (by omega)

/-- A character that may stand in a response, or its escapes. -/
theorem isLocation_encodeChar {safe : Char → Bool}
    (hsafe : ∀ c, safe c = true → isLocationChar c = true) (c : Char) :
    IsLocation (Percent.encodeChar safe c) := by
  intro d hd
  unfold Percent.encodeChar at hd
  split at hd
  · next hplain =>
      rw [Bool.and_eq_true, decide_eq_true_eq] at hplain
      rw [List.mem_singleton.mp hd]
      exact ⟨hplain.1, hsafe c hplain.2⟩
  · obtain ⟨b, -, hb⟩ := List.mem_flatMap.mp hd
    exact isLocation_escape b d hb

/-- A text in the form of a query may stand in a response. -/
theorem isLocation_encodeForm (text : List Char) : IsLocation (Percent.encodeForm text) := by
  intro c hc
  obtain ⟨d, -, hd⟩ := List.mem_flatMap.mp hc
  split at hd
  · rw [List.mem_singleton.mp hd]
    exact ⟨by decide, by decide⟩
  · refine isLocation_encodeChar (fun c hsafe => ?_) d c hd
    rw [isLocationChar, hsafe, Bool.true_or]

/-- What is written into a response may stand there. -/
theorem isLocation_location (url : List Char) : IsLocation (location url) := by
  intro c hc
  obtain ⟨d, -, hd⟩ := List.mem_flatMap.mp hc
  exact isLocation_encodeChar (fun _ hsafe => hsafe) d c hd

theorem isLocation_of_all {url : List Char}
    (h : url.all (fun c => decide (c.toNat < 0x80) && isLocationChar c) = true) :
    IsLocation url := by
  intro c hc
  have hboth := List.all_eq_true.mp h c hc
  rwa [Bool.and_eq_true, decide_eq_true_eq] at hboth

theorem isLocation_uiLocation : IsLocation uiLocation.toList :=
  isLocation_of_all (by decide +kernel)

/-- **The page that searches for a text stands in a response as it is.** -/
theorem location_searchPage (text : List Char) : location (searchPage text) = searchPage text := by
  have hname : IsLocation "?search=".toList := isLocation_of_all (by decide +kernel)
  exact location_eq_self
    ((isLocation_uiLocation.append hname).append (isLocation_encodeForm text))

/-! ## Look-ups -/

/-- **Where a look-up sends the client**: to the user interface if nothing is looked up, to the
destination if there is one, and otherwise to the search. -/
def lookupLocation (c : Catalog) (path : List Char) : List Char :=
  if path.isEmpty then uiLocation.toList
  else
    match (c.resolve (String.ofList path)).answer with
    | some destination => location destination.toList
    | none => searchPage path

theorem lookupLocation_nil (c : Catalog) : lookupLocation c [] = uiLocation.toList :=
  rfl

section

variable {c : Catalog} {path : List Char}

theorem lookupLocation_of_found {destination : String} (hne : path ≠ [])
    (hfound : (c.resolve (String.ofList path)).answer = some destination) :
    lookupLocation c path = location destination.toList := by
  simp [lookupLocation, hne, hfound]

theorem lookupLocation_of_missing (hne : path ≠ [])
    (hmissing : (c.resolve (String.ofList path)).answer = none) :
    lookupLocation c path = searchPage path := by
  simp [lookupLocation, hne, hmissing]

end

/-- The response that sends the client to a place for the time being. -/
def sentTo (place : List Char) : Response :=
  { status := 307, location := some (String.ofList place) }

/-- **A look-up is answered by where it sends the client.** -/
theorem reply_lookup (c : Catalog) (r : Request) :
    (lookup c r).reply = .response (sentTo (lookupLocation c r.lookup)) := by
  unfold lookup lookupLocation
  dsimp only
  by_cases hempty : r.lookup.isEmpty = true
  · rw [if_pos hempty, if_pos hempty]
    show Reply.response (sentTo (location uiLocation.toList)) = _
    rw [location_eq_self isLocation_uiLocation]
  · rw [if_neg hempty, if_neg hempty]
    cases (c.resolve (String.ofList r.lookup)).answer with
    | some destination => rfl
    | none =>
        show Reply.response (sentTo (location (searchPage r.lookup))) = _
        rw [location_searchPage]

/-! ## Other routes -/

/-- The status of a reply that is a response. -/
def Reply.status? : Reply → Option Nat
  | .response r => some r.status
  | .crash _ => none

/-- Where a reply sends the client, if it does. -/
def Reply.location? : Reply → Option String
  | .response r => r.location
  | .crash _ => none

@[simp] theorem Reply.location?_showing (status : Nat) (value : Json) :
    (Reply.showing status value).location? = none := by
  unfold showing
  split <;> rfl

theorem location?_storeFailure (r : Request) (c : Catalog) (e : StoreError) :
    (storeFailure r c e).reply.location? = none := by
  unfold storeFailure
  split <;> rfl

theorem location?_showRecord (c : Catalog) (status : Nat) (r : Redirect)
    (notices : List Log.Notice) : (showRecord c status r notices).reply.location? = none := by
  unfold showRecord
  split
  · exact Reply.location?_showing _ _
  · rfl

theorem location?_list (c : Catalog) (r : Request) : (list c r).reply.location? = none := by
  unfold list
  split
  · rfl
  · split
    · exact location?_storeFailure _ _ _
    · split
      · rfl
      · exact Reply.location?_showing _ _

theorem location?_get (c : Catalog) (reference : String) :
    (get c reference).reply.location? = none := by
  unfold get
  split
  · exact location?_showRecord _ _ _ _
  · rfl

theorem location?_search (spelling : Spelling) (c : Catalog) (r : Request) :
    (search spelling c r).reply.location? = none := by
  unfold search
  dsimp only
  split
  · rfl
  · split
    · exact location?_storeFailure _ _ _
    · rfl

/-- **Without a user interface, no route but that of the look-ups sends a reader anywhere.** -/
theorem App.location?_answer {app : App} (hsite : app.site = none) (fresh : Fresh) {r : Request}
    (hget : r.method = "GET") {route : Route} (hroute : route ≠ .gateway) :
    (app.answer fresh r route).reply.location? = none := by
  unfold App.answer
  cases route with
  | generated name => simp [hget, Outcome.still, Reply.location?]
  | signIn => simp [hget, Outcome.still, Reply.location?]
  | health => rfl
  | records =>
      simp only [hget, if_neg (show ¬ "GET" = "POST" by decide)]
      exact location?_list _ _
  | record reference =>
      simp only [hget, if_neg (show ¬ "GET" = "PUT" by decide),
        if_neg (show ¬ "GET" = "DELETE" by decide)]
      exact location?_get _ _
  | search => exact location?_search _ _ _
  | ui path =>
      rw [hsite]
      rfl
  | icon => rfl
  | reserved endpoint => rfl
  | gateway => exact absurd rfl hroute

/-! ## Which requests are look-ups -/

/-- The service of an empty memory, without a user interface. -/
def App.bare : App :=
  ⟨.ofStore (.memory .empty), none, spellChar⟩

/-- Where nothing is stored, nothing leads away from the service. -/
theorem head?_lookupLocation_bare (path : List Char) :
    (lookupLocation App.bare.catalog path).head? = some '/' := by
  unfold lookupLocation
  split
  · rfl
  · have hnone : (App.bare.catalog.resolve (String.ofList path)).answer = none := by
      unfold Catalog.resolve
      dsimp only
      split <;> rfl
    rw [hnone]
    rfl

/-- The service itself is named by a whole address. -/
theorem head?_location_selfUrl (r : Request) (path : List Char) :
    (location (selfUrl r path)).head? = some 'h' := by
  unfold selfUrl
  rw [String.toList_append]
  rfl

/-- The request of a client that reads a target. -/
def Request.reading (target : String) : Request :=
  .ofTarget "GET" target [] [] true

theorem App.handle_of_answer {app : App} {r : Request} {route : Route}
    (h : choose app.site.isSome r.method r.path = .answer route) (fresh : Fresh) :
    app.handle fresh r = app.answer fresh r route := by
  rw [App.handle, h]

/-- Whoever is answered by the look-ups is sent to the place of the look-up. -/
theorem App.reply_of_gateway {app : App} {r : Request}
    (h : choose app.site.isSome r.method r.path = .answer .gateway) (fresh : Fresh) :
    (app.handle fresh r).reply = .response (sentTo (lookupLocation app.catalog r.lookup)) := by
  rw [App.handle_of_answer h]
  exact reply_lookup app.catalog r

/-- Whoever reads a look-up path is answered by them. -/
theorem App.reply_of_isLookupPath {r : Request} (hget : r.method = "GET")
    (hpath : IsLookupPath r.path) (app : App) (fresh : Fresh) :
    (app.handle fresh r).reply = .response (sentTo (lookupLocation app.catalog r.lookup)) := by
  apply App.reply_of_gateway
  rw [hget]
  exact choose_get_of_isLookupPath hpath _

/-- **The requests that are look-ups.** Whoever reads a look-up path is sent to the place of the
look-up, whatever is stored; whoever reads another path is not. -/
theorem lookup_answers_iff {r : Request} (hget : r.method = "GET") :
    (∀ (app : App) (fresh : Fresh),
      (app.handle fresh r).reply = .response (sentTo (lookupLocation app.catalog r.lookup)))
      ↔ IsLookupPath r.path := by
  constructor
  · intro h
    refine Classical.byContradiction fun hpath => ?_
    have hlocation : (App.bare.handle (.atNewYear "") r).reply.location?
        = some (String.ofList (lookupLocation App.bare.catalog r.lookup)) := by
      rw [h App.bare (.atNewYear "")]
      rfl
    unfold App.handle at hlocation
    rw [hget] at hlocation
    rcases choose_get_of_not_isLookupPath hpath App.bare.site.isSome with
      ⟨route, hroute, hchoice⟩ | hchoice | ⟨other, hchoice⟩
    · rw [hchoice] at hlocation
      dsimp only at hlocation
      rw [App.location?_answer rfl _ hget hroute] at hlocation
      exact absurd hlocation (by simp)
    · rw [hchoice] at hlocation
      exact absurd hlocation (by simp [Outcome.still, Response.notFound, Response.message,
        Response.ofJson, Reply.location?])
    · -- the whole address of another path begins otherwise
      rw [hchoice] at hlocation
      have heq : location (selfUrl r other) = lookupLocation App.bare.catalog r.lookup :=
        String.ofList_injective (Option.some.inj hlocation)
      have hhead := head?_location_selfUrl r other
      rw [heq, head?_lookupLocation_bare] at hhead
      exact absurd hhead (by simp)
  · intro hpath app fresh
    exact App.reply_of_isLookupPath hget hpath app fresh

/-- A line end at the end of a path is looked up with the rest. -/
theorem lookup_answers_line_end :
    (Request.reading "/wiki%20x%0A").method = "GET"
      ∧ ∀ (app : App) (fresh : Fresh), (app.handle fresh (.reading "/wiki%20x%0A")).reply
        = .response (sentTo (lookupLocation app.catalog "wiki x%0A".toList)) := by
  have hlookup : (Request.reading "/wiki%20x%0A").lookup = "wiki x%0A".toList := by decide +kernel
  have hpath : IsLookupPath (Request.reading "/wiki%20x%0A").path :=
    ⟨by decide +kernel, by decide +kernel, by decide +kernel, by decide +kernel⟩
  refine ⟨rfl, fun app fresh => ?_⟩
  have hreply := (lookup_answers_iff rfl).mpr hpath app fresh
  rwa [hlookup] at hreply

/-- A path of two lines is found nowhere, though it is neither reserved nor fixed. -/
theorem lookup_of_two_lines :
    (Request.reading "/a%0Ab").path = "/a\nb".toList
      ∧ (App.bare.handle (.atNewYear "") (.reading "/a%0Ab")).reply = .response .notFound
      ∧ lookupLocation App.bare.catalog (Request.reading "/a%0Ab").lookup
        = "/_gadget/ui?search=a%250Ab".toList := by
  have hchoice : choose false "GET" (Request.reading "/a%0Ab").path = .nowhere := by decide +kernel
  refine ⟨by decide +kernel, ?_, by decide +kernel⟩
  unfold App.handle
  rw [show (Request.reading "/a%0Ab").method = "GET" from rfl,
    show App.bare.site.isSome = false from rfl, hchoice]
  rfl

end Shortlink.Web
