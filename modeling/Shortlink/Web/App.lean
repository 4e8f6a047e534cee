import Shortlink.Catalog
import Shortlink.Log.Level
import Shortlink.Suggestion
import Shortlink.Text.Quoted
import Shortlink.Url.Split
import Shortlink.Version
import Shortlink.Web.Route
import Shortlink.Web.SignInPage
import Shortlink.Web.Site
import Shortlink.Web.Validation

/-!
# The service

The service answers requests from a catalog: it manages records, suggests them, and sends a client
that looks an alias up to its destination.

## Contents

- `App`: the catalog, the user interface and how texts are spelled for comparison.
- `Outcome`: what a request leads to.
- The handlers of the routes: `health`, `list`, `create`, `get`, `update`, `delete`, `search`,
  `lookup`.
- `App.handle`: a request from routing to response.
-/

namespace Shortlink.Web

open Text

/-- A service. -/
structure App where
  catalog : Catalog
  site : Option Site
  /-- How texts are spelled in ASCII where they are compared. -/
  spelling : Spelling

/-- The reply to a request, the catalog after it, and what there is to report. -/
structure Outcome where
  reply : Reply
  catalog : Catalog
  notices : List Log.Notice

namespace Outcome

/-- A response that changes nothing. -/
def still (c : Catalog) (r : Response) : Outcome :=
  ⟨.response r, c, []⟩

end Outcome

/-- Who writes if no header tells. -/
def unknownUser : String := "unknown"

/-- The headers that tell who writes, the first in charge before the other. -/
def userHeaders : List String := ["token-claim-sub", "x-amzn-oidc-identity"]

/-- Who sends a request: the first header that says something. -/
def Request.user (r : Request) : String :=
  ((userHeaders.filterMap r.header?).find? fun v => !v.isEmpty).getD unknownUser

/-! ## Reports -/

/-- The response to a request that the store refuses for reasons of its own, with a report. Pages
beyond the range of a table, numbers of too many digits and what cannot be encoded are not
foreseen. -/
def storeFailure (r : Request) (c : Catalog) (e : StoreError) : Outcome :=
  match e with
  | .beyondRange | .longNumber | .unencodable => ⟨.crash (.store e), c, []⟩
  | e =>
    ⟨.response (.message 500 e.message), c,
      [⟨.error, "golinks.api.app",
        "[API] " ++ r.method ++ " " ++ String.ofList r.writtenPath ++ " failed: " ++ e.message⟩]⟩

/-! ## Records as clients see them -/

/-- The record as it is shown, unless its writer cannot be. -/
def shown? (r : Redirect) : Option Json :=
  let record (writer : Json) : Json :=
    .obj [("alias", .str r.aliasName), ("destination", .ofLoose r.written), ("created_by", writer)]
  if r.createdBy.isFalsy then some (record .null)
  else
    match r.createdBy with
    | .str name => some (record (.obj [("username", .str name)]))
    | .torn name => some (record (.obj [("username", .torn name)]))
    | _ => none

/-- A response that shows a record. -/
def showRecord (c : Catalog) (status : Nat) (r : Redirect) (notices : List Log.Notice) : Outcome :=
  match shown? r with
  | some v => ⟨.showing status v, c, notices⟩
  | none => ⟨.crash .writer, c, notices⟩

/-! ## Handlers -/

/-- Tells that the service works, and on what. -/
def health (c : Catalog) : Response :=
  .ofJson 200 (.obj [("status", .str "healthy"), ("version", .str version),
    ("backend", .str c.store.label), ("compiled_redirects", .int c.cachedCount)])

/-- Lists a page of the records. -/
def list (c : Catalog) (r : Request) : Outcome :=
  match Checked.both (wholeParameter "page" 0 0 none r.query)
      (wholeParameter "size" 50 1 (some 10000) r.query) with
  | .error issues => .still c (refusal issues)
  | .ok (page, size) =>
    match c.page page size with
    | .error e => storeFailure r c e
    | .ok records =>
      match records.mapM shown? with
      | none => ⟨.crash .writer, c, []⟩
      | some items =>
        let total := c.count
        let shown := Json.obj [("redirects", .arr items),
          ("page", .obj [("total", .int total), ("has_more", .bool (hasMore page size total))])]
        ⟨.showing 200 shown, c, []⟩

/-- Refuses a destination that is no URL. -/
def checkDestination (destination : Loose) : Except Reply Unit :=
  if Url.isDestination destination.text then .ok ()
  else if destination.isWhole then
    .error (.response (.message 400 ("Destination " ++ destination.text ++ " is not a URL")))
  else .error (.crash .tornQuote)

/-- Refuses an alias that no path can reach. -/
def checkAlias (aliasName : String) : Except Reply Unit :=
  if Alias.isRoutable aliasName then .ok ()
  else
    .error (.response (.message 400 ("Alias " ++ String.ofList (quoted aliasName.toList)
      ++ " must be non-empty and contain no whitespace")))

/-- What a client asks to be made, once it has passed all checks. -/
def checkedNew (r : Request) : Except Reply NewRedirect := do
  let asked ← newRedirect r
  checkAlias asked.aliasName
  checkDestination asked.written
  return asked

/-- What a client asks to be changed, once it has passed all checks. -/
def checkedChange (r : Request) : Except Reply ChangedRedirect := do
  let asked ← changedRedirect r
  checkDestination asked.written
  return asked

/-- Makes a record. -/
def create (c : Catalog) (fresh : Fresh) (r : Request) : Outcome :=
  match checkedNew r with
  | .error reply => ⟨reply, c, []⟩
  | .ok asked =>
    let o := c.create fresh asked.aliasName asked.written (some r.user)
    match o.answer with
    | .ok record => showRecord o.catalog 201 record (Catalog.compileNotices o.warnings)
    | .error (.taken aliasName) =>
      .still o.catalog (.message 409 (StoreError.taken aliasName).message)
    | .error (.clash aliasName) =>
      .still o.catalog (.message 409 (StoreError.clash aliasName).message)
    | .error e => storeFailure r o.catalog e

/-- Shows the record that a reference names. -/
def get (c : Catalog) (reference : String) : Outcome :=
  match c.get? reference with
  | some record => showRecord c 200 record []
  | none => .still c (.message 404 (StoreError.missing reference).message)

/-- Gives the record that a reference names another destination. -/
def update (c : Catalog) (r : Request) (reference : String) : Outcome :=
  match checkedChange r with
  | .error reply => ⟨reply, c, []⟩
  | .ok asked =>
    let o := c.update reference asked.written (some r.user)
    match o.answer with
    | .ok _ => ⟨.response (.message 200 "ok"), o.catalog, Catalog.compileNotices o.warnings⟩
    | .error (.missing name) => .still o.catalog (.message 404 (StoreError.missing name).message)
    | .error e => storeFailure r o.catalog e

/-- Removes the record that a reference names. -/
def delete (c : Catalog) (r : Request) (reference : String) : Outcome :=
  let o := c.delete reference
  match o.answer with
  | .ok _ => .still o.catalog (.message 200 "ok")
  | .error (.missing name) => .still o.catalog (.message 404 (StoreError.missing name).message)
  | .error e => storeFailure r o.catalog e

/-- A suggestion as it is shown. -/
def shownSuggestion (s : Suggestion) : Json :=
  .obj [("alias", .str s.aliasName), ("destination", .str s.destination),
    ("score", .real (Binary64.ofRat s.score))]

/-- The page of records that suggestions are chosen from: the first one of full size. -/
def searchedPage : Int × Int := (0, 10000)

/-- Suggests records. -/
def search (spelling : Spelling) (c : Catalog) (r : Request) : Outcome :=
  let asked :=
    Checked.both (textParameter "q" r.query)
      (Checked.both (wholeParameter "limit" defaultLimit 1 (some 100) r.query)
        (thresholdParameter "threshold" defaultThreshold 0 100 r.query))
  match asked with
  | .error issues => .still c (refusal issues)
  | .ok (q, limit, threshold) =>
    match c.page searchedPage.1 searchedPage.2 with
    | .error e => storeFailure r c e
    | .ok records =>
      .still c (.ofJson 200 (.obj [("query", .str q),
        ("suggestions", .arr ((suggest spelling q records limit threshold).map shownSuggestion))]))

/-- Sends the client to the destination of what it looks up, or to the search for it. -/
def lookup (c : Catalog) (r : Request) : Outcome :=
  let path := r.lookup
  if path.isEmpty then .still c (.redirect uiLocation.toList)
  else
    let o := c.resolve (String.ofList path)
    let url :=
      match o.answer with
      | some destination => destination.toList
      | none => searchPage path
    ⟨.response (.redirect url), o.catalog, Catalog.compileNotices o.warnings⟩

/-! ## Dispatch -/

/-- The address of a path of the service itself, under the name by which the client knows it. -/
def selfUrl (r : Request) (path : List Char) : List Char :=
  ("http://" ++ (r.header? "host").getD "localhost").toList ++ quotePath path
    ++ (if r.query.isEmpty then [] else '?' :: r.query)

/-- The answer of a route. -/
def App.answer (app : App) (fresh : Fresh) (r : Request) (route : Route) : Outcome :=
  let c := app.catalog
  match route with
  | .generated name =>
    .still c (if r.method = "HEAD" then { status := 200 }
      else { status := 200, body := .generated name })
  | .signIn =>
    .still c (if r.method = "HEAD" then { status := 200 }
      else { status := 200, body := .text signInPage })
  | .health => .still c (health c)
  | .records => if r.method = "POST" then create c fresh r else list c r
  | .record reference =>
    let reference := String.ofList reference
    if r.method = "PUT" then update c r reference
    else if r.method = "DELETE" then delete c r reference
    else get c reference
  | .search => search app.spelling c r
  | .ui path =>
    match app.site with
    | none => .still c .notFound
    | some site =>
      if path.contains '\x00' then ⟨.crash .fileName, c, []⟩
      else .still c (site.answer r path (selfUrl r (r.path ++ ['/'])))
  | .icon => .still c { status := 404 }
  | .reserved endpoint =>
    .still c (.message 404 ("Endpoint _gadget/" ++ String.ofList endpoint ++ " not found"))
  | .gateway => lookup c r

/-- Answers a request. -/
def App.handle (app : App) (fresh : Fresh) (r : Request) : Outcome :=
  match choose app.site.isSome r.method r.path with
  | .answer route => app.answer fresh r route
  | .wrongMethod => .still app.catalog .methodNotAllowed
  | .elsewhere path => .still app.catalog (.redirect (selfUrl r path))
  | .nowhere => .still app.catalog .notFound

/-- The service after a request. -/
def App.after (app : App) (o : Outcome) : App :=
  { app with catalog := o.catalog }

end Shortlink.Web
