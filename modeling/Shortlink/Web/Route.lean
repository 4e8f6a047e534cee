/-!
# Routes

Which part of the service a path belongs to. The routes are tried in order; a route claims the
paths of its form and offers some methods for them. A line end may follow a path whose form has
an end of its own.

## Contents

- `Route`: the parts of the service.
- `Route.methods?`: the methods that a route offers.
- `candidates`: the routes that claim a path, in order.
- `Choice`, `choose`: the route that answers.
-/

namespace Shortlink.Web

/-- A part of the service, with what the path says to it. -/
inductive Route where
  /-- What is generated from the description of the service, under a name. -/
  | generated (name : String)
  /-- The page that hands a sign-in back to the documentation. -/
  | signIn
  /-- The state of the service. -/
  | health
  /-- All records. -/
  | records
  /-- The record with a reference. -/
  | record (reference : List Char)
  /-- Suggestions. -/
  | search
  /-- A file of the user interface. -/
  | ui (path : List Char)
  /-- The icon that browsers ask for. -/
  | icon
  /-- What is reserved but not in use. -/
  | reserved (endpoint : List Char)
  /-- Everything else: a lookup. -/
  | gateway
deriving DecidableEq, Repr

/-- The methods that a route offers; the user interface looks at them itself. -/
def Route.methods? : Route → Option (List String)
  | generated _ | signIn => some ["GET", "HEAD"]
  | records => some ["GET", "POST"]
  | record _ => some ["GET", "PUT", "DELETE"]
  | ui _ => none
  | _ => some ["GET"]

/-- The route offers the method. -/
def Route.offers (route : Route) (method : String) : Bool :=
  match route.methods? with
  | some methods => methods.contains method
  | none => true

/-! ## Forms of paths -/

/-- The path is a given one, a line end behind it not counted. -/
def isPath (form : String) (path : List Char) : Bool :=
  path == form.toList || path == form.toList ++ ['\n']

/-- What follows a beginning that a path must have. -/
def after? (start : String) (path : List Char) : Option (List Char) :=
  start.toList.isPrefixOf? path

/-- A text of one line, the line end behind it dropped. -/
def oneLine? (s : List Char) : Option (List Char) :=
  let line := if s.getLast? = some '\n' then s.dropLast else s
  if line.contains '\n' then none else some line

/-- A text that is one part of a path. -/
def onePart? (s : List Char) : Option (List Char) :=
  if s.isEmpty || s.contains '/' then none else some s

/-- The routes that claim a path, the first in charge before the others. -/
def candidates (hasUi : Bool) (path : List Char) : List Route :=
  let fixed (form : String) (route : Route) : List Route :=
    if isPath form path then [route] else []
  fixed "/_gadget/openapi.json" (.generated "openapi.json")
    ++ fixed "/_gadget/docs" (.generated "docs")
    ++ fixed "/docs/oauth2-redirect" .signIn
    ++ fixed "/health" .health
    ++ fixed "/status" .health
    ++ fixed "/_gadget/api/redirect" .records
    ++ (((after? "/_gadget/api/redirect/" path).bind onePart?).map .record).toList
    ++ fixed "/_gadget/api/search" .search
    ++ (if hasUi then (((after? "/_gadget/ui/" path).bind oneLine?).map .ui).toList else [])
    ++ fixed "/favicon.ico" .icon
    ++ (((after? "/_gadget/" path).bind oneLine?).map .reserved).toList
    ++ (((after? "/" path).bind oneLine?).map fun _ => .gateway).toList

/-! ## The choice of a route -/

/-- What becomes of a request. -/
inductive Choice where
  /-- The route answers. -/
  | answer (route : Route)
  /-- Some route claims the path, but none that does offers the method. -/
  | wrongMethod
  /-- Another path, which differs by a slash at the end, is claimed. -/
  | elsewhere (path : List Char)
  /-- No route claims the path. -/
  | nowhere
deriving DecidableEq, Repr

/-- Drops slashes at the end. -/
def dropTrailingSlashes (path : List Char) : List Char :=
  (path.reverse.dropWhile (· == '/')).reverse

/-- The path that differs by a slash at the end. -/
def slashVariant (path : List Char) : List Char :=
  if path.getLast? = some '/' then dropTrailingSlashes path else path ++ ['/']

/-- The first route that claims the path and offers the method; if there is none, what is left. -/
def choose (hasUi : Bool) (method : String) (path : List Char) : Choice :=
  match candidates hasUi path with
  | [] =>
    if path = ['/'] then .nowhere
    else if (candidates hasUi (slashVariant path)).isEmpty then .nowhere
    else .elsewhere (slashVariant path)
  | claimed =>
    match claimed.find? (·.offers method) with
    | some route => .answer route
    | none => .wrongMethod

end Shortlink.Web
