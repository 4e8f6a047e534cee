import Shortlink.Json.Basic
import Shortlink.Store.Basic
import Shortlink.Text.Utf8
import Shortlink.Web.Location

/-!
# Requests and responses

## Contents

- `Request`, `Request.ofTarget`: what a client asks for.
- `Request.header?`, `Request.writtenPath`, `Request.lookup`.
- `Body`, `Response`: what it is answered.
- `Crash`, `Reply`: what comes of a request, be it a response or not; `Reply.showing`.
-/

namespace Shortlink.Web

open Text

/-- A request. -/
structure Request where
  method : String
  /-- The path with its escapes resolved. -/
  path : List Char
  /-- The path as the client wrote it, if the server passes it on. -/
  rawPath : Option (List Char)
  query : List Char
  /-- Names, in lower case, and values. -/
  headers : List (String × String)
  body : List UInt8

namespace Request

/-- The request for a target, which a question mark divides into path and query. -/
def ofTarget (method target : String) (headers : List (String × String)) (body : List UInt8)
    (keepsRawPath : Bool) : Request :=
  let raw := target.toList.takeWhile (· != '?')
  { method := method
    path := Percent.decodeLossy raw
    rawPath := if keepsRawPath && !raw.isEmpty then some raw else none
    query := (target.toList.dropWhile (· != '?')).drop 1
    headers := headers.map fun (name, value) =>
      (String.ofList (name.toList.map Char.toLower), value)
    body := body }

/-- The first value of a header. -/
def header? (r : Request) (name : String) : Option String :=
  r.headers.lookup name

/-- The path in its written form. -/
def writtenPath (r : Request) : List Char :=
  quotePath r.path

/-- Writes each `%20` as a space. -/
def spaced : List Char → List Char
  | '%' :: '2' :: '0' :: rest => ' ' :: spaced rest
  | c :: rest => c :: spaced rest
  | [] => []

/-- What is looked up: the path as the client wrote it, without the slash in front and with
`%20` as spaces. -/
def lookup (r : Request) : List Char :=
  let path := r.rawPath.getD r.writtenPath
  spaced (if path.head? = some '/' then path.drop 1 else path)

end Request

/-- The content of a response. -/
inductive Body where
  | empty
  | json (value : Json)
  | text (content : String)
  /-- The content of a file with the given name. -/
  | file (name content : String)
  /-- What is generated under a name; its content is left open. -/
  | generated (name : String)

/-- A response. -/
structure Response where
  status : Nat
  location : Option String := none
  body : Body := .empty

namespace Response

/-- A response with a value. -/
def ofJson (status : Nat) (value : Json) : Response :=
  { status := status, body := .json value }

/-- A response with a message. -/
def message (status : Nat) (text : String) : Response :=
  ofJson status (.obj [("message", .str text)])

/-- A response that sends the client elsewhere for the time being. -/
def redirect (url : List Char) : Response :=
  { status := 307, location := some (String.ofList (Web.location url)) }

/-- The response to what does not exist. -/
def notFound : Response := message 404 "Not Found"

/-- The response to a method that is not offered. -/
def methodNotAllowed : Response := message 405 "Method Not Allowed"

end Response

/-- Why a request is answered by no response of the service. -/
inductive Crash where
  /-- A store gives up. -/
  | store (e : StoreError)
  /-- A record has a writer that cannot be shown. -/
  | writer
  /-- What is to be shown of records is no text. -/
  | tornRecord
  /-- What a refusal quotes is no text. -/
  | tornQuote
  /-- A file is asked for by a name that no file can have. -/
  | fileName
deriving DecidableEq, Repr

/-- What a request leads to. -/
inductive Reply where
  | response (r : Response)
  | crash (c : Crash)

/-- A response that shows records, as long as all in it can be encoded. -/
def Reply.showing (status : Nat) (value : Json) : Reply :=
  if value.holdsTorn then .crash .tornRecord else .response (.ofJson status value)

end Shortlink.Web
