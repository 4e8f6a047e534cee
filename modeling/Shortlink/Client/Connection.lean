import Shortlink.Client.Address
import Shortlink.Client.Failure
import Shortlink.Json.Reader
import Shortlink.Json.Writer
import Shortlink.Web.App

/-!
# Talking to the service

A client sends requests to the management part of a service and takes the JSON out of the answers.
The service is whatever turns a request and a state into what is received and the next state.

## Contents

- `Received`, `Exchange`: the other side.
- `Connection`: the service with its state, and the requests that went to it.
- `Auth`, `connect`: opening a connection, and the certificates it may need.
- `Connection.request`: one request.
- `Connection.fetchAll`: all records, page by page.
-/

namespace Shortlink.Client

open Text

/-! ## The other side -/

/-- What comes back for a request: an answer with its content, if that is JSON, or nothing. -/
inductive Received where
  | answer (status : Nat) (content : Option Json)
  | nothing

/-- The content of a response, if it is JSON. -/
def contentOf : Web.Body → Option Json
  | .empty | .generated _ => none
  | .json v => some v
  | .text t | .file _ t => (Json.read t).toOption

/-- What comes back when the service replies. -/
def Received.ofReply : Web.Reply → Received
  | .response r => .answer r.status (contentOf r.body)
  | .crash _ => .answer 500 none

/-- The other side: what is received for a request, and the state after it. -/
abbrev Exchange (σ : Type) := Web.Request → σ → Received × σ

/-- A service under a name, the state of the other side, and method and target of the requests
that went to it. -/
structure Connection (σ : Type) where
  server : String
  state : σ
  sent : List (String × String) := []

/-! ## Opening -/

/-- How a client shows who it is. -/
inductive Auth where
  | nothing
  | certificate
deriving DecidableEq, Repr

/-- The way that a name stands for. -/
def Auth.named (name : String) : Auth :=
  if name = "mtls" then certificate else nothing

/-- The name of a server without slashes at the end. -/
def serverName (server : String) : String :=
  String.ofList (Web.dropTrailingSlashes server.toList)

/-- Checks that the certificates that are needed exist, and gives the name of the server. -/
def connect (isFile : String → Bool) (server : String) (auth : Auth)
    (certificate authority : Option String) : Except Failure String :=
  match auth, certificate with
  | .nothing, _ => .ok (serverName server)
  | .certificate, none => .error .certificateRequired
  | .certificate, some path =>
    match (authority.toList ++ [path]).find? fun p => !isFile p with
    | some missing => .error (.certificateMissing missing)
    | none => .ok (serverName server)

/-! ## Requests -/

/-- The path of the management part of a service. -/
def apiPrefix : String := "/_gadget/api"

/-- The header of a request with content. -/
def contentHeaders (body : Option Json) : List (String × String) :=
  body.toList.map fun _ => ("content-type", "application/json")

/-- The bytes of the content. -/
def contentBytes (body : Option Json) : List UInt8 :=
  (body.map fun v => Utf8.encode (Json.lineChars v)).getD []

namespace Connection

variable {σ : Type}

/-- Sends a request for a target. -/
def send (ex : Exchange σ) (method target : String) (body : Option Json) (c : Connection σ) :
    Received × Connection σ :=
  let r := Web.Request.ofTarget method target (contentHeaders body) (contentBytes body) true
  let (received, state) := ex r c.state
  (received, { c with state := state, sent := c.sent ++ [(method, target)] })

/-- Sends a request to a path of the management part and gives the content of the answer. -/
def request (ex : Exchange σ) (method path : String) (body : Option Json) (c : Connection σ) :
    Except Failure Json × Connection σ :=
  let url := c.server ++ apiPrefix ++ path
  match Address.ofUrl? url with
  | none => (.error .invalidUrl, c)
  | some address =>
    let (received, c) := c.send ex method (String.ofList address.target) body
    match received with
    | .nothing => (.error .unreachable, c)
    | .answer status content =>
      if !address.hasServer then (.error .noServer, c)
      else if status < 200 ∨ 299 < status then (.error (.refused method url status), c)
      else
        match content with
        | some v => (.ok v, c)
        | none => (.error .notJson, c)

/-! ## All records -/

/-- The records on a page, and whether there are more pages. -/
def pageOf (body : Json) : Except Failure (List Json × Bool) := do
  match ← field "redirects" body with
  | .arr records =>
    let page ← field "page" body
    let more ← field "has_more" page
    return (records, !more.isFalsy)
  | _ => .error .wrongKind

/-- The path of a page of records. -/
def pagePath (page : Nat) (size : Int) : String :=
  String.ofList ("/redirect?page=".toList ++ natText page ++ "&size=".toList ++ intText size)

/-- The records from a page on. After `patience` pages it gives up. -/
def fetchFrom (ex : Exchange σ) (size : Int) :
    Nat → Nat → Connection σ → Except Failure (List Json) × Connection σ
  | 0, _, c => (.error .endless, c)
  | patience + 1, page, c =>
    match c.request ex "GET" (pagePath page size) none with
    | (.error e, c) => (.error e, c)
    | (.ok body, c) =>
      match pageOf body with
      | .error e => (.error e, c)
      | .ok (records, false) => (.ok records, c)
      | .ok (records, true) =>
        let (others, c) := fetchFrom ex size patience (page + 1) c
        (others.map (records ++ ·), c)

/-- All records, from pages of a size. -/
def fetchAll (ex : Exchange σ) (size : Int) (patience : Nat) (c : Connection σ) :
    Except Failure (List Json) × Connection σ :=
  fetchFrom ex size patience 0 c

end Connection

/-- The size of pages that is asked for. -/
def pageSize : Int := 500

/-- The number of pages after which a client gives up. -/
def maxPages : Nat := 1000000000000

end Shortlink.Client
