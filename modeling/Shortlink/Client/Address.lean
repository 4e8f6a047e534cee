import Shortlink.Text.Digits
import Shortlink.Text.Percent
import Shortlink.Url.Split

/-!
# Addresses of requests

The URL that a request goes to is checked and brought into the form in which it is sent. What may
not stand in a URL is escaped, steps back in the path are taken, and a fragment is dropped.

## Contents

- `Pieces`, `cut`: the pieces of a URL.
- `hostFits`, `portOf`: the checks on an authority.
- `takeSteps`: a path without steps back.
- `Address`, `Address.ofUrl?`: the address of a URL.
-/

namespace Shortlink.Client

open Text

/-! ## Cutting -/

/-- The pieces of a URL as it is written. -/
structure Pieces where
  scheme : List Char
  authority : List Char
  path : List Char
  query : Option (List Char)
deriving DecidableEq, Repr

/-- A scheme in front of a colon, which may be empty, and what follows. -/
def cutScheme (url : List Char) : List Char × List Char :=
  match url.span Url.isSchemeChar with
  | (name, ':' :: rest) =>
    match name with
    | [] => ([], rest)
    | c :: _ => if c.isAlpha then (name, rest) else ([], url)
  | _ => ([], url)

/-- The pieces of a URL; what follows a number sign is dropped. -/
def cut (url : List Char) : Pieces :=
  let (scheme, rest) := cutScheme url
  let (authority, rest) := Url.splitAuthority rest
  let rest := rest.takeWhile (· != '#')
  { scheme := scheme
    authority := authority
    path := rest.takeWhile (· != '?')
    query :=
      match rest.dropWhile (· != '?') with
      | _ :: query => some query
      | [] => none }

/-- User, host and port of an authority. A host in brackets may hold colons. -/
def cutAuthority (authority : List Char) : List Char × List Char × List Char :=
  let target := Url.hostAndPort authority
  let user := (authority.take (authority.length - target.length)).dropLast
  let (host, rest) :=
    match target with
    | '[' :: _ =>
      match target.reverse.dropWhile (· != ']') with
      | [] => target.span (· != ':')
      | bracketed =>
        (bracketed.reverse, target.drop bracketed.length)
    | _ => target.span (· != ':')
  (user, host,
    match rest with
    | ':' :: port => port
    | port => port)

/-! ## Checks -/

/-- Splits off digits of ASCII and one further character, a given number of times; what is left
must be digits. -/
def isDottedForm : Nat → List Char → Bool
  | 0, s => !s.isEmpty && s.all Url.isDigit
  | n + 1, s =>
    (List.range s.length).any fun k =>
      0 < k && (s.take k).all Url.isDigit && isDottedForm n (s.drop (k + 1))

/-- A letter, digit or hyphen of ASCII, or any character beyond ASCII. -/
def isLabelChar (c : Char) : Bool :=
  c.isAlphanum || c == '-' || 0x80 ≤ c.toNat

/-- A host is an address, a name of ASCII, or a name with other letters. What looks like an address
must be one. -/
def hostFits (host : List Char) : Bool :=
  if isDottedForm 3 host then Url.isIPv4 host
  else if host.head? = some '[' ∧ host.getLast? = some ']' ∧ 2 ≤ host.length then
    Url.isIPv6 (host.drop 1).dropLast
  else if host.all (·.toNat < 0x80) then true
  else (host.splitOn '.').all fun label => !label.isEmpty && label.all isLabelChar

/-- The port that a scheme stands for. -/
def defaultPort? (scheme : String) : Option Int :=
  [("ftp", 21), ("http", 80), ("https", 443), ("ws", 80), ("wss", 443)].lookup scheme

/-- The port that is named, none if it is the one that the scheme stands for. -/
def portOf (scheme port : List Char) : Option (Option Int) :=
  if port.isEmpty then some none
  else
    match readInteger? port with
    | none => none
    | some n => some (if defaultPort? (String.ofList scheme) = some n then none else some n)

/-- The longest URL. -/
def maxUrlLength : Nat := 65536

/-- A control character of ASCII. -/
def isAsciiControl (c : Char) : Bool :=
  c.toNat < 0x20 || c.toNat = 0x7F

/-! ## Paths -/

/-- Walks along the parts of a path; `done` holds those that are in force, the last one first. A
step back is not taken from the start. -/
def walk (done : List (List Char)) : List (List Char) → List (List Char)
  | [] => done.reverse
  | part :: rest =>
    if part = ['.'] then walk done rest
    else if part = ['.', '.'] then
      if done.isEmpty || done == [[]] then walk done rest else walk (done.drop 1) rest
    else walk (part :: done) rest

/-- The path with its steps back taken and single dots dropped. -/
def takeSteps (path : List Char) : List Char :=
  List.intercalate ['/'] (walk [] (path.splitOn '/'))

/-- A printable character of ASCII that may stand in a path as it is. -/
def isPathSafe (c : Char) : Bool :=
  0x20 < c.toNat && c.toNat < 0x7F && !"\"#<>?\x60\x7b\x7d".toList.contains c

/-- A printable character of ASCII that may stand in a query as it is. -/
def isQuerySafe (c : Char) : Bool :=
  0x20 < c.toNat && c.toNat < 0x7F && !"\"#<>".toList.contains c

/-! ## Addresses -/

/-- Where a request goes: the path and query that are sent, and whether the URL names the
server. -/
structure Address where
  hasServer : Bool
  target : List Char
deriving DecidableEq, Repr

/-- Path and query as they are sent. -/
def targetOf (path : List Char) (query : Option (List Char)) : List Char :=
  (if path.isEmpty then ['/'] else path) ++
    match query with
    | some q => '?' :: q
    | none => []

/-- The address of a URL. Without a server, the path counts from the root. -/
def Address.ofUrl? (url : String) : Option Address :=
  let s := url.toList
  if maxUrlLength < s.length || s.any isAsciiControl then none
  else
    let p := cut s
    let scheme := p.scheme.map Char.toLower
    let (user, host, port) := cutAuthority p.authority
    match portOf p.scheme port with
    | none => none
    | some port =>
      let hasAuthority := !user.isEmpty || !host.isEmpty || port.isSome
      let misplaced :=
        if hasAuthority then p.path.head?.any (· != '/')
        else scheme.isEmpty && (['/', '/'].isPrefixOf p.path || p.path.head? == some ':')
      if !hostFits host || misplaced then none
      else
        let steps := if scheme.isEmpty && !hasAuthority then p.path else takeSteps p.path
        let path := Percent.encode isPathSafe steps
        let query := p.query.map (Percent.encode isQuerySafe)
        if !scheme.isEmpty && !host.isEmpty then some ⟨true, targetOf path query⟩
        else some ⟨false, '/' :: (targetOf path query).dropWhile (· == '/')⟩

end Shortlink.Client
