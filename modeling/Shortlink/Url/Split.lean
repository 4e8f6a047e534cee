import Shortlink.Text.CodeRange
import Shortlink.Url.Address

/-!
# Parts of a URL

A URL is cut into its scheme, its authority and the rest. Control characters and spaces in front
are dropped, and so are tabs and line ends anywhere.

## Contents

- `clean`: what is left after dropping.
- `splitScheme`, `splitAuthority`: cutting.
- `isAuthority`: the checks on an authority.
- `Parts`, `split?`: all together.
- `isDestination`: whether a text is an absolute URL with a host.
-/

namespace Shortlink.Url

open Text

/-- Scheme and authority of a URL, empty if missing, and what follows them. -/
structure Parts where
  scheme : List Char
  authority : List Char
  rest : List Char
deriving DecidableEq, Repr

/-! ## Dropping -/

/-- A tab or a line end. -/
def isLineMark (c : Char) : Bool :=
  c == '\t' || c == '\n' || c == '\r'

/-- The text without controls and spaces in front and without tabs and line ends. -/
def clean (s : List Char) : List Char :=
  (s.dropWhile fun c => c.toNat ≤ 0x20).filter fun c => !isLineMark c

/-! ## Cutting -/

/-- A character of a scheme. -/
def isSchemeChar (c : Char) : Bool :=
  c.isAlphanum || c == '+' || c == '-' || c == '.'

/-- Splits off a scheme and its colon; the scheme is put in lower case. -/
def splitScheme (s : List Char) : List Char × List Char :=
  let name := s.takeWhile (· != ':')
  match s.dropWhile (· != ':') with
  | ':' :: rest =>
    match name with
    | c :: _ =>
      if c.isAlpha && name.all isSchemeChar then (name.map Char.toLower, rest) else ([], s)
    | [] => ([], s)
  | _ => ([], s)

/-- A character that ends an authority. -/
def endsAuthority (c : Char) : Bool :=
  c == '/' || c == '?' || c == '#'

/-- Splits off an authority after two slashes. -/
def splitAuthority (s : List Char) : List Char × List Char :=
  match s with
  | '/' :: '/' :: rest =>
    (rest.takeWhile fun c => !endsAuthority c, rest.dropWhile fun c => !endsAuthority c)
  | _ => ([], s)

/-! ## Checks -/

/-- What stands after the last at sign. -/
def hostAndPort (authority : List Char) : List Char :=
  (authority.reverse.takeWhile (· != '@')).reverse

/-- In an authority with brackets, the host must be an address between brackets, with nothing
around them but a port. -/
def hasBracketedHost (authority : List Char) : Bool :=
  let target := hostAndPort authority
  match target.dropWhile (· != '[') with
  | [] => isBracketedHost (target.takeWhile (· != ':'))
  | _ :: bracketed =>
    let portFits :=
      match (bracketed.dropWhile (· != ']')).drop 1 with
      | [] => true
      | c :: _ => c == ':'
    target.head? == some '[' && portFits && isBracketedHost (bracketed.takeWhile (· != ']'))

/-- Characters whose compatibility form holds a slash, a question mark, a hash, an at sign or a
colon. -/
def disguisedDelimiters : List CodeRange := [
  ⟨0x2047, 0x2049⟩, ⟨0x2100, 0x2101⟩, ⟨0x2105, 0x2106⟩, ⟨0x2A74, 0x2A74⟩, ⟨0xFE13, 0xFE13⟩,
  ⟨0xFE16, 0xFE16⟩, ⟨0xFE55, 0xFE56⟩, ⟨0xFE5F, 0xFE5F⟩, ⟨0xFE6B, 0xFE6B⟩, ⟨0xFF03, 0xFF03⟩,
  ⟨0xFF0F, 0xFF0F⟩, ⟨0xFF1A, 0xFF1A⟩, ⟨0xFF1F, 0xFF20⟩]

/-- The checks that an authority must pass. -/
def isAuthority (authority : List Char) : Bool :=
  let opens := authority.contains '['
  let closes := authority.contains ']'
  opens == closes && (!opens || hasBracketedHost authority)
    && !authority.any fun c => inRanges disguisedDelimiters c.toNat

/-! ## Splitting -/

/-- The parts of a URL, if its authority passes the checks. -/
def split? (s : List Char) : Option Parts :=
  let (scheme, afterScheme) := splitScheme (clean s)
  let (authority, rest) := splitAuthority afterScheme
  if isAuthority authority then some ⟨scheme, authority, rest⟩ else none

/-- The text is a URL with a scheme and an authority. -/
def isDestination (destination : String) : Bool :=
  match split? destination.toList with
  | some parts => !parts.scheme.isEmpty && !parts.authority.isEmpty
  | none => false

end Shortlink.Url
