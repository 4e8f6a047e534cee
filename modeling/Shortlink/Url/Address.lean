/-!
# Addresses in brackets

The host of a URL may be an address between brackets: one of the sixth version of the internet
protocol, or one of a version yet to come.

## Contents

- `isIPv4`: four numbers between dots.
- `isIPv6`: eight groups between colons, of which a run of zeros may be left out.
- `isFutureAddress`: a version number, a dot and any text.
- `isBracketedHost`: what may stand in the brackets.
-/

namespace Shortlink.Url

/-- A digit of ASCII. -/
def isDigit (c : Char) : Bool :=
  '0' ≤ c && c ≤ '9'

/-- A hexadecimal digit of either case. -/
def isHexDigit (c : Char) : Bool :=
  isDigit c || ('a' ≤ c && c ≤ 'f') || ('A' ≤ c && c ≤ 'F')

/-- A number up to 255 without zeros in front. -/
def isOctet (s : List Char) : Bool :=
  !s.isEmpty && s.all isDigit && s.length ≤ 3 && (s.length == 1 || s.head? != some '0')
    && s.foldl (fun n c => 10 * n + (c.toNat - 48)) 0 ≤ 255

/-- Four octets between dots. -/
def isIPv4 (s : List Char) : Bool :=
  let parts := s.splitOn '.'
  parts.length == 4 && parts.all isOctet

/-- A group of one to four hexadecimal digits. -/
def isGroup (s : List Char) : Bool :=
  !s.isEmpty && s.length ≤ 4 && s.all isHexDigit

/-- The groups between colons, an address of the fourth version at the end counted as two. -/
def groups? (s : List Char) : Option (List (List Char)) :=
  let parts := s.splitOn ':'
  match parts.getLast? with
  | some tail =>
    if tail.contains '.' then
      if parts.length < 3 || !isIPv4 tail then none
      else some (parts.dropLast ++ [['0'], ['0']])
    else some parts
  | none => none

/-- The number of groups on one side of the place where zeros are left out. -/
def sideCount? (side : List (List Char)) : Option Nat :=
  if side = [[]] then some 0
  else if side.all isGroup then some side.length
  else none

/-- Eight groups, or fewer with one place in between where a run of zeros is left out. -/
def isIPv6Groups (parts : List (List Char)) : Bool :=
  let gaps := (List.range (parts.length - 2)).filter fun i => parts[i + 1]? == some []
  match gaps with
  | [] => parts.length == 8 && parts.all isGroup
  | [gap] =>
    match sideCount? (parts.take (gap + 1)), sideCount? (parts.drop (gap + 2)) with
    | some before, some after => before + after ≤ 7
    | _, _ => false
  | _ => false

/-- An address of the sixth version, perhaps followed by a percent sign and the name of a zone. -/
def isIPv6 (s : List Char) : Bool :=
  let address := s.takeWhile (· != '%')
  let zoneFits :=
    match s.dropWhile (· != '%') with
    | [] => true
    | _ :: zone => !zone.isEmpty && !zone.contains '%'
  zoneFits &&
    match groups? address with
    | some parts => isIPv6Groups parts
    | none => false

/-- The letter `v`, a hexadecimal number, a dot and some text. -/
def isFutureAddress (s : List Char) : Bool :=
  match s with
  | 'v' :: rest =>
    let version := rest.takeWhile isHexDigit
    match rest.dropWhile isHexDigit with
    | '.' :: _ :: _ => !version.isEmpty
    | _ => false
  | _ => false

/-- What may stand between the brackets of a host. -/
def isBracketedHost (s : List Char) : Bool :=
  if s.head? = some 'v' then isFutureAddress s else isIPv6 s

end Shortlink.Url
