import Shortlink.Text.Percent

/-!
# Queries

The part of a target after the question mark: names and values, in the form in which a form is
sent.

## Contents

- `decodeForm`: plus signs and escapes resolved.
- `queryPairs`: the names with their values.
- `queryValue?`: the value that counts.
-/

namespace Shortlink.Web

open Text

/-- A name or value with plus signs read as spaces and escapes resolved. -/
def decodeForm (s : List Char) : List Char :=
  Percent.decodeLossy (s.map fun c => if c = '+' then ' ' else c)

/-- The names and values of a query. A part without an equals sign is a name with an empty value,
and an empty part is nothing. -/
def queryPairs (query : List Char) : List (List Char × List Char) :=
  ((query.splitOn '&').filter fun part => !part.isEmpty).map fun part =>
    (decodeForm (part.takeWhile (· != '=')), decodeForm ((part.dropWhile (· != '=')).drop 1))

/-- The value of a name: the last one if there are several. -/
def queryValue? (name : String) (query : List Char) : Option (List Char) :=
  (queryPairs query).reverse.lookup name.toList

end Shortlink.Web
