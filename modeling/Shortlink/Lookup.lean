import Shortlink.Link
import Shortlink.Text.Digits
import Shortlink.Text.LowerCase
import Shortlink.Text.Percent
import Shortlink.Text.Replace

/-!
# Looking up a destination

What a person types is an alias and arguments, separated by single spaces and possibly percent
encoded. The number of arguments picks a variant of the link, the arguments are filled in, and
those for which there is no room follow after a space.

Nothing here fails: what cannot be decoded is taken as it stands, and a variant with too few
arguments keeps the marks of the missing ones.

## Contents

- `tokens`, `arguments`: cutting at spaces.
- `Link.select`, `Link.selectAt?`: the variant for a number of arguments.
- `Variant.fill`: filling arguments in.
- `Link.evaluate`, `Link.destination`: from arguments, and from alias and arguments.
- `Link.answersTo`: comparing with an alias in any case.
-/

namespace Shortlink

open Text

/-! ## Cutting -/

/-- The parts of a text between its spaces; empty parts count. -/
def tokens (s : List Char) : List (List Char) :=
  s.splitOn ' '

/-- The arguments of a decoded text: none if it is empty. -/
def arguments (s : List Char) : List (List Char) :=
  if s.isEmpty then [] else tokens s

/-- Joins tokens by single spaces. -/
def joinTokens (ts : List (List Char)) : List Char :=
  [' '].intercalate ts

/-! ## Filling in -/

/-- The variant for a number of arguments: the widest if there are more than it has room for. -/
def Link.select (link : Link) (count : Nat) : Variant :=
  link.variants[count]?.getD link.widest

/-- The variant for a count that may be negative; it then counts from the end. -/
def Link.selectAt? (link : Link) (count : Int) : Option Variant :=
  if 0 ≤ count then some (link.select count.toNat)
  else if count.natAbs ≤ link.variants.length then
    link.variants[link.variants.length - count.natAbs]?
  else none

/-- The mark that the argument with the given number replaces. -/
def mark (number : Nat) : List Char :=
  '$' :: natText number

/-- Replaces the marks from `number` on by the arguments, one after the other. -/
def fillFrom (number : Nat) (text : List Char) : List (List Char) → List Char
  | [] => text
  | t :: ts => fillFrom (number + 1) (replaceAll (mark number) t text) ts

/-- Fills in as many arguments as there is room for and appends the others. -/
def Variant.fill (v : Variant) (args : List (List Char)) : List Char :=
  let filled := fillFrom 1 v.text.toList (args.take v.arity)
  match args.drop v.arity with
  | [] => filled
  | extra => filled ++ ' ' :: joinTokens extra

/-! ## Lookup strings -/

/-- The destination for arguments given without an alias. -/
def Link.evaluate (link : Link) (raw : List Char) : List Char :=
  let args := arguments (Percent.decode raw)
  (link.select args.length).fill args

/-- The destination for a lookup string, which begins with an alias. -/
def Link.destination (link : Link) (raw : List Char) : List Char :=
  link.evaluate (joinTokens (tokens (Percent.decode raw)).tail)

/-- The candidate names the link when it is put in lower case. -/
def Link.answersTo (link : Link) (candidate : String) : Bool :=
  link.aliasName.toList == lowerCase candidate.toList

end Shortlink
