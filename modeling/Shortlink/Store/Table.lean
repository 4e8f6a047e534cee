import Shortlink.Store.Basic

/-!
# Records in a table

A table of records with a counter that numbers its rows and never gives a number twice. Aliases
and public references are unique. What is handed to the table is encoded in UTF-8 first, so it takes
no destination that is no text.

## Contents

- `Table`: rows and counter.
- `find?`, `create`, `setColumns`, `update`, `delete`, `page?`, `count`.
-/

namespace Shortlink

/-- Rows in the order of their numbers, and the last number that was given. -/
structure Table where
  rows : List Redirect
  lastId : Nat

namespace Table

/-- No rows, and no number given yet. -/
def empty : Table := ⟨[], 0⟩

/-- The first row that answers to a reference. -/
def find? (t : Table) (reference : String) : Option Redirect :=
  t.rows.find? (·.refersTo reference)

/-- Adds a row unless its destination cannot be encoded, or its alias or its public reference is
there already. -/
def create (t : Table) (fresh : Fresh) (aliasName : String) (destination : Text.Loose)
    (user : Option String) : Step Table Redirect :=
  let normalized := Alias.normalize aliasName
  if !destination.isWhole then ⟨.error .unencodable, t⟩
  else if t.rows.any fun r => r.aliasName == normalized || r.publicRef == fresh.publicRef then
    ⟨.error (.clash normalized), t⟩
  else
    let id := t.lastId + 1
    let r : Redirect := {
      id := id, publicRef := fresh.publicRef, aliasName := normalized, written := destination,
      createdOn := fresh.now, createdBy := Redirect.writer user }
    ⟨.ok r, ⟨t.rows ++ [r], id⟩⟩

/-- Sets the two columns of each row with a number. -/
def setColumns (t : Table) (id : Int) (destination : Text.Loose) (createdBy : Json) : Table :=
  let set (r : Redirect) : Redirect :=
    if r.id = id then { r with written := destination, createdBy := createdBy } else r
  { t with rows := t.rows.map set }

/-- Gives the row that answers to a reference another destination. -/
def update (t : Table) (reference : String) (destination : Text.Loose) (user : Option String) :
    Step Table Redirect :=
  match t.find? reference with
  | some found =>
    if !destination.isWhole then ⟨.error .unencodable, t⟩
    else
      ⟨.ok (found.withDestination destination user),
        t.setColumns found.id destination (Redirect.writer user)⟩
  | none => ⟨.error (.missing reference), t⟩

/-- Removes the row that answers to a reference. -/
def delete (t : Table) (reference : String) : Step Table Nat :=
  match t.find? reference with
  | some found =>
    let (removed, kept) := t.rows.partition (·.id = found.id)
    ⟨.ok removed.length, { t with rows := kept }⟩
  | none => ⟨.error (.missing reference), t⟩

/-- The first number that is too large for a table, which counts with 64 binary digits. -/
def countBound : Int := 9223372036854775808

/-- The number can be handed to the table. -/
def inRange (n : Int) : Bool :=
  -countBound ≤ n && n < countBound

/-- One page of the rows. A negative limit is none, and a negative start is the first row. -/
def page? (t : Table) (page limit : Int) : Option (List Redirect) :=
  let start := limit * page
  if inRange limit && inRange start then
    let rows := t.rows.drop start.toNat
    some (if limit < 0 then rows else rows.take limit.toNat)
  else none

/-- The number of rows. -/
def count (t : Table) : Nat :=
  t.rows.length

end Table

end Shortlink
