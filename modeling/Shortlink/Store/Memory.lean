import Shortlink.Paging
import Shortlink.Store.Basic

/-!
# Records in memory

A list of records in the order in which they were made. A reference names the first record that
answers to it.

## Contents

- `Memory`: the list.
- `find?`, `create`, `update`, `delete`, `page`, `count`.
-/

namespace Shortlink

/-- Records in the order in which they were made. -/
structure Memory where
  records : List Redirect

namespace Memory

/-- No records. -/
def empty : Memory := ⟨[]⟩

/-- The first record that answers to a reference. -/
def find? (m : Memory) (reference : String) : Option Redirect :=
  m.records.find? (·.refersTo reference)

/-- The place of the first record that answers to a reference. -/
def index? (m : Memory) (reference : String) : Option Nat :=
  m.records.findIdx? (·.refersTo reference)

/-- The number for the next record: one more than the largest in use. -/
def nextId (m : Memory) : Int :=
  (m.records.map (·.id)).max?.getD 0 + 1

/-- Adds a record unless its alias is taken. -/
def create (m : Memory) (fresh : Fresh) (aliasName : String) (destination : Text.Loose)
    (user : Option String) : Step Memory Redirect :=
  let normalized := Alias.normalize aliasName
  if m.records.any (·.aliasName == normalized) then ⟨.error (.taken normalized), m⟩
  else
    let r := Redirect.make fresh m.nextId normalized destination user
    ⟨.ok r, ⟨m.records ++ [r]⟩⟩

/-- Gives the record that answers to a reference another destination. -/
def update (m : Memory) (reference : String) (destination : Text.Loose) (user : Option String) :
    Step Memory Redirect :=
  match m.index? reference, m.find? reference with
  | some i, some r =>
    let r := r.withDestination destination user
    ⟨.ok r, ⟨m.records.set i r⟩⟩
  | _, _ => ⟨.error (.missing reference), m⟩

/-- Removes the record that answers to a reference. -/
def delete (m : Memory) (reference : String) : Step Memory Nat :=
  match m.index? reference with
  | some i => ⟨.ok 1, ⟨m.records.eraseIdx i⟩⟩
  | none => ⟨.error (.missing reference), m⟩

/-- One page of the records. -/
def page (m : Memory) (page limit : Int) : List Redirect :=
  slice m.records (limit * page) (limit * page + limit)

/-- The number of records. -/
def count (m : Memory) : Nat :=
  m.records.length

end Memory

end Shortlink
