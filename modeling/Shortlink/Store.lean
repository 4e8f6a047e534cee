import Shortlink.Store.File
import Shortlink.Store.Table

/-!
# Stores

The three ways of storing records behind one set of operations.

## Contents

- `Store`: one of the three.
- `Store.find?`, `create`, `update`, `delete`, `page`, `count`.
- `Store.label`: the name under which a store is reported.
-/

namespace Shortlink

/-- Records in memory, in a file or in a table. -/
inductive Store where
  | memory (m : Memory)
  | file (f : FileStore)
  | table (t : Table)

namespace Store

/-- The name under which the store is reported. -/
def label : Store → String
  | memory _ => "InMemoryBackend"
  | file _ => "JsonBackend"
  | table _ => "SqliteBackend"

/-- All records in the order in which they were made. -/
def records : Store → List Redirect
  | memory m => m.records
  | file f => f.memory.records
  | table t => t.rows

/-- The first record that answers to a reference. -/
def find? : Store → String → Option Redirect
  | memory m, reference => m.find? reference
  | file f, reference => f.memory.find? reference
  | table t, reference => t.find? reference

/-- Adds a record. -/
def create (s : Store) (fresh : Fresh) (aliasName : String) (destination : Text.Loose)
    (user : Option String) : Step Store Redirect :=
  match s with
  | memory m => (m.create fresh aliasName destination user).lift memory
  | file f => (f.create fresh aliasName destination user).lift file
  | table t => (t.create fresh aliasName destination user).lift table

/-- Gives the record that answers to a reference another destination. -/
def update (s : Store) (reference : String) (destination : Text.Loose) (user : Option String) :
    Step Store Redirect :=
  match s with
  | memory m => (m.update reference destination user).lift memory
  | file f => (f.update reference destination user).lift file
  | table t => (t.update reference destination user).lift table

/-- Removes the record that answers to a reference. -/
def delete (s : Store) (reference : String) : Step Store Nat :=
  match s with
  | memory m => (m.delete reference).lift memory
  | file f => (f.delete reference).lift file
  | table t => (t.delete reference).lift table

/-- One page of the records. -/
def page (s : Store) (page limit : Int) : Except StoreError (List Redirect) :=
  match s with
  | memory m => .ok (m.page page limit)
  | file f => .ok (f.memory.page page limit)
  | table t =>
    match t.page? page limit with
    | some rows => .ok rows
    | none => .error .beyondRange

/-- The number of records. -/
def count (s : Store) : Nat :=
  s.records.length

end Store

end Shortlink
