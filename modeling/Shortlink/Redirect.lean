import Shortlink.Alias
import Shortlink.Json.Basic
import Shortlink.Timestamp.Reader

/-!
# Stored redirects

A record binds an alias to the text of a destination. It has a number and a public reference of its
own, and says when it was made and who wrote it last. The destination is kept as it was written,
even if that is no text.

## Contents

- `Redirect` and its first operations: `destination`, `make`, `withDestination`, `refersTo`.
- `Redirect.toJson`: the record as a value.
- `Redirect.Fault`: what can be wrong with a value.
- `Redirect.ofJson`: the record that a value describes.
-/

namespace Shortlink

open Text

/-- A stored record. -/
structure Redirect where
  id : Int
  publicRef : String
  aliasName : String
  /-- The destination as it was written. -/
  written : Loose
  createdOn : Timestamp
  /-- The name of the last writer; a file may say something else instead. -/
  createdBy : Json

/-- What a new record gets from outside: the time and its public reference. -/
structure Fresh where
  now : Timestamp
  publicRef : String

namespace Redirect

/-- The destination as a text. -/
def destination (r : Redirect) : String :=
  r.written.text

/-- The value that stands for a writer, who may be nobody. -/
def writer (user : Option String) : Json :=
  match user with
  | some name => .str name
  | none => .null

/-- A new record. -/
def make (fresh : Fresh) (id : Int) (aliasName : String) (destination : Loose)
    (user : Option String) : Redirect where
  id := id
  publicRef := fresh.publicRef
  aliasName := Alias.normalize aliasName
  written := destination
  createdOn := fresh.now
  createdBy := writer user

/-- The record with another destination and another writer. -/
def withDestination (r : Redirect) (destination : Loose) (user : Option String) : Redirect :=
  { r with written := destination, createdBy := writer user }

/-- The reference is the public one of the record, or a spelling of its alias. -/
def refersTo (r : Redirect) (reference : String) : Bool :=
  r.publicRef == reference || r.aliasName == Alias.normalize reference

/-- The records agree in all fields. -/
def same (a b : Redirect) : Bool :=
  a.id == b.id && a.publicRef == b.publicRef && a.aliasName == b.aliasName
    && a.written == b.written && a.createdOn == b.createdOn && a.createdBy == b.createdBy

/-! ## As a value -/

/-- The record as an object. -/
def toJson (r : Redirect) : Json :=
  .obj [("redirect_id", .int r.id), ("public_ref", .str r.publicRef), ("alias", .str r.aliasName),
    ("destination", .ofLoose r.written), ("created_on", .str r.createdOn.text),
    ("created_by", r.createdBy)]

/-- What can be wrong with a value that should describe a record. -/
inductive Fault where
  /-- The value is no object. -/
  | notAnObject
  /-- A field is missing. -/
  | missingField (name : String)
  /-- A field holds a value of a kind that it cannot hold. -/
  | wrongKind
  /-- A field holds a text or number that denotes nothing. -/
  | badValue
  /-- The number of the record is infinite. -/
  | infiniteNumber
deriving DecidableEq, Repr

/-- The value of a field that must be there. -/
def require (name : String) (fields : List (String × Json)) : Except Fault Json :=
  match Json.lookup? name fields with
  | some v => .ok v
  | none => .error (.missingField name)

/-- The number that a value denotes: fractions are cut off, and a text is read. -/
def numberOf : Json → Except Fault Int
  | .int i => .ok i
  | .bool b => .ok (if b then 1 else 0)
  | .real .nan => .error .badValue
  | .real x =>
    match x.truncate? with
    | some i => .ok i
    | none => .error .infiniteNumber
  | .str s =>
    match readInteger? s.toList with
    | some i => .ok i
    | none => .error .badValue
  | .torn _ => .error .badValue
  | _ => .error .wrongKind

/-- What a value that is written as a string holds. -/
def looseOf : Json → Except Fault Loose
  | .str s => .ok (.whole s)
  | .torn t => .ok (.torn t)
  | _ => .error .wrongKind

/-- The text of a value that is written as a string. -/
def textOf (v : Json) : Except Fault String :=
  (looseOf v).map Loose.text

/-- The time that a value denotes; without a value it is the present. -/
def timeOf (now : Timestamp) (value : Option Json) : Except Fault Timestamp :=
  match value with
  | none => .ok now
  | some v =>
    if v.isFalsy then .ok now
    else
      match v with
      | .str s =>
        match Timestamp.read? s with
        | some t => .ok t
        | none => .error .badValue
      | .torn _ => .error .badValue
      | _ => .error .wrongKind

/-- The record that a value describes. Its alias and its reference are texts, its destination is
written as one; whatever else stands in their places describes no record. -/
def ofJson (now : Timestamp) : Json → Except Fault Redirect
  | .obj fields => do
    let id ← numberOf (← require "redirect_id" fields)
    let publicRef ← textOf (← require "public_ref" fields)
    let aliasName ← textOf (← require "alias" fields)
    let destination ← looseOf (← require "destination" fields)
    let createdOn ← timeOf now (Json.lookup? "created_on" fields)
    return {
      id := id, publicRef := publicRef, aliasName := aliasName, written := destination,
      createdOn := createdOn, createdBy := (Json.lookup? "created_by" fields).getD .null }
  | _ => .error .notAnObject

end Redirect

end Shortlink
