import Shortlink.Log.Level
import Shortlink.Lookup
import Shortlink.Store

/-!
# The catalog

A store together with the links that were compiled from its records. A link is kept under the
public reference of its record, along with the destination from which it was compiled, and is
compiled again when the destination is another one.

## Contents

- `Catalog`: store and compiled links.
- `Catalog.Outcome`: what an operation answers, leaves behind and warns of.
- `compileNotices`: the report on such warnings.
- `get?`, `find?`, `resolve`: looking records up.
- `create`, `update`, `delete`: changing them.
-/

namespace Shortlink

/-- A compiled link and the destination that it was compiled from. -/
structure Compiled where
  destination : String
  link : Link

/-- A store with the links compiled so far, each under a public reference. -/
structure Catalog where
  store : Store
  compiled : List (String × Compiled)

namespace Catalog

/-- A catalog of a store, with nothing compiled. -/
def ofStore (store : Store) : Catalog :=
  ⟨store, []⟩

/-- What an operation answers, the catalog after it, and the warnings about templates that were
compiled on the way. -/
structure Outcome (α : Type) where
  answer : α
  catalog : Catalog
  warnings : List String

/-- Reports on templates that were compiled. -/
def compileNotices (warnings : List String) : List Log.Notice :=
  warnings.map fun w => ⟨.warning, "golinks.redirects.registry", "[COMPILE] " ++ w⟩

/-! ## Compiled links -/

/-- The compiled link under a public reference. -/
def cached? (c : Catalog) (publicRef : String) : Option Compiled :=
  c.compiled.lookup publicRef

/-- Keeps a link under a public reference, in the place of another one. -/
def put (publicRef : String) (entry : Compiled) :
    List (String × Compiled) → List (String × Compiled)
  | [] => [(publicRef, entry)]
  | (key, old) :: rest =>
    if key = publicRef then (key, entry) :: rest else (key, old) :: put publicRef entry rest

/-- Drops the link under a public reference. -/
def forget (c : Catalog) (publicRef : String) : Catalog :=
  { c with compiled := c.compiled.filter (·.1 != publicRef) }

/-- The link of a record: the one that is kept, if it was compiled from the same destination. -/
def compile (c : Catalog) (r : Redirect) : Outcome Link :=
  match c.cached? r.publicRef with
  | some entry =>
    if entry.destination = r.destination then ⟨entry.link, c, []⟩ else compileAnew
  | none => compileAnew
where
  /-- Compiles the destination of the record and keeps the link. -/
  compileAnew : Outcome Link :=
    let link := Link.ofDestination r.aliasName r.destination
    ⟨link, { c with compiled := put r.publicRef ⟨r.destination, link⟩ c.compiled },
      (Link.warning? r.destination).toList⟩

/-- The number of links that are kept. -/
def cachedCount (c : Catalog) : Nat :=
  c.compiled.length

/-! ## Looking up -/

/-- The record that a reference names. -/
def get? (c : Catalog) (reference : String) : Option Redirect :=
  c.store.find? reference

/-- The link of the record that a reference names. -/
def find? (c : Catalog) (reference : String) : Outcome (Option Link) :=
  match c.get? reference with
  | none => ⟨none, c, []⟩
  | some r =>
    let o := c.compile r
    ⟨some o.answer, o.catalog, o.warnings⟩

/-- The alias in a lookup string: its first token once it is decoded. -/
def aliasOf (path : List Char) : List Char :=
  (tokens (Text.Percent.decode path)).headD []

/-- The destination for a lookup string. -/
def resolve (c : Catalog) (path : String) : Outcome (Option String) :=
  let aliasName := aliasOf path.toList
  if aliasName.isEmpty then ⟨none, c, []⟩
  else
    let o := c.find? (String.ofList aliasName)
    ⟨o.answer.map fun link => String.ofList (link.destination path.toList), o.catalog, o.warnings⟩

/-- One page of the records. -/
def page (c : Catalog) (page limit : Int) : Except StoreError (List Redirect) :=
  c.store.page page limit

/-- The number of records. -/
def count (c : Catalog) : Nat :=
  c.store.count

/-! ## Changing -/

/-- Adds a record and compiles it. -/
def create (c : Catalog) (fresh : Fresh) (aliasName : String) (destination : Text.Loose)
    (user : Option String) : Outcome (Except StoreError Redirect) :=
  let step := c.store.create fresh aliasName destination user
  let c := { c with store := step.state }
  match step.answer with
  | .error e => ⟨.error e, c, []⟩
  | .ok r =>
    let o := c.compile r
    ⟨.ok r, o.catalog, o.warnings⟩

/-- Gives a record another destination and compiles it anew. -/
def update (c : Catalog) (reference : String) (destination : Text.Loose) (user : Option String) :
    Outcome (Except StoreError Redirect) :=
  let step := c.store.update reference destination user
  let c := { c with store := step.state }
  match step.answer with
  | .error e => ⟨.error e, c, []⟩
  | .ok r =>
    let o := (c.forget r.publicRef).compile r
    ⟨.ok r, o.catalog, o.warnings⟩

/-- Removes a record and drops its link. -/
def delete (c : Catalog) (reference : String) : Outcome (Except StoreError Nat) :=
  let named := c.get? reference
  let step := c.store.delete reference
  let c := { c with store := step.state }
  match step.answer with
  | .error e => ⟨.error e, c, []⟩
  | .ok n =>
    match named with
    | some r => ⟨.ok n, c.forget r.publicRef, []⟩
    | none => ⟨.ok n, c, []⟩

end Catalog

end Shortlink
