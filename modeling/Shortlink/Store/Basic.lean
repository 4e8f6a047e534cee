import Shortlink.Redirect
import Shortlink.Text.Quoted

/-!
# Storing records

What the ways of storing records have in common: the errors of their operations, and the form of
an operation that answers and leaves a new state behind, also when it fails.

## Contents

- `StoreError` and its wording.
- `Step`: an answer and the state after it.
-/

namespace Shortlink

/-- Why an operation on stored records fails. -/
inductive StoreError where
  /-- The alias of a new record is taken. -/
  | taken (aliasName : String)
  /-- The alias or the public reference of a new record clashes with a row of the table. -/
  | clash (aliasName : String)
  /-- No record answers to the reference. -/
  | missing (reference : String)
  /-- The destination is no text, so that a table cannot hold it. -/
  | unencodable
  /-- The file cannot be written because a directory has its name. -/
  | unwritable (path : String)
  /-- The file cannot be written because a record has a number of too many digits. -/
  | longNumber
  /-- A page lies beyond the numbers that a table can count with. -/
  | beyondRange
deriving DecidableEq, Repr

/-- The wording of an error. -/
def StoreError.message : StoreError → String
  | taken aliasName | clash aliasName => "Redirect " ++ aliasName ++ " already exists"
  | missing reference => "Redirect " ++ reference ++ " does not exist"
  | unencodable => "The destination cannot be encoded"
  | unwritable path =>
    "Unable to write JSON file " ++ path ++ ": [Errno 21] Is a directory: "
      ++ String.ofList (Text.quoted path.toList)
  | longNumber => "The number of a record has too many digits to be written"
  | beyondRange => "The page lies beyond the numbers of the table"

/-- The answer of an operation and the state after it. -/
structure Step (σ α : Type) where
  answer : Except StoreError α
  state : σ

/-- The same step for a state in which the old one is embedded. -/
def Step.lift {σ τ α : Type} (f : σ → τ) (s : Step σ α) : Step τ α where
  answer := s.answer
  state := f s.state

end Shortlink
