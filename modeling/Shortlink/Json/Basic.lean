import Shortlink.Binary64
import Shortlink.Text.Loose

/-!
# JSON values

Values of the interchange format, with whole numbers and floating-point numbers told apart and the
fields of an object in the order in which they were first named.

## Contents

- `Json`: the values; `Json.ofLoose`: a loose text as a value.
- `Json.same`: equality of values.
- `Json.field?`, `Json.setField`: reading and writing the fields of an object.
- `Json.isFalsy`: the values that count as absent.
- `Json.holdsTorn`: the values that cannot be encoded.
-/

namespace Shortlink

/-- A value of the interchange format. -/
inductive Json where
  | null
  | bool (b : Bool)
  | int (i : Int)
  | real (x : Binary64)
  | str (s : String)
  /-- What is written as a string, but is no text. -/
  | torn (t : Text.Torn)
  | arr (items : List Json)
  | obj (fields : List (String × Json))

namespace Json

instance : Inhabited Json := ⟨.null⟩

/-- A loose text as a value. -/
def ofLoose : Text.Loose → Json
  | .whole s => str s
  | .torn t => torn t

/-! ## Equality -/

mutual

/-- The values are written alike. -/
def same : Json → Json → Bool
  | null, null => true
  | bool a, bool b => a == b
  | int a, int b => a == b
  | real a, real b => a == b
  | str a, str b => a == b
  | torn a, torn b => a == b
  | arr a, arr b => sameItems a b
  | obj a, obj b => sameFields a b
  | _, _ => false

/-- The items agree one by one. -/
def sameItems : List Json → List Json → Bool
  | [], [] => true
  | a :: as, b :: bs => same a b && sameItems as bs
  | _, _ => false

/-- The fields agree one by one, names and order counted. -/
def sameFields : List (String × Json) → List (String × Json) → Bool
  | [], [] => true
  | (k, a) :: as, (l, b) :: bs => k == l && same a b && sameFields as bs
  | _, _ => false

end

instance : BEq Json := ⟨same⟩

/-! ## Fields and kinds -/

/-- The value of the first field with the name. -/
def lookup? (name : String) : List (String × Json) → Option Json
  | [] => none
  | (k, v) :: rest => if k = name then some v else lookup? name rest

/-- The value of a field of an object. -/
def field? (name : String) : Json → Option Json
  | obj fields => lookup? name fields
  | _ => none

/-- Gives a field its value: in the place it has, or at the end. -/
def setField (name : String) (value : Json) : List (String × Json) → List (String × Json)
  | [] => [(name, value)]
  | (k, v) :: rest => if k = name then (k, value) :: rest else (k, v) :: setField name value rest

/-- Null, false, zero and whatever is empty. -/
def isFalsy : Json → Bool
  | null => true
  | bool b => !b
  | int i => i == 0
  | real x => x.isZero
  | str s => s.isEmpty
  | torn _ => false
  | arr items => items.isEmpty
  | obj fields => fields.isEmpty

mutual

/-- Some string in the value is no text. -/
def holdsTorn : Json → Bool
  | torn _ => true
  | arr items => itemsHoldTorn items
  | obj fields => fieldsHoldTorn fields
  | _ => false

/-- Some item holds what is no text. -/
def itemsHoldTorn : List Json → Bool
  | [] => false
  | v :: vs => holdsTorn v || itemsHoldTorn vs

/-- Some field holds what is no text. -/
def fieldsHoldTorn : List (String × Json) → Bool
  | [] => false
  | (_, v) :: fs => holdsTorn v || fieldsHoldTorn fs

end

/-- The text of a string value. -/
def asString? : Json → Option String
  | str s => some s
  | _ => none

end Json

end Shortlink
