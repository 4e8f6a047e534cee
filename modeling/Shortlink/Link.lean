import Shortlink.Template

/-!
# Links

A link is what a stored destination is compiled to: the alias in the form of a path, and for each
number of arguments the text that they are filled into.

## Contents

- `Variant`: one text with the number of arguments it has room for.
- `Link`: alias and variants, never without a variant.
- `Link.aliasPath`: the alias with a slash in front.
- `Link.ofDestination`: compiling, and the fault that is reported on the way.
-/

namespace Shortlink

/-- A text with room for `arity` arguments, which it names `$1`, `$2` and so on. -/
structure Variant where
  arity : Nat
  text : String
deriving DecidableEq, Repr

/-- A compiled destination. -/
structure Link where
  /-- The alias as a path. -/
  aliasName : String
  /-- The texts, by number of arguments. -/
  variants : List Variant
  variants_ne_nil : variants ≠ []
deriving DecidableEq

namespace Link

/-- The alias as a path: with a slash in front. -/
def aliasPath (aliasName : String) : String :=
  if aliasName.toList.head? = some '/' then aliasName else "/" ++ aliasName

/-- Numbers the texts of a template by the arguments they take. -/
def variantsOf (destination : String) : List Variant :=
  (Template.expand destination.toList).mapIdx fun arity text => ⟨arity, String.ofList text⟩

theorem variantsOf_ne_nil (destination : String) : variantsOf destination ≠ [] := by
  simp [variantsOf, Template.expand_ne_nil]

/-- Compiles a destination; never fails. -/
def ofDestination (aliasName destination : String) : Link where
  aliasName := aliasPath aliasName
  variants := variantsOf destination
  variants_ne_nil := variantsOf_ne_nil destination

/-- What there is to report about a destination when it is compiled. -/
def warning? (destination : String) : Option String :=
  (Template.fault? destination.toList).map (·.message destination)

/-- The variant with the most room. -/
def widest (link : Link) : Variant :=
  link.variants.getLast link.variants_ne_nil

/-- The largest number of arguments that the link has room for. -/
def maxArity (link : Link) : Nat :=
  link.widest.arity

end Link

end Shortlink
