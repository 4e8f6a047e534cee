import Shortlink.Text.Blank
import Shortlink.Text.LowerCase

/-!
# Aliases

An alias is stored in lower case, without blanks around it and without slashes in front, so that
`/Wiki`, `wiki` and `WIKI` name the same record.

## Contents

- `Alias.normalize`: the stored form.
- `Alias.isRoutable`: whether a path can reach the alias once it is stored.
-/

namespace Shortlink.Alias

open Text

/-- The stored form of an alias, as a list of characters. -/
def normalizeChars (s : List Char) : List Char :=
  lowerCase ((trim s).dropWhile (· == '/'))

/-- The stored form of an alias. -/
def normalize (aliasName : String) : String :=
  String.ofList (normalizeChars aliasName.toList)

/-- The alias is not empty and no blank splits it, so that a path can name it. -/
def isRoutable (aliasName : String) : Bool :=
  let stored := normalizeChars aliasName.toList
  !stored.isEmpty && !stored.any isBlank

end Shortlink.Alias
