/-!
# Environments

The variables that a program finds set when it starts, each with a text.

## Contents

- `Environment`: names with their values.
- `Environment.get?`, `Environment.set`.
-/

namespace Shortlink

/-- Variables and their values; no name occurs twice. -/
abbrev Environment := List (String × String)

namespace Environment

/-- The value of a variable. -/
def get? : Environment → String → Option String
  | [], _ => none
  | (n, v) :: rest, name => if n = name then some v else get? rest name

/-- Gives a variable a value. -/
def set (name value : String) : Environment → Environment
  | [] => [(name, value)]
  | (n, v) :: rest => if n = name then (n, value) :: rest else (n, v) :: set name value rest

end Environment

end Shortlink
