/-!
# Destination templates

A destination may hold optional parts in braces, one inside the other:

    http://example.com{/foo/$1{/bar/$2}}

Each level that is opened adds room for one more argument, so a template stands for a family of
texts, one for each number of arguments from none to the depth of the nesting. The braces only
separate pieces; the text of `k` arguments takes the first `k + 1` pieces and the last `k`.

A template whose braces cannot be read in this way stands for itself.

## Contents

- `Template.isBrace`, `Template.pieces`: the pieces between the braces.
- `Template.Fault`: what can be wrong with the braces, and its wording.
- `Template.nested`: the texts of a family, shortest first.
- `Template.expand`: the family of a template and the fault, if there is one.
-/

namespace Shortlink.Template

/-! ## Braces -/

/-- Opening and closing braces separate the pieces alike. -/
def isBrace (c : Char) : Bool :=
  c == '{' || c == '}'

/-- The pieces of a template between its braces. -/
def pieces (template : List Char) : List (List Char) :=
  template.splitOnP isBrace

/-- What can be wrong with the braces of a template. -/
inductive Fault where
  /-- A brace is opened that no later brace closes, or one is opened after another was closed. -/
  | misordered
  /-- The number of braces is odd. -/
  | unpaired
deriving DecidableEq, Repr

/-- The wording of a fault in the given template. -/
def Fault.message (fault : Fault) (template : String) : String :=
  let what :=
    match fault with
    | .misordered => "params"
    | .unpaired => String.ofList ['`', '{', '`', ' ', '|', ' ', '`', '}', '`']
  "Destination has mismatched " ++ what ++ ": `" ++ template ++ "`"

/-- An opening brace stands after the first closing brace, or there is no closing brace. -/
def isMisordered (template : List Char) : Bool :=
  if template.contains '}' then (template.dropWhile (· != '}')).contains '{'
  else template.contains '{'

/-- The fault in the braces of a template. -/
def fault? (template : List Char) : Option Fault :=
  if isMisordered template then some .misordered
  else if (pieces template).length % 2 = 0 then some .unpaired
  else none

/-! ## The family of a template -/

/-- The texts that arise when level after level is opened between `front` and `back`. Each level
takes one piece from either end of what is left. -/
def nested (front back : List Char) : List (List Char) → List (List Char)
  | [] => [front ++ back]
  | piece :: rest =>
    (front ++ back) :: nested (front ++ piece) (rest.getLast?.getD [] ++ back) rest.dropLast
termination_by inner => inner.length
decreasing_by simp only [List.length_dropLast, List.length_cons]; omega

/-- The texts of a template by number of arguments; a faulty one has itself as only text. -/
def expand (template : List Char) : List (List Char) :=
  match fault? template, pieces template with
  | none, base :: inner => nested base [] inner
  | _, _ => [template]

theorem nested_ne_nil (front back : List Char) (inner : List (List Char)) :
    nested front back inner ≠ [] := by
  cases inner <;> simp [nested]

theorem expand_ne_nil (template : List Char) : expand template ≠ [] := by
  unfold expand
  split
  · exact nested_ne_nil _ _ _
  · simp

end Shortlink.Template
