import Shortlink.Client.Failure
import Shortlink.Text.Blank

/-!
# Tables of records

Records are shown as a table of three columns. Each column is as wide as its longest cell, its
heading counted in, and two spaces stand between columns. Blanks at the end of a line are dropped.

## Contents

- `Table.Row`: the cells of a line.
- `Table.widths`, `Table.lineOf`: the layout.
- `Table.lines`, `Table.text`: the table.
- `Table.rows`: the rows that a list of records makes.
-/

namespace Shortlink.Client.Table

open Text

/-- The cells of a line. -/
structure Row where
  aliasName : List Char
  destination : List Char
  user : List Char
deriving DecidableEq, Repr

/-- The cells from left to right. -/
def Row.cells (r : Row) : List (List Char) :=
  [r.aliasName, r.destination, r.user]

/-- The headings of the columns. -/
def headings : Row where
  aliasName := "Alias".toList
  destination := "Destination".toList
  user := "Created By".toList

/-! ## Layout -/

/-- The widths of the columns: the longest cell of each, no less than the widths given. -/
def widthsFrom : List Nat → List Row → List Nat
  | ws, [] => ws
  | ws, r :: rs => widthsFrom (List.zipWith (fun w cell => max w cell.length) ws r.cells) rs

/-- The widths of the columns of a table. -/
def widths (rows : List Row) : List Nat :=
  widthsFrom (headings.cells.map List.length) rows

/-- A cell filled up with spaces. -/
def fillUp (width : Nat) (cell : List Char) : List Char :=
  cell ++ List.replicate (width - cell.length) ' '

/-- A line with the given cells. -/
def lineOf (widths : List Nat) (cells : List (List Char)) : List Char :=
  trimEnd (List.intercalate [' ', ' '] (List.zipWith fillUp widths cells))

/-- The lines of a table: the headings, dashes under them, and the rows. -/
def lines (rows : List Row) : List (List Char) :=
  let ws := widths rows
  lineOf ws headings.cells :: lineOf ws (ws.map fun w => List.replicate w '-')
    :: rows.map fun r => lineOf ws r.cells

/-- The table as a text. -/
def text (rows : List Row) : String :=
  String.ofList (List.intercalate ['\n'] (lines rows))

/-! ## From records -/

/-- The name of the writer of a record: empty if there is none. -/
def writer (record : Json) : Except Failure Json :=
  match (record.field? "created_by").getD .null with
  | .obj fields => .ok ((Json.lookup? "username" fields).getD (.str ""))
  | v => if v.isFalsy then .ok (.str "") else .error .wrongShape

/-- The values in the cells of a record. -/
def values (record : Json) : Except Failure (List Json) := do
  let aliasName ← field "alias" record
  let destination ← field "destination" record
  let user ← writer record
  return [aliasName, destination, user]

/-- A value has a length. -/
def hasLength : Json → Bool
  | .str _ | .torn _ | .arr _ | .obj _ => true
  | _ => false

/-- The row of three texts. -/
def row? : List Json → Option Row
  | [.str a, .str d, .str u] => some ⟨a.toList, d.toList, u.toList⟩
  | _ => none

/-- The rows of a list of records. All cells must be texts; a value without a length is noticed
before any other. -/
def rows (records : List Json) : Except Failure (List Row) := do
  let cells ← records.mapM values
  if cells.any fun vs => !vs.all hasLength then .error .wrongKind
  else
    match cells.mapM row? with
    | some rs => .ok rs
    | none => .error .wrongShape

end Shortlink.Client.Table
