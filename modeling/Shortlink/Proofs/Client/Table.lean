import Shortlink.Client.Table
import Shortlink.Proofs.Alias
import Shortlink.Proofs.Steps
import Shortlink.Proofs.Text.Cutting

/-!
# A table is read as it is written

Who knows the widths of the columns finds every cell of a table: it stands in full at the place of
its column, and nothing but spaces stands behind it up to the next column. The dashes below the
headings show the widths. So the cells can be cut out of the lines, and come back as they were but
for blanks at their ends: `table_read_back`.

The widths are gathered row by row, each no less than those before; so the last ones leave room for
every cell (`exists_widthsFrom`). Blanks that are dropped at the end of a line are no loss, since
they are trimmed off the cells anyway (`cutAt_append_blanks`).

## Contents

- **Records.** `IsWrittenBy`, `HasCells`; `rows_of_hasCells`.
- **Widths.** `exists_widthsFrom`.
- **Cutting.** `cutAt`, `cutAt_append_blanks`; `ShowsInColumns`, `cutAt_of_showsInColumns`,
  `showsInColumns_lineOf`.
- **Dashes.** `columnWidths`, `columnWidths_underline`.
- **The table.** `splitOn_text`, `table_read_back`.
-/

namespace Shortlink.Client.Table

open Text

/-! ## Records -/

/-- **The name of the writer of a record**: that in the field of the writer, and none if there is no
such field, if it is null or otherwise empty, or if it holds no name. -/
inductive IsWrittenBy (record : Json) : String → Prop where
  | absent : record.field? "created_by" = none → IsWrittenBy record ""
  | empty (v : Json) : record.field? "created_by" = some v → v.isFalsy = true →
    IsWrittenBy record ""
  | unnamed (fields : List (String × Json)) : record.field? "created_by" = some (.obj fields) →
    Json.lookup? "username" fields = none → IsWrittenBy record ""
  | named (fields : List (String × Json)) (name : String) :
    record.field? "created_by" = some (.obj fields) →
    Json.lookup? "username" fields = some (.str name) → IsWrittenBy record name

/-- **The record has the cells of a row.** -/
structure HasCells (record : Json) (r : Row) : Prop where
  aliasName : record.field? "alias" = some (.str (String.ofList r.aliasName))
  destination : record.field? "destination" = some (.str (String.ofList r.destination))
  user : IsWrittenBy record (String.ofList r.user)

theorem field_of_field? {record v : Json} {name : String} (h : record.field? name = some v) :
    field name record = .ok v := by
  cases record with
  | obj fields =>
      rw [Json.field?] at h
      rw [field, h]
  | _ => exact absurd h (by simp [Json.field?])

theorem writer_of_isWrittenBy {record : Json} {user : String} (h : IsWrittenBy record user) :
    writer record = .ok (.str user) := by
  cases h with
  | absent h => simp [writer, h, Json.isFalsy]
  | empty v h hfalsy =>
      rw [writer, h, Option.getD_some]
      cases v with
      | obj fields =>
          rw [Json.isFalsy, List.isEmpty_iff] at hfalsy
          simp [hfalsy, Json.lookup?]
      | _ => simp [hfalsy]
  | unnamed fields h hname => simp [writer, h, hname]
  | named fields name h hname => simp [writer, h, hname]

/-- The cells of a row, as values. -/
def Row.values (r : Row) : List Json :=
  r.cells.map fun cell => .str (String.ofList cell)

theorem HasCells.values_eq {record : Json} {r : Row} (h : HasCells record r) :
    Table.values record = .ok r.values := by
  rw [Table.values, field_of_field? h.aliasName, field_of_field? h.destination,
    writer_of_isWrittenBy h.user]
  rfl

/-- **Records that have cells make rows of them.** -/
theorem rows_of_hasCells {records : List Json} {rs : List Row}
    (h : List.Forall₂ HasCells records rs) : rows records = .ok rs := by
  have hvalues : records.mapM Table.values = .ok (rs.map Row.values) := by
    rw [mapM_eq_ok_iff, List.forall₂_map_right_iff]
    exact h.imp fun _ _ => HasCells.values_eq
  have hlengths : ((rs.map Row.values).any fun vs => !vs.all hasLength) = false := by
    simp [Row.values, Row.cells, hasLength]
  have hrows : (rs.map Row.values).mapM row? = some rs := by
    clear hvalues hlengths h
    induction rs with
    | nil => rfl
    | cons r rest ih =>
        rw [List.map_cons, List.mapM_cons, ih]
        simp [Row.values, Row.cells, row?]
  rw [rows, hvalues]
  show (if _ then _ else _) = _
  rw [hlengths, hrows]
  rfl

/-! ## Widths -/

/-- **Widths only grow, and leave room** for the cells of every row. -/
theorem exists_widthsFrom (rs : List Row) : ∀ a d u : Nat,
    ∃ a' d' u', widthsFrom [a, d, u] rs = [a', d', u'] ∧ a ≤ a' ∧ d ≤ d' ∧ u ≤ u'
      ∧ ∀ r ∈ rs, r.aliasName.length ≤ a' ∧ r.destination.length ≤ d' ∧ r.user.length ≤ u' := by
  induction rs with
  | nil => exact fun a d u => ⟨a, d, u, rfl, by simp⟩
  | cons r rest ih =>
      intro a d u
      obtain ⟨a', d', u', heq, ha, hd, hu, hrest⟩ :=
        ih (max a r.aliasName.length) (max d r.destination.length) (max u r.user.length)
      refine ⟨a', d', u', heq, by omega, by omega, by omega, ?_⟩
      exact List.forall_mem_cons.mpr ⟨by omega, hrest⟩

/-! ## Cutting -/

/-- Cuts a line at the places of its columns, which stand two characters apart, and trims the ends
of what is cut out. -/
def cutAt : List Nat → List Char → List (List Char)
  | [], _ => []
  | w :: ws, line => trimEnd (line.take w) :: cutAt ws (line.drop (w + 2))

/-- Blanks at the end of a line make no difference. -/
theorem cutAt_append_blanks (ws : List Nat) : ∀ {line blanks : List Char},
    (∀ c ∈ blanks, isBlank c = true) → cutAt ws (line ++ blanks) = cutAt ws line := by
  induction ws with
  | nil => exact fun _ => rfl
  | cons w ws ih =>
      intro line blanks h
      rw [cutAt, cutAt, List.take_append, List.drop_append,
        trimEnd_append_blanks fun c hc => h c (List.mem_of_mem_take hc),
        ih fun c hc => h c (List.mem_of_mem_drop hc)]

/-- **A line shows cells in columns**: there is room for each cell, and each stands in full, filled
up with spaces to the width of its column, with two spaces in front of the next one. Only blanks may
be missing at the end of the line. -/
def ShowsInColumns (ws : List Nat) (cells : List (List Char)) (line : List Char) : Prop :=
  List.Forall₂ (fun w cell => cell.length ≤ w) ws cells
    ∧ ∃ blanks, (∀ c ∈ blanks, isBlank c = true)
      ∧ line ++ blanks = List.intercalate [' ', ' '] (List.zipWith fillUp ws cells)

theorem showsInColumns_lineOf {ws : List Nat} {cells : List (List Char)}
    (h : List.Forall₂ (fun w cell => cell.length ≤ w) ws cells) :
    ShowsInColumns ws cells (lineOf ws cells) :=
  ⟨h, exists_trimEnd_append _⟩

theorem length_fillUp {w : Nat} {cell : List Char} (h : cell.length ≤ w) :
    (fillUp w cell).length = w := by
  rw [fillUp, List.length_append, List.length_replicate]
  omega

theorem trimEnd_fillUp (w : Nat) (cell : List Char) : trimEnd (fillUp w cell) = trimEnd cell := by
  refine trimEnd_append_blanks (fun c hc => ?_) cell
  rw [List.eq_of_mem_replicate hc]
  decide

/-- **Cells are cut out of the columns in which they are shown.** -/
theorem cutAt_of_showsInColumns {ws : List Nat} {cells : List (List Char)} {line : List Char}
    (h : ShowsInColumns ws cells line) : cutAt ws line = cells.map trimEnd := by
  obtain ⟨hroom, blanks, hblanks, heq⟩ := h
  rw [← cutAt_append_blanks ws hblanks, heq]
  clear heq hblanks
  induction hroom with
  | nil => rfl
  | @cons w cell ws cells hcell hrest ih =>
      have hwidth := length_fillUp hcell
      cases hrest with
      | nil =>
          rw [List.zipWith_cons_cons, List.zipWith_nil_left, List.intercalate_singleton, cutAt,
            List.take_of_length_le (Nat.le_of_eq hwidth), trimEnd_fillUp]
          rfl
      | cons _ _ =>
          rw [List.zipWith_cons_cons, List.zipWith_cons_cons, List.intercalate_cons_cons,
            List.append_assoc, cutAt, List.take_left' hwidth, trimEnd_fillUp, List.map_cons, ← ih,
            List.zipWith_cons_cons, ← List.append_assoc, List.drop_left' (by simp [hwidth])]

/-! ## Dashes -/

/-- The dashes below columns of the given widths. -/
def underline (ws : List Nat) : List Char :=
  List.intercalate [' ', ' '] (ws.map fun w => List.replicate w '-')

/-- The widths that a line of dashes shows: those of the runs between its spaces. -/
def columnWidths (dashes : List Char) : List Nat :=
  ((dashes.splitOn ' ').filter fun run => !run.isEmpty).map List.length

theorem columnWidths_underline {a d u : Nat} (ha : 0 < a) (hd : 0 < d) (hu : 0 < u) :
    columnWidths (underline [a, d, u]) = [a, d, u] := by
  have hspaces : underline [a, d, u] = List.intercalate [' ']
      [List.replicate a '-', [], List.replicate d '-', [], List.replicate u '-'] := by
    simp [underline, List.intercalate]
  have hruns : (underline [a, d, u]).splitOn ' '
      = [List.replicate a '-', [], List.replicate d '-', [], List.replicate u '-'] := by
    rw [hspaces]
    exact List.splitOn_intercalate ' ' (by simp [List.mem_replicate]) (by simp)
  rw [columnWidths, hruns]
  simp [Nat.ne_of_gt ha, Nat.ne_of_gt hd, Nat.ne_of_gt hu]

/-- The dashes stand in columns of the widths that they show. -/
theorem lineOf_dashes {a d u : Nat} (hu : 0 < u) :
    lineOf [a, d, u] ([a, d, u].map fun w => List.replicate w '-') = underline [a, d, u] := by
  have hfull : ∀ w : Nat, fillUp w (List.replicate w '-') = List.replicate w '-' := by
    simp [fillUp]
  have hend : (underline [a, d, u]).getLast?.any isBlank = false := by
    have hlast : underline [a, d, u] = List.replicate a '-' ++ [' ', ' '] ++ List.replicate d '-'
        ++ [' ', ' '] ++ List.replicate u '-' := by simp [underline, List.intercalate]
    rw [hlast, List.getLast?_append, List.getLast?_replicate, if_neg (Nat.ne_of_gt hu)]
    rfl
  have htrim := trimEnd_append hend []
  rw [List.append_nil] at htrim
  simp only [lineOf, List.map_cons, List.map_nil, List.zipWith_cons_cons, List.zipWith_nil_left,
    hfull]
  exact htrim.trans (List.append_nil _)

/-! ## The table -/

/-- Lines hold spaces, and what the cells hold. -/
theorem mem_lineOf {ws : List Nat} {cells : List (List Char)} {c : Char} (h : c ∈ lineOf ws cells) :
    c = ' ' ∨ ∃ cell ∈ cells, c ∈ cell := by
  rcases mem_of_mem_intercalate ((trimEnd_isPrefix _).subset h) with hbetween | ⟨part, hpart, hc⟩
  · exact Or.inl (by simpa using hbetween)
  · rw [← List.map_uncurry_zip_eq_zipWith, List.mem_map] at hpart
    obtain ⟨⟨w, cell⟩, hpair, rfl⟩ := hpart
    rcases List.mem_append.mp hc with hcell | hspace
    · exact Or.inr ⟨cell, (List.of_mem_zip hpair).2, hcell⟩
    · exact Or.inl (List.eq_of_mem_replicate hspace)

/-- The lines of a table are found between its line feeds, if the cells hold none. -/
theorem splitOn_text {rs : List Row} (h : ∀ r ∈ rs, ∀ cell ∈ r.cells, '\n' ∉ cell) :
    (text rs).toList.splitOn '\n' = lines rs := by
  rw [text, String.toList_ofList]
  refine List.splitOn_intercalate '\n' ?_ (List.cons_ne_nil _ _)
  have hline : ∀ {ws : List Nat} {cells : List (List Char)}, (∀ cell ∈ cells, '\n' ∉ cell) →
      '\n' ∉ lineOf ws cells := by
    intro ws cells hcells hmem
    rcases mem_lineOf hmem with hspace | ⟨cell, hcell, hfeed⟩
    · exact absurd hspace (by decide)
    · exact hcells cell hcell hfeed
  intro l hl
  rcases List.mem_cons.mp hl with rfl | hl
  · exact hline (by decide)
  rcases List.mem_cons.mp hl with rfl | hl
  · refine hline fun cell hcell hfeed => ?_
    obtain ⟨w, -, rfl⟩ := List.mem_map.mp hcell
    exact absurd (List.eq_of_mem_replicate hfeed) (by decide)
  · obtain ⟨r, hr, rfl⟩ := List.mem_map.mp hl
    exact hline (h r hr)

/-- **A table is read back.** If the records have cells that hold no line feed, then their table has
two lines more than there are records. The second line shows the widths of the columns as runs of
dashes, two spaces apart. Every other line shows its cells in columns of these widths, so that none
is cut off or reaches into another column; and cutting the line at these widths gives the cells
back, but for blanks at their ends: below the headings, those of the records in their order. -/
theorem table_read_back {records : List Json} {rs : List Row}
    (hcells : List.Forall₂ HasCells records rs)
    (hfeed : ∀ r ∈ rs, ∀ cell ∈ r.cells, '\n' ∉ cell) :
    rows records = .ok rs
    ∧ ∃ heading dashes body, (text rs).toList.splitOn '\n' = heading :: dashes :: body
      ∧ body.length = records.length
      ∧ dashes = underline (columnWidths dashes)
      ∧ cutAt (columnWidths dashes) heading = headings.cells
      ∧ body.map (cutAt (columnWidths dashes)) = rs.map (fun r => r.cells.map trimEnd)
      ∧ List.Forall₂ (fun r line => ShowsInColumns (columnWidths dashes) r.cells line) rs body := by
  obtain ⟨a, d, u, hwidths, ha, hd, hu, hroom⟩ := exists_widthsFrom rs 5 11 10
  have hdashes : lineOf [a, d, u] ([a, d, u].map fun w => List.replicate w '-')
      = underline [a, d, u] := lineOf_dashes (by omega)
  have hshown : columnWidths (underline [a, d, u]) = [a, d, u] :=
    columnWidths_underline (by omega) (by omega) (by omega)
  have hwidths' : widths rs = [a, d, u] := hwidths
  have hfits : ∀ r ∈ headings :: rs,
      ShowsInColumns [a, d, u] r.cells (lineOf [a, d, u] r.cells) := by
    refine List.forall_mem_cons.mpr ⟨?_, fun r hr => ?_⟩
    · exact showsInColumns_lineOf (.cons ha (.cons hd (.cons hu .nil)))
    · obtain ⟨halias, hdestination, huser⟩ := hroom r hr
      exact showsInColumns_lineOf (.cons halias (.cons hdestination (.cons huser .nil)))
  refine ⟨rows_of_hasCells hcells, lineOf [a, d, u] headings.cells, underline [a, d, u],
    rs.map fun r => lineOf [a, d, u] r.cells, ?_, ?_, ?_, ?_, ?_, ?_⟩
  · rw [splitOn_text hfeed, lines, hwidths', hdashes]
  · rw [List.length_map, hcells.length_eq]
  · rw [hshown]
  · rw [hshown, cutAt_of_showsInColumns (hfits headings List.mem_cons_self)]
    decide
  · rw [hshown, List.map_map]
    refine List.map_congr_left fun r hr => ?_
    exact cutAt_of_showsInColumns (hfits r (List.mem_cons_of_mem _ hr))
  · rw [hshown, List.forall₂_map_right_iff, List.forall₂_same]
    exact fun r hr => hfits r (List.mem_cons_of_mem _ hr)

/-- Records with two spaces inside of a cell, blanks at the end of one, an empty one, and one that
is longer than its heading. -/
def raggedRecords : List Json :=
  [.obj [("alias", .str "two  words "), ("destination", .str ""), ("created_by", .null)],
    .obj [("alias", .str "wiki"), ("destination", .str "https://wiki.io/{$1}"),
      ("created_by", .obj [("username", .str "ada\t")])]]

/-- Their cells. -/
def raggedRows : List Row :=
  [⟨"two  words ".toList, [], []⟩, ⟨"wiki".toList, "https://wiki.io/{$1}".toList, "ada\t".toList⟩]

theorem table_read_back_ragged :
    rows raggedRecords = .ok raggedRows
    ∧ ∃ heading dashes body, (text raggedRows).toList.splitOn '\n' = heading :: dashes :: body
      ∧ body.map (cutAt (columnWidths dashes))
        = [["two  words".toList, [], []],
          ["wiki".toList, "https://wiki.io/{$1}".toList, "ada".toList]] := by
  have hcells : List.Forall₂ HasCells raggedRecords raggedRows := by
    refine .cons ⟨?_, ?_, .empty .null rfl rfl⟩ (.cons ⟨?_, ?_, .named _ _ rfl ?_⟩ .nil) <;>
      simp [Json.field?, Json.lookup?]
  obtain ⟨hrows, heading, dashes, body, hlines, -, -, -, hbody, -⟩ :=
    table_read_back hcells (by decide)
  exact ⟨hrows, heading, dashes, body, hlines, hbody.trans (by decide)⟩

end Shortlink.Client.Table
