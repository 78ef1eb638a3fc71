/-
  Tables with heavy heads.

  A table has a column for each heading, as wide as its widest cell, and a line for each
  row.  Heavy lines frame the headings and light ones the rows.
-/
import FragmentRoutes.Terminal.Columns

namespace FragmentRoutes.Terminal

/-- A table: its headings, and its rows of as many cells. -/
structure Table where
  headings : List String
  rows : List (List String)
  deriving Repr

/-- A character several times. -/
def rule (c : Char) (n : Nat) : String :=
  String.ofList (List.replicate n c)

/-- The cell with blanks after it up to a width. -/
def pad (width : Nat) (cell : String) : String :=
  cell ++ rule ' ' (width - columns cell)

namespace Table

/-- The widths of the columns. -/
def widths (t : Table) : List Nat :=
  t.headings.zipIdx.map fun (heading, i) =>
    (t.rows.map fun row => columns (row.getD i "")).foldl max (columns heading)

/-- A line between rows: its left end, the line over a cell, a crossing, and its right
end. -/
def border (t : Table) (left line crossing right : Char) : String :=
  let lines := t.widths.map fun width => rule line (width + 2)
  left.toString ++ crossing.toString.intercalate lines ++ right.toString

/-- A line of cells between bars. -/
def cells (t : Table) (bar : Char) (row : List String) : String :=
  let padded := (t.widths.zip row).map fun (width, cell) => " " ++ pad width cell ++ " "
  bar.toString ++ bar.toString.intercalate padded ++ bar.toString

/-- The lines of a table. -/
def lines (t : Table) : List String :=
  [t.border '┏' '━' '┳' '┓', t.cells '┃' t.headings, t.border '┡' '━' '╇' '┩'] ++
    t.rows.map (t.cells '│') ++ [t.border '└' '─' '┴' '┘']

end Table

end FragmentRoutes.Terminal
