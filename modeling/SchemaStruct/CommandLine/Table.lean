/-!
# Tables

A table of texts in a frame with round corners: a title in the middle above it, a header, and rows
whose cells begin at the left of their columns. A column is as wide as its widest cell.
-/

namespace SchemaStruct.CommandLine

/-- A table of texts. -/
structure Table where
  /-- The title. -/
  title : String
  /-- The names of the columns. -/
  header : List String
  /-- The rows, each with a cell for every column. -/
  rows : List (List String)
  deriving Repr, Inhabited

namespace Table

/-- A text made longer by blanks at its end. -/
def padRight (width : Nat) (s : String) : String := s.pushn ' ' (width - s.length)

/-- A text in the middle of blanks, where an odd blank stands behind it. -/
def center (width : Nat) (s : String) : String :=
  padRight width ("".pushn ' ' ((width - s.length) / 2) ++ s)

/-- The widths of the columns, with a blank on each side. -/
def widths (t : Table) : List Nat :=
  t.rows.foldl (fun acc row => (acc.zip row).map fun (w, s) => max w (s.length + 2))
    (t.header.map (·.length + 2))

/-- A line of the frame. -/
def rule (t : Table) (left middle right : String) : String :=
  left ++ String.intercalate middle (t.widths.map ("".pushn '─' ·)) ++ right

/-- A line with cells. -/
def cells (t : Table) (row : List String) : String :=
  "│" ++ String.intercalate "│" ((t.widths.zip row).map fun (w, s) => padRight w (" " ++ s)) ++ "│"

/-- The lines of a table. -/
def lines (t : Table) : List String :=
  let top := t.rule "╭" "┬" "╮"
  [center top.length t.title, top, t.cells t.header, t.rule "├" "┼" "┤"] ++ t.rows.map t.cells ++
    [t.rule "╰" "┴" "╯"]

end Table

end SchemaStruct.CommandLine
