import StructMatch.Text.Width

/-!
# Text tables

A table is drawn with lines around its cells.  Each column is as wide as its widest cell, and a
blank stands on either side of each cell.  A cell may have several lines.
-/

namespace StructMatch.Console

/-- The characters of a horizontal line: at its left end, along a cell, between two cells and at its
right end. -/
structure HorizontalLine where
  left : Char
  along : Char
  joint : Char
  right : Char

/-- The lines of a table. -/
structure TableStyle where
  top : HorizontalLine
  belowHeader : HorizontalLine
  betweenRows? : Option HorizontalLine
  bottom : HorizontalLine
  /-- The vertical line at either side of the table. -/
  side : Char
  /-- The vertical line between two cells. -/
  between : Char

/-- Lines of box drawing characters, with none between rows. -/
def TableStyle.boxes : TableStyle where
  top := ⟨'┌', '─', '┬', '┐'⟩
  belowHeader := ⟨'╞', '═', '╪', '╡'⟩
  betweenRows? := none
  bottom := ⟨'└', '─', '┴', '┘'⟩
  side := '│'
  between := '┆'

/-- Lines of ASCII characters. -/
def TableStyle.ascii : TableStyle where
  top := ⟨'+', '-', '+', '+'⟩
  belowHeader := ⟨'+', '=', '=', '+'⟩
  betweenRows? := some ⟨'|', '-', '+', '|'⟩
  bottom := ⟨'+', '-', '+', '+'⟩
  side := '|'
  between := '|'

/-- A table with a cell in each row for each cell of its header. -/
structure Table where
  header : List String
  rows : List (List String)

/-- The text of so many characters. -/
def replicated (c : Char) (count : Nat) : String := String.ofList (List.replicate count c)

/-- The lines of a cell. -/
def cellLines (cell : String) : List String := cell.splitOn "\n"

/-- The columns that the widest line of a cell fills. -/
def cellWidth (cell : String) : Nat :=
  (cellLines cell).foldl (fun w line => max w (Text.width line)) 0

namespace Table

/-- The widths of the columns. -/
def widths (table : Table) : List Nat :=
  table.rows.foldl (fun widths row => List.zipWith max widths (row.map cellWidth))
    (table.header.map cellWidth)

end Table

/-- A horizontal line over columns of the given widths. -/
def HorizontalLine.draw (line : HorizontalLine) (widths : List Nat) : String :=
  line.left.toString ++
    line.joint.toString.intercalate (widths.map fun w => replicated line.along (w + 2)) ++
    line.right.toString

namespace TableStyle

variable (style : TableStyle)

/-- One line of a row, with one line of each of its cells. -/
def drawLine (widths : List Nat) (cells : List String) : String :=
  let padded := List.zipWith
    (fun w cell => " " ++ cell ++ replicated ' ' (w - Text.width cell) ++ " ") widths cells
  style.side.toString ++ style.between.toString.intercalate padded ++ style.side.toString

/-- The lines of a row, which has as many lines as its highest cell. -/
def drawRow (widths : List Nat) (row : List String) : List String :=
  let cells := row.map cellLines
  let height := cells.foldl (fun h lines => max h lines.length) 0
  (List.range height).map fun i => style.drawLine widths (cells.map fun lines => lines[i]?.getD "")

/-- The lines of several rows with the line between them. -/
def drawRows (widths : List Nat) : List (List String) → List String
  | [] => []
  | [row] => style.drawRow widths row
  | row :: rows =>
    style.drawRow widths row ++ (style.betweenRows?.map (·.draw widths)).toList ++
      drawRows widths rows

/-- The text of a table, without an end of line at its end. -/
def draw (table : Table) : String :=
  let widths := table.widths
  "\n".intercalate <|
    [style.top.draw widths] ++ style.drawRow widths table.header ++
      [style.belowHeader.draw widths] ++ style.drawRows widths table.rows ++
      [style.bottom.draw widths]

end TableStyle

end StructMatch.Console
