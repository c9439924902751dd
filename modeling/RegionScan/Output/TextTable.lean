import RegionScan.Text.DisplayWidth
import RegionScan.Text.Split

/-!
# Text Tables

Tables drawn with lines.

A table is a rectangle of cells with a frame around it. A cell may have several
lines; a row is as high as its highest cell and a column as wide as its widest
line, with one blank on either side and never narrower than one column of text.
The first row may be a heading, which a double line sets off; between other
rows runs a dashed line. Rows with fewer cells than there are columns are
filled up with empty ones.

## Main definitions

* `Rule`: A horizontal line.
* `TextTable`: A heading and rows.
* `TextTable.lines`, `TextTable.render`: The drawn table.
-/

namespace RegionScan

/-- A horizontal line: its ends, what it is drawn with, and how it crosses the
    lines between columns. -/
structure Rule where
  left : Char
  stroke : Char
  crossing : Char
  right : Char

namespace Rule

/-- The top of the frame. -/
def top : Rule := ⟨'╭', '─', '┬', '╮'⟩

/-- The line below the heading. -/
def heading : Rule := ⟨'╞', '═', '╪', '╡'⟩

/-- The line between two rows. -/
def between : Rule := ⟨'├', '╌', '┼', '┤'⟩

/-- The bottom of the frame. -/
def bottom : Rule := ⟨'╰', '─', '┴', '╯'⟩

/-- The line over columns of the given widths, blanks at their sides
    aside. -/
def draw (r : Rule) (widths : List Nat) : List Char :=
  r.left :: [r.crossing].intercalate (widths.map fun w => List.replicate (w + 2) r.stroke) ++
    [r.right]

end Rule

/-- A table of texts. -/
structure TextTable where
  /-- The cells of the heading, none without one. -/
  heading : Option (List String)
  rows : List (List String)

namespace TextTable

/-- The left and right side of the frame. -/
def side : Char := '│'

/-- The line between two columns. -/
def divider : Char := '┆'

/-- The lines of a cell. -/
def cellLines (cell : String) : List (List Char) := splitAt '\n' cell.toList

/-- The width of a cell's widest line. -/
def cellWidth (cell : String) : Nat := ((cellLines cell).map displayWidth).foldl max 0

/-- All rows, with the heading in front. -/
def allRows (t : TextTable) : List (List String) := t.heading.toList ++ t.rows

/-- The number of columns. -/
def columnCount (t : TextTable) : Nat := (t.allRows.map List.length).foldl max 0

/-- The width of a column. -/
def columnWidth (t : TextTable) (i : Nat) : Nat :=
  (t.allRows.map fun row => (row[i]?.map cellWidth).getD 0).foldl max 1

/-- The widths of all columns. -/
def widths (t : TextTable) : List Nat := (List.range t.columnCount).map t.columnWidth

/-- A line of a cell with blanks up to the column's width and at its sides. -/
def padded (width : Nat) (line : List Char) : List Char :=
  ' ' :: line ++ List.replicate (width - displayWidth line + 1) ' '

/-- The cells of a row as lines, with an empty cell for each that is
    missing. -/
def rowCells (widths : List Nat) (row : List String) : List (Nat × List (List Char)) :=
  widths.zipIdx.map fun (w, i) => (w, cellLines (row[i]?.getD ""))

/-- The drawn lines of a row. -/
def rowLines (widths : List Nat) (row : List String) : List (List Char) :=
  let cells := rowCells widths row
  let height := (cells.map (·.2.length)).foldl max 0
  (List.range height).map fun i =>
    side :: [divider].intercalate (cells.map fun (w, lines) => padded w (lines[i]?.getD [])) ++
      [side]

/-- The drawn lines of the table. -/
def lines (t : TextTable) : List (List Char) :=
  let ws := t.widths
  let heading :=
    match t.heading with
    | some cells => rowLines ws cells ++ [Rule.heading.draw ws]
    | none => []
  let rows := [Rule.between.draw ws].intercalate (t.rows.map (rowLines ws))
  Rule.top.draw ws :: heading ++ rows ++ [Rule.bottom.draw ws]

/-- The drawn table, without a line break at its end. -/
def render (t : TextTable) : String := String.ofList (['\n'].intercalate t.lines)

end TextTable

end RegionScan
