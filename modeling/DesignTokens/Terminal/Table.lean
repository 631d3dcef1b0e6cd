import DesignTokens.Terminal.Text
import DesignTokens.Terminal.Wrap

/-!
# Tables on a terminal

A table has a heavy frame around its header and a light one around its rows. Every
column is as wide as the widest line of its cells, with one blank on each side. What
ends a line is judged more widely for that than when the cell is printed, and tabs count
nothing, so a printed line may be too wide and is wrapped then.
-/

namespace DesignTokens.Terminal

/-- A column of a table. -/
structure Column where
  header : String
  alignRight : Bool
  deriving Repr

/-- A table, with a title above it if it has one. -/
structure Table where
  title : Option String
  columns : List Column
  rows : List (List String)

namespace Table

/-- The number of columns that a cell needs. -/
def cellWidth (cell : String) : Nat :=
  ((Text.excerptLines (sent cell.toList)).map Text.columns).foldl max 0

/-- The widths of the columns, for cells given row by row. -/
def widths (header : List String) (rows : List (List String)) : List Nat :=
  rows.foldl (fun sofar row => List.zipWith max sofar (row.map cellWidth))
    (header.map cellWidth)

/-- One line of a frame: its corners, its fill and its crossings. -/
def frameLine (left fill crossing right : String) (widths : List Nat) : String :=
  left ++ crossing.intercalate (widths.map fun n => String.join (List.replicate (n + 2) fill)) ++
    right

/-- A line of a cell padded to the width of its column. -/
def padded (column : Column) (width : Nat) (line : List Char) : List Char :=
  if column.alignRight then Text.padLeft width line else Text.padRight width line

/-- The lines of a cell in a column. -/
def cellLines (width : Nat) (column : Column) (cell : String) : List String :=
  (Text.feedLines (sent cell.toList)).flatMap fun line =>
    (wrapped width (untabbed line)).map fun part => String.ofList (padded column width part)

/-- The lines of a row between vertical bars. -/
def rowLines (bar : String) (columns : List Column) (widths : List Nat) (cells : List String) :
    List String :=
  let texts := List.zipWith (fun (column, width) cell => cellLines width column cell)
    (columns.zip widths) cells
  let height := (texts.map List.length).foldl max 0
  (List.range height).map fun i =>
    let line := List.zipWith (fun width lines =>
      lines[i]?.getD (Text.repeated ' ' width)) widths texts
    bar ++ " " ++ (" " ++ bar ++ " ").intercalate line ++ " " ++ bar

/-- The title in the middle of a number of columns. -/
def titleLine (width : Nat) (title : String) : String :=
  Text.repeated ' ' ((width - Text.columns title.toList) / 2) ++ title

/-- The lines of a table. -/
def lines (table : Table) : List String :=
  let headers := table.columns.map Column.header
  let widths := widths headers table.rows
  let total := widths.foldl (fun total width => total + width + 3) 1
  (match table.title with
    | none => []
    | some title => [titleLine total title]) ++
  [frameLine "┏" "━" "┳" "┓" widths] ++
  rowLines "┃" table.columns widths headers ++
  [frameLine "┡" "━" "╇" "┩" widths] ++
  table.rows.flatMap (rowLines "│" table.columns widths) ++
  [frameLine "└" "─" "┴" "┘" widths]

/-- A table as printed. -/
def print (table : Table) : String :=
  Text.joinLines table.lines ++ "\n"

end Table

end DesignTokens.Terminal
