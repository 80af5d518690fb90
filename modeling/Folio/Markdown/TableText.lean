import Folio.Document.Table
import Folio.Markdown.Escape

/-!
# Tables as Markdown

A table is written with pipes around its cells and a separator line after the first row, or in a
simple layout with pipes between the cells and the first row in bold. A cell that spans columns is
followed by empty cells, and a cell that goes on with the one above it is empty. A table needs a
first row with a cell.
-/

namespace Folio.Markdown

/-- The text of one cell, on one line and with its pipes escaped. -/
def cellText (cell : Cell) : List Char :=
  if cell.isContinuation then []
  else
    let line := cell.textChars.map fun c => if c = '\n' then ' ' else c
    (escapeInline line).flatMap fun c => if c = '|' then ['\\', '|'] else [c]

/-- The texts of a row's cells, with empty ones for the columns that a cell covers. -/
def rowTexts (row : Row) : List (List Char) :=
  row.cells.flatMap fun cell => cellText cell :: List.replicate (cell.span - 1) []

/-- A row between pipes, filled up to the given number of columns. -/
def pipeRow (columns : Nat) (cells : List (List Char)) : List Char :=
  let padded := cells ++ List.replicate (columns - cells.length) []
  '|' :: (padded.flatMap fun text => ' ' :: text ++ [' ', '|']) ++ ['\n']

/-- What marks the alignment of a column. -/
def separator : Option Alignment → List Char
  | some .center => ":---:".toList
  | some .right => "----:".toList
  | _ => "-----".toList

/-- The line between the first row and the others. -/
def separatorRow (row : Row) : List Char :=
  (row.cells.flatMap fun cell =>
    (List.replicate cell.span ('|' :: separator cell.alignment)).flatten) ++ ['|', '\n']

/-- The table with pipes. -/
def pipeTable (header : Row) (rows : List Row) : List Char :=
  let titles := rowTexts header
  pipeRow titles.length titles ++ separatorRow header ++
    (rows.flatMap fun row => pipeRow titles.length (rowTexts row)) ++ ['\n']

/-- The table in the simple layout. -/
def simpleTable (header : Row) (rows : List Row) : List Char :=
  let titles := (rowTexts header).map fun text =>
    if text.isEmpty then [] else ['*', '*'] ++ text ++ ['*', '*']
  let between := [' ', '|', ' ']
  Text.join between titles ++ '\n' ::
    (rows.flatMap fun row => Text.join between (rowTexts row) ++ ['\n']) ++ ['\n']

/-- The text of a table. -/
def tableText (gfm : Bool) (table : Table) : Except EditError (List Char) :=
  match table.rows with
  | [] => .error (.emptyTable 0 table.columnCount)
  | header :: rows =>
    if header.cells.isEmpty then .error (.emptyTable table.rowCount table.columnCount)
    else .ok (if gfm then pipeTable header rows else simpleTable header rows)

end Folio.Markdown
