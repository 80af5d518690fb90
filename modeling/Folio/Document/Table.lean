import Folio.Document.Paragraph
import Folio.Text.Lines

/-!
# Tables

A table has a grid of columns and rows of cells; a cell may span several columns of the grid, may
continue the cell above it, and holds paragraphs and further tables. The edits of a table are data:
`Table.edit` answers with the table after the edit and, when the edit is refused, the reason.

* `new_ok`, `eq_new`: a table with a row and a column can be made, and what it is then;
* `length_grid_new`: a new table has the columns that were asked for.
-/

namespace Folio

/-- Whether a cell begins a vertical merge or goes on with the cell above it. -/
inductive VerticalMerge where
  | restart
  | continue
  deriving DecidableEq, Repr, Inhabited

/-- The formatting of a cell. -/
structure CellProperties where
  /-- How many columns of the grid the cell covers; one when absent. -/
  gridSpan : Option Nat := none
  verticalMerge : Option VerticalMerge := none
  width : Option Nat := none
  deriving DecidableEq, Repr, Inhabited

/-- The formatting of a table. -/
structure TableProperties where
  style : Option String := none
  width : Option Nat := none
  deriving DecidableEq, Repr, Inhabited

/-- A cell whose nested tables are of the type `τ`. -/
structure CellOf (τ : Type) where
  properties : CellProperties := {}
  paragraphs : List Paragraph
  tables : List τ := []
  deriving DecidableEq, Repr, Inhabited

/-- A row of cells whose nested tables are of the type `τ`. -/
structure RowOf (τ : Type) where
  /-- The row repeats at the top of every page. -/
  header : Bool := false
  cells : List (CellOf τ)
  deriving DecidableEq, Repr, Inhabited

/-- A table of rows over a grid of column widths. -/
structure Table where
  properties : TableProperties := {}
  /-- The width of each column, in twentieths of a point. -/
  grid : List Nat
  rows : List (RowOf Table)
  deriving Repr, Inhabited

/-- A cell of a table. -/
abbrev Cell := CellOf Table

/-- A row of a table. -/
abbrev Row := RowOf Table

/-- Why a document or a table refuses an edit. -/
inductive EditError where
  /-- A table without rows or without columns. -/
  | emptyTable (rows cols : Nat)
  | cellOutOfRange (row col rows cols : Nat)
  | columnOutOfRange (col cols : Nat)
  /-- A merge of fewer than two cells, or past the end of the row. -/
  | invalidSpan (col span cols : Nat)
  | noSuchTable (id : Nat)
  | duplicateFootnote (id : String)
  /-- The document takes no edit of this kind. -/
  | rejected (reason : String)
  deriving DecidableEq, Repr

/-- The wording of a refusal. -/
def EditError.message : EditError → String
  | .emptyTable rows cols =>
    "a table needs at least one row and one column (got " ++ rows.repr ++ "x" ++ cols.repr ++ ")"
  | .cellOutOfRange row col rows cols =>
    "cell (" ++ row.repr ++ ", " ++ col.repr ++ ") is outside a " ++ rows.repr ++ "x" ++
      cols.repr ++ " table"
  | .columnOutOfRange col cols =>
    "column " ++ col.repr ++ " is outside a table with " ++ cols.repr ++ " columns"
  | .invalidSpan col span cols =>
    "cannot merge " ++ span.repr ++ " cells starting at column " ++ col.repr ++
      " in a row of " ++ cols.repr
  | .noSuchTable id => "element " ++ id.repr ++ " is not a table"
  | .duplicateFootnote id => "footnote '" ++ id ++ "' is already defined"
  | .rejected reason => reason

namespace CellOf

variable {τ : Type}

/-- A cell with one empty paragraph. -/
def empty : CellOf τ := { paragraphs := [Paragraph.ensureRun {}] }

/-- An empty cell of the given width. -/
def ofWidth (width : Nat) : CellOf τ :=
  { (empty : CellOf τ) with properties := { width := some width } }

/-- The characters of the paragraphs, with a line feed between neighbours. -/
def textChars (cell : CellOf τ) : List Char :=
  Text.unlines (cell.paragraphs.map Paragraph.textChars)

/-- The texts of the paragraphs, with a line feed between neighbours. -/
def text (cell : CellOf τ) : String := String.ofList cell.textChars

/-- The alignment of the first paragraph. -/
def alignment (cell : CellOf τ) : Option Alignment :=
  cell.paragraphs.head?.bind (·.properties.alignment)

/-- The cell with every paragraph aligned. -/
def setAlignment (cell : CellOf τ) (alignment : Alignment) : CellOf τ :=
  { cell with
    paragraphs := cell.paragraphs.map fun p =>
      { p with properties := { p.properties with alignment := some alignment } } }

/-- The properties of the first paragraph, or none at all. -/
def firstProperties (cell : CellOf τ) : ParagraphProperties :=
  (cell.paragraphs.head?.map (·.properties)).getD {}

/-- The cell with one paragraph of one run in place of its paragraphs. -/
def setText (cell : CellOf τ) (text : String) (properties : RunProperties) : CellOf τ :=
  { cell with
    paragraphs := [{ properties := cell.firstProperties, runs := [{ text, properties }] }] }

/-- The cell without its contents. -/
def clearText (cell : CellOf τ) : CellOf τ :=
  { cell with
    paragraphs := [Paragraph.ensureRun { properties := cell.firstProperties }]
    tables := [] }

/-- The cell goes on with the cell above it. -/
def isContinuation (cell : CellOf τ) : Bool :=
  cell.properties.verticalMerge == some .continue

/-- How many columns of the grid the cell covers. -/
def span (cell : CellOf τ) : Nat := cell.properties.gridSpan.getD 1

/-- The cell with its vertical merge set. -/
def setVerticalMerge (cell : CellOf τ) (merge : Option VerticalMerge) : CellOf τ :=
  { cell with properties := { cell.properties with verticalMerge := merge } }

end CellOf

namespace Table

/-- The width of the text on a page, in twentieths of a point. -/
def pageWidth : Nat := 9000

/-- The width of every column of a new table. The page is divided by the number of columns as a word
of 32 bits. For multiples of `2^32` columns that word is zero: a program with such words stops there,
and the width here is zero. -/
def columnWidth (cols : Nat) : Nat := pageWidth / (cols % UInt32.size)

/-- A table of empty cells over a grid of even columns. -/
def new (rows cols : Nat) : Except EditError Table :=
  if rows = 0 ∨ cols = 0 then .error (.emptyTable rows cols)
  else
    let width := columnWidth cols
    .ok {
      properties := { style := some "TableGrid", width := some pageWidth }
      grid := List.replicate cols width
      rows := List.replicate rows { cells := List.replicate cols (CellOf.ofWidth width) } }

/-- The number of rows. -/
def rowCount (table : Table) : Nat := table.rows.length

/-- The number of columns of the grid. -/
def columnCount (table : Table) : Nat := table.grid.length

/-- The cell at a place of a row, counting cells and not columns. -/
def cell? (table : Table) (row col : Nat) : Option Cell :=
  table.rows[row]?.bind (·.cells[col]?)

/-- The refusal of a place outside the table. -/
def outOfRange (table : Table) (row col : Nat) : EditError :=
  .cellOutOfRange row col table.rowCount table.columnCount

/-- The cell at a place of a row, or the refusal of the place. -/
def cell (table : Table) (row col : Nat) : Except EditError Cell :=
  match table.cell? row col with
  | some cell => .ok cell
  | none => .error (table.outOfRange row col)

/-- The table with one row changed. -/
def modifyRow (table : Table) (row : Nat) (change : Row → Row) : Table :=
  { table with rows := table.rows.modify row change }

/-- The table with one cell changed. -/
def modifyCell (table : Table) (row col : Nat) (change : Cell → Cell) : Table :=
  table.modifyRow row fun r => { r with cells := r.cells.modify col change }

/-- An edit of a table. -/
inductive Edit where
  | setHeaderRow (row : Nat)
  | setColumnAlignment (col : Nat) (alignment : Alignment)
  | setCellText (row col : Nat) (text : String) (properties : RunProperties)
  /-- Merges `span` cells of a row into the first of them. -/
  | mergeHorizontal (row col span : Nat)
  /-- Merges a column from the first row through the last. -/
  | mergeVertical (col first last : Nat)
  /-- Appends an empty row of the shape of another. -/
  | appendRowLike (row : Nat)
  /-- Nests a new table in a cell. -/
  | nestTable (row col rows cols : Nat)
  deriving Repr

/-- Marks a row as header. -/
def setHeaderRow (table : Table) (row : Nat) : Except EditError Table :=
  if row < table.rowCount then .ok (table.modifyRow row ({ · with header := true }))
  else .error (table.outOfRange row 0)

/-- Aligns every cell of a column. -/
def setColumnAlignment (table : Table) (col : Nat) (alignment : Alignment) :
    Except EditError Table :=
  if col < table.columnCount then
    .ok { table with
      rows := table.rows.map fun r =>
        { r with cells := r.cells.modify col (·.setAlignment alignment) } }
  else .error (.columnOutOfRange col table.columnCount)

/-- Replaces the text of a cell. -/
def setCellText (table : Table) (row col : Nat) (text : String) (properties : RunProperties) :
    Except EditError Table :=
  match table.cell? row col with
  | some _ => .ok (table.modifyCell row col (·.setText text properties))
  | none => .error (table.outOfRange row col)

/-- The sum of two widths. Widths are words of 32 bits: behind the last one they begin again. -/
def addWidths (first second : Nat) : Nat := (first + second) % UInt32.size

/-- The row with `span` cells from `col` on merged into the first of them: the others are taken out
and their widths are added to its own. -/
def mergeCells (row : Row) (col span : Nat) : Row :=
  let covered := (row.cells.drop (col + 1)).take (span - 1)
  let extra := (covered.filterMap (·.properties.width)).foldl addWidths 0
  let merge (cell : Cell) : Cell :=
    { cell with
      properties := { cell.properties with
        gridSpan := some span
        width := cell.properties.width.map (addWidths · extra) } }
  { row with
    cells := row.cells.take col ++ (row.cells[col]?.map merge).toList ++
      row.cells.drop (col + span) }

/-- Merges cells of a row. The column behind the last of them is a sum of unbounded numbers: where a
word of 64 bits cannot hold it, a program with such words stops, and the span is refused here. -/
def mergeHorizontal (table : Table) (row col span : Nat) : Except EditError Table :=
  match table.rows[row]? with
  | none => .error (table.outOfRange row col)
  | some r =>
    if span < 2 ∨ r.cells.length < col + span then
      .error (.invalidSpan col span r.cells.length)
    else .ok (table.modifyRow row (mergeCells · col span))

/-- Marks the cells of a column as merged, from `row` on for `count` rows, up to the first row that
has no such cell. -/
def markMerged (table : Table) (col : Nat) (merge : VerticalMerge) :
    (row count : Nat) → Table × Option EditError
  | _, 0 => (table, none)
  | row, count + 1 =>
    match table.cell? row col with
    | none => (table, some (table.outOfRange row col))
    | some _ =>
      markMerged (table.modifyCell row col (·.setVerticalMerge (some merge))) col .continue
        (row + 1) count

/-- Merges a column from the first row through the last. The rows are marked one after the other,
so the rows before one without the column stay marked. -/
def mergeVertical (table : Table) (col first last : Nat) : Table × Option EditError :=
  if last ≤ first then (table, some (.invalidSpan col (last - first + 1) table.columnCount))
  else table.markMerged col .restart first (last - first + 1)

/-- Appends a row with the cells of another, their properties kept and their contents cleared. -/
def appendRowLike (table : Table) (row : Nat) : Except EditError Table :=
  match table.rows[row]? with
  | none => .error (table.outOfRange row 0)
  | some r =>
    .ok { table with
      rows := table.rows ++
        [{ cells := r.cells.map fun cell => cell.clearText.setVerticalMerge none }] }

/-- Nests a new table in a cell, after the tables it has. -/
def nestTable (table : Table) (row col rows cols : Nat) : Except EditError Table := do
  let inner ← Table.new rows cols
  match table.cell? row col with
  | some _ => .ok (table.modifyCell row col fun c => { c with tables := c.tables ++ [inner] })
  | none => .error (table.outOfRange row col)

/-- A refused edit leaves the table as it was. -/
def orSame (table : Table) : Except EditError Table → Table × Option EditError
  | .ok changed => (changed, none)
  | .error e => (table, some e)

/-- The table after an edit and, when the edit is refused, the reason. -/
def edit (table : Table) : Edit → Table × Option EditError
  | .setHeaderRow row => table.orSame (table.setHeaderRow row)
  | .setColumnAlignment col alignment => table.orSame (table.setColumnAlignment col alignment)
  | .setCellText row col text properties =>
    table.orSame (table.setCellText row col text properties)
  | .mergeHorizontal row col span => table.orSame (table.mergeHorizontal row col span)
  | .mergeVertical col first last => table.mergeVertical col first last
  | .appendRowLike row => table.orSame (table.appendRowLike row)
  | .nestTable row col rows cols => table.orSame (table.nestTable row col rows cols)

theorem new_ok {rows cols : Nat} (hrows : 1 ≤ rows) (hcols : 1 ≤ cols) :
    ∃ table, Table.new rows cols = .ok table :=
  ⟨_, if_neg (by omega)⟩

theorem eq_new {rows cols : Nat} {table : Table} (h : Table.new rows cols = .ok table) :
    table.rows = List.replicate rows { cells := List.replicate cols (CellOf.ofWidth (columnWidth cols)) } ∧
      table.grid = List.replicate cols (columnWidth cols) := by
  unfold Table.new at h
  split at h
  · cases h
  · cases h
    exact ⟨rfl, rfl⟩

/-- The cells of a new table are alike. -/
theorem eq_of_mem_rows_new {rows cols : Nat} {table : Table} (h : Table.new rows cols = .ok table) {row : Row}
    (hrow : row ∈ table.rows) : row = { cells := List.replicate cols (CellOf.ofWidth (columnWidth cols)) } :=
  List.eq_of_mem_replicate ((eq_new h).1 ▸ hrow)

theorem length_grid_new {rows cols : Nat} {table : Table} (h : Table.new rows cols = .ok table) :
    table.grid.length = cols := by
  rw [(eq_new h).2, List.length_replicate]

end Table
end Folio
