import Folio.Proofs.Document.MergedColumns
import Folio.Proofs.Markdown.Drafts
import Mathlib.Data.List.Induction

/-!
# The tables of a rendering

A table is created at the size of its rows and columns and filled by edits, each of which may be refused. A row may be
shorter than the longest one, there may be more alignments than cells, and what stands between the rows may be no row at
all; no edit that fills the table meets a place that it does not have.

* `Edit.Fills` : the edit is one of those that fill a table, and its place is within the size;
* `Filled` : what edits in a row make of the header marks and of the cells;
* `exists_editAll` : a document takes all edits that fill its last table;
* `preorder`, `emphasisLevel?` : a node with all nodes below it, parents first, and the level of an emphasis;
* `IsTableOf` : what the rows and the alignments of a Markdown table ask of a table;
* `renderBlock_table` : a rendering appends one such table, and reports nothing.
-/

namespace Folio
namespace Table

/-! ## Edits that fill a table -/

/-- So many rows, so many columns, and a cell in each column of each row. -/
structure Shaped (rows cols : Nat) (table : Table) : Prop where
  rows : table.rows.length = rows
  columns : table.columnCount = cols
  cells : ∀ row ∈ table.rows, row.cells.length = cols

/-- The edit marks a header row, aligns a column or sets a text, at a place of a table of the size. -/
def Edit.Fills (rows cols : Nat) : Edit → Prop
  | .setHeaderRow row => row < rows
  | .setColumnAlignment col _ => col < cols
  | .setCellText row col _ _ => row < rows ∧ col < cols
  | _ => False

/-- The header mark of a row after an edit that fills a table. -/
def onHeader (place : Nat) (header : Bool) : Edit → Bool
  | .setHeaderRow row => header || place == row
  | _ => header

/-- A cell after an edit that fills a table. -/
def onCell (place col : Nat) (cell : Cell) : Edit → Cell
  | .setColumnAlignment c alignment => if col = c then cell.setAlignment alignment else cell
  | .setCellText row c text properties => if place = row ∧ col = c then cell.setText text properties else cell
  | _ => cell

/-- The header mark of a row. -/
def header? (table : Table) (place : Nat) : Option Bool := table.rows[place]?.map (·.header)

/-- What edits in a row that fill a table make of it. -/
structure Filled (rows cols : Nat) (table : Table) (edits : List Edit) (changed : Table) : Prop where
  shaped : changed.Shaped rows cols
  header : ∀ place, changed.header? place = (table.header? place).map (edits.foldl (onHeader place))
  cell : ∀ place col, changed.cell? place col = (table.cell? place col).map (edits.foldl (onCell place col))

variable {rows cols : Nat} {table : Table}

/-- A table of the size has a cell at each place of it. -/
theorem Shaped.exists_cell (h : table.Shaped rows cols) {place col : Nat} (hplace : place < rows) (hcol : col < cols) :
    ∃ cell, table.cell? place col = some cell := by
  have hlt : place < table.rows.length := h.rows ▸ hplace
  have hlt' : col < table.rows[place].cells.length := (h.cells _ (List.getElem_mem hlt)).symm ▸ hcol
  refine ⟨table.rows[place].cells[col], ?_⟩
  rw [cell?, List.getElem?_eq_getElem hlt, Option.bind_some, List.getElem?_eq_getElem hlt']

theorem Shaped.lt_of_cell? (h : table.Shaped rows cols) {place col : Nat} {cell : Cell}
    (hcell : table.cell? place col = some cell) : place < rows ∧ col < cols := by
  obtain ⟨row, hrow, hfound⟩ := Option.bind_eq_some_iff.mp hcell
  refine ⟨h.rows ▸ (List.getElem?_eq_some_iff.mp hrow).1, ?_⟩
  rw [← h.cells row (List.mem_of_getElem? hrow)]
  exact (List.getElem?_eq_some_iff.mp hfound).1

/-- A change that keeps the number of the cells of each row keeps the shape. -/
theorem Shaped.of_lengths (h : table.Shaped rows cols) {changed : Table} (hgrid : changed.grid = table.grid)
    (hrows : changed.rows.map (·.cells.length) = table.rows.map (·.cells.length)) : changed.Shaped rows cols where
  rows := by
    have hcount := congrArg List.length hrows
    rwa [List.length_map, List.length_map, h.rows] at hcount
  columns := (congrArg List.length hgrid).trans h.columns
  cells := fun row hrow => by
    have hmem := hrows ▸ List.mem_map_of_mem (f := fun row : Row => row.cells.length) hrow
    obtain ⟨other, hother, heq⟩ := List.mem_map.mp hmem
    rw [← heq, h.cells other hother]

theorem filled_setHeaderRow (h : table.Shaped rows cols) (row : Nat) :
    Filled rows cols table [.setHeaderRow row] (table.modifyRow row ({ · with header := true })) where
  shaped := by
    refine h.of_lengths rfl ?_
    exact map_modify_of_forall (f := fun r : Row => r.cells.length)
      (fun r => show ({ r with header := true } : Row).cells.length = _ from rfl) table.rows row
  header := fun place => by
    unfold header? modifyRow
    dsimp only
    rw [List.getElem?_modify, Option.map_eq_map, Option.map_map, Option.map_map]
    congr 1
    funext r
    by_cases hplace : row = place
    · simp [onHeader, hplace]
    · simp [onHeader, hplace, Ne.symm hplace]
  cell := fun place col => by
    unfold cell? modifyRow
    dsimp only
    rw [List.getElem?_modify]
    cases table.rows[place]? with
    | none => rfl
    | some r => by_cases hplace : row = place <;> simp [onCell, hplace]

theorem filled_setColumnAlignment (h : table.Shaped rows cols) (c : Nat) (alignment : Alignment) :
    Filled rows cols table [.setColumnAlignment c alignment]
      { table with rows := table.rows.map fun r =>
          { r with cells := r.cells.modify c (·.setAlignment alignment) } } where
  shaped := by
    refine h.of_lengths rfl ?_
    rw [List.map_map]
    exact List.map_congr_left fun r _ => List.length_modify ..
  header := fun place => by
    unfold header?
    dsimp only
    rw [List.getElem?_map, Option.map_map, Option.map_map]
    rfl
  cell := fun place col => by
    unfold cell?
    dsimp only
    rw [List.getElem?_map]
    cases table.rows[place]? with
    | none => rfl
    | some r => simp [onCell, List.getElem?_modify, eq_comm (a := c)]

theorem filled_setCellText (h : table.Shaped rows cols) (row c : Nat) (text : String) (properties : RunProperties) :
    Filled rows cols table [.setCellText row c text properties]
      (table.modifyCell row c (·.setText text properties)) where
  shaped := by
    refine h.of_lengths rfl ?_
    exact map_modify_of_forall (f := fun r : Row => r.cells.length) (fun r => List.length_modify ..) table.rows row
  header := fun place => by
    unfold header? modifyCell modifyRow
    dsimp only
    rw [List.getElem?_modify, Option.map_eq_map, Option.map_map, Option.map_map]
    congr 1
    funext r
    by_cases hplace : row = place <;> simp [onHeader, hplace]
  cell := fun place col => by
    by_cases hplace : row = place
    · subst hplace
      by_cases hcol : col = c
      · subst hcol
        simp [cell?_modifyCell, onCell]
      · simp [cell?_modifyCell_of_col_ne hcol, onCell, hcol]
    · simp [cell?_modifyCell_of_ne hplace, onCell, Ne.symm hplace]

/-- An edit that fills a table is not refused. -/
theorem Shaped.edit (h : table.Shaped rows cols) {edit : Edit} (hfills : edit.Fills rows cols) :
    ∃ changed, table.edit edit = (changed, none) ∧ Filled rows cols table [edit] changed := by
  cases edit with
  | setHeaderRow row =>
      have hrow : row < table.rowCount := hfills.trans_eq h.rows.symm
      refine ⟨_, ?_, filled_setHeaderRow h row⟩
      rw [Table.edit, setHeaderRow, if_pos hrow]
      rfl
  | setColumnAlignment col alignment =>
      have hcol : col < table.columnCount := hfills.trans_eq h.columns.symm
      refine ⟨_, ?_, filled_setColumnAlignment h col alignment⟩
      rw [Table.edit, setColumnAlignment, if_pos hcol]
      rfl
  | setCellText row col text properties =>
      obtain ⟨cell, hcell⟩ := h.exists_cell hfills.1 hfills.2
      refine ⟨_, ?_, filled_setCellText h row col text properties⟩
      rw [edit_setCellText, changeCell, hcell]
  | mergeHorizontal | mergeVertical | appendRowLike | nestTable => exact absurd hfills id

theorem Filled.nil (h : table.Shaped rows cols) : Filled rows cols table [] table where
  shaped := h
  header := fun _ => Option.map_id'.symm
  cell := fun _ _ => Option.map_id'.symm

theorem Filled.cons {edit : Edit} {edits : List Edit} {mid changed : Table} (h : Filled rows cols table [edit] mid)
    (h' : Filled rows cols mid edits changed) : Filled rows cols table (edit :: edits) changed where
  shaped := h'.shaped
  header := fun place => by
    rw [h'.header, h.header, Option.map_map]
    rfl
  cell := fun place col => by
    rw [h'.cell, h.cell, Option.map_map]
    rfl

/-- A new table has the size that is asked for; its rows are no headers and its cells are empty. -/
theorem exists_new (hrows : rows ≠ 0) (hcols : cols ≠ 0) : ∃ table, Table.new rows cols = .ok table ∧
    table.Shaped rows cols ∧ (∀ place < rows, table.header? place = some false) ∧
    ∀ place < rows, ∀ col < cols, table.cell? place col = some (CellOf.ofWidth (columnWidth cols)) := by
  have hnew : ¬ (rows = 0 ∨ cols = 0) := fun h => h.elim hrows hcols
  refine ⟨_, if_neg hnew, ⟨List.length_replicate, List.length_replicate, fun row hrow => ?_⟩, fun place hplace => ?_,
    fun place hplace col hcol => ?_⟩
  · obtain rfl := List.eq_of_mem_replicate hrow
    exact List.length_replicate
  · rw [header?, List.getElem?_replicate_of_lt hplace]
    rfl
  · rw [cell?, List.getElem?_replicate_of_lt hplace]
    exact List.getElem?_replicate_of_lt hcol

end Table

/-! ## Values at places -/

/-- Of values that are made of those of a list, one for each, only the one at a place matters to a fold. -/
theorem foldl_mapIdx_of_ne {α β σ : Type} {f : Nat → α → β} {g : σ → β → σ} (place : Nat)
    (h : ∀ i a s, i ≠ place → g s (f i a) = s) (values : List α) (s : σ) :
    (values.mapIdx f).foldl g s = (values[place]?.map fun a => g s (f place a)).getD s := by
  induction values using List.reverseRecOn with
  | nil => rfl
  | append_singleton values value ih =>
      rw [List.mapIdx_concat, List.foldl_concat, ih]
      rcases Nat.lt_trichotomy place values.length with hlt | rfl | hgt
      · rw [h _ _ _ (Nat.ne_of_gt hlt), List.getElem?_append_left hlt]
      · rw [List.getElem?_concat_length, List.getElem?_eq_none (Nat.le_refl _)]
        rfl
      · rw [h _ _ _ (Nat.ne_of_lt hgt), List.getElem?_eq_none (Nat.le_of_lt hgt), List.getElem?_eq_none]
        rw [List.length_append, List.length_singleton]
        exact hgt

theorem foldl_eq_self {β σ : Type} {g : σ → β → σ} {values : List β} (h : ∀ b ∈ values, ∀ s, g s b = s) (s : σ) :
    values.foldl g s = s := by
  induction values with
  | nil => rfl
  | cons b values ih =>
      rw [List.foldl_cons, h b List.mem_cons_self, ih fun b' hb' => h b' (List.mem_cons_of_mem _ hb')]

namespace Markdown
open RenderM Table

/-! ## What a Markdown table asks for -/

/-- The level of an emphasis. -/
def emphasisLevel? (node : Node) : Option Nat :=
  match node.kind with
  | .emphasis level => some level
  | _ => none

mutual

/-- A node and all nodes below it, each before those below it. -/
def preorder : Node → List Node
  | ⟨kind, children, line, column⟩ => ⟨kind, children, line, column⟩ :: preorderOf children

def preorderOf : List Node → List Node
  | [] => []
  | node :: rest => preorder node ++ preorderOf rest

end

/-- The formatting of a cell's text, by the first emphasis in the cell. -/
def cellFormat (place : Nat) (node : Node) : RunProperties :=
  if place = 0 then { bold := some true }
  else match (preorder node).findSome? emphasisLevel? with
    | none => {}
    | some level => if 2 ≤ level then { bold := some true } else if level = 1 then { italic := some true } else {}

/-- What stands at a place of a Markdown table; a row may be too short to have anything there. -/
def nodeAt? (rows : List Node) (place col : Nat) : Option Node := rows[place]?.bind (·.children[col]?)

/-- The cell has the text of a node, in one run of the formatting that the node asks for, or no text at all where there
is no node. Its one paragraph is aligned. -/
structure IsCellOf (place : Nat) (source : Option Node) (alignment : Alignment) (cell : Cell) : Prop where
  text : cell.text = (source.map Node.textContent).getD ""
  paragraph : ∃ paragraph, cell.paragraphs = [paragraph] ∧ paragraph.properties.alignment = some alignment ∧
    ∀ node ∈ source, paragraph.runs = [{ text := node.textContent, properties := cellFormat place node }]

/-- The table has a row for each row of a Markdown table and a cell for each column of each row. -/
structure IsTableOf (alignments : List (Option Alignment)) (rows : List Node) (table : Table) : Prop where
  rowCount : table.rowCount = rows.length
  columnCount : table.columnCount = tableColumns alignments rows
  cellCount : ∀ row ∈ table.rows, row.cells.length = tableColumns alignments rows
  header : ∀ place row, table.rows[place]? = some row → (row.header = true ↔ place = 0)
  cell : ∀ place col cell, table.cell? place col = some cell →
    IsCellOf place (nodeAt? rows place col) ((alignments[col]?).join.getD .left) cell

/-! ## The first emphasis -/

mutual

/-- The emphasis that formats a cell is the first one of a walk that comes to each node before those below it. -/
theorem firstEmphasis_eq : ∀ node : Node, firstEmphasis node = (preorder node).findSome? emphasisLevel?
  | ⟨kind, children, line, column⟩ => by
    unfold firstEmphasis preorder
    rw [List.findSome?_cons]
    cases kind with
    | emphasis => rfl
    | _ => exact firstEmphasisOf_eq children

theorem firstEmphasisOf_eq : ∀ nodes : List Node, firstEmphasisOf nodes = (preorderOf nodes).findSome? emphasisLevel?
  | [] => by
    rw [firstEmphasisOf, preorderOf, List.findSome?_nil]
  | node :: rest => by
    rw [firstEmphasisOf, preorderOf, List.findSome?_append, firstEmphasis_eq node, firstEmphasisOf_eq rest]
    cases (preorder node).findSome? emphasisLevel? <;> rfl

end

theorem cellProperties_eq (place : Nat) (node : Node) : cellProperties place node = cellFormat place node := by
  unfold cellProperties cellFormat
  rw [← firstEmphasis_eq]
  by_cases hplace : place = 0
  · rw [if_pos hplace, if_pos hplace]
    rfl
  · rw [if_neg hplace, if_neg hplace]
    match firstEmphasis node with
    | none | some 0 | some 1 => rfl
    | some (level + 2) => exact (if_pos (Nat.le_add_left 2 level)).symm

/-! ## The edits of a table -/

variable {alignments : List (Option Alignment)} {rows : List Node}

theorem length_le_tableColumns {row : Node} (h : row ∈ rows) : row.children.length ≤ tableColumns alignments rows := by
  have hmem : row.children.length ∈ rows.map (·.children.length) := List.mem_map_of_mem h
  rw [tableColumns, List.foldl_max]
  obtain ⟨longest, hlongest⟩ := Option.isSome_iff_exists.mp (List.isSome_max?_of_mem hmem)
  have hle : row.children.length ≤ longest := (List.max?_eq_some_iff.mp hlongest).2 _ hmem
  rw [hlongest]
  exact hle.trans (le_max_of_le_left (le_max_right ..))

/-- Every edit that fills a table has its place in the table. -/
theorem fills_of_mem_tableEdits (hrows : rows ≠ []) {edit : Edit} (h : edit ∈ tableEdits alignments rows) :
    edit.Fills rows.length (tableColumns alignments rows) := by
  rw [tableEdits, List.mem_append, List.mem_append] at h
  rcases h with (h | h) | h
  · obtain rfl := List.mem_singleton.mp h
    exact List.length_pos_iff.mpr hrows
  · obtain ⟨col, hcol, rfl⟩ := List.mem_map.mp h
    exact List.mem_range.mp hcol
  · obtain ⟨edits, hedits, hedit⟩ := List.mem_flatten.mp h
    obtain ⟨place, hplace, rfl⟩ := List.mem_mapIdx.mp hedits
    obtain ⟨col, hcol, rfl⟩ := List.mem_mapIdx.mp hedit
    exact ⟨hplace, hcol.trans_le (length_le_tableColumns (List.getElem_mem hplace))⟩

/-- The first row is made a header, and no other. -/
theorem foldl_onHeader_tableEdits (alignments : List (Option Alignment)) (rows : List Node) (place : Nat) :
    (tableEdits alignments rows).foldl (onHeader place) false = decide (place = 0) := by
  rw [tableEdits, List.append_assoc, List.singleton_append, List.foldl_cons]
  refine (foldl_eq_self (fun edit hedit header => ?_) _).trans ?_
  · rcases List.mem_append.mp hedit with h | h
    · obtain ⟨col, -, rfl⟩ := List.mem_map.mp h
      rfl
    · obtain ⟨edits, hedits, hmem⟩ := List.mem_flatten.mp h
      obtain ⟨row, _, rfl⟩ := List.mem_mapIdx.mp hedits
      obtain ⟨col, _, rfl⟩ := List.mem_mapIdx.mp hmem
      rfl
  · rw [onHeader, Bool.false_or]
    rfl

/-- A cell is aligned with its column. -/
theorem foldl_onCell_alignments {columns col : Nat} (hcol : col < columns) (alignment : Nat → Alignment) (place : Nat)
    (cell : Cell) :
    ((List.range columns).map fun c => Edit.setColumnAlignment c (alignment c)).foldl (onCell place col) cell =
      cell.setAlignment (alignment col) := by
  have hplaces : (List.range columns).map (fun c => Edit.setColumnAlignment c (alignment c)) =
      (List.range columns).mapIdx fun c _ => Edit.setColumnAlignment c (alignment c) :=
    List.ext_getElem (by simp) (by simp)
  rw [hplaces, foldl_mapIdx_of_ne col fun c _ cell hc => ?_, List.getElem?_range hcol]
  · exact if_pos rfl
  · exact if_neg (Ne.symm hc)

/-- A cell gets the text of the node at its place. -/
theorem foldl_onCell_texts (place col : Nat) (cell : Cell) :
    (rows.mapIdx fun row node => node.children.mapIdx fun c inner =>
      Edit.setCellText row c inner.textContent (cellProperties row inner)).flatten.foldl (onCell place col) cell =
      ((nodeAt? rows place col).map fun node => cell.setText node.textContent (cellProperties place node)).getD
        cell := by
  have hrow (row : Nat) (node : Node) (cell : Cell) := foldl_mapIdx_of_ne (s := cell)
    (f := fun c (inner : Node) => Edit.setCellText row c inner.textContent (cellProperties row inner))
    (g := onCell place col) col (fun c _ cell hc => if_neg fun h => hc h.2.symm) node.children
  rw [List.foldl_flatten, foldl_mapIdx_of_ne place fun row node cell hrow' => ?_]
  · unfold nodeAt?
    cases rows[place]? with
    | none => rfl
    | some row =>
        rw [Option.map_some, Option.getD_some, hrow, Option.bind_some]
        congr 2
        funext node
        exact if_pos ⟨rfl, rfl⟩
  · rw [hrow]
    cases node.children[col]? with
    | none => rfl
    | some inner => exact if_neg fun h => hrow' h.1.symm

/-- The cell at a place once all edits are made. -/
theorem foldl_onCell_tableEdits {col : Nat} (hcol : col < tableColumns alignments rows) (place : Nat) (cell : Cell) :
    (tableEdits alignments rows).foldl (onCell place col) cell =
      ((nodeAt? rows place col).map fun node =>
        (cell.setAlignment ((alignments[col]?).join.getD .left)).setText node.textContent
          (cellFormat place node)).getD (cell.setAlignment ((alignments[col]?).join.getD .left)) := by
  rw [tableEdits, List.foldl_append, List.foldl_append, foldl_onCell_texts,
    foldl_onCell_alignments hcol fun c => (alignments[c]?).join.getD .left]
  simp only [cellProperties_eq]
  rfl

/-- An empty cell that is aligned and gets the text of a node, if there is one. -/
theorem isCellOf_filled (place width : Nat) (source : Option Node) (alignment : Alignment) :
    IsCellOf place source alignment
      ((source.map fun node => ((CellOf.ofWidth width).setAlignment alignment).setText node.textContent
        (cellFormat place node)).getD ((CellOf.ofWidth width).setAlignment alignment)) := by
  cases source with
  | none =>
      refine ⟨rfl, ⟨_, rfl, rfl, fun node hnode => ?_⟩⟩
      cases hnode
  | some node =>
      refine ⟨?_, ⟨_, rfl, rfl, fun other hother => ?_⟩⟩
      · simp [CellOf.text, CellOf.textChars, CellOf.setText, Text.unlines, Text.join, Paragraph.textChars,
          Node.textContent]
      · cases hother
        rfl

/-- A document takes all edits that fill its last table. -/
theorem exists_editAll {size columns : Nat} {table : Table} (h : table.Shaped size columns) {edits : List Edit}
    (hfills : ∀ edit ∈ edits, edit.Fills size columns) (doc : Document) (elements : List Element) :
    ∃ filled, editAll { doc with body := elements ++ [.table table] } elements.length edits =
      ({ doc with body := elements ++ [.table filled] }, none) ∧ Filled size columns table edits filled := by
  induction edits generalizing table with
  | nil => exact ⟨table, rfl, .nil h⟩
  | cons edit edits ih =>
      obtain ⟨changed, hedit, hchanged⟩ := h.edit (hfills edit List.mem_cons_self)
      obtain ⟨filled, hall, hfilled⟩ := ih hchanged.shaped fun e he => hfills e (List.mem_cons_of_mem _ he)
      refine ⟨filled, ?_, hchanged.cons hfilled⟩
      rw [editAll, editTable_last_table, hedit]
      exact hall

/-! ## The rendering -/

/-- A step that cannot end early and leaves one state only. -/
theorem Yields.eq_ok {context : RenderContext} {s u : Rendering} {m : RenderM Unit}
    (h : Yields context s m (fun _ t => t = u) fun _ => False) : m context s = (.ok (), u) := by
  unfold Yields at h
  rcases hrun : m context s with ⟨d | ⟨⟩, t⟩
  · rw [hrun] at h
    exact h.elim
  · rw [hrun] at h
    obtain rfl : t = u := h
    rfl

/-- The edits of a new table make of it what the Markdown table asks for. -/
theorem isTableOf_of_filled {table filled : Table}
    (h : Filled rows.length (tableColumns alignments rows) table (tableEdits alignments rows) filled)
    (hheader : ∀ place < rows.length, table.header? place = some false)
    (hcell : ∀ place < rows.length, ∀ col < tableColumns alignments rows,
      table.cell? place col = some (CellOf.ofWidth (columnWidth (tableColumns alignments rows)))) :
    IsTableOf alignments rows filled where
  rowCount := h.shaped.rows
  columnCount := h.shaped.columns
  cellCount := h.shaped.cells
  header := fun place row hrow => by
    have hplace : place < rows.length := h.shaped.rows ▸ (List.getElem?_eq_some_iff.mp hrow).1
    have hfilled := h.header place
    rw [header?, hrow, hheader place hplace, Option.map_some, Option.map_some, foldl_onHeader_tableEdits] at hfilled
    rw [Option.some.inj hfilled, decide_eq_true_iff]
  cell := fun place col cell hfound => by
    obtain ⟨hplace, hcol⟩ := h.shaped.lt_of_cell? hfound
    have hfilled := h.cell place col
    rw [hfound, hcell place hplace col hcol, Option.map_some, foldl_onCell_tableEdits hcol] at hfilled
    rw [Option.some.inj hfilled]
    exact isCellOf_filled ..

/-- **A table is rendered whole.** A Markdown table that has a row and a column adds one table to the document, and
nothing is reported. The table has a row for each row of the Markdown table, whatever else stands between them, and as
many columns as the longest row has cells or as there are alignments. Its first row alone is a header. A cell has the
text of the Markdown cell at its place, or none, in bold in the first row and elsewhere as the first emphasis in the
cell says; it is aligned as its column is, to the left where nothing is said. -/
theorem renderBlock_table (settings : RenderSettings) (alignments : List (Option Alignment)) (children : List Node)
    (line column : Nat) (s : Rendering) (hrows : tableRows children ≠ [])
    (hcolumns : tableColumns alignments (tableRows children) ≠ 0) :
    ∃ table, IsTableOf alignments (tableRows children) table ∧
      renderBlock ⟨.table alignments, children, line, column⟩ { settings } s =
        (.ok (), { s with doc := { s.doc with body := s.doc.body ++ [.table table] } }) := by
  have hlength : (tableRows children).length ≠ 0 := mt List.length_eq_zero_iff.mp hrows
  obtain ⟨table, hnew, hshaped, hheader, hcell⟩ := exists_new (mt List.length_eq_zero_iff.mp hrows) hcolumns
  obtain ⟨filled, hall, hfilled⟩ :=
    exists_editAll hshaped (fun _ => fills_of_mem_tableEdits hrows) s.doc s.doc.body
  refine ⟨filled, isTableOf_of_filled hfilled hheader hcell, ?_⟩
  have hcreated : s.doc.createTable (tableRows children).length (tableColumns alignments (tableRows children)) =
      .ok ({ s.doc with body := s.doc.body ++ [.table table] }, s.doc.body.length) := by
    rw [Document.createTable, hnew]
    rfl
  unfold renderBlock
  dsimp only
  unfold renderTable
  refine Yields.eq_ok (yields_refuses _ (fun h => nomatch h) fun _ => .get_bind ?_)
  rw [hcreated]
  refine .set_bind (yields_refuses _ (fun h => nomatch h) fun _ => ?_)
  dsimp only
  rw [hall]
  exact .set_bind (.pure rfl)

/-- Two rows of different length with a stray block between them, an alignment without cells, and an emphasis inside a
link in front of a strong one. -/
def raggedTable : Node where
  kind := .table [none, some .right, some .center]
  children :=
    [⟨.tableRow true, [⟨.tableCell, [⟨.text "A", [], 1, 3⟩], 1, 3⟩], 1, 1⟩,
      ⟨.paragraph, [⟨.text "stray", [], 2, 1⟩], 2, 1⟩,
      ⟨.tableRow false,
        [⟨.tableCell,
          [⟨.text "x ", [], 3, 3⟩,
            ⟨.link "u" "", [⟨.emphasis 1, [⟨.text "y", [], 3, 6⟩], 3, 6⟩], 3, 5⟩,
            ⟨.emphasis 2, [⟨.text "z", [], 3, 12⟩], 3, 12⟩], 3, 3⟩,
          ⟨.tableCell, [⟨.text "plain", [], 3, 20⟩], 3, 20⟩], 3, 1⟩]

theorem renderBlock_table_ragged :
    ∃ table, IsTableOf [none, some .right, some .center] (tableRows raggedTable.children) table ∧
      renderBlock raggedTable {} {} = (.ok (), { doc := { body := [.table table] } }) :=
  renderBlock_table {} _ raggedTable.children 0 0 {} (List.cons_ne_nil _ _) (by decide)

end Markdown
end Folio
