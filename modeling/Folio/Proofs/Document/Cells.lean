import Folio.Proofs.Document.TableGrid

/-!
# What the cells of a table hold

A cell never lacks a paragraph: a new cell has one with an empty run, and the edits of a table write paragraphs of one
run, align those that are there, or leave them alone. What is true of such paragraphs is true of every paragraph of a
table, of the tables in its cells and of the tables in theirs.

* `Table.Each` : every cell has a paragraph, and every paragraph of the table is as `P` says, nested tables included;
* `Paragraph.Lasting` : what edits keep true of a paragraph;
* `each_new`, `Each.edit` : it is true of every paragraph of a new table, and stays so under an edit.
-/

namespace Folio

/-- True of an empty paragraph, and kept by what edits do to one. -/
structure Paragraph.Lasting (P : Paragraph → Prop) : Prop where
  empty : P (ensureRun {})
  written : ∀ paragraph, P paragraph → ∀ text properties, P { paragraph with runs := [{ text, properties }] }
  aligned : ∀ paragraph, P paragraph → ∀ alignment,
    P { paragraph with properties := { paragraph.properties with alignment } }

namespace Table

/-- Every cell has a paragraph, and every paragraph is as `P` says, those of nested tables included. -/
inductive Each (P : Paragraph → Prop) : Table → Prop
  | intro {table : Table} (nonempty : ∀ row ∈ table.rows, ∀ cell ∈ row.cells, cell.paragraphs ≠ [])
      (paragraphs : ∀ row ∈ table.rows, ∀ cell ∈ row.cells, ∀ paragraph ∈ cell.paragraphs, P paragraph)
      (tables : ∀ row ∈ table.rows, ∀ cell ∈ row.cells, ∀ inner ∈ cell.tables, Each P inner) : Each P table

/-- The same of one cell. -/
structure CellEach (P : Paragraph → Prop) (cell : Cell) : Prop where
  nonempty : cell.paragraphs ≠ []
  paragraphs : ∀ paragraph ∈ cell.paragraphs, P paragraph
  tables : ∀ inner ∈ cell.tables, Each P inner

/-- The same of one row. -/
def RowEach (P : Paragraph → Prop) (row : Row) : Prop := ∀ cell ∈ row.cells, CellEach P cell

variable {P : Paragraph → Prop} {table : Table}

theorem each_iff : table.Each P ↔ ∀ row ∈ table.rows, RowEach P row := by
  constructor
  · rintro ⟨nonempty, paragraphs, tables⟩ row hrow cell hcell
    exact ⟨nonempty row hrow cell hcell, paragraphs row hrow cell hcell, tables row hrow cell hcell⟩
  · intro h
    exact ⟨fun row hrow cell hcell => (h row hrow cell hcell).nonempty,
      fun row hrow cell hcell => (h row hrow cell hcell).paragraphs,
      fun row hrow cell hcell => (h row hrow cell hcell).tables⟩

theorem Each.mono {Q : Paragraph → Prop} (h : table.Each P) (hPQ : ∀ paragraph, P paragraph → Q paragraph) :
    table.Each Q := by
  induction h with
  | intro nonempty paragraphs _ ih =>
      exact ⟨nonempty, fun row hrow cell hcell paragraph hmem => hPQ _ (paragraphs row hrow cell hcell _ hmem), ih⟩

/-! ## Cells -/

theorem cellEach_empty (h : Paragraph.Lasting P) (properties : CellProperties) :
    CellEach P { CellOf.empty with properties } where
  nonempty := List.cons_ne_nil _ _
  paragraphs := List.forall_mem_singleton.mpr h.empty
  tables := fun _ hmem => absurd hmem List.not_mem_nil

/-- A cell of one paragraph, of one run, with the properties of the cell's first paragraph. -/
theorem written_firstProperties (h : Paragraph.Lasting P) {cell : Cell} (hcell : CellEach P cell) (text : String)
    (properties : RunProperties) : P { properties := cell.firstProperties, runs := [{ text, properties }] } := by
  obtain ⟨first, rest, hparagraphs⟩ := List.exists_cons_of_ne_nil hcell.nonempty
  have hfirst : cell.firstProperties = first.properties := by
    rw [CellOf.firstProperties, hparagraphs]
    rfl
  rw [hfirst]
  refine h.written first (hcell.paragraphs first ?_) text properties
  rw [hparagraphs]
  exact List.mem_cons_self

theorem CellEach.setText (h : Paragraph.Lasting P) {cell : Cell} (hcell : CellEach P cell) (text : String)
    (properties : RunProperties) : CellEach P (cell.setText text properties) where
  nonempty := List.cons_ne_nil _ _
  paragraphs := List.forall_mem_singleton.mpr (written_firstProperties h hcell text properties)
  tables := hcell.tables

theorem CellEach.clearText (h : Paragraph.Lasting P) {cell : Cell} (hcell : CellEach P cell) :
    CellEach P cell.clearText where
  nonempty := List.cons_ne_nil _ _
  paragraphs := List.forall_mem_singleton.mpr (written_firstProperties h hcell "" {})
  tables := fun _ hmem => absurd hmem List.not_mem_nil

theorem CellEach.setAlignment (h : Paragraph.Lasting P) {cell : Cell} (hcell : CellEach P cell)
    (alignment : Alignment) : CellEach P (cell.setAlignment alignment) where
  nonempty := List.map_eq_nil_iff.not.mpr hcell.nonempty
  paragraphs := List.forall_mem_map.mpr fun paragraph hmem => h.aligned paragraph (hcell.paragraphs _ hmem) _
  tables := hcell.tables

/-- The formatting of a cell does not matter. -/
theorem CellEach.withProperties {cell : Cell} (hcell : CellEach P cell) (properties : CellProperties) :
    CellEach P { cell with properties } :=
  ⟨hcell.nonempty, hcell.paragraphs, hcell.tables⟩

theorem CellEach.nest {cell : Cell} (hcell : CellEach P cell) {inner : Table} (hinner : inner.Each P) :
    CellEach P { cell with tables := cell.tables ++ [inner] } where
  nonempty := hcell.nonempty
  paragraphs := hcell.paragraphs
  tables := List.forall_mem_append.mpr ⟨hcell.tables, List.forall_mem_singleton.mpr hinner⟩

/-! ## Rows -/

theorem forall_mem_modify {α : Type} {Q : α → Prop} {values : List α} (h : ∀ value ∈ values, Q value) (i : Nat)
    {change : α → α} (hchange : ∀ value, Q value → Q (change value)) : ∀ value ∈ values.modify i change, Q value := by
  induction values generalizing i with
  | nil => cases i <;> exact h
  | cons value values ih =>
      obtain ⟨hvalue, hrest⟩ := List.forall_mem_cons.mp h
      cases i with
      | zero => exact List.forall_mem_cons.mpr ⟨hchange value hvalue, hrest⟩
      | succ i => exact List.forall_mem_cons.mpr ⟨hvalue, ih hrest i⟩

theorem RowEach.modify {row : Row} (hrow : RowEach P row) (col : Nat) {change : Cell → Cell}
    (hchange : ∀ cell, CellEach P cell → CellEach P (change cell)) :
    RowEach P { row with cells := row.cells.modify col change } :=
  forall_mem_modify hrow col hchange

/-- The cells of a merge are cells of the row, one of them with another formatting. -/
theorem RowEach.mergeCells {row : Row} (hrow : RowEach P row) (col span : Nat) :
    RowEach P (mergeCells row col span) := by
  intro cell hcell
  rw [Table.mergeCells, List.mem_append, List.mem_append] at hcell
  rcases hcell with (hcell | hcell) | hcell
  · exact hrow cell (List.mem_of_mem_take hcell)
  · obtain ⟨first, hfirst, rfl⟩ := Option.map_eq_some_iff.mp (Option.mem_toList.mp hcell)
    exact (hrow first (List.mem_of_getElem? hfirst)).withProperties _
  · exact hrow cell (List.mem_of_mem_drop hcell)

/-- A row of the shape of another, without its contents. -/
theorem RowEach.cleared (h : Paragraph.Lasting P) {row : Row} (hrow : RowEach P row) :
    RowEach P { cells := row.cells.map fun cell => cell.clearText.setVerticalMerge none } :=
  List.forall_mem_map.mpr fun cell hcell => ((hrow cell hcell).clearText h).withProperties _

/-! ## Tables -/

/-- Every paragraph of a new table is as edits keep it. -/
theorem each_new (h : Paragraph.Lasting P) {rows cols : Nat} (hnew : Table.new rows cols = .ok table) :
    table.Each P := by
  refine each_iff.mpr fun row hrow cell hcell => ?_
  obtain rfl := eq_of_mem_rows_new hnew hrow
  obtain rfl := List.eq_of_mem_replicate hcell
  exact cellEach_empty h _

theorem Each.modifyRow (h : table.Each P) (place : Nat) {change : Row → Row}
    (hchange : ∀ row, RowEach P row → RowEach P (change row)) : (table.modifyRow place change).Each P :=
  each_iff.mpr (forall_mem_modify (each_iff.mp h) place hchange)

theorem Each.modifyCell (h : table.Each P) (row col : Nat) {change : Cell → Cell}
    (hchange : ∀ cell, CellEach P cell → CellEach P (change cell)) : (table.modifyCell row col change).Each P :=
  h.modifyRow row fun _ hrow => hrow.modify col hchange

theorem Each.markMerged (h : table.Each P) (col : Nat) (merge : VerticalMerge) (row count : Nat) :
    (table.markMerged col merge row count).1.Each P := by
  induction count generalizing table merge row with
  | zero => exact h
  | succ count ih =>
      unfold Table.markMerged
      split
      · exact h
      · exact ih (h.modifyCell row col fun cell hcell => hcell.withProperties _) _ _

/-- An edit, refused or not, keeps the paragraphs of a table as they are to be. -/
theorem Each.edit (hlasting : Paragraph.Lasting P) (h : table.Each P) (edit : Edit) : (table.edit edit).1.Each P := by
  have horSame : ∀ result : Except EditError Table, (∀ changed, result = .ok changed → changed.Each P) →
      (table.orSame result).1.Each P := by
    intro result hresult
    cases result with
    | ok changed => exact hresult changed rfl
    | error e => exact h
  cases edit with
  | mergeVertical col first last =>
      rw [Table.edit, mergeVertical]
      split
      · exact h
      · exact h.markMerged ..
  | setHeaderRow row =>
      refine horSame _ fun changed hchanged => ?_
      unfold setHeaderRow at hchanged
      split at hchanged <;> cases hchanged
      exact h.modifyRow row fun _ => id
  | setColumnAlignment col alignment =>
      refine horSame _ fun changed hchanged => ?_
      unfold setColumnAlignment at hchanged
      split at hchanged <;> cases hchanged
      refine each_iff.mpr (List.forall_mem_map.mpr fun row hrow => ?_)
      exact (each_iff.mp h row hrow).modify col fun cell hcell => hcell.setAlignment hlasting alignment
  | setCellText row col text properties =>
      refine horSame _ fun changed hchanged => ?_
      unfold setCellText at hchanged
      split at hchanged <;> cases hchanged
      exact h.modifyCell row col fun cell hcell => hcell.setText hlasting text properties
  | mergeHorizontal row col span =>
      refine horSame _ fun changed hchanged => ?_
      unfold mergeHorizontal at hchanged
      split at hchanged
      · cases hchanged
      · split at hchanged <;> cases hchanged
        exact h.modifyRow row fun _ hrow => hrow.mergeCells col span
  | appendRowLike row =>
      refine horSame _ fun changed hchanged => ?_
      unfold appendRowLike at hchanged
      split at hchanged
      · cases hchanged
      next found hfound =>
        cases hchanged
        have hrow := each_iff.mp h found (List.mem_of_getElem? hfound)
        exact each_iff.mpr (List.forall_mem_append.mpr
          ⟨each_iff.mp h, List.forall_mem_singleton.mpr (hrow.cleared hlasting)⟩)
  | nestTable row col rows cols =>
      refine horSame _ fun changed hchanged => ?_
      unfold nestTable at hchanged
      cases hnew : Table.new rows cols with
      | error e =>
          rw [hnew] at hchanged
          cases hchanged
      | ok inner =>
          rw [hnew] at hchanged
          dsimp only [bind, Except.bind] at hchanged
          split at hchanged <;> cases hchanged
          exact h.modifyCell row col fun cell hcell => hcell.nest (each_new hlasting hnew)

end Table
end Folio
