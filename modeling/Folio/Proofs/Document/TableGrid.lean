import Folio.Document.Table
import Mathlib.Algebra.Order.BigOperators.Group.List
import Mathlib.Algebra.Order.Ring.Nat
import Mathlib.Tactic.Common

/-!
# The columns that the rows of a table cover

A cell covers one column of the grid or, after a merge, as many as its span says, and the rows of a new table cover
the grid exactly.

* `Reshape`, `reshape_edit` : what an edit can do to the measures of the cells, their spans and widths;
* `Change`, `change_edit` : what it can do to the spans;
* `covered_mergeCells` : a merge puts the number of the merged cells in place of the columns that they covered;
* `Edit.Remerges` : the edit merges cells one of which spans several columns already;
* `coversGrid_after_iff` : the rows cover the grid after edits exactly when none of them is such a merge.
-/

namespace Folio
namespace Table

/-- How many columns of the grid each cell of a row covers. -/
def spans (row : Row) : List Nat := row.cells.map CellOf.span

/-- How many columns of the grid a row covers. -/
def covered (row : Row) : Nat := (spans row).sum

/-- Every row covers the columns of the grid, no more and no fewer. -/
def CoversGrid (table : Table) : Prop := ∀ row ∈ table.rows, covered row = table.columnCount

/-- The table after edits in a row, refused ones included. -/
def after (table : Table) : List Edit → Table
  | [] => table
  | edit :: edits => (table.edit edit).1.after edits

/-- The edit merges cells one of which spans several columns already. -/
def Edit.Remerges (table : Table) : Edit → Prop
  | .mergeHorizontal place col count =>
    ∃ row ∈ table.rows[place]?, 2 ≤ count ∧ col + count ≤ row.cells.length ∧
      ∃ n ∈ ((spans row).drop col).take count, n ≠ 1
  | _ => False

/-- None of the edits in a row merges a cell that spans several columns when its turn comes. -/
def NeverRemerges (table : Table) : List Edit → Prop
  | [] => True
  | edit :: edits => ¬ edit.Remerges table ∧ (table.edit edit).1.NeverRemerges edits

instance (table : Table) : Decidable table.CoversGrid :=
  inferInstanceAs (Decidable (∀ row ∈ table.rows, covered row = table.columnCount))

instance (table : Table) : (edit : Edit) → Decidable (edit.Remerges table)
  | .mergeHorizontal place col count =>
    inferInstanceAs (Decidable (∃ row ∈ table.rows[place]?, 2 ≤ count ∧ col + count ≤ row.cells.length ∧
      ∃ n ∈ ((spans row).drop col).take count, n ≠ 1))
  | .setHeaderRow _ | .setColumnAlignment _ _ | .setCellText _ _ _ _ | .mergeVertical _ _ _ | .appendRowLike _
  | .nestTable _ _ _ _ => inferInstanceAs (Decidable False)

instance decidableNeverRemerges (table : Table) : (edits : List Edit) → Decidable (table.NeverRemerges edits)
  | [] => .isTrue trivial
  | edit :: edits =>
    have := decidableNeverRemerges (table.edit edit).1 edits
    inferInstanceAs (Decidable (¬ edit.Remerges table ∧ (table.edit edit).1.NeverRemerges edits))

/-! ## What an edit changes -/

/-- What of a cell only merges along a row change: the columns that it spans and its width. -/
def measure (cell : Cell) : Option Nat × Option Nat := (cell.properties.gridSpan, cell.properties.width)

/-- The measures of the cells of a row. -/
def measures (row : Row) : List (Option Nat × Option Nat) := row.cells.map measure

/-- The edit merges cells along a row, and is not refused. -/
def Edit.Merges (table : Table) : Edit → Prop
  | .mergeHorizontal place col count => ∃ row ∈ table.rows[place]?, 2 ≤ count ∧ col + count ≤ row.cells.length
  | _ => False

/-- What an edit can make of the rows of a table, as far as the measures of the cells are concerned. -/
inductive Reshape (table : Table) : Edit → Table → Prop
  /-- The measures stay. -/
  | same {edit : Edit} {changed : Table} (kept : changed.rows.map measures = table.rows.map measures)
      (plain : ¬ edit.Merges table) : Reshape table edit changed
  /-- Cells of a row are merged. -/
  | merged {place col count : Nat} {row : Row} {changed : Table} (found : table.rows[place]? = some row)
      (two : 2 ≤ count) (fits : col + count ≤ row.cells.length)
      (made : changed.rows = table.rows.modify place (mergeCells · col count)) :
      Reshape table (.mergeHorizontal place col count) changed
  /-- A row comes last that has the measures of another. -/
  | appended {place : Nat} {row last : Row} {changed : Table} (found : table.rows[place]? = some row)
      (like : measures last = measures row) (made : changed.rows = table.rows ++ [last]) :
      Reshape table (.appendRowLike place) changed

/-- What an edit can make of the rows of a table, as far as the grid is concerned. -/
inductive Change (table : Table) : Edit → Table → Prop
  /-- The spans stay. -/
  | same {edit : Edit} {changed : Table} (kept : changed.rows.map spans = table.rows.map spans)
      (plain : ¬ edit.Remerges table) : Change table edit changed
  /-- Cells of a row are merged. -/
  | merged {place col count : Nat} {row : Row} {changed : Table} (found : table.rows[place]? = some row)
      (two : 2 ≤ count) (fits : col + count ≤ row.cells.length)
      (made : changed.rows = table.rows.modify place (mergeCells · col count)) :
      Change table (.mergeHorizontal place col count) changed
  /-- A row comes last that has the spans of another. -/
  | appended {place : Nat} {row last : Row} {changed : Table} (found : table.rows[place]? = some row)
      (like : spans last = spans row) (made : changed.rows = table.rows ++ [last]) :
      Change table (.appendRowLike place) changed

/-- A change of one value that keeps what is read off it keeps what is read off all values. -/
theorem map_modify_of_forall {α β : Type} {f : α → β} {change : α → α} (h : ∀ a, f (change a) = f a) (values : List α)
    (place : Nat) : (values.modify place change).map f = values.map f := by
  induction values generalizing place with
  | nil => cases place <;> rfl
  | cons value values ih =>
      cases place with
      | zero => rw [List.modify_zero_cons, List.map_cons, h, List.map_cons]
      | succ place => rw [List.modify_succ_cons, List.map_cons, ih, List.map_cons]

/-- A change of one cell that keeps its measure keeps the measures of its row. -/
theorem measures_modify (row : Row) (col : Nat) (change : Cell → Cell) (h : ∀ cell, measure (change cell) = measure cell) :
    measures { row with cells := row.cells.modify col change } = measures row :=
  map_modify_of_forall h row.cells col

theorem map_measures_modifyCell (table : Table) (row col : Nat) (change : Cell → Cell)
    (h : ∀ cell, measure (change cell) = measure cell) :
    (table.modifyCell row col change).rows.map measures = table.rows.map measures :=
  map_modify_of_forall (fun r => measures_modify r col change h) table.rows row

/-- Marking the cells of a column as merged keeps all measures, also when it ends before the last row. -/
theorem markMerged_measures (table : Table) (col : Nat) (merge : VerticalMerge) (row count : Nat) :
    (table.markMerged col merge row count).1.rows.map measures = table.rows.map measures ∧
      (table.markMerged col merge row count).1.grid = table.grid := by
  induction count generalizing table merge row with
  | zero => exact ⟨rfl, rfl⟩
  | succ count ih =>
      unfold markMerged
      cases table.cell? row col with
      | none => exact ⟨rfl, rfl⟩
      | some cell =>
          obtain ⟨hrows, hgrid⟩ := ih (table.modifyCell row col (·.setVerticalMerge (some merge))) .continue (row + 1)
          refine ⟨hrows.trans ?_, hgrid⟩
          exact map_measures_modifyCell table row col _ fun _ => rfl

/-- An edit keeps the grid and changes the measures of the cells in one of three ways. -/
theorem reshape_edit (table : Table) (edit : Edit) :
    Reshape table edit (table.edit edit).1 ∧ (table.edit edit).1.columnCount = table.columnCount := by
  cases edit with
  | setHeaderRow row =>
      rw [Table.edit, setHeaderRow]
      split
      · refine ⟨.same ?_ id, rfl⟩
        refine map_modify_of_forall (fun r => ?_) table.rows row
        rfl
      · exact ⟨.same rfl id, rfl⟩
  | setColumnAlignment col alignment =>
      rw [Table.edit, setColumnAlignment]
      split
      · refine ⟨.same ?_ id, rfl⟩
        show List.map measures (table.rows.map _) = _
        rw [List.map_map]
        exact List.map_congr_left fun row _ => measures_modify row col _ fun _ => rfl
      · exact ⟨.same rfl id, rfl⟩
  | setCellText row col text properties =>
      rw [Table.edit, setCellText]
      split
      · exact ⟨.same (map_measures_modifyCell _ _ _ _ fun _ => rfl) id, rfl⟩
      · exact ⟨.same rfl id, rfl⟩
  | mergeHorizontal place col count =>
      rw [Table.edit, mergeHorizontal]
      cases hrow : table.rows[place]? with
      | none =>
          refine ⟨.same rfl ?_, rfl⟩
          rintro ⟨row, hfound, -⟩
          rw [hrow] at hfound
          cases hfound
      | some row =>
          dsimp only
          split
          next hspan =>
            refine ⟨.same rfl ?_, rfl⟩
            rintro ⟨row', hfound, two, fits⟩
            cases hrow.symm.trans hfound
            omega
          next hspan => exact ⟨.merged hrow (by omega) (by omega) rfl, rfl⟩
  | mergeVertical col first last =>
      rw [Table.edit, mergeVertical]
      split
      · exact ⟨.same rfl id, rfl⟩
      · obtain ⟨hrows, hgrid⟩ := markMerged_measures table col .restart first (last - first + 1)
        exact ⟨.same hrows id, congrArg List.length hgrid⟩
  | appendRowLike place =>
      rw [Table.edit, appendRowLike]
      cases hrow : table.rows[place]? with
      | none => exact ⟨.same rfl id, rfl⟩
      | some row =>
          refine ⟨.appended hrow ?_ rfl, rfl⟩
          show List.map measure (row.cells.map _) = _
          rw [List.map_map]
          exact List.map_congr_left fun _ _ => rfl
  | nestTable row col rows cols =>
      rw [Table.edit, nestTable]
      cases Table.new rows cols with
      | error e => exact ⟨.same rfl id, rfl⟩
      | ok inner =>
          cases table.cell? row col with
          | none => exact ⟨.same rfl id, rfl⟩
          | some cell => exact ⟨.same (map_measures_modifyCell _ _ _ _ fun _ => rfl) id, rfl⟩

/-- The spans of the cells are told by their measures. -/
theorem spans_eq (row : Row) : spans row = (measures row).map fun m => m.1.getD 1 := by
  rw [measures, List.map_map]
  rfl

theorem map_spans_of_measures {table changed : Table}
    (kept : changed.rows.map measures = table.rows.map measures) : changed.rows.map spans = table.rows.map spans := by
  have hspans : spans = (List.map fun m => m.1.getD 1) ∘ measures := funext spans_eq
  rw [hspans, ← List.map_map, kept, List.map_map]

/-- Marking the cells of a column as merged keeps all spans, also when it ends before the last row. -/
theorem markMerged_keeps (table : Table) (col : Nat) (merge : VerticalMerge) (row count : Nat) :
    (table.markMerged col merge row count).1.rows.map spans = table.rows.map spans ∧
      (table.markMerged col merge row count).1.grid = table.grid :=
  (markMerged_measures table col merge row count).imp_left map_spans_of_measures

theorem Edit.Remerges.merges {table : Table} {edit : Edit} (h : edit.Remerges table) : edit.Merges table := by
  cases edit with
  | mergeHorizontal place col count =>
      obtain ⟨row, found, two, fits, -⟩ := h
      exact ⟨row, found, two, fits⟩
  | _ => exact h

/-- An edit keeps the grid and changes the rows in one of three ways. -/
theorem change_edit (table : Table) (edit : Edit) :
    Change table edit (table.edit edit).1 ∧ (table.edit edit).1.columnCount = table.columnCount := by
  refine (reshape_edit table edit).imp_left fun reshape => ?_
  cases reshape with
  | same kept plain => exact .same (map_spans_of_measures kept) (mt Edit.Remerges.merges plain)
  | merged found two fits made => exact .merged found two fits made
  | appended found like made => exact .appended found (by rw [spans_eq, like, ← spans_eq]) made

/-! ## Merging cells of a row -/

/-- The cells that are merged give way to one that spans as many columns as they were cells. -/
theorem spans_mergeCells {row : Row} {col count : Nat} (h : col < row.cells.length) :
    spans (mergeCells row col count) = (spans row).take col ++ count :: (spans row).drop (col + count) := by
  unfold spans mergeCells
  rw [List.getElem?_eq_getElem h]
  simp [CellOf.span]

/-- A merge puts the number of the merged cells in place of the columns that they covered. -/
theorem covered_mergeCells {row : Row} {col count : Nat} (two : 2 ≤ count) (fits : col + count ≤ row.cells.length) :
    covered (mergeCells row col count) + (((spans row).drop col).take count).sum = covered row + count := by
  have hsplit : (spans row).sum = ((spans row).take col).sum + ((((spans row).drop col).take count).sum +
      ((spans row).drop (col + count)).sum) := by
    rw [← List.drop_drop, List.sum_take_add_sum_drop, List.sum_take_add_sum_drop]
  unfold covered
  rw [spans_mergeCells (by omega), hsplit, List.sum_append, List.sum_cons]
  omega

/-- Numbers none of which is zero add up to more than their count unless all are one. -/
theorem length_lt_sum {numbers : List Nat} (positive : ∀ n ∈ numbers, 1 ≤ n) (other : ∃ n ∈ numbers, n ≠ 1) :
    numbers.length < numbers.sum := by
  induction numbers with
  | nil => simp at other
  | cons n numbers ih =>
      obtain ⟨hn, hrest⟩ := List.forall_mem_cons.mp positive
      have hle := List.length_le_sum_of_one_le numbers hrest
      rw [List.length_cons, List.sum_cons]
      by_cases hone : n = 1
      · have hmore : ∃ m ∈ numbers, m ≠ 1 := by simpa [hone] using other
        have := ih hrest hmore
        omega
      · omega

theorem length_merged {row : Row} {col count : Nat} (fits : col + count ≤ row.cells.length) :
    (((spans row).drop col).take count).length = count := by
  rw [List.length_take, List.length_drop, spans, List.length_map]
  omega

/-- A merge of cells of one column each keeps what the row covers. -/
theorem covered_mergeCells_of_ones {row : Row} {col count : Nat} (two : 2 ≤ count)
    (fits : col + count ≤ row.cells.length) (ones : ∀ n ∈ ((spans row).drop col).take count, n = 1) :
    covered (mergeCells row col count) = covered row := by
  have hmerge := covered_mergeCells two fits
  rw [List.eq_replicate_of_mem ones, length_merged fits, List.sum_replicate_nat] at hmerge
  omega

/-- A merge never makes a row cover more, and less if one of the cells spans several columns. -/
theorem covered_mergeCells_le {row : Row} {col count : Nat} (two : 2 ≤ count) (fits : col + count ≤ row.cells.length)
    (positive : ∀ n ∈ spans row, 1 ≤ n) :
    covered (mergeCells row col count) ≤ covered row ∧
      ((∃ n ∈ ((spans row).drop col).take count, n ≠ 1) → covered (mergeCells row col count) < covered row) := by
  have hpositive : ∀ n ∈ ((spans row).drop col).take count, 1 ≤ n := fun n hn =>
    positive n (List.mem_of_mem_drop (List.mem_of_mem_take hn))
  have hle := List.length_le_sum_of_one_le _ hpositive
  have hmerge := covered_mergeCells two fits
  rw [length_merged fits] at hle
  refine ⟨by omega, fun other => ?_⟩
  have hlt := length_lt_sum hpositive other
  rw [length_merged fits] at hlt
  omega

/-! ## One edit -/

/-- Every cell covers a column at least. -/
def Positive (table : Table) : Prop := ∀ row ∈ table.rows, ∀ n ∈ spans row, 1 ≤ n

/-- Some row covers less than the grid. -/
def FallsShort (table : Table) : Prop := ∃ row ∈ table.rows, covered row < table.columnCount

theorem FallsShort.not_coversGrid {table : Table} (h : table.FallsShort) : ¬ table.CoversGrid := by
  obtain ⟨row, hrow, hlt⟩ := h
  intro hcovers
  have heq := hcovers row hrow
  omega

/-- What holds of the spans of every row holds of them in a table with the same spans. -/
theorem forall_spans {P : List Nat → Prop} {table changed : Table} (kept : changed.rows.map spans = table.rows.map spans)
    (h : ∀ row ∈ table.rows, P (spans row)) : ∀ row ∈ changed.rows, P (spans row) := by
  intro row hrow
  have hmem : spans row ∈ changed.rows.map spans := List.mem_map_of_mem hrow
  rw [kept] at hmem
  obtain ⟨old, hold, heq⟩ := List.mem_map.mp hmem
  rw [← heq]
  exact h old hold

/-- After a change of one row every row is an old one or the changed one. -/
theorem mem_modify {rows : List Row} {place : Nat} {row other : Row} {change : Row → Row}
    (found : rows[place]? = some row) (h : other ∈ rows.modify place change) : other ∈ rows ∨ other = change row := by
  obtain ⟨i, hi⟩ := List.mem_iff_getElem?.mp h
  rw [List.getElem?_modify] at hi
  by_cases hplace : place = i
  · subst hplace
    rw [found] at hi
    right
    simpa using hi.symm
  · left
    exact List.mem_of_getElem? (by simpa [hplace] using hi)

/-- What holds of every row still does after a change of one row that keeps it. -/
theorem forall_rows_modify {P : Row → Prop} {rows : List Row} {place : Nat} {row : Row} {change : Row → Row}
    (found : rows[place]? = some row) (h : ∀ old ∈ rows, P old) (keeps : P row → P (change row)) :
    ∀ other ∈ rows.modify place change, P other := by
  intro other hother
  rcases mem_modify found hother with hold | rfl
  · exact h other hold
  · exact keeps (h row (List.mem_of_getElem? found))

/-- What holds of every row holds of one that is put behind them, if it does because of a row that is there. -/
theorem forall_rows_append {P : Row → Prop} {rows : List Row} {place : Nat} {row last : Row}
    (found : rows[place]? = some row) (h : ∀ old ∈ rows, P old) (like : P row → P last) :
    ∀ other ∈ rows ++ [last], P other :=
  List.forall_mem_append.mpr ⟨h, List.forall_mem_singleton.mpr (like (h row (List.mem_of_getElem? found)))⟩

/-- The changed row is among the rows, and so is every old row, changed if it is the one. -/
theorem modify_mem {rows : List Row} {place : Nat} {row old : Row} {change : Row → Row}
    (found : rows[place]? = some row) (h : old ∈ rows) :
    change row ∈ rows.modify place change ∧ (old ∈ rows.modify place change ∨ old = row) := by
  have hnew : (rows.modify place change)[place]? = some (change row) := by
    rw [List.getElem?_modify, found]
    simp
  refine ⟨List.mem_of_getElem? hnew, ?_⟩
  obtain ⟨i, hi⟩ := List.mem_iff_getElem?.mp h
  by_cases hplace : place = i
  · subst hplace
    right
    exact Option.some.inj (hi.symm.trans found)
  · left
    have hsame : (rows.modify place change)[i]? = some old := by
      rw [List.getElem?_modify, hi]
      simp [hplace]
    exact List.mem_of_getElem? hsame

/-- An edit leaves no cell without a column. -/
theorem Positive.edit {table : Table} (h : table.Positive) (edit : Edit) : (table.edit edit).1.Positive := by
  obtain ⟨change, -⟩ := change_edit table edit
  cases change with
  | same kept plain => exact forall_spans (P := fun ns => ∀ n ∈ ns, 1 ≤ n) kept h
  | @merged place col count row _ found two fits made =>
      unfold Positive
      rw [made]
      refine forall_rows_modify found h fun hrow n hn => ?_
      rw [spans_mergeCells (by omega), List.mem_append, List.mem_cons] at hn
      rcases hn with hn | rfl | hn
      · exact hrow n (List.mem_of_mem_take hn)
      · omega
      · exact hrow n (List.mem_of_mem_drop hn)
  | @appended place row last _ found like made =>
      unfold Positive
      rw [made]
      refine forall_rows_append found h fun hrow => ?_
      rwa [like]

/-- An edit other than a merge of cells that span several columns keeps the grid covered. -/
theorem CoversGrid.edit {table : Table} (h : table.CoversGrid) {edit : Edit} (plain : ¬ edit.Remerges table) :
    (table.edit edit).1.CoversGrid := by
  obtain ⟨change, hcount⟩ := change_edit table edit
  unfold CoversGrid
  rw [hcount]
  cases change with
  | same kept _ => exact forall_spans (P := fun ns => ns.sum = table.columnCount) kept h
  | @merged place col count row _ found two fits made =>
      have ones : ∀ n ∈ ((spans row).drop col).take count, n = 1 := by
        intro n hn
        by_contra hne
        exact plain ⟨row, found, two, fits, n, hn, hne⟩
      rw [made]
      exact forall_rows_modify found h fun hrow => (covered_mergeCells_of_ones two fits ones).trans hrow
  | @appended place row last _ found like made =>
      rw [made]
      exact forall_rows_append found h fun hrow => (congrArg List.sum like).trans hrow

/-- A merge of cells one of which spans several columns leaves its row short. -/
theorem fallsShort_of_remerges {table : Table} (hpositive : table.Positive) (h : table.CoversGrid) {edit : Edit}
    (remerges : edit.Remerges table) : (table.edit edit).1.FallsShort := by
  obtain ⟨change, hcount⟩ := change_edit table edit
  cases change with
  | same kept plain => exact absurd remerges plain
  | @merged place col count row _ found two fits made =>
      obtain ⟨row', found', -, -, other⟩ := remerges
      cases found.symm.trans found'
      have hmem := List.mem_of_getElem? found
      have hlt := (covered_mergeCells_le two fits (hpositive row hmem)).2 other
      refine ⟨mergeCells row col count, ?_, ?_⟩
      · rw [made]
        exact (modify_mem found hmem).1
      · rw [hcount, ← h row hmem]
        exact hlt
  | appended => exact absurd remerges id

/-- A row that is short stays short. -/
theorem FallsShort.edit {table : Table} (hpositive : table.Positive) (h : table.FallsShort) (edit : Edit) :
    (table.edit edit).1.FallsShort := by
  obtain ⟨short, hshort, hlt⟩ := h
  obtain ⟨change, hcount⟩ := change_edit table edit
  unfold FallsShort
  rw [hcount]
  cases change with
  | same kept plain =>
      by_contra hnone
      have hall := forall_spans (P := fun ns => ¬ ns.sum < table.columnCount) kept.symm fun row hrow hrowlt =>
        hnone ⟨row, hrow, hrowlt⟩
      exact hall short hshort hlt
  | @merged place col count row _ found two fits made =>
      rw [made]
      obtain ⟨hnew, hold | rfl⟩ := @modify_mem _ _ _ _ (mergeCells · col count) found hshort
      · exact ⟨short, hold, hlt⟩
      · have hle := (covered_mergeCells_le two fits (hpositive short hshort)).1
        exact ⟨_, hnew, by omega⟩
  | @appended place row last _ found like made =>
      rw [made]
      exact ⟨short, List.mem_append_left _ hshort, hlt⟩

/-! ## Edits in a row -/

theorem FallsShort.after {table : Table} (hpositive : table.Positive) (h : table.FallsShort) (edits : List Edit) :
    (table.after edits).FallsShort := by
  induction edits generalizing table with
  | nil => exact h
  | cons edit edits ih => exact ih (hpositive.edit edit) (h.edit hpositive edit)

/-- From a table that covers its grid edits lead to one that does exactly when none of them merges a cell that spans
several columns already. -/
theorem CoversGrid.after_iff {table : Table} (hpositive : table.Positive) (h : table.CoversGrid) (edits : List Edit) :
    (table.after edits).CoversGrid ↔ table.NeverRemerges edits := by
  induction edits generalizing table with
  | nil => exact ⟨fun _ => trivial, fun _ => h⟩
  | cons edit edits ih =>
      unfold Table.after NeverRemerges
      by_cases hmerge : edit.Remerges table
      · have short := fallsShort_of_remerges hpositive h hmerge
        have stays := short.after (hpositive.edit edit) edits
        exact ⟨fun hcovers => absurd hcovers stays.not_coversGrid, fun hnever => absurd hmerge hnever.1⟩
      · rw [ih (hpositive.edit edit) (h.edit hmerge)]
        exact ⟨fun hnever => ⟨hmerge, hnever⟩, fun hnever => hnever.2⟩

/-- The rows of a new table have a cell for each column. -/
theorem spans_new {rows cols : Nat} {table : Table} (h : Table.new rows cols = .ok table) :
    ∀ row ∈ table.rows, spans row = List.replicate cols 1 := by
  intro row hrow
  rw [eq_of_mem_rows_new h hrow, spans, List.map_replicate]
  rfl

/-- A table with a row and a column at least can be made, and after any edits in a row its rows cover the grid exactly
when no edit has merged cells of which one spanned several columns already. -/
theorem coversGrid_after_iff {rows cols : Nat} (hrows : 1 ≤ rows) (hcols : 1 ≤ cols) :
    ∃ table, Table.new rows cols = .ok table ∧
      ∀ edits, (table.after edits).CoversGrid ↔ table.NeverRemerges edits := by
  obtain ⟨table, hnew⟩ : ∃ table, Table.new rows cols = .ok table := by
    unfold Table.new
    rw [if_neg (by omega)]
    exact ⟨_, rfl⟩
  refine ⟨table, hnew, CoversGrid.after_iff ?_ ?_⟩
  · intro row hrow n hn
    rw [spans_new hnew row hrow] at hn
    exact Nat.le_of_eq (List.eq_of_mem_replicate hn).symm
  · intro row hrow
    rw [covered, spans_new hnew row hrow, List.sum_replicate_nat, columnCount, length_grid_new hnew, Nat.mul_one]

/-- Two merges side by side, a row like the merged one and a merge down past the last row leave the grid covered. -/
theorem coversGrid_after_merges :
    (1 ≤ 2 ∧ 1 ≤ 4) ∧ ∃ table, Table.new 2 4 = .ok table ∧
      (table.after [.mergeHorizontal 0 0 2, .mergeHorizontal 0 1 2, .appendRowLike 0, .mergeVertical 1 1 5]).CoversGrid ∧
      (table.after [.mergeHorizontal 0 0 2, .mergeHorizontal 0 1 2, .appendRowLike 0, .mergeVertical 1 1 5]).rows.map
        spans = [[2, 2], [1, 1, 1, 1], [2, 2]] := by
  have hsize : 1 ≤ 2 ∧ 1 ≤ 4 := by decide
  obtain ⟨table, hnew, hafter⟩ := coversGrid_after_iff hsize.1 hsize.2
  cases hnew
  exact ⟨hsize, _, rfl, (hafter _).mpr (by decide), by decide⟩

/-- A merge with a cell that spans two columns counts that cell as one: the row covers three columns of four. -/
theorem coversGrid_after_remerge :
    ∃ table, Table.new 1 4 = .ok table ∧
      ¬ (table.after [.mergeHorizontal 0 0 2, .mergeHorizontal 0 0 2]).CoversGrid ∧
      (table.after [.mergeHorizontal 0 0 2, .mergeHorizontal 0 0 2]).rows.map covered = [3] :=
  ⟨_, rfl, by decide, by decide⟩

end Table
end Folio
