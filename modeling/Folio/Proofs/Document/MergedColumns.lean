import Folio.Proofs.Document.RefusedEdits
import Folio.Proofs.Document.TableGrid

/-!
# Cells that go on with the cell above

A vertical merge numbers the cells of a row and not the columns of the grid, and a merge along a row takes out cells and
moves the cells behind them. Either may leave a cell that goes on with nothing: its text is never shown, and no cell
above stands for it.

* `Anchored` : every cell that goes on with the cell above has a merged cell above it that starts at its column;
* `mem_columnsAt_iff` : the columns at which the cells of a row start, counted cell by cell;
* `Edit.Uproots` : what an edit has to meet to leave such a cell without the one that it goes on with;
* `anchored_edit_iff` : an edit keeps a table anchored exactly when it does not;
* `uproots_mergeHorizontal_iff` : a merge of cells of one column each does when it covers a cell that is gone on with;
* `anchored_after_iff` : tables stay anchored through edits exactly when none of them does.
-/

namespace Folio
namespace Table

/-! ## Columns -/

/-- The cells of a row, none for a row that is not there. -/
def cellsAt (table : Table) (place : Nat) : List Cell := (table.rows[place]?.map (·.cells)).getD []

/-- The column of the grid at which a cell of a row starts. -/
def startAt (table : Table) (place col : Nat) : Nat := (((table.cellsAt place).take col).map CellOf.span).sum

/-- The mark of a cell that goes on with the cell above. -/
def isContinued (mark : Option VerticalMerge) : Bool := mark == some .continue

/-- The columns at which the cells start whose marks pass a test, when the first cell starts at `start`. -/
def columnsOf (test : Option VerticalMerge → Bool) (start : Nat) : List Cell → List Nat
  | [] => []
  | cell :: cells =>
    (if test cell.properties.verticalMerge then [start] else []) ++ columnsOf test (start + cell.span) cells

/-- The columns at which the cells of a row start whose marks pass a test. -/
def columnsAt (test : Option VerticalMerge → Bool) (table : Table) (place : Nat) : List Nat :=
  columnsOf test 0 (table.cellsAt place)

/-- The columns at which the merged cells of the row above start; the first row has none above it. -/
def mergedAbove (table : Table) : Nat → List Nat
  | 0 => []
  | above + 1 => table.columnsAt Option.isSome above

/-- Every cell that goes on with the cell above is in a row with another above it, and that row has a merged cell that
starts at its column. -/
def Anchored (table : Table) : Prop :=
  ∀ place col cell, table.cell? place col = some cell → cell.isContinuation = true →
    ∃ above other upper, place = above + 1 ∧ table.cell? above other = some upper ∧
      upper.properties.verticalMerge ≠ none ∧ table.startAt above other = table.startAt place col

/-- The columns at which the cells that pass a test start after a merge of `count` cells from `col` on: the cells up to
the merged one stay where they are, the covered cells are gone, and the cells behind them follow `count` columns after
the start of the merged cell. -/
def keptColumns (test : Option VerticalMerge → Bool) (cells : List Cell) (col count : Nat) : List Nat :=
  columnsOf test 0 (cells.take (col + 1)) ++
    columnsOf test (((cells.take col).map CellOf.span).sum + count) (cells.drop (col + count))

/-- The edit leaves a cell without the one that it goes on with: a vertical merge goes from a cell to one that starts at
another column, where the upper row has no merged cell; or a merge along a row takes a merged cell away from a cell of
the row below, or a cell of the row itself away from the merged cells above. -/
def Edit.Uproots (table : Table) : Edit → Prop
  | .mergeVertical col first last =>
    ∃ row < last, table.Reaches col first row ∧ table.cell? (row + 1) col ≠ none ∧
      table.startAt (row + 1) col ≠ table.startAt row col ∧
      table.startAt (row + 1) col ∉ table.columnsAt Option.isSome row
  | .mergeHorizontal place col count =>
    ∃ row ∈ table.rows[place]?, 2 ≤ count ∧ col + count ≤ row.cells.length ∧
      ((∃ column ∈ table.columnsAt isContinued (place + 1), column ∉ keptColumns Option.isSome row.cells col count) ∨
        ∃ column ∈ keptColumns isContinued row.cells col count, column ∉ table.mergedAbove place)
  | _ => False

/-- None of the edits in a row leaves a cell without the one that it goes on with. -/
def NeverUproots (table : Table) : List Edit → Prop
  | [] => True
  | edit :: edits => ¬ edit.Uproots table ∧ (table.edit edit).1.NeverUproots edits

instance (table : Table) (col first row : Nat) : Decidable (table.Reaches col first row) :=
  inferInstanceAs (Decidable (first ≤ row ∧ ∀ r, first ≤ r → r ≤ row → table.cell? r col ≠ none))

instance (table : Table) : (edit : Edit) → Decidable (edit.Uproots table)
  | .mergeVertical col first last =>
    inferInstanceAs (Decidable (∃ row < last, table.Reaches col first row ∧ table.cell? (row + 1) col ≠ none ∧
      table.startAt (row + 1) col ≠ table.startAt row col ∧
      table.startAt (row + 1) col ∉ table.columnsAt Option.isSome row))
  | .mergeHorizontal place col count =>
    inferInstanceAs (Decidable (∃ row ∈ table.rows[place]?, 2 ≤ count ∧ col + count ≤ row.cells.length ∧
      ((∃ column ∈ table.columnsAt isContinued (place + 1), column ∉ keptColumns Option.isSome row.cells col count) ∨
        ∃ column ∈ keptColumns isContinued row.cells col count, column ∉ table.mergedAbove place)))
  | .setHeaderRow _ | .setColumnAlignment _ _ | .setCellText _ _ _ _ | .appendRowLike _ | .nestTable _ _ _ _ =>
    inferInstanceAs (Decidable False)

instance decidableNeverUproots (table : Table) : (edits : List Edit) → Decidable (table.NeverUproots edits)
  | [] => .isTrue trivial
  | edit :: edits =>
    have := decidableNeverUproots (table.edit edit).1 edits
    inferInstanceAs (Decidable (¬ edit.Uproots table ∧ (table.edit edit).1.NeverUproots edits))

theorem cell?_eq (table : Table) (place col : Nat) : table.cell? place col = (table.cellsAt place)[col]? := by
  unfold cell? cellsAt
  cases table.rows[place]? with
  | none => rfl
  | some row => rfl

theorem columnsOf_append (test : Option VerticalMerge → Bool) (start : Nat) (front back : List Cell) :
    columnsOf test start (front ++ back) =
      columnsOf test start front ++ columnsOf test (start + (front.map CellOf.span).sum) back := by
  induction front generalizing start with
  | nil => simp [columnsOf]
  | cons cell front ih =>
      rw [List.cons_append, columnsOf, columnsOf, ih, List.append_assoc, List.map_cons, List.sum_cons, Nat.add_assoc]

theorem mem_columnsOf_iff {test : Option VerticalMerge → Bool} {start column : Nat} {cells : List Cell} :
    column ∈ columnsOf test start cells ↔
      ∃ col, ∃ cell ∈ cells[col]?, test cell.properties.verticalMerge = true ∧
        column = start + ((cells.take col).map CellOf.span).sum := by
  induction cells generalizing start with
  | nil => simp [columnsOf]
  | cons first cells ih =>
      rw [columnsOf, List.mem_append, ih]
      constructor
      · rintro (hfirst | ⟨col, cell, hcell, htest, rfl⟩)
        · split at hfirst
          next htest => exact ⟨0, first, rfl, htest, by simpa using hfirst⟩
          next => cases hfirst
        · exact ⟨col + 1, cell, hcell, htest, by rw [List.take_succ_cons, List.map_cons, List.sum_cons, Nat.add_assoc]⟩
      · rintro ⟨col, cell, hcell, htest, rfl⟩
        cases col with
        | zero =>
            obtain rfl : first = cell := Option.some.inj hcell
            left
            rw [if_pos htest]
            simp
        | succ col =>
            refine .inr ⟨col, cell, hcell, htest, ?_⟩
            rw [List.take_succ_cons, List.map_cons, List.sum_cons, Nat.add_assoc]

/-- A column is among those of a row when one of its cells, with a mark that passes the test, starts there. -/
theorem mem_columnsAt_iff {test : Option VerticalMerge → Bool} {table : Table} {place column : Nat} :
    column ∈ table.columnsAt test place ↔
      ∃ col, ∃ cell ∈ table.cell? place col, test cell.properties.verticalMerge = true ∧
        column = table.startAt place col := by
  simp only [columnsAt, mem_columnsOf_iff, cell?_eq, startAt, Nat.zero_add]

theorem anchored_iff {table : Table} :
    table.Anchored ↔ ∀ place, ∀ column ∈ table.columnsAt isContinued place, column ∈ table.mergedAbove place := by
  constructor
  · intro h place column hcolumn
    obtain ⟨col, cell, hcell, htest, rfl⟩ := mem_columnsAt_iff.mp hcolumn
    obtain ⟨above, other, upper, rfl, hupper, hmerged, hstart⟩ := h place col cell hcell htest
    exact mem_columnsAt_iff.mpr ⟨other, upper, hupper, Option.isSome_iff_ne_none.mpr hmerged, hstart.symm⟩
  · intro h place col cell hcell htest
    have hmem := h place _ (mem_columnsAt_iff.mpr ⟨col, cell, hcell, htest, rfl⟩)
    cases place with
    | zero => cases hmem
    | succ above =>
        obtain ⟨other, upper, hupper, hmerged, hstart⟩ := mem_columnsAt_iff.mp hmem
        exact ⟨above, other, upper, rfl, hupper, Option.isSome_iff_ne_none.mp hmerged, hstart.symm⟩

/-! ## Edits that keep the marks -/

/-- How many columns a cell covers, and its mark. -/
def mark (cell : Cell) : Nat × Option VerticalMerge := (cell.span, cell.properties.verticalMerge)

/-- The marks of the cells of a row. -/
def marks (row : Row) : List (Nat × Option VerticalMerge) := row.cells.map mark

theorem columnsOf_congr {test : Option VerticalMerge → Bool} {start : Nat} {cells others : List Cell}
    (h : cells.map mark = others.map mark) : columnsOf test start cells = columnsOf test start others := by
  induction cells generalizing others start with
  | nil =>
      rw [List.map_eq_nil_iff.mp h.symm]
  | cons cell cells ih =>
      obtain ⟨other, others, rfl, hmark, hrest⟩ := List.map_eq_cons_iff.mp h.symm
      obtain ⟨hspan, hmerge⟩ := Prod.mk.inj hmark
      rw [columnsOf, columnsOf, ih hrest.symm, hspan, hmerge]

theorem map_mark_cellsAt (table : Table) (place : Nat) :
    (table.cellsAt place).map mark = ((table.rows.map marks)[place]?).getD [] := by
  rw [cellsAt, List.getElem?_map]
  cases table.rows[place]? with
  | none => rfl
  | some row => rfl

theorem columnsAt_of_marks {table changed : Table} {place place' : Nat}
    (h : (changed.rows.map marks)[place']? = (table.rows.map marks)[place]?) (test : Option VerticalMerge → Bool) :
    changed.columnsAt test place' = table.columnsAt test place :=
  columnsOf_congr (by rw [map_mark_cellsAt, map_mark_cellsAt, h])

/-- A table with the marks of an anchored one is anchored. -/
theorem Anchored.of_marks {table changed : Table} (h : table.Anchored)
    (kept : changed.rows.map marks = table.rows.map marks) : changed.Anchored := by
  have hcolumns : ∀ test place, changed.columnsAt test place = table.columnsAt test place := fun test place =>
    columnsAt_of_marks (by rw [kept]) test
  rw [anchored_iff] at h ⊢
  intro place column hcolumn
  rw [hcolumns] at hcolumn
  cases place with
  | zero => exact h 0 column hcolumn
  | succ above =>
      rw [mergedAbove, hcolumns]
      exact h (above + 1) column hcolumn

theorem map_marks_modifyCell (table : Table) (row col : Nat) (change : Cell → Cell)
    (h : ∀ cell, mark (change cell) = mark cell) :
    (table.modifyCell row col change).rows.map marks = table.rows.map marks := by
  refine map_modify_of_forall (fun r => ?_) table.rows row
  exact map_modify_of_forall h r.cells col

/-- A row without marks comes last and goes on with nothing. -/
theorem Anchored.append {table : Table} (h : table.Anchored) {last : Row}
    (unmarked : ∀ cell ∈ last.cells, cell.properties.verticalMerge = none) :
    ({ table with rows := table.rows ++ [last] } : Table).Anchored := by
  intro place col cell hcell hcontinued
  have hlt : place < table.rows.length := by
    by_contra hge
    obtain ⟨row, hrow, hfound⟩ := Option.bind_eq_some_iff.mp hcell
    rw [List.getElem?_append_right (Nat.le_of_not_lt hge)] at hrow
    obtain rfl := List.mem_singleton.mp (List.mem_of_getElem? hrow)
    have hmark := unmarked cell (List.mem_of_getElem? hfound)
    rw [CellOf.isContinuation, hmark] at hcontinued
    cases hcontinued
  have hsame : ∀ p ≤ place, ({ table with rows := table.rows ++ [last] } : Table).cellsAt p = table.cellsAt p := by
    intro p hp
    rw [cellsAt, List.getElem?_append_left (Nat.lt_of_le_of_lt hp hlt)]
    rfl
  rw [cell?_eq, hsame place (Nat.le_refl place), ← cell?_eq] at hcell
  obtain ⟨above, other, upper, rfl, hupper, hmerged, hstart⟩ := h place col cell hcell hcontinued
  refine ⟨above, other, upper, rfl, ?_, hmerged, ?_⟩
  · rw [cell?_eq, hsame above (Nat.le_succ above), ← cell?_eq]
    exact hupper
  · rw [startAt, startAt, hsame above (Nat.le_succ above), hsame _ (Nat.le_refl _)]
    exact hstart

/-! ## Merging down a column -/

theorem cell?_modifyCell_of_col_ne {col c : Nat} (h : c ≠ col) (table : Table) (row other : Nat)
    (change : Cell → Cell) : (table.modifyCell row col change).cell? other c = table.cell? other c := by
  unfold cell? modifyCell modifyRow
  dsimp only
  rw [List.getElem?_modify]
  cases table.rows[other]? with
  | none => rfl
  | some r =>
      simp only [Option.map_eq_map, Option.map_some, Option.bind_some]
      split
      · exact List.getElem?_modify_ne _ _ h.symm
      · rfl

theorem reaches_modifyCell {table : Table} {row col first place : Nat} {change : Cell → Cell} :
    (table.modifyCell row col change).Reaches col first place ↔ table.Reaches col first place := by
  have hcell : ∀ r, (table.modifyCell row col change).cell? r col ≠ none ↔ table.cell? r col ≠ none := by
    intro r
    by_cases hr : row = r
    · subst hr
      rw [cell?_modifyCell, ne_eq, Option.map_eq_none_iff]
    · rw [cell?_modifyCell_of_ne hr]
  simp only [Reaches, hcell]

/-- A merge marks the cells of a column that it comes to and no others. -/
theorem cell?_markMerged (table : Table) (col : Nat) (merge : VerticalMerge) (row count place c : Nat) :
    (table.markMerged col merge row count).1.cell? place c =
      if c = col ∧ place < row + count ∧ table.Reaches col row place then
        (table.cell? place c).map (·.setVerticalMerge (some (if place = row then merge else .continue)))
      else table.cell? place c := by
  induction count generalizing table merge row with
  | zero =>
      rw [if_neg]
      · rfl
      · rintro ⟨-, hlt, hle, -⟩
        omega
  | succ count ih =>
      rw [markMerged]
      cases hcell : table.cell? row col with
      | none =>
          rw [if_neg]
          rintro ⟨-, -, hle, hall⟩
          exact hall row (Nat.le_refl row) hle hcell
      | some cell =>
          have hhere : table.cell? row col ≠ none := by
            rw [hcell]
            exact Option.some_ne_none cell
          dsimp only
          rw [ih]
          simp only [reaches_modifyCell]
          by_cases hplace : place = row
          · -- the row has its turn now, and the others come behind it
            subst hplace
            rw [if_neg fun h => absurd h.2.2.1 (by omega)]
            by_cases hcol : c = col
            · subst hcol
              rw [if_pos ⟨rfl, by omega, reaches_self hhere⟩, if_pos rfl, cell?_modifyCell]
            · rw [if_neg fun h => hcol h.1, cell?_modifyCell_of_col_ne hcol]
          · rw [cell?_modifyCell_of_ne (Ne.symm hplace), ite_self, if_neg hplace]
            by_cases hlt : row < place
            · simp only [← reaches_succ_iff hhere hlt, show row + 1 + count = row + (count + 1) by omega]
            · rw [if_neg fun h => absurd h.2.2.1 (by omega), if_neg fun h => absurd h.2.2.1 (by omega)]

/-- Marking cells moves none of them. -/
theorem startAt_markMerged (table : Table) (col : Nat) (merge : VerticalMerge) (row count place c : Nat) :
    (table.markMerged col merge row count).1.startAt place c = table.startAt place c := by
  have hspans : ∀ table : Table, (table.cellsAt place).map CellOf.span = ((table.rows.map spans)[place]?).getD [] := by
    intro table
    rw [cellsAt, List.getElem?_map]
    cases table.rows[place]? with
    | none => rfl
    | some row => rfl
  rw [startAt, startAt, List.map_take, List.map_take, hspans, hspans, (markMerged_keeps table col merge row count).1]

section MarkMerged
variable {table : Table} {col first count place column : Nat}

theorem mem_columnsAt_markMerged {test : Option VerticalMerge → Bool} :
    column ∈ (table.markMerged col .restart first count).1.columnsAt test place ↔
      (∃ c, ∃ cell ∈ table.cell? place c, ¬ (c = col ∧ place < first + count ∧ table.Reaches col first place) ∧
        test cell.properties.verticalMerge = true ∧ column = table.startAt place c) ∨
      (place < first + count ∧ table.Reaches col first place ∧
        test (some (if place = first then .restart else .continue)) = true ∧ column = table.startAt place col) := by
  simp only [mem_columnsAt_iff, cell?_markMerged, startAt_markMerged]
  constructor
  · rintro ⟨c, cell, hcell, htest, rfl⟩
    split at hcell
    next hmarked =>
      obtain ⟨old, -, rfl⟩ := Option.map_eq_some_iff.mp hcell
      exact .inr ⟨hmarked.2.1, hmarked.2.2, htest, by rw [hmarked.1]⟩
    next hmarked => exact .inl ⟨c, cell, hcell, hmarked, htest, rfl⟩
  · rintro (⟨c, cell, hcell, hmarked, htest, rfl⟩ | ⟨hlt, hreaches, htest, rfl⟩)
    · refine ⟨c, cell, ?_, htest, rfl⟩
      rw [if_neg hmarked]
      exact hcell
    · obtain ⟨cell, hcell⟩ := Option.ne_none_iff_exists'.mp (hreaches.2 place hreaches.1 (Nat.le_refl place))
      refine ⟨col, cell.setVerticalMerge (some (if place = first then .restart else .continue)), ?_, htest, rfl⟩
      rw [if_pos ⟨rfl, hlt, hreaches⟩, hcell]
      rfl

/-- After a merge down a column the cells that it comes to are merged, and the others are if they were. -/
theorem mem_merged_markMerged :
    column ∈ (table.markMerged col .restart first count).1.columnsAt Option.isSome place ↔
      column ∈ table.columnsAt Option.isSome place ∨
        (place < first + count ∧ table.Reaches col first place ∧ column = table.startAt place col) := by
  rw [mem_columnsAt_markMerged, mem_columnsAt_iff]
  constructor
  · rintro (⟨c, cell, hcell, -, htest, rfl⟩ | ⟨hlt, hreaches, -, rfl⟩)
    · exact .inl ⟨c, cell, hcell, htest, rfl⟩
    · exact .inr ⟨hlt, hreaches, rfl⟩
  · rintro (⟨c, cell, hcell, htest, rfl⟩ | ⟨hlt, hreaches, rfl⟩)
    · by_cases hmarked : c = col ∧ place < first + count ∧ table.Reaches col first place
      · exact .inr ⟨hmarked.2.1, hmarked.2.2, rfl, by rw [hmarked.1]⟩
      · exact .inl ⟨c, cell, hcell, hmarked, htest, rfl⟩
    · exact .inr ⟨hlt, hreaches, rfl, rfl⟩

/-- After a merge down a column the cells that it comes to behind the first go on with the cell above, and no others do
that did not. -/
theorem mem_continued_markMerged
    (h : column ∈ (table.markMerged col .restart first count).1.columnsAt isContinued place) :
    column ∈ table.columnsAt isContinued place ∨
      (first < place ∧ place < first + count ∧ table.Reaches col first place ∧ column = table.startAt place col) := by
  rcases mem_columnsAt_markMerged.mp h with ⟨c, cell, hcell, -, htest, rfl⟩ | ⟨hlt, hreaches, htest, rfl⟩
  · exact .inl (mem_columnsAt_iff.mpr ⟨c, cell, hcell, htest, rfl⟩)
  · have hne : place ≠ first := by
      rintro rfl
      rw [if_pos rfl] at htest
      cases htest
    have hle := hreaches.1
    exact .inr ⟨by omega, hlt, hreaches, rfl⟩

theorem startAt_mem_continued_markMerged (hfirst : first < place) (hlt : place < first + count)
    (hreaches : table.Reaches col first place) :
    table.startAt place col ∈ (table.markMerged col .restart first count).1.columnsAt isContinued place :=
  mem_columnsAt_markMerged.mpr (.inr ⟨hlt, hreaches, by rw [if_neg (Nat.ne_of_gt hfirst)]; rfl, rfl⟩)

end MarkMerged

/-- A merge down a column keeps a table anchored exactly when it goes to no cell that starts at another column, where
the row above has no merged cell. -/
theorem anchored_mergeVertical_iff {table : Table} (h : table.Anchored) (col first last : Nat) :
    (table.mergeVertical col first last).1.Anchored ↔ ¬ (Edit.mergeVertical col first last).Uproots table := by
  rw [mergeVertical]
  split
  next hspan =>
    refine ⟨fun _ huproots => ?_, fun _ => h⟩
    obtain ⟨row, hrow, ⟨hfirst, -⟩, -⟩ := huproots
    omega
  next hspan =>
    rw [anchored_iff] at h ⊢
    constructor
    · rintro hanchored ⟨row, hrow, ⟨hfirst, hall⟩, hnext, hne, hnot⟩
      have hreaches : table.Reaches col first (row + 1) := by
        refine ⟨by omega, fun r hr hle => ?_⟩
        rcases Nat.lt_or_eq_of_le hle with hlt | rfl
        · exact hall r hr (Nat.le_of_lt_succ hlt)
        · exact hnext
      have habove := hanchored (row + 1) _ (startAt_mem_continued_markMerged (by omega) (by omega) hreaches)
      rcases mem_merged_markMerged.mp habove with hold | ⟨-, -, hsame⟩
      · exact hnot hold
      · exact hne hsame
    · intro hnone place column hcolumn
      rcases mem_continued_markMerged hcolumn with hold | ⟨hfirst, hlt, ⟨-, hall⟩, rfl⟩
      · have habove := h place column hold
        cases place with
        | zero => cases habove
        | succ above => exact mem_merged_markMerged.mpr (.inl habove)
      · cases place with
        | zero => cases hfirst
        | succ row =>
            -- the cell above is merged too, but it may start at another column
            refine mem_merged_markMerged.mpr ?_
            by_contra hnot
            have hreaches : table.Reaches col first row :=
              ⟨Nat.le_of_lt_succ hfirst, fun r hr hle => hall r hr (Nat.le_succ_of_le hle)⟩
            exact hnone ⟨row, by omega, hreaches, hall (row + 1) (by omega) (Nat.le_refl _),
              fun hsame => hnot (.inr ⟨by omega, hreaches, hsame⟩), fun hold => hnot (.inl hold)⟩

/-! ## Merging along a row -/

theorem columnsOf_mergeCells (test : Option VerticalMerge → Bool) {row : Row} {col count : Nat}
    (h : col < row.cells.length) :
    columnsOf test 0 (mergeCells row col count).cells = keptColumns test row.cells col count := by
  unfold mergeCells keptColumns
  rw [← List.take_append_getElem h, List.getElem?_eq_getElem h]
  simp only [columnsOf_append, Option.map_some, Option.toList_some, columnsOf, List.map_append, List.sum_append,
    List.map_cons, List.map_nil, List.sum_cons, List.sum_nil, CellOf.span, Option.getD_some, Nat.add_zero, Nat.zero_add]

section MergeCells
variable {table : Table} {row : Row} {place col count : Nat}

/-- A merge along a row changes the columns of that row. -/
theorem columnsAt_mergeCells (found : table.rows[place]? = some row) (h : col < row.cells.length)
    (test : Option VerticalMerge → Bool) (other : Nat) :
    (table.modifyRow place (mergeCells · col count)).columnsAt test other =
      if other = place then keptColumns test row.cells col count else table.columnsAt test other := by
  unfold columnsAt cellsAt modifyRow
  dsimp only
  split
  next hplace =>
    rw [hplace, List.getElem?_modify_eq, found]
    exact columnsOf_mergeCells test h
  next hplace => rw [List.getElem?_modify_ne _ _ (Ne.symm hplace)]

theorem mergedAbove_mergeCells (found : table.rows[place]? = some row) (h : col < row.cells.length) (other : Nat) :
    (table.modifyRow place (mergeCells · col count)).mergedAbove other =
      if other = place + 1 then keptColumns Option.isSome row.cells col count else table.mergedAbove other := by
  cases other with
  | zero => rfl
  | succ above =>
      rw [mergedAbove, columnsAt_mergeCells found h]
      simp only [Nat.add_right_cancel_iff]
      rfl

end MergeCells

/-- A merge along a row keeps a table anchored exactly when the columns that stay hold all that is gone on with in the
row below, and when what goes on in the row itself stays below merged cells. -/
theorem anchored_mergeHorizontal_iff {table : Table} (h : table.Anchored) (place col count : Nat) :
    (table.orSame (table.mergeHorizontal place col count)).1.Anchored ↔
      ¬ (Edit.mergeHorizontal place col count).Uproots table := by
  rw [mergeHorizontal]
  cases found : table.rows[place]? with
  | none =>
      refine ⟨fun _ huproots => ?_, fun _ => h⟩
      obtain ⟨row, hrow, -⟩ := huproots
      cases found.symm.trans hrow
  | some row =>
      dsimp only
      split
      next hspan =>
        refine ⟨fun _ huproots => ?_, fun _ => h⟩
        obtain ⟨row', hrow, two, fits, -⟩ := huproots
        cases found.symm.trans hrow
        omega
      next hspan =>
        have hcol : col < row.cells.length := by omega
        rw [anchored_iff] at h ⊢
        simp only [orSame, columnsAt_mergeCells found hcol, mergedAbove_mergeCells found hcol]
        constructor
        · rintro hanchored ⟨row', hrow, -, -, ⟨column, hbelow, hnot⟩ | ⟨column, hown, hnot⟩⟩
          · cases found.symm.trans hrow
            have habove := hanchored (place + 1) column (by rwa [if_neg (Nat.succ_ne_self place)])
            rw [if_pos rfl] at habove
            exact hnot habove
          · cases found.symm.trans hrow
            have habove := hanchored place column (by rwa [if_pos rfl])
            rw [if_neg (Nat.ne_of_lt (Nat.lt_succ_self place))] at habove
            exact hnot habove
        · intro hnone other column hcolumn
          by_contra hnot
          split at hcolumn
          next hplace =>
            subst hplace
            rw [if_neg (Nat.ne_of_lt (Nat.lt_succ_self other))] at hnot
            exact hnone ⟨row, found, by omega, by omega, .inr ⟨column, hcolumn, hnot⟩⟩
          next hplace =>
            split at hnot
            next hbelow =>
              subst hbelow
              exact hnone ⟨row, found, by omega, by omega, .inl ⟨column, hcolumn, hnot⟩⟩
            next hbelow => exact hnot (h other column hcolumn)

/-- The columns that stay after a merge of cells of one column each are those of the cells that are not covered. -/
theorem mem_keptColumns_iff {test : Option VerticalMerge → Bool} {cells : List Cell} {col count column : Nat}
    (wide : ((cells.take col).map CellOf.span).sum + count = ((cells.take (col + count)).map CellOf.span).sum) :
    column ∈ keptColumns test cells col count ↔
      ∃ c, (c ≤ col ∨ col + count ≤ c) ∧ ∃ cell ∈ cells[c]?, test cell.properties.verticalMerge = true ∧
        column = ((cells.take c).map CellOf.span).sum := by
  rw [keptColumns, List.mem_append, mem_columnsOf_iff, mem_columnsOf_iff, wide]
  have hbehind : ∀ c, ((cells.take (col + count)).map CellOf.span).sum +
      (((cells.drop (col + count)).take c).map CellOf.span).sum =
        ((cells.take (col + count + c)).map CellOf.span).sum := by
    intro c
    have hsplit : cells.take (col + count + c) = cells.take (col + count) ++ (cells.drop (col + count)).take c :=
      List.take_add
    rw [hsplit, List.map_append, List.sum_append]
  constructor
  · rintro (⟨c, cell, hcell, htest, rfl⟩ | ⟨c, cell, hcell, htest, rfl⟩)
    · rw [List.getElem?_take] at hcell
      split at hcell
      next hlt =>
        refine ⟨c, .inl (Nat.le_of_lt_succ hlt), cell, hcell, htest, ?_⟩
        rw [List.take_take, Nat.min_eq_left (Nat.le_of_lt hlt), Nat.zero_add]
      next => cases hcell
    · rw [List.getElem?_drop] at hcell
      exact ⟨col + count + c, .inr (Nat.le_add_right _ _), cell, hcell, htest, hbehind c⟩
  · rintro ⟨c, hle | hle, cell, hcell, htest, rfl⟩
    · refine .inl ⟨c, cell, ?_, htest, ?_⟩
      · rw [List.getElem?_take, if_pos (Nat.lt_succ_of_le hle)]
        exact hcell
      · rw [List.take_take, Nat.min_eq_left (Nat.le_succ_of_le hle), Nat.zero_add]
    · obtain ⟨d, rfl⟩ := Nat.exists_eq_add_of_le hle
      refine .inr ⟨d, cell, ?_, htest, (hbehind d).symm⟩
      rw [List.getElem?_drop]
      exact hcell

/-- Where every cell covers a column, a cell behind another starts behind it. -/
theorem startAt_lt {table : Table} (positive : table.Positive) {place c other : Nat} (hlt : c < other)
    (hle : other ≤ (table.cellsAt place).length) : table.startAt place c < table.startAt place other := by
  obtain ⟨d, rfl⟩ := Nat.exists_eq_add_of_lt hlt
  have hones : ∀ n ∈ (((table.cellsAt place).drop c).take (d + 1)).map CellOf.span, 1 ≤ n := by
    intro n hn
    obtain ⟨cell, hcell, rfl⟩ := List.mem_map.mp hn
    have hmem := List.mem_of_mem_drop (List.mem_of_mem_take hcell)
    unfold cellsAt at hmem
    cases hrow : table.rows[place]? with
    | none =>
        rw [hrow] at hmem
        cases hmem
    | some row =>
        rw [hrow] at hmem
        exact positive row (List.mem_of_getElem? hrow) _ (List.mem_map_of_mem hmem)
  have hsum := List.length_le_sum_of_one_le _ hones
  rw [List.length_map, List.length_take, List.length_drop] at hsum
  rw [startAt, startAt, Nat.add_assoc, List.take_add, List.map_append, List.sum_append]
  omega

/-- **A merge of cells of one column each leaves a cell without the one that it goes on with exactly when a cell of the
row below goes on with one of the covered cells.** -/
theorem uproots_mergeHorizontal_iff {table : Table} (h : table.Anchored) (positive : table.Positive) {row : Row}
    {place col count : Nat} (found : table.rows[place]? = some row) (two : 2 ≤ count)
    (fits : col + count ≤ row.cells.length) (ones : ∀ n ∈ ((spans row).drop col).take count, n = 1) :
    (Edit.mergeHorizontal place col count).Uproots table ↔
      ∃ covered, col < covered ∧ covered < col + count ∧
        table.startAt place covered ∈ table.columnsAt isContinued (place + 1) := by
  have hcells : table.cellsAt place = row.cells := by
    rw [cellsAt, found]
    rfl
  have hwide : ((row.cells.take col).map CellOf.span).sum + count =
      ((row.cells.take (col + count)).map CellOf.span).sum := by
    have hmerged : (((row.cells.drop col).take count).map CellOf.span).sum = count := by
      rw [List.map_take, List.map_drop]
      change (((spans row).drop col).take count).sum = count
      rw [List.eq_replicate_of_mem ones, length_merged fits, List.sum_replicate_nat, Nat.mul_one]
    rw [List.take_add, List.map_append, List.sum_append, hmerged]
  have hkept : ∀ {test column}, column ∈ keptColumns test row.cells col count ↔
      ∃ c, (c ≤ col ∨ col + count ≤ c) ∧ ∃ cell ∈ row.cells[c]?, test cell.properties.verticalMerge = true ∧
        column = table.startAt place c := by
    intro test column
    rw [mem_keptColumns_iff hwide]
    simp only [startAt, hcells]
  rw [anchored_iff] at h
  constructor
  · rintro ⟨row', hrow, -, -, ⟨column, hbelow, hnot⟩ | ⟨column, hown, hnot⟩⟩
    · -- the column is one of a merged cell, and this cell is none of those that stay
      cases found.symm.trans hrow
      obtain ⟨c, cell, hcell, htest, rfl⟩ := mem_columnsAt_iff.mp (h (place + 1) column hbelow)
      rw [cell?_eq, hcells] at hcell
      have hgone : ¬ (c ≤ col ∨ col + count ≤ c) := fun hstays => hnot (hkept.mpr ⟨c, hstays, cell, hcell, htest, rfl⟩)
      exact ⟨c, by omega, by omega, hbelow⟩
    · cases found.symm.trans hrow
      obtain ⟨c, -, cell, hcell, htest, rfl⟩ := hkept.mp hown
      refine absurd (h place _ (mem_columnsAt_iff.mpr ⟨c, cell, ?_, htest, rfl⟩)) hnot
      rw [cell?_eq, hcells]
      exact hcell
  · rintro ⟨covered, hlt, hlt', hbelow⟩
    refine ⟨row, found, two, fits, .inl ⟨_, hbelow, fun hmem => ?_⟩⟩
    obtain ⟨c, hstays, cell, hcell, -, hstart⟩ := hkept.mp hmem
    have hc : c < row.cells.length := (List.getElem?_eq_some_iff.mp hcell).1
    rcases Nat.lt_or_gt_of_ne (show c ≠ covered by omega) with hbefore | hbehind
    · exact absurd hstart (Nat.ne_of_gt (startAt_lt positive hbefore (by rw [hcells]; omega)))
    · exact absurd hstart (Nat.ne_of_lt (startAt_lt positive hbehind (by rw [hcells]; omega)))

/-! ## Edits in a row -/

/-- An edit keeps a table anchored exactly when it leaves no cell without the one that it goes on with. -/
theorem anchored_edit_iff {table : Table} (h : table.Anchored) (edit : Edit) :
    (table.edit edit).1.Anchored ↔ ¬ edit.Uproots table := by
  cases edit with
  | mergeHorizontal place col count => exact anchored_mergeHorizontal_iff h place col count
  | mergeVertical col first last => exact anchored_mergeVertical_iff h col first last
  | setHeaderRow row =>
      refine ⟨fun _ => id, fun _ => ?_⟩
      rw [Table.edit, setHeaderRow]
      split
      · refine h.of_marks (map_modify_of_forall (fun r => ?_) table.rows row)
        rfl
      · exact h
  | setColumnAlignment col alignment =>
      refine ⟨fun _ => id, fun _ => ?_⟩
      rw [Table.edit, setColumnAlignment]
      split
      · refine h.of_marks ?_
        show List.map marks (table.rows.map _) = _
        rw [List.map_map]
        refine List.map_congr_left fun r _ => map_modify_of_forall (fun cell => ?_) r.cells col
        rfl
      · exact h
  | setCellText row col text properties =>
      refine ⟨fun _ => id, fun _ => ?_⟩
      rw [Table.edit, setCellText]
      split
      · exact h.of_marks (map_marks_modifyCell _ _ _ _ fun _ => rfl)
      · exact h
  | appendRowLike row =>
      refine ⟨fun _ => id, fun _ => ?_⟩
      rw [Table.edit, appendRowLike]
      split
      · exact h
      · refine h.append fun cell hcell => ?_
        obtain ⟨template, -, rfl⟩ := List.mem_map.mp hcell
        rfl
  | nestTable row col rows cols =>
      refine ⟨fun _ => id, fun _ => ?_⟩
      rw [Table.edit, nestTable]
      cases Table.new rows cols with
      | error e => exact h
      | ok inner =>
          cases table.cell? row col with
          | none => exact h
          | some cell => exact h.of_marks (map_marks_modifyCell _ _ _ _ fun _ => rfl)

/-- From an anchored table edits lead through anchored tables alone exactly when none of them leaves a cell without the
one that it goes on with. -/
theorem Anchored.after_iff {table : Table} (h : table.Anchored) (edits : List Edit) :
    (∀ front, front <+: edits → (table.after front).Anchored) ↔ table.NeverUproots edits := by
  induction edits generalizing table with
  | nil =>
      refine ⟨fun _ => trivial, fun _ front hfront => ?_⟩
      rw [List.prefix_nil.mp hfront]
      exact h
  | cons edit edits ih =>
      constructor
      · intro hall
        have hnext : (table.edit edit).1.Anchored := hall [edit] (List.prefix_append [edit] edits)
        refine ⟨(anchored_edit_iff h edit).mp hnext, (ih hnext).mp fun front hfront => ?_⟩
        exact hall (edit :: front) (List.cons_prefix_cons.mpr ⟨rfl, hfront⟩)
      · rintro ⟨hplain, hnever⟩ front hfront
        have hnext := (anchored_edit_iff h edit).mpr hplain
        rcases List.prefix_cons_iff.mp hfront with rfl | ⟨rest, rfl, hrest⟩
        · exact h
        · exact (ih hnext).mpr hnever rest hrest

/-- The cells of a new table have no marks. -/
theorem anchored_new {rows cols : Nat} {table : Table} (h : Table.new rows cols = .ok table) : table.Anchored := by
  intro place col cell hcell hcontinued
  obtain ⟨row, hrow, hfound⟩ := Option.bind_eq_some_iff.mp hcell
  obtain rfl := eq_of_mem_rows_new h (List.mem_of_getElem? hrow)
  cases List.eq_of_mem_replicate (List.mem_of_getElem? hfound)
  cases hcontinued

/-- A table with a row and a column at least can be made, and all tables on the way through edits are anchored exactly
when no edit leaves a cell without the one that it goes on with when its turn comes. -/
theorem anchored_after_iff {rows cols : Nat} (hrows : 1 ≤ rows) (hcols : 1 ≤ cols) :
    ∃ table, Table.new rows cols = .ok table ∧
      ∀ edits, (∀ front, front <+: edits → (table.after front).Anchored) ↔ table.NeverUproots edits := by
  obtain ⟨table, hnew⟩ : ∃ table, Table.new rows cols = .ok table := by
    unfold Table.new
    rw [if_neg (by omega)]
    exact ⟨_, rfl⟩
  exact ⟨table, hnew, (anchored_new hnew).after_iff⟩

/-- Cells merged along a row, and down a column past the last row, stay anchored where the merged cells start at the
same column. -/
theorem anchored_after_merges :
    (1 ≤ 3 ∧ 1 ≤ 3) ∧ ∃ table, Table.new 3 3 = .ok table ∧
      (∀ front, front <+: [.mergeVertical 0 0 2, .mergeHorizontal 1 1 2, .mergeVertical 1 0 9, .mergeHorizontal 0 1 2,
        .appendRowLike 1] → (table.after front).Anchored) ∧
      (table.after [.mergeVertical 0 0 2, .mergeHorizontal 1 1 2, .mergeVertical 1 0 9, .mergeHorizontal 0 1 2,
        .appendRowLike 1]).rows.map (·.cells.map (·.properties.verticalMerge)) =
        [[some .restart, some .restart], [some .continue, some .continue], [some .continue, some .continue, none],
          [none, none]] := by
  have hsize : 1 ≤ 3 ∧ 1 ≤ 3 := by decide
  obtain ⟨table, hnew, hafter⟩ := anchored_after_iff hsize.1 hsize.2
  cases hnew
  exact ⟨hsize, _, rfl, (hafter _).mpr (by decide), by decide⟩

/-- A merge along the first row takes out the cell that a cell of the second row goes on with. -/
theorem anchored_after_covered :
    ∃ table, Table.new 2 2 = .ok table ∧
      ¬ (table.after [.mergeVertical 1 0 1, .mergeHorizontal 0 0 2]).Anchored ∧
      (table.after [.mergeVertical 1 0 1, .mergeHorizontal 0 0 2]).rows.map (·.cells.map (·.properties.verticalMerge)) =
        [[none], [none, some .continue]] := by
  refine ⟨_, rfl, fun h => ?_, by decide⟩
  have habove := anchored_iff.mp h 1 1 (by decide)
  exact absurd habove (by decide)

end Table
end Folio
