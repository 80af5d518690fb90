import Folio.Document.Table
import Mathlib.Data.List.TakeWhile
import Mathlib.Tactic.Common

/-!
# What a refused edit leaves behind

An edit of a table may be refused whatever the shape of the table, and most edits look first and change later. A
vertical merge marks the cells of its column row by row: when a row without the column ends it, the rows before keep
their marks.

* `changeCell` : a change of a single cell, such as that of its text;
* `markMerged_eq_iff` : marking a column changes nothing exactly when the cells that it comes to have their marks;
* `Edit.LeavesMarks` : the edit is a vertical merge that comes to a cell without its mark;
* `refused_keeps_iff` : a refused edit leaves the table as it was exactly when it is no such merge.
-/

namespace Folio
namespace Table

/-- The table with a cell changed, if it has the cell. -/
def changeCell (table : Table) (row col : Nat) (change : Cell → Cell) : Table × Option EditError :=
  match table.cell? row col with
  | some _ => (table.modifyCell row col change, none)
  | none => (table, some (table.outOfRange row col))

/-- The column is there in all rows from `first` through `row`. -/
def Reaches (table : Table) (col first row : Nat) : Prop :=
  first ≤ row ∧ ∀ r, first ≤ r → r ≤ row → table.cell? r col ≠ none

/-- The edit is a vertical merge and comes to a cell without the mark that the merge puts on it. -/
def Edit.LeavesMarks (table : Table) : Edit → Prop
  | .mergeVertical col first last =>
    first < last ∧ ∃ row ≤ last, table.Reaches col first row ∧ ∃ cell ∈ table.cell? row col,
      cell.properties.verticalMerge ≠ some (if row = first then .restart else .continue)
  | _ => False

/-! ## Edits of one cell -/

theorem edit_setCellText (table : Table) (row col : Nat) (text : String) (properties : RunProperties) :
    table.edit (.setCellText row col text properties) = table.changeCell row col (·.setText text properties) := by
  rw [edit, setCellText, changeCell]
  cases table.cell? row col <;> rfl

theorem changeCell_refused {table : Table} {row col : Nat} {change : Cell → Cell}
    (h : (table.changeCell row col change).2 ≠ none) : (table.changeCell row col change).1 = table := by
  rw [changeCell] at h ⊢
  cases hcell : table.cell? row col with
  | none => rfl
  | some cell =>
      rw [hcell] at h
      exact absurd rfl h

/-! ## One cell changed -/

theorem cell?_modifyCell (table : Table) (row col : Nat) (change : Cell → Cell) :
    (table.modifyCell row col change).cell? row col = (table.cell? row col).map change := by
  unfold cell? modifyCell modifyRow
  dsimp only
  rw [List.getElem?_modify_eq]
  cases table.rows[row]? with
  | none => rfl
  | some r => exact List.getElem?_modify_eq change col r.cells

theorem cell?_modifyCell_of_ne {row other : Nat} (h : row ≠ other) (table : Table) (col c : Nat)
    (change : Cell → Cell) : (table.modifyCell row col change).cell? other c = table.cell? other c := by
  unfold cell? modifyCell modifyRow
  dsimp only
  rw [List.getElem?_modify_ne _ _ h]

/-- A change that leaves the value of a place alone leaves the list alone. -/
theorem modify_eq_self {α : Type} {values : List α} {i : Nat} {change : α → α}
    (h : ∀ value ∈ values[i]?, change value = value) : values.modify i change = values := by
  apply List.ext_getElem?
  intro j
  by_cases hij : i = j
  · subst hij
    rw [List.getElem?_modify_eq]
    cases hvalue : values[i]? with
    | none => rfl
    | some value => exact congrArg some (h value hvalue)
  · exact List.getElem?_modify_ne change values hij

theorem modifyCell_eq_self {table : Table} {row col : Nat} {change : Cell → Cell}
    (h : ∀ cell ∈ table.cell? row col, change cell = cell) : table.modifyCell row col change = table := by
  have hrows : table.rows.modify row (fun r => { r with cells := r.cells.modify col change }) = table.rows := by
    apply modify_eq_self
    intro r hr
    have hcells : r.cells.modify col change = r.cells := by
      apply modify_eq_self
      intro cell hcell
      apply h cell
      rw [cell?, Option.mem_def.mp hr]
      exact hcell
    rw [hcells]
  obtain ⟨properties, grid, rows⟩ := table
  exact congrArg (Table.mk properties grid) hrows

/-! ## Marking a column -/

/-- The rows in front of the first that is marked stay as they are. -/
theorem cell?_markMerged_of_lt {row other : Nat} (h : other < row) (table : Table) (col c : Nat) (merge : VerticalMerge)
    (count : Nat) : (table.markMerged col merge row count).1.cell? other c = table.cell? other c := by
  induction count generalizing table merge row with
  | zero => rfl
  | succ count ih =>
      rw [markMerged]
      cases table.cell? row col with
      | none => rfl
      | some cell =>
          dsimp only
          rw [ih (Nat.lt_succ_of_lt h), cell?_modifyCell_of_ne (Nat.ne_of_gt h)]

theorem setVerticalMerge_eq_self_iff {cell : Cell} {merge : Option VerticalMerge} :
    cell.setVerticalMerge merge = cell ↔ cell.properties.verticalMerge = merge := by
  constructor
  · intro h
    rw [← h]
    rfl
  · rintro rfl
    rfl

theorem reaches_self {table : Table} {col row : Nat} (h : table.cell? row col ≠ none) : table.Reaches col row row := by
  refine ⟨Nat.le_refl row, fun r hfirst hlast => ?_⟩
  rw [Nat.le_antisymm hlast hfirst]
  exact h

/-- What is reached from a row with the column is the row itself and what is reached from the next. -/
theorem reaches_succ_iff {table : Table} {col first row : Nat} (h : table.cell? first col ≠ none) (hlt : first < row) :
    table.Reaches col first row ↔ table.Reaches col (first + 1) row := by
  constructor
  · rintro ⟨-, hall⟩
    exact ⟨hlt, fun r hr => hall r (Nat.le_of_succ_le hr)⟩
  · rintro ⟨-, hall⟩
    refine ⟨Nat.le_of_lt hlt, fun r hr hrow => ?_⟩
    rcases Nat.eq_or_lt_of_le hr with rfl | hr
    · exact h
    · exact hall r hr hrow

/-- Marking the cells of a column leaves the table as it was exactly when all cells that it comes to are marked so
already: the first of them with the first mark, the others as continued. -/
theorem markMerged_eq_iff (table : Table) (col : Nat) (merge : VerticalMerge) (first count : Nat) :
    (table.markMerged col merge first count).1 = table ↔
      ∀ row < first + count, table.Reaches col first row → ∀ cell ∈ table.cell? row col,
        cell.properties.verticalMerge = some (if row = first then merge else .continue) := by
  induction count generalizing table merge first with
  | zero =>
      refine ⟨fun _ row hrow hreaches => ?_, fun _ => rfl⟩
      exact absurd hreaches.1 (Nat.not_le_of_lt hrow)
  | succ count ih =>
      rw [markMerged]
      cases hcell : table.cell? first col with
      | none =>
          refine ⟨fun _ row _ hreaches => ?_, fun _ => rfl⟩
          exact absurd hcell (hreaches.2 first (Nat.le_refl first) hreaches.1)
      | some cell =>
          have hhere : table.cell? first col ≠ none := by
            rw [hcell]
            exact Option.some_ne_none cell
          dsimp only
          by_cases hmark : cell.properties.verticalMerge = some merge
          · -- the first cell has its mark, so that the table is the same when the next row's turn comes
            have hsame : table.modifyCell first col (·.setVerticalMerge (some merge)) = table := by
              apply modifyCell_eq_self
              intro other hother
              cases hcell.symm.trans hother
              exact setVerticalMerge_eq_self_iff.mpr hmark
            rw [hsame, ih]
            constructor
            · intro hnext row hrow hreaches other hother
              rcases Nat.eq_or_lt_of_le hreaches.1 with rfl | hlt
              · cases hcell.symm.trans hother
                rw [if_pos rfl]
                exact hmark
              · have hmarked := hnext row (by omega) ((reaches_succ_iff hhere hlt).mp hreaches) other hother
                rw [ite_self] at hmarked
                rw [if_neg (Nat.ne_of_gt hlt)]
                exact hmarked
            · intro hall row hrow hreaches other hother
              have hlt : first < row := hreaches.1
              have hmarked := hall row (by omega) ((reaches_succ_iff hhere hlt).mpr hreaches) other hother
              rw [if_neg (Nat.ne_of_gt hlt)] at hmarked
              rw [ite_self]
              exact hmarked
          · -- the first cell gets its mark, and no later row takes it away
            constructor
            · intro hsame
              have hmarked : (table.cell? first col).map (·.setVerticalMerge (some merge)) = table.cell? first col := by
                rw [← cell?_modifyCell, ← cell?_markMerged_of_lt (Nat.lt_succ_self first), hsame]
              rw [hcell] at hmarked
              exact absurd (setVerticalMerge_eq_self_iff.mp (Option.some.inj hmarked)) hmark
            · intro hall
              have hmarked := hall first (by omega) (reaches_self hhere) cell hcell
              rw [if_pos rfl] at hmarked
              exact absurd hmarked hmark

/-! ## Refused edits -/

/-- An edit that is made as a whole or not at all leaves the table as it was when it is refused. -/
theorem orSame_refused {table : Table} {result : Except EditError Table} (h : (table.orSame result).2 ≠ none) :
    (table.orSame result).1 = table := by
  cases result with
  | ok changed => exact absurd rfl h
  | error e => rfl

/-- A vertical merge leaves the table as it was exactly when it comes to no cell without its mark. -/
theorem mergeVertical_eq_iff (table : Table) (col first last : Nat) :
    (table.mergeVertical col first last).1 = table ↔ ¬ (Edit.mergeVertical col first last).LeavesMarks table := by
  rw [mergeVertical]
  split
  next hspan =>
    refine ⟨fun _ hmarks => ?_, fun _ => rfl⟩
    exact absurd hmarks.1 (Nat.not_lt_of_le hspan)
  next hspan =>
    rw [markMerged_eq_iff]
    constructor
    · rintro hall ⟨-, row, hrow, hreaches, cell, hcell, hmark⟩
      exact hmark (hall row (by omega) hreaches cell hcell)
    · intro hnone row hrow hreaches cell hcell
      by_contra hmark
      exact hnone ⟨by omega, row, by omega, hreaches, cell, hcell, hmark⟩

/-- **A refused edit leaves a table of any shape as it was, unless it is a vertical merge that comes to a cell without
its mark before it comes to a row without the column.** A refused change of a single cell always leaves it so. -/
theorem refused_keeps_iff (table : Table) :
    (∀ row col change, (table.changeCell row col change).2 ≠ none → (table.changeCell row col change).1 = table) ∧
      ∀ edit, (table.edit edit).2 ≠ none → ((table.edit edit).1 = table ↔ ¬ edit.LeavesMarks table) := by
  refine ⟨fun _ _ _ => changeCell_refused, fun edit refused => ?_⟩
  cases edit with
  | mergeVertical col first last => exact mergeVertical_eq_iff table col first last
  | setCellText row col text properties =>
      rw [edit_setCellText] at refused ⊢
      exact ⟨fun _ => id, fun _ => changeCell_refused refused⟩
  | _ => exact ⟨fun _ => id, fun _ => orSame_refused refused⟩

/-- A merge down a column that the first row lacks marks nothing, although the second row has the column. -/
theorem refused_keeps_ragged :
    let table : Table := { grid := [], rows := [{ cells := [.empty] }, { cells := [.empty, .empty] }] }
    (table.edit (.mergeVertical 1 0 1)).2 = some (.cellOutOfRange 0 1 2 0) ∧
      (table.edit (.mergeVertical 1 0 1)).1 = table := by
  intro table
  have refused : (table.edit (.mergeVertical 1 0 1)).2 = some (.cellOutOfRange 0 1 2 0) := by decide
  refine ⟨refused, ((refused_keeps_iff table).2 _ ?_).mpr ?_⟩
  · rw [refused]
    exact Option.some_ne_none _
  · rintro ⟨-, row, -, ⟨hfirst, hreaches⟩, -⟩
    exact hreaches 0 (Nat.le_refl 0) hfirst rfl

/-- A merge down past the last row of a new table is refused, and both rows of the table are marked. -/
theorem refused_leaves_marks :
    ∃ table, Table.new 2 1 = .ok table ∧ (table.edit (.mergeVertical 0 0 2)).2 = some (.cellOutOfRange 2 0 2 1) ∧
      (table.edit (.mergeVertical 0 0 2)).1 ≠ table ∧
      (table.edit (.mergeVertical 0 0 2)).1.rows.map (·.cells.map (·.properties.verticalMerge)) =
        [[some .restart], [some .continue]] := by
  have hmarks : ∀ table : Table, Table.new 2 1 = .ok table →
      (table.edit (.mergeVertical 0 0 2)).1.rows.map (·.cells.map (·.properties.verticalMerge)) ≠
        table.rows.map (·.cells.map (·.properties.verticalMerge)) := by
    rintro _ ⟨⟩
    decide
  refine ⟨_, rfl, by decide, fun hsame => hmarks _ rfl ?_, by decide⟩
  rw [hsame]

end Table
end Folio
