import Folio.Proofs.Document.TableGrid

/-!
# The widths of the cells of a row

The cells of a new row share the width of the page evenly. A merge along a row takes cells out and adds their widths to
that of the cell that stays, in words of 32 bits. No sum comes to the end of a word, so the widths of a row add up to
the same number ever after.

* `HasWidth` : every cell of a row has a width, and the widths add up to a number;
* `mergeSums`, `Edit.widthSums` : the sums of widths that a merge makes, before they are cut to words;
* `foldl_addWidths` : sums that fit a word are not cut;
* `HasWidth.mergeCells`, `mergeSums_le` : a merge keeps what the widths add up to, and no sum of it is larger;
* `widths_after` : the widths of a table and the sums of its next edit, after edits in a row.
-/

namespace Folio
namespace Table

/-- The widths of the cells of a row, as far as they have one. -/
def widths (row : Row) : List Nat := row.cells.filterMap (·.properties.width)

/-- Every cell of the row has a width, and the widths add up to `total`. -/
structure HasWidth (total : Nat) (row : Row) : Prop where
  each : ∀ cell ∈ row.cells, cell.properties.width ≠ none
  sum : (widths row).sum = total

/-- The widths of the cells that a merge of `count` cells from `col` on takes out. -/
def coveredWidths (row : Row) (col count : Nat) : List Nat :=
  ((row.cells.drop (col + 1)).take (count - 1)).filterMap (·.properties.width)

/-- The sums that a merge makes, before they are cut to words: those of the widths that it takes out, one after the
other, and that of all of them with the width of the cell that stays. -/
def mergeSums (row : Row) (col count : Nat) : List Nat :=
  (coveredWidths row col count).scanl (· + ·) 0 ++
    ((row.cells[col]?.bind (·.properties.width)).map (· + (coveredWidths row col count).sum)).toList

/-- The sums of widths that an edit makes; only a merge along a row that is not refused makes any. -/
def Edit.widthSums (table : Table) : Edit → List Nat
  | .mergeHorizontal place col count =>
    match table.rows[place]? with
    | some row => if 2 ≤ count ∧ col + count ≤ row.cells.length then mergeSums row col count else []
    | none => []
  | _ => []

/-! ## Sums of words -/

/-- Widths that add up to a word at most are added without a cut. -/
theorem foldl_addWidths {start : Nat} {numbers : List Nat} (h : start + numbers.sum < UInt32.size) :
    numbers.foldl addWidths start = start + numbers.sum := by
  induction numbers generalizing start with
  | nil => rfl
  | cons n numbers ih =>
      rw [List.sum_cons] at h ⊢
      have hstep : addWidths start n = start + n := Nat.mod_eq_of_lt (by omega)
      rw [List.foldl_cons, hstep, ih (by omega)]
      omega

/-- No sum on the way is larger than the last. -/
theorem le_sum_of_mem_scanl {start sum : Nat} {numbers : List Nat} (h : sum ∈ numbers.scanl (· + ·) start) :
    sum ≤ start + numbers.sum := by
  induction numbers generalizing start with
  | nil => exact Nat.le_of_eq (List.mem_singleton.mp h)
  | cons n numbers ih =>
      rw [List.scanl_cons, List.mem_cons] at h
      rw [List.sum_cons]
      rcases h with rfl | h
      · omega
      · have hle := ih h
        omega

/-! ## Merging cells of a row -/

section MergeCells
variable {row : Row} {total col count : Nat}

/-- The cells before a merge, the one that stays, those that are taken out and those behind. -/
theorem cells_split (two : 2 ≤ count) (hcol : col < row.cells.length) :
    row.cells = row.cells.take col ++ row.cells[col] ::
      ((row.cells.drop (col + 1)).take (count - 1) ++ row.cells.drop (col + count)) := by
  have hbehind : row.cells.drop (col + count) = (row.cells.drop (col + 1)).drop (count - 1) := by
    rw [List.drop_drop]
    congr 1
    omega
  rw [hbehind, List.take_append_drop, List.getElem_cons_drop, List.take_append_drop]

/-- The width of a row is that of the cells before a merge, of the one that stays, of those that are taken out and of
those behind. -/
theorem HasWidth.sum_split (h : HasWidth total row) (two : 2 ≤ count) (hcol : col < row.cells.length) :
    ∃ width, (row.cells[col]).properties.width = some width ∧
      ((row.cells.take col).filterMap (·.properties.width)).sum + (width + (coveredWidths row col count).sum +
        ((row.cells.drop (col + count)).filterMap (·.properties.width)).sum) = total := by
  obtain ⟨width, hwidth⟩ := Option.ne_none_iff_exists'.mp (h.each _ (List.getElem_mem hcol))
  refine ⟨width, hwidth, ?_⟩
  have hsum := h.sum
  rw [widths, cells_split two hcol, List.filterMap_append,
    List.filterMap_cons_some (f := fun cell : Cell => cell.properties.width) hwidth, List.filterMap_append,
    List.sum_append, List.sum_cons, List.sum_append] at hsum
  rw [← hsum, coveredWidths, Nat.add_assoc]

/-- A merge keeps what the widths of the row add up to. -/
theorem HasWidth.mergeCells (h : HasWidth total row) (hword : total < UInt32.size) (two : 2 ≤ count)
    (hcol : col < row.cells.length) : HasWidth total (mergeCells row col count) := by
  obtain ⟨width, hwidth, hsum⟩ := h.sum_split two hcol
  have hextra : (coveredWidths row col count).foldl addWidths 0 = (coveredWidths row col count).sum := by
    rw [foldl_addWidths (by omega), Nat.zero_add]
  have hmerged : addWidths width (coveredWidths row col count).sum = width + (coveredWidths row col count).sum :=
    Nat.mod_eq_of_lt (by omega)
  unfold Table.mergeCells
  dsimp only
  rw [List.getElem?_eq_getElem hcol, Option.map_some, Option.toList_some, hwidth, Option.map_some,
    ← coveredWidths, hextra, hmerged]
  constructor
  · intro cell hcell
    rw [List.mem_append, List.mem_append, List.mem_singleton] at hcell
    rcases hcell with (hcell | rfl) | hcell
    · exact h.each cell (List.mem_of_mem_take hcell)
    · exact Option.some_ne_none _
    · exact h.each cell (List.mem_of_mem_drop hcell)
  · rw [widths, List.filterMap_append, List.filterMap_append, List.sum_append, List.sum_append]
    show _ + (width + (coveredWidths row col count).sum) + _ = total
    omega

/-- No sum of a merge is larger than the widths of the row together. -/
theorem mergeSums_le (h : HasWidth total row) (two : 2 ≤ count) (hcol : col < row.cells.length) :
    ∀ sum ∈ mergeSums row col count, sum ≤ total := by
  obtain ⟨width, hwidth, htotal⟩ := h.sum_split two hcol
  intro sum hsum
  rw [mergeSums, List.getElem?_eq_getElem hcol, Option.bind_some, hwidth, Option.map_some, Option.toList_some,
    List.mem_append, List.mem_singleton] at hsum
  rcases hsum with hsum | rfl
  · have hle := le_sum_of_mem_scanl hsum
    omega
  · omega

end MergeCells

/-! ## Edits -/

/-- The width of a row is told by the measures of its cells. -/
theorem hasWidth_iff {total : Nat} {row : Row} :
    HasWidth total row ↔
      (∀ m ∈ measures row, m.2 ≠ none) ∧ ((measures row).filterMap Prod.snd).sum = total := by
  rw [measures, List.forall_mem_map, List.filterMap_map]
  exact ⟨fun h => ⟨h.each, h.sum⟩, fun h => ⟨h.1, h.2⟩⟩

section Total
variable {table : Table} {total : Nat} (hword : total < UInt32.size)
include hword

/-- An edit keeps what the widths of the rows add up to. -/
theorem hasWidth_edit (h : ∀ row ∈ table.rows, HasWidth total row) (edit : Edit) :
    ∀ row ∈ (table.edit edit).1.rows, HasWidth total row := by
  obtain ⟨reshape, -⟩ := reshape_edit table edit
  cases reshape with
  | same kept =>
      simp only [hasWidth_iff] at h ⊢
      rw [← List.forall_mem_map (f := measures)
        (P := fun ms => (∀ m ∈ ms, m.2 ≠ none) ∧ (ms.filterMap Prod.snd).sum = total)] at h ⊢
      rwa [kept]
  | @merged place col count row _ found two fits made =>
      rw [made]
      exact forall_rows_modify found h fun hrow => hrow.mergeCells hword two (by omega)
  | @appended place row last _ found like made =>
      rw [made]
      refine forall_rows_append found h fun hrow => ?_
      rwa [hasWidth_iff, like, ← hasWidth_iff]

theorem hasWidth_after (h : ∀ row ∈ table.rows, HasWidth total row) (edits : List Edit) :
    ∀ row ∈ (table.after edits).rows, HasWidth total row := by
  induction edits generalizing table with
  | nil => exact h
  | cons edit edits ih => exact ih (hasWidth_edit hword h edit)

/-- No sum of widths that an edit makes comes to the end of a word. -/
theorem widthSums_lt (h : ∀ row ∈ table.rows, HasWidth total row) (edit : Edit) :
    ∀ sum ∈ edit.widthSums table, sum < UInt32.size := by
  intro sum hsum
  cases edit with
  | mergeHorizontal place col count =>
      simp only [Edit.widthSums] at hsum
      split at hsum
      next row found =>
        split at hsum
        next hspan =>
          have hle := mergeSums_le (h row (List.mem_of_getElem? found)) hspan.1 (by omega) sum hsum
          omega
        next => cases hsum
      next => cases hsum
  | _ => cases hsum

end Total

/-- The cells of a new row have the same width each. -/
theorem hasWidth_new {rows cols : Nat} {table : Table} (h : Table.new rows cols = .ok table) :
    ∀ row ∈ table.rows, HasWidth (cols * columnWidth cols) row := by
  intro row hrow
  obtain rfl := eq_of_mem_rows_new h hrow
  constructor
  · intro cell hcell
    obtain rfl := List.eq_of_mem_replicate hcell
    exact Option.some_ne_none _
  · rw [widths, List.filterMap_replicate_of_some (f := fun cell : Cell => cell.properties.width) rfl,
      List.sum_replicate_nat]

/-- **The widths of a table.** A table with a row and a column at least can be made. After any edits in a row every
cell of it has a width, the widths of each row add up to those of the columns that it was made with, and no sum of
widths that a further edit makes comes to the end of a word. -/
theorem widths_after {rows cols : Nat} (hrows : 1 ≤ rows) (hcols : 1 ≤ cols) (hword : cols < UInt32.size) :
    ∃ table, Table.new rows cols = .ok table ∧ ∀ edits,
      (∀ row ∈ (table.after edits).rows, (∀ cell ∈ row.cells, cell.properties.width ≠ none) ∧
        (widths row).sum = cols * (9000 / cols)) ∧
      ∀ edit : Edit, ∀ sum ∈ edit.widthSums (table.after edits), sum < UInt32.size := by
  obtain ⟨table, hnew⟩ := new_ok hrows hcols
  have hwidth : columnWidth cols = 9000 / cols := by
    rw [columnWidth, Nat.mod_eq_of_lt hword]
    rfl
  have hshared : cols * (9000 / cols) < UInt32.size := Nat.lt_of_le_of_lt (Nat.mul_div_le 9000 cols) (by decide)
  refine ⟨table, hnew, fun edits => ?_⟩
  have hafter := hasWidth_after hshared (hwidth ▸ hasWidth_new hnew) edits
  exact ⟨fun row hrow => ⟨(hafter row hrow).each, (hafter row hrow).sum⟩, widthSums_lt hshared hafter⟩

/-- Of seven columns each is 1285 wide; a merge, a row like the merged one and a merge of merged cells keep the 8995 of
every row, and the last sum is all of a row but its last column. -/
theorem widths_after_merges :
    (1 ≤ 1 ∧ 1 ≤ 7 ∧ 7 < UInt32.size) ∧ ∃ table, Table.new 1 7 = .ok table ∧
      (∀ row ∈ (table.after [.mergeHorizontal 0 0 2, .appendRowLike 0, .mergeHorizontal 1 0 5]).rows,
        (widths row).sum = 8995) ∧
      (Edit.mergeHorizontal 1 0 5).widthSums (table.after [.mergeHorizontal 0 0 2, .appendRowLike 0]) =
        [0, 1285, 2570, 3855, 5140, 7710] := by
  have hsize : 1 ≤ 1 ∧ 1 ≤ 7 ∧ 7 < UInt32.size := by decide
  obtain ⟨table, hnew, hafter⟩ := widths_after hsize.1 hsize.2.1 hsize.2.2
  cases hnew
  exact ⟨hsize, _, rfl, fun row hrow => ((hafter _).1 row hrow).2, by decide⟩

end Table
end Folio
