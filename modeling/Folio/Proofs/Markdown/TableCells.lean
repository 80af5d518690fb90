import Folio.Markdown.Grammar.TableRow
import Folio.Proofs.Document.TableGrid
import Folio.Proofs.Markdown.DashLines
import Folio.Proofs.Markdown.LineMarks
import Folio.Proofs.Markdown.RunCuts

/-!
# The cells of a table, read back

A table is written as lines of cells between bars. A bar in the text of a cell stands behind an odd number of
backslashes, for those of the text come in pairs; so the bars that end a cell are told from the others.

* `barPieces`, `lineCells`, `readCell` : how a line is cut at its bars, and what its cells stand for;
* `Whole` : a text that is cut at none of its bars, whatever follows it;
* `sparing_cellChars`, `whole_cellChars` : the text of a cell is escaped, bars included;
* `barLine`, `barPieces_barLine` : cells with bars around them, and how they are cut apart again;
* `tableText_read_back` : the lines of a table have the same number of cells, which stand for the table's own, and the
  cells of the separator line tell the alignments of the columns.
-/

namespace Folio.Markdown
open Table (covered spans)
open Text (trim)
open Unicode (isAsciiMark isBlank)

/-! ## Reading a line -/

/-- The pieces of a line between its bars; a bar behind an odd number of backslashes is text. The flag says whether the
text stands behind such a number. -/
def barPieces (odd : Bool) : List Char → List (List Char)
  | [] => [[]]
  | c :: rest =>
    if c = '|' ∧ odd = false then [] :: barPieces false rest
    else (barPieces (c = '\\' && !odd) rest).modifyHead (c :: ·)

/-- The cells of a line, between its first bar and its last. -/
def lineCells (line : List Char) : List (List Char) := (barPieces false line).tail.dropLast

/-- The text that a cell of a line stands for. -/
def readCell (cell : List Char) : List Char := unescapeMarks (unescapeBars (trim cell))

/-! ## What a table shows -/

/-- The text that a cell of a table shows on one line; a cell that goes on with the one above shows nothing. -/
def shownText (cell : Cell) : List Char :=
  if cell.isContinuation then [] else trim (cell.textChars.map fun c => if c = '\n' then ' ' else c)

/-- The texts that a row shows in its columns; a cell shows its text in the first column that it covers. -/
def columnTexts (row : Row) : List (List Char) :=
  row.cells.flatMap fun cell => shownText cell :: List.replicate (cell.span - 1) []

/-- The alignment that a column can be given: text is set to the left unless it is centered or set to the right. -/
def shownAlignment : Option Alignment → Alignment
  | some .center => .center
  | some .right => .right
  | _ => .left

/-- The alignments that a row gives to the columns that it covers. -/
def shownAlignments (row : Row) : List Alignment :=
  row.cells.flatMap fun cell => List.replicate cell.span (shownAlignment cell.alignment)

/-! ## Texts that are cut at none of their bars -/

/-- The text is cut at none of its bars, whatever stands behind it. -/
def Whole (text : List Char) : Prop :=
  ∀ rest, barPieces false (text ++ rest) = (barPieces false rest).modifyHead (text ++ ·)

theorem Whole.nil : Whole [] := fun rest => by
  rw [List.nil_append]
  cases barPieces false rest <;> rfl

theorem Whole.append {front back : List Char} (hfront : Whole front) (hback : Whole back) : Whole (front ++ back) := by
  intro rest
  rw [List.append_assoc, hfront, hback, List.modifyHead_modifyHead]
  simp only [Function.comp_def, List.append_assoc]

theorem Whole.char {c : Char} (hbar : c ≠ '|') (hslash : c ≠ '\\') : Whole [c] := by
  intro rest
  rw [List.singleton_append, barPieces, if_neg fun h => hbar h.1, decide_eq_false hslash]
  rfl

/-- A character behind a backslash, a bar or another backslash too, stays with it. -/
theorem Whole.escaped (c : Char) : Whole ['\\', c] := by
  intro rest
  rw [List.cons_append, List.singleton_append, barPieces, if_neg (by decide), barPieces, if_neg (by simp),
    List.modifyHead_modifyHead]
  simp [Function.comp_def]

theorem Whole.of_all {text : List Char} (h : text.all (fun c => c != '|' && c != '\\') = true) : Whole text := by
  induction text with
  | nil => exact .nil
  | cons c text ih =>
      rw [List.all_cons, Bool.and_eq_true, Bool.and_eq_true, bne_iff_ne, bne_iff_ne] at h
      exact (Whole.char h.1.1 h.1.2).append (ih h.2)

/-- Cells in a row with bars around them. -/
def barLine (cells : List (List Char)) : List Char := '|' :: cells.flatMap (· ++ ['|'])

theorem barPieces_barLine {cells : List (List Char)} (h : ∀ cell ∈ cells, Whole cell) :
    barPieces false (barLine cells) = [] :: cells ++ [[]] := by
  unfold barLine
  rw [barPieces, if_pos ⟨rfl, rfl⟩]
  refine congrArg ([] :: ·) ?_
  induction cells with
  | nil => rfl
  | cons cell cells ih =>
      obtain ⟨hcell, hcells⟩ := List.forall_mem_cons.mp h
      rw [List.flatMap_cons, List.append_assoc, hcell, List.singleton_append, barPieces, if_pos ⟨rfl, rfl⟩, ih hcells]
      simp

theorem lineCells_barLine {cells : List (List Char)} (h : ∀ cell ∈ cells, Whole cell) :
    lineCells (barLine cells) = cells := by
  rw [lineCells, barPieces_barLine h, List.cons_append, List.tail_cons, List.dropLast_concat]

theorem newline_not_mem_barLine {cells : List (List Char)} (h : ∀ cell ∈ cells, '\n' ∉ cell) :
    '\n' ∉ barLine cells := by
  unfold barLine
  rw [List.mem_cons, List.mem_flatMap]
  rintro (hbar | ⟨cell, hcell, hmem⟩)
  · exact absurd hbar (by decide)
  · rcases List.mem_append.mp hmem with hmem | hbar
    · exact h cell hcell hmem
    · exact absurd hbar (by decide)

/-- Cells between bars are one line, and are cut apart again. -/
theorem barLine_read {cells : List (List Char)} (hwhole : ∀ cell ∈ cells, Whole cell)
    (hfeed : ∀ cell ∈ cells, '\n' ∉ cell) :
    '\n' ∉ barLine cells ∧ barPieces false (barLine cells) = [] :: lineCells (barLine cells) ++ [[]] ∧
      (lineCells (barLine cells)).length = cells.length := by
  rw [barPieces_barLine hwhole, lineCells_barLine hwhole]
  exact ⟨newline_not_mem_barLine hfeed, rfl, rfl⟩

/-! ## Bars in a text -/

/-- The text with a backslash before every bar. -/
def escapeBars (cs : List Char) : List Char := cs.flatMap fun c => if c = '|' then ['\\', '|'] else [c]

theorem escapeBars_bar (cs : List Char) : escapeBars ('|' :: cs) = '\\' :: '|' :: escapeBars cs := rfl

theorem escapeBars_cons {c : Char} (hc : c ≠ '|') (cs : List Char) : escapeBars (c :: cs) = c :: escapeBars cs := by
  rw [escapeBars, List.flatMap_cons, if_neg hc]
  rfl

theorem escapeBars_append (cs ds : List Char) : escapeBars (cs ++ ds) = escapeBars cs ++ escapeBars ds :=
  List.flatMap_append

theorem escapeBars_blank {cs : List Char} (h : ∀ c ∈ cs, isBlank c = true) : escapeBars cs = cs := by
  induction cs with
  | nil => rfl
  | cons c cs ih =>
      obtain ⟨hc, hcs⟩ := List.forall_mem_cons.mp h
      rw [escapeBars_cons (by rintro rfl; exact absurd hc (by decide)), ih hcs]

/-- With its bars escaped, a text begins with a backslash or as it did before, and with no bar. -/
theorem escapeBars_eq_cons {c : Char} {cs after : List Char} (h : escapeBars cs = c :: after) (hc : c ≠ '\\') :
    c ≠ '|' ∧ ∃ rest, cs = c :: rest ∧ escapeBars rest = after := by
  cases cs with
  | nil => cases h
  | cons d cs =>
      by_cases hd : d = '|'
      · subst hd
        exact absurd (List.cons.inj h).1.symm hc
      · rw [escapeBars_cons hd] at h
        obtain ⟨rfl, rfl⟩ := List.cons.inj h
        exact ⟨hd, cs, rfl, rfl⟩

theorem escapeBars_eq_append {name after : List Char} (hname : '\\' ∉ name) {cs : List Char}
    (h : escapeBars cs = name ++ after) : ∃ rest, cs = name ++ rest ∧ escapeBars rest = after := by
  induction name generalizing cs with
  | nil => exact ⟨cs, rfl, h⟩
  | cons c name ih =>
      obtain ⟨hc, hname⟩ := not_or.mp (mt List.mem_cons.mpr hname)
      obtain ⟨-, rest, rfl, hrest⟩ := escapeBars_eq_cons h (Ne.symm hc)
      obtain ⟨more, rfl, hmore⟩ := ih hname hrest
      exact ⟨more, rfl, hmore⟩

/-- The backslashes before the bars behind a mark do not bring it to life. -/
theorem Live.of_escapeBars {c : Char} {cs : List Char} (h : Live c (escapeBars cs)) : Live c cs := by
  refine h.of_prefixes fun taken hall ⟨after, hafter⟩ => ?_
  obtain ⟨rest, hcs, -⟩ := escapeBars_eq_append (fun hmem => (hall _ hmem).ne_backslash rfl) hafter.symm
  exact ⟨rest, hcs.symm⟩

theorem unescapeBars_cons {c : Char} {rest : List Char} (h : rest.head? ≠ some '|') :
    unescapeBars (c :: rest) = c :: unescapeBars rest := by
  conv_lhs => unfold unescapeBars
  split <;> simp_all

theorem unescapeBars_escapeBars (cs : List Char) : unescapeBars (escapeBars cs) = cs := by
  induction cs with
  | nil => rfl
  | cons c cs ih =>
      by_cases hc : c = '|'
      · subst hc
        rw [escapeBars_bar, unescapeBars, ih]
      · have hhead : (escapeBars cs).head? ≠ some '|' := by
          intro hhead
          obtain ⟨after, hafter⟩ := List.head?_eq_some_iff.mp hhead
          exact (escapeBars_eq_cons hafter (by decide)).1 rfl
        rw [escapeBars_cons hc, unescapeBars_cons hhead, ih]

/-! ## The text of a cell -/

/-- A text as it is written in a cell. -/
def cellChars (cs : List Char) : List Char := escapeBars (escapeInline cs)

theorem cellChars_live {c : Char} {rest : List Char} (h : c = '\\' ∨ Live c rest) :
    cellChars (c :: rest) = '\\' :: c :: cellChars rest := by
  have hbar : c ≠ '|' := by
    rintro rfl
    exact absurd (mem_marks_of_live h) (by decide)
  rw [cellChars, escapeInline_live h, escapeBars_cons (by decide), escapeBars_cons hbar]
  rfl

theorem cellChars_bar (rest : List Char) : cellChars ('|' :: rest) = '\\' :: '|' :: cellChars rest := by
  rw [cellChars, escapeInline_dead (by decide) (mt Live.mem (by decide)), escapeBars_bar]
  rfl

theorem cellChars_dead {c : Char} {rest : List Char} (hbar : c ≠ '|') (h : ¬ (c = '\\' ∨ Live c rest)) :
    cellChars (c :: rest) = c :: cellChars rest := by
  obtain ⟨hslash, hdead⟩ := not_or.mp h
  rw [cellChars, escapeInline_dead hslash hdead, escapeBars_cons hbar]
  rfl

/-- A cell is cut at none of the bars of its text. -/
theorem whole_cellChars (cs : List Char) : Whole (cellChars cs) := by
  induction cs with
  | nil => exact .nil
  | cons c cs ih =>
      by_cases hlive : c = '\\' ∨ Live c cs
      · rw [cellChars_live hlive]
        exact (Whole.escaped c).append ih
      · by_cases hbar : c = '|'
        · subst hbar
          rw [cellChars_bar]
          exact (Whole.escaped '|').append ih
        · rw [cellChars_dead hbar hlive]
          exact (Whole.char hbar (not_or.mp hlive).1).append ih

theorem sparing_cellChars (cs : List Char) : Sparing cs (cellChars cs) := by
  induction cs with
  | nil => exact .nil
  | cons c cs ih =>
      by_cases hlive : c = '\\' ∨ Live c cs
      · rw [cellChars_live hlive]
        exact .escaped (mem_escapable_of_live hlive) ih
      · by_cases hbar : c = '|'
        · subst hbar
          rw [cellChars_bar]
          exact .escaped (by decide) ih
        · rw [cellChars_dead hbar hlive]
          obtain ⟨hslash, hdead⟩ := not_or.mp hlive
          exact .plain hslash (fun h => hdead h.of_escapeBars.of_escapeInline) ih

theorem escapes_cellChars (cs : List Char) : Escapes cs (cellChars cs) := (sparing_cellChars cs).escapes

/-- A trimmed text is trimmed when it is escaped. -/
theorem Escapes.trimmed {text written : List Char} (h : Escapes text written) (htext : Trimmed text) :
    Trimmed written := by
  have hlast : written.getLast? = text.getLast? := by
    clear htext
    induction h with
    | nil => rfl
    | plain other dead rest ih => rw [List.getLast?_cons, List.getLast?_cons, ih]
    | escaped mark rest ih =>
        rw [List.getLast?_cons, List.getLast?_cons, List.getLast?_cons, ih]
        rfl
  refine ⟨fun c hc => ?_, fun c hc => htext.last c (hlast ▸ hc)⟩
  cases h with
  | nil => cases hc
  | plain other dead rest => exact htext.head c hc
  | escaped mark rest =>
      obtain rfl := Option.some.inj hc
      decide

theorem trim_cellChars (cs : List Char) : trim (cellChars cs) = cellChars (trim cs) := by
  have hlead := @Text.Edges.blank_lead cs
  have htrail := @Text.Edges.blank_trail cs
  have hcore : Trimmed (cellChars (trim cs)) := (escapes_cellChars _).trimmed (trimmed_trim cs)
  have hedges : cellChars cs =
      (Text.Edges.ofText cs).lead ++ cellChars (trim cs) ++ (Text.Edges.ofText cs).trail := by
    rw [cellChars, ← edges_escapeInline, escapeBars_append, escapeBars_append, escapeBars_blank hlead,
      escapeBars_blank htrail]
    rfl
  rw [hedges, trim_append hlead hcore htrail]

/-- A text with a space on either side. -/
def spaced (text : List Char) : List Char := ' ' :: text ++ [' ']

theorem whole_spaced {text : List Char} (h : Whole text) : Whole (spaced text) :=
  ((Whole.char (by decide) (by decide)).append h).append (Whole.char (by decide) (by decide))

theorem readCell_spaced (cs : List Char) : readCell (spaced (cellChars cs)) = trim cs := by
  have hblank : ∀ c ∈ [' '], isBlank c = true := List.forall_mem_singleton.mpr (by decide)
  have htrim : trim (spaced (cellChars cs)) = cellChars (trim cs) := by
    rw [spaced, ← List.singleton_append, trim_blank_append hblank hblank, trim_cellChars]
  rw [readCell, htrim, cellChars, unescapeBars_escapeBars]
  exact (escapes_escapeInline _).unescapeMarks

/-! ## Rows -/

theorem cellText_eq (cell : Cell) : ∃ cs, cellText cell = cellChars cs ∧ trim cs = shownText cell := by
  unfold cellText shownText
  split
  · exact ⟨[], rfl, rfl⟩
  · exact ⟨_, rfl, rfl⟩

theorem whole_rowTexts {row : Row} {text : List Char} (h : text ∈ rowTexts row) : Whole text := by
  obtain ⟨cell, -, hcell⟩ := List.mem_flatMap.mp h
  rcases List.mem_cons.mp hcell with rfl | hempty
  · obtain ⟨cs, hcs, -⟩ := cellText_eq cell
    rw [hcs]
    exact whole_cellChars cs
  · rw [List.eq_of_mem_replicate hempty]
    exact .nil

theorem map_readCell_rowTexts (row : Row) :
    (rowTexts row).map (fun text => readCell (spaced text)) = columnTexts row := by
  unfold rowTexts columnTexts
  rw [List.map_flatMap]
  refine List.flatMap_congr fun cell _ => ?_
  obtain ⟨cs, hcs, htrim⟩ := cellText_eq cell
  have hempty : readCell (spaced []) = [] := readCell_spaced []
  rw [List.map_cons, List.map_replicate, hcs, readCell_spaced, htrim, hempty]

theorem length_rowTexts {row : Row} (h : ∀ cell ∈ row.cells, 1 ≤ cell.span) : (rowTexts row).length = covered row := by
  unfold rowTexts covered spans
  rw [List.length_flatMap]
  refine congrArg List.sum (List.map_congr_left fun cell hcell => ?_)
  have hone := h cell hcell
  rw [List.length_cons, List.length_replicate]
  omega

/-- The line of a row. -/
def rowLine (row : Row) : List Char := barLine ((rowTexts row).map spaced)

theorem lineCells_rowLine (row : Row) : lineCells (rowLine row) = (rowTexts row).map spaced := by
  refine lineCells_barLine (List.forall_mem_map.mpr fun text htext => ?_)
  exact whole_spaced (whole_rowTexts htext)

theorem rowLine_read (row : Row) :
    '\n' ∉ rowLine row ∧ barPieces false (rowLine row) = [] :: lineCells (rowLine row) ++ [[]] ∧
      (lineCells (rowLine row)).length = (rowTexts row).length := by
  have hread := @barLine_read ((rowTexts row).map spaced)
    (List.forall_mem_map.mpr fun text htext => whole_spaced (whole_rowTexts htext))
    (List.forall_mem_map.mpr fun text htext => by simp [spaced, newline_not_mem_rowTexts htext])
  rw [List.length_map] at hread
  exact hread

/-- The line of a row that is filled up to a number of columns. -/
def filledLine (columns : Nat) (row : Row) : List Char :=
  barLine ((rowTexts row ++ List.replicate (columns - (rowTexts row).length) []).map spaced)

theorem pipeRow_filled (columns : Nat) (row : Row) :
    pipeRow columns (rowTexts row) = filledLine columns row ++ ['\n'] := by
  unfold pipeRow filledLine barLine spaced
  simp only [List.flatMap_map, List.cons_append, List.append_assoc, List.nil_append]

theorem filledLine_eq {columns : Nat} {row : Row} (h : (rowTexts row).length = columns) :
    filledLine columns row = rowLine row := by
  rw [filledLine, h, Nat.sub_self, List.replicate_zero, List.append_nil, rowLine]

/-! ## The separator line -/

/-- The cells of the separator line below a row. -/
def separators (row : Row) : List (List Char) :=
  row.cells.flatMap fun cell => List.replicate cell.span (separator cell.alignment)

theorem separators_cases {row : Row} {cell : List Char} (h : cell ∈ separators row) :
    ∃ alignment, cell = separator alignment := by
  obtain ⟨source, -, hmem⟩ := List.mem_flatMap.mp h
  exact ⟨_, List.eq_of_mem_replicate hmem⟩

/-- A separator is a row of dashes that tells the alignment. -/
theorem separator_read (alignment : Option Alignment) :
    isDashes (separator alignment) = true ∧
      (cellAlignment (separator alignment)).getD .left = shownAlignment alignment := by
  cases alignment with
  | none => decide
  | some alignment => cases alignment <;> decide

theorem whole_separators (row : Row) : ∀ cell ∈ separators row, Whole cell := by
  intro cell hcell
  obtain ⟨alignment, rfl⟩ := separators_cases hcell
  refine Whole.of_all ?_
  cases alignment with
  | none => decide
  | some alignment => cases alignment <;> decide

theorem newline_not_mem_separators (row : Row) : ∀ cell ∈ separators row, '\n' ∉ cell := by
  intro cell hcell
  obtain ⟨alignment, rfl⟩ := separators_cases hcell
  cases alignment with
  | none => decide
  | some alignment => cases alignment <;> decide

theorem length_separators (row : Row) : (separators row).length = covered row := by
  unfold separators covered spans
  rw [List.length_flatMap]
  exact congrArg List.sum (List.map_congr_left fun cell _ => List.length_replicate)

theorem map_cellAlignment_separators (row : Row) :
    (separators row).map (fun cell => (cellAlignment cell).getD .left) = shownAlignments row := by
  unfold separators shownAlignments
  rw [List.map_flatMap]
  refine List.flatMap_congr fun cell _ => ?_
  rw [List.map_replicate, (separator_read cell.alignment).2]

theorem barLine_eq (cells : List (List Char)) : cells.flatMap ('|' :: ·) ++ ['|'] = barLine cells := by
  unfold barLine
  induction cells with
  | nil => rfl
  | cons cell cells ih =>
      rw [List.flatMap_cons, List.append_assoc, ih]
      simp

theorem separatorRow_eq (row : Row) : separatorRow row = barLine (separators row) ++ ['\n'] := by
  have hcells : (row.cells.flatMap fun cell => (List.replicate cell.span ('|' :: separator cell.alignment)).flatten) =
      (separators row).flatMap ('|' :: ·) := by
    unfold separators
    rw [List.flatMap_assoc]
    refine List.flatMap_congr fun cell _ => ?_
    rw [List.flatMap_def, List.map_replicate]
  rw [separatorRow, hcells, ← barLine_eq, List.append_assoc]
  rfl

/-! ## The whole table -/

/-- A line for each row, filled up to the columns of the first, and a separator line behind that. -/
theorem pipeTable_filled (header : Row) (rows : List Row) :
    pipeTable header rows =
      (rowLine header :: barLine (separators header) :: rows.map (filledLine (rowTexts header).length)).flatMap
        (· ++ ['\n']) ++ ['\n'] := by
  unfold pipeTable
  dsimp only
  rw [pipeRow_filled, filledLine_eq rfl, separatorRow_eq, List.flatMap_cons, List.flatMap_cons, List.flatMap_map]
  simp only [pipeRow_filled, List.append_assoc]

/-- Where all rows have as many cells as the first, none is filled up. -/
theorem pipeTable_eq {header : Row} {rows : List Row}
    (hrows : ∀ row ∈ rows, (rowTexts row).length = (rowTexts header).length) :
    pipeTable header rows =
      (rowLine header :: barLine (separators header) :: rows.map rowLine).flatMap (· ++ ['\n']) ++ ['\n'] := by
  rw [pipeTable_filled, List.map_congr_left fun row hrow => filledLine_eq (hrows row hrow)]

/-- **A table whose rows cover the same columns is read back from its lines.** It is written as a line for each row and
a separator line behind the first, and an empty line behind them all. Each line begins and ends with a bar and has a
cell for each column; the cells of a row's line stand for the texts that the row shows in its columns, and the cells of
the separator line are dashes that tell the alignments of the first row. -/
theorem tableText_read_back {table : Table} {header : Row} {rows : List Row} (hrows : table.rows = header :: rows)
    (hheader : header.cells ≠ [])
    (hspans : ∀ row ∈ table.rows, ∀ cell ∈ row.cells, cell.properties.gridSpan ≠ some 0)
    (hcovered : ∀ row ∈ rows, covered row = covered header) :
    ∃ first marks others,
      tableText true table = .ok ((first :: marks :: others).flatMap (· ++ ['\n']) ++ ['\n']) ∧
      (∀ line ∈ first :: marks :: others, '\n' ∉ line ∧
        barPieces false line = [] :: lineCells line ++ [[]] ∧ (lineCells line).length = covered header) ∧
      (first :: others).map (fun line => (lineCells line).map readCell) = table.rows.map columnTexts ∧
      (∀ cell ∈ lineCells marks, isDashes cell = true) ∧
      (lineCells marks).map (fun cell => (cellAlignment cell).getD .left) = shownAlignments header := by
  have hspan : ∀ row ∈ table.rows, ∀ cell ∈ row.cells, 1 ≤ cell.span := by
    intro row hrow cell hcell
    have hzero := hspans row hrow cell hcell
    unfold CellOf.span
    cases hgrid : cell.properties.gridSpan with
    | none => exact Nat.le_refl 1
    | some n => exact Nat.one_le_iff_ne_zero.mpr fun h => hzero (hgrid.trans (congrArg some h))
  have hlength : ∀ row ∈ table.rows, (rowTexts row).length = covered header := by
    intro row hrow
    rw [length_rowTexts (hspan row hrow)]
    rw [hrows] at hrow
    rcases List.mem_cons.mp hrow with rfl | hrow
    · rfl
    · exact hcovered row hrow
  rw [hrows] at hlength ⊢
  obtain ⟨hfirst, hothers⟩ := List.forall_mem_cons.mp hlength
  have hmarks := barLine_read (whole_separators header) (newline_not_mem_separators header)
  have hcells : lineCells (barLine (separators header)) = separators header := lineCells_barLine (whole_separators header)
  refine ⟨rowLine header, barLine (separators header), rows.map rowLine, ?_, ?_, ?_, ?_, ?_⟩
  · have htable : tableText true table = .ok (pipeTable header rows) := by
      unfold tableText
      rw [hrows]
      dsimp only
      rw [List.isEmpty_eq_false_iff.mpr hheader, if_neg Bool.false_ne_true, if_pos rfl]
    rw [htable, pipeTable_eq fun row hrow => (hothers row hrow).trans hfirst.symm]
  · rw [List.forall_mem_cons, List.forall_mem_cons, List.forall_mem_map]
    refine ⟨?_, ?_, fun row hrow => ?_⟩
    · exact hfirst ▸ rowLine_read header
    · exact length_separators header ▸ hmarks
    · exact hothers row hrow ▸ rowLine_read row
  · rw [← List.map_cons, List.map_map]
    refine List.map_congr_left fun row _ => ?_
    rw [Function.comp_apply, lineCells_rowLine, List.map_map]
    exact map_readCell_rowTexts row
  · rw [hcells]
    intro cell hcell
    obtain ⟨alignment, rfl⟩ := separators_cases hcell
    exact (separator_read alignment).1
  · rw [hcells, map_cellAlignment_separators]

/-- A cell with one paragraph. -/
def cellOf (text : String) (properties : CellProperties) (alignment : Option Alignment) : Cell where
  properties
  paragraphs := [{ properties := { alignment }, runs := [{ text }] }]

/-- A table with a merge of columns in its first row and the end of a merge of rows in the other. -/
def mergedTable : Table where
  grid := [3000, 3000, 3000]
  rows := [
    { cells := [cellOf "a|b\\" { gridSpan := some 2 } (some .right), cellOf "*c*" {} (some .center)] },
    { cells := [cellOf "a" { verticalMerge := some .continue } none, cellOf "\\|\nd" {} none, cellOf " e " {} none] }]

/-- Bars, backslashes and merged cells are read back. -/
theorem tableText_read_back_merged :
    (∀ row ∈ mergedTable.rows, ∀ cell ∈ row.cells, cell.properties.gridSpan ≠ some 0) ∧
      mergedTable.rows.map covered = [3, 3] ∧
      ∃ first marks others,
        tableText true mergedTable = .ok ((first :: marks :: others).flatMap (· ++ ['\n']) ++ ['\n']) ∧
        (∀ line ∈ first :: marks :: others, (lineCells line).length = 3) ∧
        (first :: others).map (fun line => (lineCells line).map readCell) =
          [["a|b\\".toList, [], "*c*".toList], [[], "\\| d".toList, "e".toList]] ∧
        (lineCells marks).map (fun cell => (cellAlignment cell).getD .left) = [.right, .right, .center] := by
  have hspans : ∀ row ∈ mergedTable.rows, ∀ cell ∈ row.cells, cell.properties.gridSpan ≠ some 0 := by decide
  refine ⟨hspans, by decide, ?_⟩
  obtain ⟨first, marks, others, htext, hlines, hcells, -, halignments⟩ :=
    @tableText_read_back mergedTable _ _ rfl (List.cons_ne_nil _ _) hspans (by decide)
  refine ⟨first, marks, others, htext, fun line hline => (hlines line hline).2.2, ?_, ?_⟩
  · rw [hcells]
    decide
  · rw [halignments]
    decide

end Folio.Markdown
