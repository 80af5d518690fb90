import Folio.Proofs.Markdown.LineEnds

/-!
# The rows of a simple table

In the simple layout the cells of a row stand on a line with bars between them, the first row in bold. The inline syntax
of the cells is escaped and the beginning of the line is not: a row whose first cell begins like a heading, a quote, an
item, an underline or a break is one, and so is a row with the indentation of code. The first row never is.

* `plainLine`, `sparing_barredLine` : the line of a row, before its cells are escaped and as it is written;
* `HasText`, `isBlank_barredLine`, `isBlank_titleLine` : a row with text is no blank line;
* `not_holds_titleLine` : the first row begins no block;
* `simpleTable_line_kinds` : what the lines of a simple table are.
-/

namespace Folio.Markdown
open Text (join join_cons_cons mem_join_iff)

/-! ## Lines with bars -/

/-- The texts that a row shows in its columns, each on one line. -/
def columnLines (row : Row) : List (List Char) :=
  row.cells.flatMap fun cell => cellLine cell :: List.replicate (cell.span - 1) []

/-- The line of a row before its cells are escaped. -/
def plainLine (row : Row) : List Char := join [' ', '|', ' '] (columnLines row)

theorem rowTexts_eq (row : Row) : rowTexts row = (columnLines row).map cellChars := by
  unfold rowTexts columnLines
  rw [List.map_flatMap]
  refine List.flatMap_congr fun cell _ => ?_
  rw [List.map_cons, List.map_replicate, cellText_eq_cellChars]
  rfl

theorem sparing_join (lines : List (List Char)) :
    Sparing (join [' ', '|', ' '] lines) (join [' ', '|', ' '] (lines.map cellChars)) := by
  induction lines with
  | nil => exact .nil
  | cons line lines ih =>
      cases lines with
      | nil => simpa [join] using sparing_cellChars line
      | cons next lines =>
          have hblank (rest : List Char) : ¬ Live ' ' rest := mt Live.mem (by decide)
          have hbar (rest : List Char) : ¬ Live '|' rest := mt Live.mem (by decide)
          rw [List.map_cons, List.map_cons, join_cons_cons, join_cons_cons, List.append_assoc, List.append_assoc]
          exact (sparing_cellChars line).append
            (.plain (by decide) (hblank _) (.plain (by decide) (hbar _) (.plain (by decide) (hblank _) ih)))

theorem sparing_barredLine (row : Row) : Sparing (plainLine row) (barredLine row) := by
  rw [plainLine, barredLine, rowTexts_eq]
  exact sparing_join _

theorem isLine_join_iff (texts : List (List Char)) :
    IsLine (join [' ', '|', ' '] texts) ↔ ∀ text ∈ texts, IsLine text := by
  have hmem : ∀ c, c ∉ [' ', '|', ' '] → (c ∉ join [' ', '|', ' '] texts ↔ ∀ text ∈ texts, c ∉ text) := by
    intro c hc
    rw [mem_join_iff, or_iff_left fun h => hc h.1]
    simp only [not_exists, not_and]
  rw [IsLine, hmem '\n' (by decide), hmem '\r' (by decide)]
  exact ⟨fun h text htext => ⟨h.1 text htext, h.2 text htext⟩, fun h => ⟨fun text htext => (h text htext).1,
    fun text htext => (h text htext).2⟩⟩

/-! ## Rows with text -/

/-- A cell of the row shows a character that is no blank. -/
def HasText (row : Row) : Prop := ∃ cell ∈ row.cells, ∃ c ∈ cellLine cell, isTabOrSpace c = false

theorem isBlank_eq_false {text : List Char} {c : Char} (hmem : c ∈ text) (hc : isTabOrSpace c = false) :
    ({ rest := text } : Line).isBlank = false := by
  unfold Line.isBlank Line.text
  rw [List.isEmpty_eq_false_iff, Ne, List.dropWhile_eq_nil_iff]
  exact fun hall => Bool.false_ne_true (hc.symm.trans (hall c hmem))

section Texts
variable {row : Row} {cell : Cell} {c : Char}

theorem cellText_mem_rowTexts (hcell : cell ∈ row.cells) : cellText cell ∈ rowTexts row :=
  List.mem_flatMap.mpr ⟨cell, hcell, List.mem_cons_self⟩

theorem mem_barredLine (hcell : cell ∈ row.cells) (hc : c ∈ cellText cell) : c ∈ barredLine row :=
  (mem_join_iff _).mpr (.inl ⟨_, cellText_mem_rowTexts hcell, hc⟩)

theorem mem_titleLine (hcell : cell ∈ row.cells) (hc : c ∈ cellText cell) : c ∈ titleLine row := by
  refine (mem_join_iff _).mpr (.inl ⟨_, List.mem_map_of_mem (cellText_mem_rowTexts hcell), ?_⟩)
  rw [List.isEmpty_eq_false_iff.mpr (List.ne_nil_of_mem hc), if_neg Bool.false_ne_true]
  exact List.mem_append_left _ (List.mem_append_right _ hc)

theorem mem_cellText (hc : c ∈ cellLine cell) : c ∈ cellText cell := by
  rw [cellText_eq_cellChars]
  exact (escapes_cellChars _).sublist.mem hc

end Texts

theorem isBlank_barredLine {row : Row} (h : HasText row) : ({ rest := barredLine row } : Line).isBlank = false := by
  obtain ⟨cell, hcell, c, hmem, hc⟩ := h
  exact isBlank_eq_false (mem_barredLine hcell (mem_cellText hmem)) hc

theorem isBlank_titleLine {header : Row} (h : HasText header) :
    ({ rest := titleLine header } : Line).isBlank = false := by
  obtain ⟨cell, hcell, c, hmem, hc⟩ := h
  exact isBlank_eq_false (mem_titleLine hcell (mem_cellText hmem)) hc

/-! ## The first row -/

/-- Behind two stars there is text, or a break. -/
theorem marks_stars {rest : List Char} {kind : LineKind} (h : kind.Marks ('*' :: '*' :: rest)) : kind = .thematicBreak := by
  cases kind with
  | thematicBreak => rfl
  | heading => simp [LineKind.Marks, headingLevel?, countLeading] at h
  | quote => simp [LineKind.Marks] at h
  | item => simp [LineKind.Marks, ItemMark.ofLine?, blankNext, isTabOrSpace] at h
  | underline => simp [LineKind.Marks, underlineLevel?] at h
  | fence => simp [LineKind.Marks, Fence.ofLine?] at h
  | indentedCode => exact h.elim
  | html => simp [LineKind.Marks, Html.blockEnd?] at h
  | definition => simp [LineKind.Marks, label?] at h
  | footnote => simp [LineKind.Marks, footnoteMark?] at h

/-- A line that begins with a blank and a bar is text. -/
theorem not_holds_bar (rest : List Char) (kind : LineKind) : ¬ kind.Holds (' ' :: '|' :: rest) := by
  have hindent : ({ rest := ' ' :: '|' :: rest } : Line).indent = 1 := by
    simp [Line.indent, Line.blankWidth]
  have htext : ({ rest := ' ' :: '|' :: rest } : Line).text = '|' :: rest := rfl
  unfold LineKind.Holds
  dsimp only
  rw [hindent, htext, if_neg (by decide)]
  exact fun hmarks => absurd (marks_cons (by decide) hmarks).2 (by decide)

theorem Escapes.slash_mem {text written : List Char} (h : Escapes text written) (hstar : '*' ∈ text) :
    '\\' ∈ written := by
  induction h with
  | nil => cases hstar
  | plain other dead rest ih =>
      rcases List.mem_cons.mp hstar with rfl | hrest
      · exact absurd (Live.of_mem (by decide) _) dead
      · exact List.mem_cons_of_mem _ (ih hrest)
  | escaped => exact List.mem_cons_self

/-- The first line of a table begins with the stars of its first cell, or with a bar behind that when it is empty. -/
theorem titleLine_cases (header : Row) :
    titleLine header = [] ∨ (∃ rest, titleLine header = ' ' :: '|' :: rest) ∨
      ∃ rest, titleLine header = '*' :: '*' :: rest := by
  have hstars : ∀ title ∈ boldTitles header, title = [] ∨ ∃ rest, title = '*' :: '*' :: rest := by
    intro title htitle
    obtain ⟨text, -, rfl⟩ := List.mem_map.mp htitle
    split
    · exact .inl rfl
    · exact .inr ⟨_, rfl⟩
  unfold titleLine
  cases htitles : boldTitles header with
  | nil => exact .inl rfl
  | cons title titles =>
      rw [htitles] at hstars
      rcases hstars title List.mem_cons_self with rfl | ⟨rest, rfl⟩
      · cases titles with
        | nil => exact .inl rfl
        | cons next titles => exact .inr (.inl ⟨_, join_cons_cons ..⟩)
      · cases titles with
        | nil => exact .inr (.inr ⟨rest, by simp [join]⟩)
        | cons next titles => exact .inr (.inr ⟨_, join_cons_cons ..⟩)

/-- The first row begins no block: where its line is not just stars, the stars are text. -/
theorem not_holds_titleLine {header : Row} (h : HasText header) (kind : LineKind) : ¬ kind.Holds (titleLine header) := by
  obtain ⟨cell, hcell, c, hmem, hc⟩ := h
  have hin : ∀ d ∈ cellText cell, d ∈ titleLine header := fun d hd => mem_titleLine hcell hd
  intro hholds
  rcases titleLine_cases header with hline | ⟨rest, hline⟩ | ⟨rest, hline⟩
  · exact absurd (hin c (mem_cellText hmem)) (by rw [hline]; exact List.not_mem_nil)
  · rw [hline] at hholds
    exact not_holds_bar rest kind hholds
  · rw [hline, LineKind.holds_cons (by decide)] at hholds
    obtain rfl := marks_stars hholds
    obtain ⟨star, more, hstar, -, hall⟩ := row_of_thematicBreak hholds
    obtain rfl := (List.cons.inj hstar).1
    -- a star of the cell's own has a backslash before it, and no break holds one
    obtain rfl : c = '*' := (hall c (hline ▸ hin c (mem_cellText hmem))).resolve_right (by rw [hc]; exact Bool.false_ne_true)
    have hslash : '\\' ∈ cellText cell := by
      rw [cellText_eq_cellChars]
      exact (escapes_cellChars _).slash_mem hmem
    exact absurd (hall _ (hline ▸ hin _ hslash)) (by decide)

/-! ## The whole table -/

theorem isLine_barredLine {row : Row} (h : ∀ cell ∈ row.cells, '\r' ∉ cell.textChars) : IsLine (barredLine row) := by
  rw [barredLine, isLine_join_iff, forall_rowTexts_iff isLine_nil]
  exact fun cell hcell => (isLine_cellText_iff cell).mpr fun _ => h cell hcell

theorem isLine_titleLine {header : Row} (h : ∀ cell ∈ header.cells, '\r' ∉ cell.textChars) :
    IsLine (titleLine header) := by
  have htexts : ∀ text ∈ rowTexts header, IsLine text :=
    (forall_rowTexts_iff isLine_nil header).mpr fun cell hcell => (isLine_cellText_iff cell).mpr fun _ => h cell hcell
  rw [titleLine, isLine_join_iff]
  intro title htitle
  obtain ⟨text, htext, rfl⟩ := List.mem_map.mp htitle
  split
  · exact isLine_nil
  · rw [isLine_append, isLine_append]
    exact ⟨⟨by decide, htexts text htext⟩, by decide⟩

/-- **What the lines of a simple table are.** A table that is written has a line for each row, and an empty one behind
them. The line of a row with text is not blank. The first begins no block. Any other is of the kinds that it would be of
with nothing escaped, but for those that inline syntax makes of it: it is indented as code, or it begins like a heading,
a quote, an item, an underline or a break, but not with a star or an underscore. -/
theorem simpleTable_line_kinds {table : Table} {header : Row} {rows : List Row} (hrows : table.rows = header :: rows)
    (hcells : header.cells ≠ []) (hreturn : ∀ row ∈ table.rows, ∀ cell ∈ row.cells, '\r' ∉ cell.textChars) :
    tableText false table = .ok ((titleLine header :: rows.map barredLine).flatMap (· ++ ['\n']) ++ ['\n']) ∧
      (IsLine (titleLine header) ∧ (HasText header → ({ rest := titleLine header } : Line).isBlank = false ∧
        ∀ kind : LineKind, ¬ kind.Holds (titleLine header))) ∧
      ∀ row ∈ rows, IsLine (barredLine row) ∧ (HasText row → ({ rest := barredLine row } : Line).isBlank = false) ∧
        ∀ kind : LineKind, kind.Holds (barredLine row) ↔
          kind.Holds (plainLine row) ∧ kind.IsBare ((plainLine row).dropWhile isTabOrSpace) := by
  rw [hrows, List.forall_mem_cons] at hreturn
  obtain ⟨hheader, hothers⟩ := hreturn
  refine ⟨?_, ⟨isLine_titleLine hheader, fun htext => ⟨isBlank_titleLine htext, not_holds_titleLine htext⟩⟩,
    fun row hrow => ⟨isLine_barredLine (hothers row hrow), isBlank_barredLine, (sparing_barredLine row).holds_iff⟩⟩
  rw [tableText_written false hrows hcells, if_neg Bool.false_ne_true, simpleTable_eq]

/-- Stars and a bar in a cell are text. -/
theorem simpleTable_line_kinds_escaped :
    (∀ row ∈ (columnOf ["- h", "* a | b"]).rows, ∀ cell ∈ row.cells, '\r' ∉ cell.textChars) ∧
      tableText false (columnOf ["- h", "* a | b"]) = .ok "**- h**\n\\* a \\| b\n\n".toList ∧
      ∀ row ∈ (columnOf ["- h", "* a | b"]).rows.tail, ∀ kind : LineKind, ¬ kind.Holds (barredLine row) := by
  have hreturn : ∀ row ∈ (columnOf ["- h", "* a | b"]).rows, ∀ cell ∈ row.cells, '\r' ∉ cell.textChars := by decide
  obtain ⟨hwritten, -, hkinds⟩ :=
    @simpleTable_line_kinds (columnOf ["- h", "* a | b"]) _ _ rfl (List.cons_ne_nil _ _) hreturn
  refine ⟨hreturn, hwritten.trans rfl, fun row hrow kind hholds => ?_⟩
  obtain ⟨-, -, hiff⟩ := hkinds row hrow
  obtain rfl := List.mem_singleton.mp hrow
  obtain ⟨hplain, hbare⟩ := (hiff kind).mp hholds
  have hline : plainLine { cells := [cellOf "* a | b" {} none] } = "* a | b".toList := rfl
  rw [hline] at hplain hbare
  cases kind with
  | indentedCode => exact (LineKind.holds_cons (by decide) .indentedCode).mp hplain
  | heading | quote | item | underline | thematicBreak => exact hbare.1 rfl
  | fence | html | definition | footnote => exact hbare

/-- A row whose cell begins like a heading is one. -/
theorem simpleTable_line_kinds_heading :
    tableText false (columnOf ["h", "# a"]) = .ok "**h**\n# a\n\n".toList ∧
      ∃ row ∈ (columnOf ["h", "# a"]).rows.tail, HasText row ∧ barredLine row = "# a".toList ∧
        LineKind.heading.Holds (barredLine row) := by
  have hline : barredLine { cells := [cellOf "# a" {} none] } = "# a".toList := rfl
  refine ⟨rfl, _, List.mem_singleton_self _, ⟨_, List.mem_singleton_self _, 'a', by decide, rfl⟩, hline, ?_⟩
  rw [hline]
  exact (LineKind.holds_cons (by decide) .heading).mpr (marks_heading_iff.mpr ⟨['#'], " a".toList, @BlockMark.hashes 1
    (by decide), rfl, rfl⟩)

end Folio.Markdown
