import Folio.Proofs.Markdown.HeadingLines
import Folio.Proofs.Markdown.ListItems
import Folio.Proofs.Markdown.TableCells

/-!
# One line for a heading, an item and a row

What is written for a heading, for an item and for a row of a table is one line up to its line feeds: those of the text
become blanks. A carriage return ends a line as well, and is written as it stands.

* `IsLine` : a text without characters that end lines;
* `hashLine`, `lineOfItem`, `filledLine` : the lines of headings, of items and of rows;
* `isLine_hashLine_iff`, `isLine_lineOfItem_iff`, `isLine_filledLine_iff` : they are one line exactly when there is no
  carriage return in the text;
* `return_mem_oneLine_iff` : the carriage returns of inline text on one line are those of its runs;
* `exists_return_of_mem_titleOf`, `exists_return_of_mem_itemText`, `return_mem_titleOf` : so are those of titles and
  items, and a title keeps the ones that stand between other text;
* `written_lines_iff` : what is written for headings, items and tables, line by line.
-/

namespace Folio.Markdown
open Text (Edges dropWhileEnd trim trimStart trimEnd)
open Unicode (isBlank)

/-- The text is one line: it has none of the characters that end lines. -/
def IsLine (text : List Char) : Prop := '\n' ∉ text ∧ '\r' ∉ text

instance (text : List Char) : Decidable (IsLine text) := inferInstanceAs (Decidable (_ ∧ _))

theorem isLine_nil : IsLine [] := ⟨List.not_mem_nil, List.not_mem_nil⟩

theorem isLine_append {front back : List Char} : IsLine (front ++ back) ↔ IsLine front ∧ IsLine back := by
  unfold IsLine
  rw [List.mem_append, List.mem_append, not_or, not_or]
  exact and_and_and_comm

theorem isLine_cons {c : Char} (hfeed : c ≠ '\n') (hreturn : c ≠ '\r') (text : List Char) :
    IsLine (c :: text) ↔ IsLine text := by
  have hmem : ∀ {d}, c ≠ d → (d ∈ c :: text ↔ d ∈ text) := fun hd =>
    List.mem_cons.trans (or_iff_right (Ne.symm hd))
  rw [IsLine, hmem hfeed, hmem hreturn, IsLine]

theorem isLine_flatMap {α : Type} {f : α → List Char} {items : List α} :
    IsLine (items.flatMap f) ↔ ∀ item ∈ items, IsLine (f item) := by
  induction items with
  | nil => exact iff_of_true isLine_nil (by simp)
  | cons item items ih => rw [List.flatMap_cons, isLine_append, ih, List.forall_mem_cons]

/-- Where the line feeds are gone, carriage returns are left to look for. -/
theorem isLine_iff_of_newline {text : List Char} (h : '\n' ∉ text) : IsLine text ↔ '\r' ∉ text := and_iff_right h

/-- Line feeds are made blanks, and no carriage return comes or goes. -/
theorem return_mem_map_blank_iff (text : List Char) :
    '\r' ∈ (text.map fun c => if c = '\n' then ' ' else c) ↔ '\r' ∈ text := by
  rw [List.mem_map]
  refine ⟨?_, fun hmem => ⟨'\r', hmem, rfl⟩⟩
  rintro ⟨c, hc, hreturn⟩
  split at hreturn
  · exact absurd hreturn (by decide)
  · rwa [← hreturn]

/-! ## Headings -/

/-- The line of a heading, its title behind number signs. -/
def hashLine (level : Nat) (title : List Char) : List Char :=
  List.replicate (min level 6) '#' ++ ' ' :: keepHashes title

/-- The lines of a heading: one, and none where the title is empty. -/
def headingLines (level : Nat) (title : List Char) : List (List Char) :=
  if title.isEmpty then [] else [hashLine level title]

/-- What is written for a heading, line by line. -/
theorem heading_written (settings : ExportSettings) (doc : Document) (w : Writing) {paragraph : Paragraph} {level : Nat}
    (hkind : blockKind paragraph = .heading level) (hsetext : settings.setextHeadings = false) :
    (paragraphText settings doc w paragraph).1 = (closeGroup settings w).1 ++
      (headingLines level (titleOf (inlineText settings doc w.notes paragraph.runs).1)).flatMap (· ++ ['\n', '\n']) := by
  obtain ⟨notes, htext⟩ := paragraphText_plain settings doc w (by rw [hkind]; nofun) (by rw [hkind]; nofun)
  have hhashes : ¬ (settings.setextHeadings = true ∧ min level 6 ≤ 2) := fun h =>
    Bool.false_ne_true (hsetext.symm.trans h.1)
  rw [htext, hkind, blockText, headingText, headingLines]
  dsimp only
  rw [← titleOf.eq_1, if_neg hhashes]
  split
  · rfl
  · rw [List.flatMap_cons, List.flatMap_nil, List.append_nil, hashLine]

theorem return_mem_keepHashes_iff (title : List Char) : '\r' ∈ keepHashes title ↔ '\r' ∈ title := by
  refine ⟨fun h => (mem_keepHashes h).resolve_left (by decide), fun h => ?_⟩
  obtain ⟨k, htitle, hkept⟩ := keepHashes_eq title
  rw [htitle, List.mem_append, or_iff_left fun hmem => absurd (List.eq_of_mem_replicate hmem) (by decide)] at h
  rw [hkept]
  exact List.mem_append_left _ h

theorem isLine_hashLine_iff (level : Nat) {title : List Char} (h : '\n' ∉ title) :
    IsLine (hashLine level title) ↔ '\r' ∉ title := by
  have hhashes : IsLine (List.replicate (min level 6) '#') :=
    ⟨fun hmem => absurd (List.eq_of_mem_replicate hmem) (by decide),
      fun hmem => absurd (List.eq_of_mem_replicate hmem) (by decide)⟩
  rw [hashLine, isLine_append, and_iff_right hhashes, isLine_cons (by decide) (by decide),
    isLine_iff_of_newline fun hmem => (mem_keepHashes hmem).elim (by decide) h, return_mem_keepHashes_iff]

section Paragraphs
variable {settings : ExportSettings} {doc : Document} {paragraph : Paragraph}

theorem newline_not_mem_titleOf (order : NoteOrder) (runs : List Run) :
    '\n' ∉ titleOf (inlineText settings doc order runs).1 := fun hmem =>
  newline_not_mem_oneLine settings doc order runs (mem_of_mem_trim hmem)

theorem isLine_headingLines_iff (level : Nat) {title : List Char} (h : '\n' ∉ title) :
    (∀ line ∈ headingLines level title, IsLine line) ↔ '\r' ∉ title := by
  unfold headingLines
  cases title with
  | nil => exact iff_of_true (fun line hline => nomatch hline) List.not_mem_nil
  | cons c rest =>
      rw [List.isEmpty_cons, if_neg Bool.false_ne_true, List.forall_mem_singleton]
      exact isLine_hashLine_iff level h

/-! ## Items -/

theorem return_mem_escapeBlockStarts_iff {text : List Char} (h : '\n' ∉ text) :
    '\r' ∈ escapeBlockStarts text ↔ '\r' ∈ text := by
  rw [escapeBlockStarts_of_not_mem h]
  refine ⟨fun hmem => (mem_escapeLineStart hmem).resolve_left (by decide), fun hmem => ?_⟩
  have hstart := startEscape text
  have hkept : '\r' ∈ text.dropWhile isSpaceOrTab := by
    rw [← List.takeWhile_append_dropWhile (p := isSpaceOrTab) (l := text), List.mem_append] at hmem
    exact hmem.resolve_left fun hblank => absurd (List.mem_takeWhile_imp hblank) (by decide)
  generalize text.dropWhile isSpaceOrTab = start at hstart hkept
  generalize escapeLineStart text = written at hstart ⊢
  cases hstart with
  | marked => exact List.mem_cons_of_mem _ hkept
  | numbered number =>
      obtain ⟨rfl, -⟩ := orderedMarker?_eq_some number
      rw [List.mem_append] at hkept ⊢
      exact hkept.imp_right (List.mem_cons_of_mem _)
  | kept => exact hkept

theorem isLine_taskBox (task : Option Bool) : IsLine (taskBox settings task) := by
  unfold taskBox
  cases settings.taskLists <;> cases task with
    | none => decide
    | some done => cases done <;> decide

theorem isLine_markText_iff (number : Nat) :
    IsLine (markText settings paragraph number) ↔ isOrdered paragraph = true ∨ IsLine [settings.bulletMarker] := by
  unfold markText
  cases isOrdered paragraph with
  | false => simp
  | true =>
      refine iff_of_true (isLine_append.mpr ⟨⟨fun hmem => ?_, fun hmem => ?_⟩, by decide⟩) (.inl rfl)
      · exact absurd (Text.isDigit_of_mem_repr hmem) (by decide)
      · exact absurd (Text.isDigit_of_mem_repr hmem) (by decide)

theorem isLine_lineOfItem_iff (order : NoteOrder) (number : Nat) :
    IsLine (lineOfItem settings doc order paragraph number) ↔
      (isOrdered paragraph = true ∨ IsLine [settings.bulletMarker]) ∧
        '\r' ∉ itemText settings doc order paragraph.runs := by
  have hfeed := newline_not_mem_itemText settings doc order paragraph.runs
  have hblank (text : List Char) : IsLine (' ' :: text) ↔ IsLine text := isLine_cons (by decide) (by decide) text
  rw [lineOfItem, isLine_append, hblank, isLine_markText_iff, itemChars, isLine_append,
    and_iff_right (isLine_taskBox _), isLine_iff_of_newline (newline_not_mem_escapeBlockStarts hfeed),
    return_mem_escapeBlockStarts_iff hfeed]

end Paragraphs

/-! ## Trimmed texts -/

theorem dropWhile_sublist_dropWhile {α : Type} {p : α → Bool} {part whole : List α} (h : part.Sublist whole) :
    (part.dropWhile p).Sublist (whole.dropWhile p) := by
  induction h with
  | slnil => exact List.Sublist.refl []
  | @cons part whole c h ih =>
      rw [List.dropWhile_cons]
      split
      · exact ih
      · exact ((List.dropWhile_sublist p).trans h).cons c
  | @cons_cons part whole c h ih =>
      rw [List.dropWhile_cons, List.dropWhile_cons]
      split
      · exact ih
      · exact h.cons_cons c

/-- What is left of some characters of a text without the blanks at the ends is left of the text. -/
theorem trim_sublist_trim {part whole : List Char} (h : part.Sublist whole) : (trim part).Sublist (trim whole) :=
  (dropWhile_sublist_dropWhile (dropWhile_sublist_dropWhile h).reverse).reverse

theorem trim_map {f : Char → Char} (hf : ∀ c, isBlank (f c) = isBlank c) (cs : List Char) :
    trim (cs.map f) = (trim cs).map f := by
  have hblank : isBlank ∘ f = isBlank := funext hf
  unfold trim trimEnd trimStart dropWhileEnd
  rw [List.dropWhile_map, hblank, ← List.map_reverse, List.dropWhile_map, hblank, ← List.map_reverse]

/-! ## Carriage returns in runs -/

section Runs
variable {settings : ExportSettings} {doc : Document}

/-- What a run brings into its text: the link to its image where that is written, and else the text of the run. -/
def runSource (settings : ExportSettings) (doc : Document) (run : Run) : List Char :=
  match run.footnote with
  | some _ => run.text.toList
  | none => (run.media.bind (imageLink settings doc)).getD run.text.toList

theorem runSource_of_isTextRun {run : Run} (h : isTextRun run = true) : runSource settings doc run = run.text.toList := by
  rw [isTextRun, Bool.and_eq_true, Option.isNone_iff_eq_none, Option.isNone_iff_eq_none] at h
  rw [runSource, h.1, h.2]
  rfl

theorem flatMap_runSource_mergeAfter (last : Run) (rest : List Run) :
    (mergeAfter last rest).flatMap (runSource settings doc) = (last :: rest).flatMap (runSource settings doc) := by
  induction rest generalizing last with
  | nil => rfl
  | cons run rest ih =>
      rw [mergeAfter]
      split
      next hmerge =>
        rw [Bool.and_eq_true, Bool.and_eq_true] at hmerge
        obtain ⟨⟨hrun, hlast⟩, -⟩ := hmerge
        have hboth : isTextRun { last with text := last.text ++ run.text } = true := hlast
        rw [ih, List.flatMap_cons, List.flatMap_cons, List.flatMap_cons, runSource_of_isTextRun hboth,
          runSource_of_isTextRun hlast, runSource_of_isTextRun hrun, String.toList_append, List.append_assoc]
      next =>
        rw [List.flatMap_cons, ih run, ← List.flatMap_cons]

theorem flatMap_runSource_mergeRuns (runs : List Run) :
    (mergeRuns runs).flatMap (runSource settings doc) = runs.flatMap (runSource settings doc) := by
  cases runs with
  | nil => rfl
  | cons run rest => exact flatMap_runSource_mergeAfter run rest

theorem sublist_wrap (mark : Char) (k : Nat) (inner : List Char) : inner.Sublist (wrap mark k inner) :=
  (List.sublist_append_right ..).trans (List.sublist_append_left ..)

theorem sublist_coreText (properties : RunProperties) (core : List Char) :
    core.Sublist (coreText settings properties core) := by
  refine List.Sublist.trans ?_ ((sublist_wrap ..).trans (sublist_wrap ..))
  split
  · rw [codeSpan_eq]
    exact ((List.sublist_append_right ..).trans (List.sublist_append_left ..)).trans (sublist_wrap ..)
  · exact (escapes_escapeInline core).sublist

/-- The text of a run is written with all its characters, in order. -/
theorem sublist_formatRun (run : Run) : run.text.toList.Sublist (formatRun settings run) := by
  by_cases hcore : (Edges.ofText run.text.toList).core = []
  · unfold formatRun
    dsimp only
    rw [hcore]
    exact List.Sublist.refl _
  · rw [formatRun_eq hcore]
    conv => lhs; rw [← Edges.ofText_append run.text.toList]
    exact ((List.Sublist.refl _).append (sublist_coreText ..)).append (List.Sublist.refl _)

theorem runSource_sublist (order : NoteOrder) (run : Run) :
    (runSource settings doc run).Sublist (runText settings doc order run).1 := by
  unfold runText runSource
  cases run.footnote with
  | some id =>
      have hescaped := (escapes_escapeInline run.text.toList).sublist
      dsimp only
      split
      · exact hescaped.trans (List.sublist_append_left ..)
      · exact hescaped
  | none =>
      cases run.media.bind (imageLink settings doc) with
      | some link => exact List.Sublist.refl link
      | none => exact sublist_formatRun run

theorem flatMap_runSource_sublist (order : NoteOrder) (runs : List Run) :
    (runs.flatMap (runSource settings doc)).Sublist (runTexts settings doc order runs).1 := by
  induction runs generalizing order with
  | nil => exact List.Sublist.refl _
  | cons run rest ih => exact (runSource_sublist order run).append (ih _)

/-- A carriage return between other text of the runs is one of the title. -/
theorem return_mem_titleOf {order : NoteOrder} {runs : List Run}
    (h : '\r' ∈ trim (runs.flatMap (runSource settings doc))) :
    '\r' ∈ titleOf (inlineText settings doc order runs).1 := by
  let blanked (c : Char) : Char := if c = '\n' then ' ' else c
  have hblanked (c : Char) : isBlank (blanked c) = isBlank c := by
    by_cases hc : c = '\n'
    · subst hc
      decide
    · exact congrArg isBlank (if_neg hc)
  have hsource : (runs.flatMap (runSource settings doc)).Sublist (runTexts settings doc order (mergeRuns runs)).1 := by
    rw [← flatMap_runSource_mergeRuns]
    exact flatMap_runSource_sublist order (mergeRuns runs)
  change '\r' ∈ trim (oneLine (breakLines (runTexts settings doc order (mergeRuns runs)).1))
  rw [oneLine_breakLines, trim_map hblanked, return_mem_map_blank_iff]
  exact (trim_sublist_trim hsource).mem h

variable (hmarker : settings.emphasisMarker ≠ '\r')
include hmarker

theorem return_mem_runText_iff (order : NoteOrder) (run : Run) :
    '\r' ∈ (runText settings doc order run).1 ↔ '\r' ∈ runSource settings doc run := by
  have hescape (text : List Char) : '\r' ∈ escapeInline text ↔ '\r' ∈ text :=
    (escapes_escapeInline text).mem_iff (by decide)
  unfold runText runSource
  cases run.footnote with
  | some id =>
      dsimp only
      split
      · have hnumber (number : Nat) : '\r' ∉ noteReference number := fun hmem =>
          absurd (isReferenceChar_of_mem hmem) (by decide)
        dsimp only
        rw [List.mem_append, or_iff_left (hnumber _), hescape]
      · exact hescape _
  | none =>
      cases run.media.bind (imageLink settings doc) with
      | some link => exact Iff.rfl
      | none =>
          refine ⟨fun hmem => ?_, (sublist_formatRun run).mem⟩
          rcases mem_formatRun hmem with htext | ⟨-, hmark⟩ | hescapes
          · exact htext
          · exact absurd hmark.symm hmarker
          · exact absurd hescapes (by decide)

/-- The carriage returns of inline text on one line are those of its runs. -/
theorem return_mem_oneLine_iff (order : NoteOrder) (runs : List Run) :
    '\r' ∈ oneLine (inlineText settings doc order runs).1 ↔ ∃ run ∈ runs, '\r' ∈ runSource settings doc run := by
  have htexts (runs : List Run) (order : NoteOrder) :
      '\r' ∈ (runTexts settings doc order runs).1 ↔ '\r' ∈ runs.flatMap (runSource settings doc) := by
    induction runs generalizing order with
    | nil => exact Iff.rfl
    | cons run rest ih =>
        rw [List.flatMap_cons, List.mem_append, ← return_mem_runText_iff hmarker order run, ← ih, runTexts]
        exact List.mem_append
  change '\r' ∈ oneLine (breakLines (runTexts settings doc order (mergeRuns runs)).1) ↔ _
  rw [oneLine_breakLines, return_mem_map_blank_iff, htexts, flatMap_runSource_mergeRuns, List.mem_flatMap]

theorem exists_return_of_mem_titleOf {order : NoteOrder} {runs : List Run}
    (h : '\r' ∈ titleOf (inlineText settings doc order runs).1) : ∃ run ∈ runs, '\r' ∈ runSource settings doc run :=
  (return_mem_oneLine_iff hmarker order runs).mp (mem_of_mem_trim h)

theorem exists_return_of_mem_itemText {order : NoteOrder} {runs : List Run}
    (h : '\r' ∈ itemText settings doc order runs) : ∃ run ∈ runs, '\r' ∈ runSource settings doc run :=
  (return_mem_oneLine_iff hmarker order runs).mp
    ((itemGlyph_suffix _).mem ((Text.dropWhileEnd_isPrefixOf _ _).mem h))

end Runs

/-! ## Rows -/

/-- The text of a cell on one line; a cell that goes on with the one above has none. -/
def cellLine (cell : Cell) : List Char :=
  if cell.isContinuation then [] else cell.textChars.map fun c => if c = '\n' then ' ' else c

theorem cellText_eq_cellChars (cell : Cell) : cellText cell = cellChars (cellLine cell) := by
  unfold cellText cellLine
  split <;> rfl

theorem return_mem_cellLine_iff (cell : Cell) :
    '\r' ∈ cellLine cell ↔ cell.isContinuation = false ∧ '\r' ∈ cell.textChars := by
  unfold cellLine
  cases cell.isContinuation with
  | true => simp
  | false =>
      rw [if_neg Bool.false_ne_true, and_iff_right rfl]
      exact return_mem_map_blank_iff cell.textChars

theorem isLine_cellText_iff (cell : Cell) :
    IsLine (cellText cell) ↔ (cell.isContinuation = false → '\r' ∉ cell.textChars) := by
  rw [isLine_iff_of_newline (newline_not_mem_cellText cell), cellText_eq_cellChars,
    (escapes_cellChars _).mem_iff (by decide), return_mem_cellLine_iff, not_and]

theorem isLine_barLine_iff (cells : List (List Char)) : IsLine (barLine cells) ↔ ∀ cell ∈ cells, IsLine cell := by
  rw [barLine, isLine_cons (by decide) (by decide), isLine_flatMap]
  refine forall₂_congr fun cell _ => ?_
  rw [isLine_append, and_iff_left (by decide)]

theorem isLine_spaced_iff (text : List Char) : IsLine (spaced text) ↔ IsLine text := by
  rw [spaced, List.cons_append, isLine_cons (by decide) (by decide), isLine_append, and_iff_left (by decide)]

theorem isLine_of_mem_separators (row : Row) : ∀ cell ∈ separators row, IsLine cell := by
  intro cell hcell
  obtain ⟨alignment, rfl⟩ := separators_cases hcell
  cases alignment with
  | none => decide
  | some alignment => cases alignment <;> decide

theorem forall_rowTexts_iff {P : List Char → Prop} (hnil : P []) (row : Row) :
    (∀ text ∈ rowTexts row, P text) ↔ ∀ cell ∈ row.cells, P (cellText cell) := by
  unfold rowTexts
  constructor
  · exact fun h cell hcell => h _ (List.mem_flatMap.mpr ⟨cell, hcell, List.mem_cons_self⟩)
  · intro h text htext
    obtain ⟨cell, hcell, hmem⟩ := List.mem_flatMap.mp htext
    rcases List.mem_cons.mp hmem with rfl | hempty
    · exact h cell hcell
    · rwa [List.eq_of_mem_replicate hempty]

theorem isLine_filledLine_iff (columns : Nat) (row : Row) :
    IsLine (filledLine columns row) ↔ ∀ cell ∈ row.cells, cell.isContinuation = false → '\r' ∉ cell.textChars := by
  have hfilled (filler : List (List Char)) (h : ∀ text ∈ filler, text = []) :
      (∀ text ∈ rowTexts row ++ filler, IsLine text) ↔ ∀ text ∈ rowTexts row, IsLine text := by
    rw [List.forall_mem_append]
    exact and_iff_left fun text htext => h text htext ▸ isLine_nil
  rw [filledLine, isLine_barLine_iff, List.forall_mem_map]
  simp only [isLine_spaced_iff]
  rw [hfilled _ fun text => List.eq_of_mem_replicate, forall_rowTexts_iff isLine_nil]
  exact forall₂_congr fun cell _ => isLine_cellText_iff cell

/-! ## Headings, items and tables -/

/-- **Lines and what breaks them.** A heading is written as one line, or as none when its title is empty; an item is
written as one line behind its gap, and a table as one line for each row and one for the separators. None of them has a
line feed, and none has a carriage return exactly when its text has none: the title or the text of the item, as written,
or the texts of the cells of the row. A carriage return of the title or of the item comes from one of its runs, and one
between other text of the runs of a heading stays in the title. -/
theorem written_lines_iff (settings : ExportSettings) (doc : Document) :
    (∀ (w : Writing) (paragraph : Paragraph) (level : Nat), blockKind paragraph = .heading level →
      settings.setextHeadings = false →
        let title := titleOf (inlineText settings doc w.notes paragraph.runs).1
        (paragraphText settings doc w paragraph).1 =
            (closeGroup settings w).1 ++ (headingLines level title).flatMap (· ++ ['\n', '\n']) ∧
          ((∀ line ∈ headingLines level title, IsLine line) ↔ '\r' ∉ title) ∧
          (settings.emphasisMarker ≠ '\r' → '\r' ∈ title → ∃ run ∈ paragraph.runs, '\r' ∈ runSource settings doc run) ∧
          ('\r' ∈ trim (paragraph.runs.flatMap (runSource settings doc)) → '\r' ∈ title)) ∧
      (∀ (w : Writing) (paragraph : Paragraph), blockKind paragraph = .item →
        let line := lineOfItem settings doc w.notes paragraph (nextNumber (numberBefore paragraph w))
        (paragraphText settings doc w paragraph).1 = (itemGap settings paragraph w).1 ++ (line ++ ['\n']) ∧
          (IsLine line ↔ (isOrdered paragraph = true ∨ IsLine [settings.bulletMarker]) ∧
            '\r' ∉ itemText settings doc w.notes paragraph.runs) ∧
          (settings.emphasisMarker ≠ '\r' → '\r' ∈ itemText settings doc w.notes paragraph.runs →
            ∃ run ∈ paragraph.runs, '\r' ∈ runSource settings doc run)) ∧
      ∀ (table : Table) (header : Row) (rows : List Row), table.rows = header :: rows → header.cells ≠ [] →
        let columns := (rowTexts header).length
        tableText true table =
            .ok ((filledLine columns header :: barLine (separators header) :: rows.map (filledLine columns)).flatMap
              (· ++ ['\n']) ++ ['\n']) ∧
          IsLine (barLine (separators header)) ∧
          ∀ row ∈ table.rows, IsLine (filledLine columns row) ↔
            ∀ cell ∈ row.cells, cell.isContinuation = false → '\r' ∉ cell.textChars := by
  refine ⟨fun w paragraph level hkind hsetext => ⟨heading_written settings doc w hkind hsetext, ?_,
      fun hmarker => exists_return_of_mem_titleOf hmarker, return_mem_titleOf⟩,
    fun w paragraph hkind => ⟨?_, isLine_lineOfItem_iff w.notes _, fun hmarker => exists_return_of_mem_itemText hmarker⟩,
    fun table header rows hrows hcells => ⟨?_, ?_, fun row _ => isLine_filledLine_iff _ row⟩⟩
  · exact isLine_headingLines_iff level (newline_not_mem_titleOf w.notes paragraph.runs)
  · rw [item_written hkind, lineOfItem]
  · rw [tableText_written true hrows hcells, if_pos rfl, pipeTable_filled, filledLine_eq rfl]
  · rw [isLine_barLine_iff]
    exact isLine_of_mem_separators header

/-- A heading of the first level. -/
def headingOf (text : String) : Paragraph where
  properties := { style := some "Heading1" }
  runs := [{ text }]

/-- A table with one column. -/
def columnOf (texts : List String) : Table where
  grid := [9000]
  rows := texts.map fun text => { cells := [cellOf text {} none] }

/-- Line feeds are blanks in a heading, in an item and in the rows of a table. -/
theorem written_lines_iff_feed :
    (blockKind (headingOf "a\nb") = .heading 1 ∧ blockKind (bulletOf "a\nb") = .item) ∧
      (paragraphText {} {} {} (headingOf "a\nb")).1 = "# a b\n\n".toList ∧
      (∀ line ∈ headingLines 1 "a b".toList, IsLine line) ∧
      IsLine (lineOfItem {} {} [] (bulletOf "a\nb") 1) ∧
      ∀ row ∈ (columnOf ["a\nb", "\n"]).rows, IsLine (filledLine 1 row) := by
  have hheading : blockKind (headingOf "a\nb") = .heading 1 := by decide
  have hitem : blockKind (bulletOf "a\nb") = .item := by decide
  obtain ⟨hheadings, hitems, htables⟩ := written_lines_iff {} {}
  obtain ⟨hwritten, hlines, hreturns, -⟩ := hheadings {} (headingOf "a\nb") 1 hheading rfl
  obtain ⟨-, hline, -⟩ := hitems {} (bulletOf "a\nb") hitem
  obtain ⟨-, -, hrows⟩ := htables (columnOf ["a\nb", "\n"]) _ _ rfl (List.cons_ne_nil _ _)
  have htitle : titleOf (inlineText {} {} [] (headingOf "a\nb").runs).1 = "a b".toList := by decide
  have hnone : ¬ ∃ run ∈ (headingOf "a\nb").runs, '\r' ∈ runSource {} {} run := by decide
  refine ⟨⟨hheading, hitem⟩, hwritten.trans (by decide), ?_, hline.mpr (by decide), fun row hrow =>
    (hrows row hrow).mpr ?_⟩
  · rw [← htitle]
    exact hlines.mpr fun hmem => hnone (hreturns (by decide) hmem)
  · revert row
    decide

/-- A carriage return is written as it stands, and what follows it is read as another line. -/
theorem written_lines_return :
    ((paragraphText {} {} {} (headingOf "a\rb")).1 = "# a\rb\n\n".toList ∧
        sourceLines "# a\rb\n\n".toList = ["# a".toList, "b".toList, []] ∧ ¬ IsLine "# a\rb".toList) ∧
      ((paragraphText {} {} {} (bulletOf "a\rb")).1 = "- a\rb\n".toList ∧ ¬ IsLine "- a\rb".toList) ∧
      ∃ rest, tableText true (columnOf ["a\rb"]) = .ok ("| a\rb |\n".toList ++ rest) ∧ ¬ IsLine "| a\rb |".toList := by
  refine ⟨⟨by decide, by decide, by decide⟩, ⟨by decide, by decide⟩, "|-----|\n\n".toList, ?_, by decide⟩
  rfl

end Folio.Markdown
