import Folio.Markdown.Writing
import Folio.Proofs.Markdown.NoteNumbers
import Folio.Proofs.Markdown.RunCuts
import Mathlib.Data.List.Forall2

/-!
# Runs split where they need not be

An editor may leave a stretch of text in several runs of the same formatting, empty ones among them. Such neighbours are
one run where they are merged, and the rest of the writer reads the texts of a paragraph in a row, so that nothing of
what is written tells how the texts are split.

* `RunsSplit` : some of the runs are split into pieces of the same formatting;
* `DocumentSplit` : so are runs of paragraphs, cells and footnotes of a document, which is the same otherwise;
* `map_withoutEquation_mergeAfter` : runs and split runs are merged into the same runs;
* `inlineText_split`, `paragraphText_split`, `tableText_split`, `elementsText_split`, `notesText_split` : what is
  written for the parts of a document is the same;
* `write_split` : what is written for the document is the same.
-/

namespace Folio.Markdown

variable {settings : ExportSettings} {doc other : Document}

/-- The other runs are the runs with some of the texts split into pieces of the same formatting. -/
inductive RunsSplit : List Run → List Run → Prop
  | nil : RunsSplit [] []
  | keep (run : Run) {runs others : List Run} (rest : RunsSplit runs others) : RunsSplit (run :: runs) (run :: others)
  | split {run : Run} {pieces runs others : List Run} (text : isTextRun run = true) (nonempty : pieces ≠ [])
      (alike : ∀ piece ∈ pieces, isTextRun piece = true ∧ piece.properties = run.properties)
      (whole : charsOf pieces = run.text.toList) (rest : RunsSplit runs others) :
      RunsSplit (run :: runs) (pieces ++ others)

/-- The other paragraph is the paragraph with texts split. -/
structure ParagraphSplit (paragraph split : Paragraph) : Prop where
  properties : split.properties = paragraph.properties
  runs : RunsSplit paragraph.runs split.runs

mutual

/-- The other table is the table with texts of its cells split. -/
inductive TableSplit : Table → Table → Prop
  | mk {properties : TableProperties} {grid : List Nat} {rows others : List Row}
      (split : List.Forall₂ RowSplit rows others) :
      TableSplit { properties, grid, rows } { properties, grid, rows := others }

/-- The other row is the row with texts of its cells split. -/
inductive RowSplit : Row → Row → Prop
  | mk {header : Bool} {cells others : List Cell} (split : List.Forall₂ CellSplit cells others) :
      RowSplit { header, cells } { header, cells := others }

/-- The other cell is the cell with texts split, those of its tables among them. -/
inductive CellSplit : Cell → Cell → Prop
  | mk {properties : CellProperties} {paragraphs others : List Paragraph} {tables inner : List Table}
      (split : List.Forall₂ ParagraphSplit paragraphs others) (nested : List.Forall₂ TableSplit tables inner) :
      CellSplit { properties, paragraphs, tables } { properties, paragraphs := others, tables := inner }

end

/-- The other element is the element with texts split. -/
inductive ElementSplit : Element → Element → Prop
  | paragraph {paragraph split : Paragraph} (h : ParagraphSplit paragraph split) :
      ElementSplit (.paragraph paragraph) (.paragraph split)
  | table {table split : Table} (h : TableSplit table split) : ElementSplit (.table table) (.table split)

/-- The other footnote is the footnote with texts split. -/
structure FootnoteSplit (note split : Footnote) : Prop where
  id : split.id = note.id
  paragraphs : List.Forall₂ ParagraphSplit note.paragraphs split.paragraphs

/-- The other document is the document with texts split. -/
structure DocumentSplit (doc split : Document) : Prop where
  metadata : split.metadata = doc.metadata
  defaults : split.defaults = doc.defaults
  media : split.media = doc.media
  body : List.Forall₂ ElementSplit doc.body split.body
  footnotes : List.Forall₂ FootnoteSplit doc.footnotes split.footnotes

/-- The run without its equation markup, which is not written. -/
def withoutEquation (run : Run) : Run := { run with equation := none }

theorem withoutEquation_eq_iff {run run' : Run} :
    withoutEquation run = withoutEquation run' ↔
      run.text = run'.text ∧ run.properties = run'.properties ∧ run.footnote = run'.footnote ∧
        run.media = run'.media := by
  simp [withoutEquation]

/-! ## Merged pieces -/

/-- Pieces behind a text of their formatting are merged into it. -/
theorem mergeAfter_pieces {last : Run} (hlast : isTextRun last = true) {pieces : List Run}
    (alike : ∀ piece ∈ pieces, isTextRun piece = true ∧ piece.properties = last.properties) (rest : List Run) :
    mergeAfter last (pieces ++ rest) =
      mergeAfter { last with text := last.text ++ String.ofList (charsOf pieces) } rest := by
  induction pieces generalizing last with
  | nil => simp [charsOf]
  | cons piece pieces ih =>
      obtain ⟨⟨htext, hsame⟩, hpieces⟩ := List.forall_mem_cons.mp alike
      rw [List.cons_append, mergeAfter_of_eq hlast htext hsame.symm,
        @ih { last with text := last.text ++ piece.text } hlast hpieces]
      have hchars : last.text ++ piece.text ++ String.ofList (charsOf pieces) =
          last.text ++ String.ofList (charsOf (piece :: pieces)) := by
        rw [← String.toList_inj]
        simp [charsOf]
      rw [hchars]

/-- Runs that begin with the pieces of a text are merged as if they began with the text. -/
theorem mergeRuns_pieces {run : Run} (text : isTextRun run = true) {pieces : List Run} (nonempty : pieces ≠ [])
    (alike : ∀ piece ∈ pieces, isTextRun piece = true ∧ piece.properties = run.properties)
    (whole : charsOf pieces = run.text.toList) (rest : List Run) :
    ∃ merged, withoutEquation run = withoutEquation merged ∧ mergeRuns (pieces ++ rest) = mergeAfter merged rest := by
  obtain ⟨piece, pieces, rfl⟩ := List.exists_cons_of_ne_nil nonempty
  obtain ⟨⟨hpiece, hsame⟩, hpieces⟩ := List.forall_mem_cons.mp alike
  rw [← hsame] at hpieces
  refine ⟨_, ?_, mergeAfter_pieces hpiece hpieces rest⟩
  have hchars : piece.text ++ String.ofList (charsOf pieces) = run.text := by
    rw [← String.toList_inj, ← whole]
    simp [charsOf]
  simp only [isTextRun, Bool.and_eq_true, Option.isNone_iff_eq_none] at text hpiece
  rw [withoutEquation_eq_iff, hchars, text.1, text.2, hpiece.1, hpiece.2]
  exact ⟨rfl, hsame.symm, rfl, rfl⟩

/-- A run that is not text of the formatting in front of it begins anew. -/
theorem mergeAfter_of_not {last run : Run}
    (h : ¬ (isTextRun last = true ∧ isTextRun run = true ∧ last.properties = run.properties)) (rest : List Run) :
    mergeAfter last (run :: rest) = last :: mergeRuns (run :: rest) := by
  have hkeep : ¬ (isTextRun run && isTextRun last && last.properties == run.properties) = true := by
    rw [Bool.and_eq_true, Bool.and_eq_true, beq_iff_eq]
    rintro ⟨⟨hrun, hlast⟩, hsame⟩
    exact h ⟨hlast, hrun, hsame⟩
  rw [mergeAfter, if_neg hkeep]
  rfl

/-- Runs and split runs are merged into the same runs, up to the equations of the pieces. -/
theorem map_withoutEquation_mergeAfter {runs others : List Run} (h : RunsSplit runs others) {last last' : Run}
    (hlast : withoutEquation last = withoutEquation last') :
    (mergeAfter last runs).map withoutEquation = (mergeAfter last' others).map withoutEquation := by
  induction h generalizing last last' with
  | nil => exact congrArg ([·]) hlast
  | @keep run runs others rest ih =>
      obtain ⟨htext, hproperties, hfootnote, hmedia⟩ := withoutEquation_eq_iff.mp hlast
      have hkind : isTextRun last = isTextRun last' := by rw [isTextRun, isTextRun, hfootnote, hmedia]
      rw [mergeAfter, mergeAfter, hproperties, hkind]
      split
      · exact ih (withoutEquation_eq_iff.mpr ⟨congrArg (· ++ run.text) htext, rfl, hfootnote, hmedia⟩)
      · rw [List.map_cons, List.map_cons, hlast, ih rfl]
  | @split run pieces runs others text nonempty alike whole rest ih =>
      obtain ⟨htext, hproperties, hfootnote, hmedia⟩ := withoutEquation_eq_iff.mp hlast
      have hkind : isTextRun last = isTextRun last' := by rw [isTextRun, isTextRun, hfootnote, hmedia]
      by_cases hmerge : isTextRun last = true ∧ last.properties = run.properties
      · -- the run and all of its pieces are merged into what is in front of them
        have hwhole : String.ofList (charsOf pieces) = run.text := by rw [whole, String.ofList_toList]
        rw [mergeAfter_of_eq hmerge.1 text hmerge.2, mergeAfter_pieces (hkind ▸ hmerge.1), hwhole]
        · exact ih (withoutEquation_eq_iff.mpr ⟨congrArg (· ++ run.text) htext, hproperties, hfootnote, hmedia⟩)
        · rw [← hproperties, hmerge.2]
          exact alike
      · -- the first piece begins anew, as the run itself does
        obtain ⟨merged, hmerged, hpieces⟩ := mergeRuns_pieces text nonempty alike whole others
        obtain ⟨piece, pieces, rfl⟩ := List.exists_cons_of_ne_nil nonempty
        have hsame := (alike piece List.mem_cons_self).2
        rw [mergeAfter_of_not fun h => hmerge ⟨h.1, h.2.2⟩, List.cons_append, mergeAfter_of_not, ← List.cons_append,
          hpieces, List.map_cons, List.map_cons, hlast]
        · exact congrArg (_ :: ·) (ih hmerged)
        · rw [← hkind, ← hproperties, hsame]
          exact fun h => hmerge ⟨h.1, h.2.2⟩

theorem map_withoutEquation_mergeRuns {runs others : List Run} (h : RunsSplit runs others) :
    (mergeRuns runs).map withoutEquation = (mergeRuns others).map withoutEquation := by
  cases h with
  | nil => rfl
  | keep run rest => exact map_withoutEquation_mergeAfter rest rfl
  | @split run pieces runs others text nonempty alike whole rest =>
      obtain ⟨merged, hmerged, hpieces⟩ := mergeRuns_pieces text nonempty alike whole others
      rw [hpieces]
      exact map_withoutEquation_mergeAfter rest hmerged

theorem RunsSplit.charsOf_eq {runs others : List Run} (h : RunsSplit runs others) : charsOf others = charsOf runs := by
  rw [← charsOf_mergeRuns, ← charsOf_mergeRuns runs]
  have htexts : ∀ runs : List Run, charsOf (runs.map withoutEquation) = charsOf runs := fun runs =>
    List.flatMap_map ..
  rw [← htexts, ← htexts (mergeRuns runs), map_withoutEquation_mergeRuns h]

/-! ## Inline text -/

/-- What is written for a run depends on its equation in no way, and on the document by its images. -/
theorem runText_congr (hmedia : other.media = doc.media) {run run' : Run}
    (h : withoutEquation run = withoutEquation run') (order : NoteOrder) :
    runText settings doc order run = runText settings other order run' := by
  have hlink : imageLink settings other = imageLink settings doc := by
    funext index
    rw [imageLink, imageLink, hmedia]
  obtain ⟨htext, hproperties, hfootnote, himage⟩ := withoutEquation_eq_iff.mp h
  rw [runText, runText, hlink, formatRun, formatRun, htext, hproperties, hfootnote, himage]

theorem runTexts_congr (hmedia : other.media = doc.media) {runs others : List Run}
    (h : runs.map withoutEquation = others.map withoutEquation) (order : NoteOrder) :
    runTexts settings doc order runs = runTexts settings other order others := by
  induction runs generalizing others order with
  | nil =>
      rw [List.map_eq_nil_iff.mp h.symm]
      rfl
  | cons run runs ih =>
      obtain ⟨run', others, rfl, hrun, hruns⟩ := List.map_eq_cons_iff.mp h.symm
      rw [runTexts, runTexts, runText_congr hmedia hrun.symm]
      obtain ⟨text, order⟩ := runText settings other order run'
      dsimp only
      rw [ih hruns.symm]

/-- Runs and split runs have the same inline text. -/
theorem inlineText_split (hmedia : other.media = doc.media) {runs others : List Run} (h : RunsSplit runs others)
    (order : NoteOrder) : inlineText settings doc order runs = inlineText settings other order others := by
  rw [inlineText, inlineText, runTexts_congr hmedia (map_withoutEquation_mergeRuns h)]

/-! ## Paragraphs -/

theorem ParagraphSplit.textChars_eq {paragraph split : Paragraph} (h : ParagraphSplit paragraph split) :
    split.textChars = paragraph.textChars :=
  h.runs.charsOf_eq

/-- A paragraph and the paragraph with texts split are written alike: as code, as a list item or otherwise. -/
theorem paragraphText_split (hmedia : other.media = doc.media) {paragraph split : Paragraph}
    (h : ParagraphSplit paragraph split) (w : Writing) :
    paragraphText settings doc w paragraph = paragraphText settings other w split := by
  have hchars := h.textChars_eq
  obtain ⟨properties, runs⟩ := paragraph
  obtain ⟨properties', others⟩ := split
  obtain ⟨hproperties, hruns⟩ := h
  cases hproperties
  have hinline : ∀ order, inlineText settings doc order runs = inlineText settings other order others :=
    inlineText_split hmedia hruns
  have hcode : codeLine settings w ⟨properties, runs⟩ = codeLine settings w ⟨properties, others⟩ := by
    rw [codeLine, codeLine, hchars]
    rfl
  have hitem : ∀ w, listLine settings doc w ⟨properties, runs⟩ = listLine settings other w ⟨properties, others⟩ := by
    intro w
    simp only [listLine, hinline]
    rfl
  have hplain : ∀ w, plainParagraph settings doc w ⟨properties, runs⟩ =
      plainParagraph settings other w ⟨properties, others⟩ := by
    intro w
    rw [plainParagraph, plainParagraph, hchars]
    dsimp only
    rw [hinline]
    rfl
  simp only [paragraphText, hcode, hitem, hplain]
  rfl

/-! ## Tables -/

/-- Lists whose elements have the same values pairwise have the same list of values. -/
theorem map_eq_of_forall₂ {α β : Type} {R : α → α → Prop} {f : α → β} (hf : ∀ a b, R a b → f a = f b) {as bs : List α}
    (h : List.Forall₂ R as bs) : as.map f = bs.map f := by
  induction h with
  | nil => rfl
  | cons hab _ ih => rw [List.map_cons, List.map_cons, hf _ _ hab, ih]

theorem flatMap_eq_of_forall₂ {α β : Type} {R : α → α → Prop} {f : α → List β} (hf : ∀ a b, R a b → f a = f b)
    {as bs : List α} (h : List.Forall₂ R as bs) : as.flatMap f = bs.flatMap f := by
  rw [List.flatMap_def, List.flatMap_def, map_eq_of_forall₂ hf h]

theorem textChars_eq_of_forall₂ {paragraphs others : List Paragraph}
    (h : List.Forall₂ ParagraphSplit paragraphs others) :
    paragraphs.map Paragraph.textChars = others.map Paragraph.textChars :=
  map_eq_of_forall₂ (fun _ _ h => h.textChars_eq.symm) h

theorem cellText_split {cell split : Cell} (h : CellSplit cell split) : cellText cell = cellText split := by
  cases h with
  | mk hparagraphs =>
      rw [cellText, cellText, CellOf.textChars, CellOf.textChars, textChars_eq_of_forall₂ hparagraphs]
      rfl

/-- The columns that a cell covers and their alignment are the same when its texts are split. -/
theorem span_alignment_split {cell split : Cell} (h : CellSplit cell split) :
    cell.span = split.span ∧ cell.alignment = split.alignment := by
  cases h with
  | mk hparagraphs =>
      refine ⟨rfl, ?_⟩
      cases hparagraphs with
      | nil => rfl
      | cons hparagraph _ =>
          rw [CellOf.alignment, CellOf.alignment, List.head?_cons, List.head?_cons, Option.bind_some, Option.bind_some,
            hparagraph.properties]

theorem rowTexts_split {row split : Row} (h : RowSplit row split) : rowTexts row = rowTexts split := by
  cases h with
  | mk hcells =>
      refine flatMap_eq_of_forall₂ (fun cell cell' hcell => ?_) hcells
      rw [cellText_split hcell, (span_alignment_split hcell).1]

theorem separatorRow_split {row split : Row} (h : RowSplit row split) : separatorRow row = separatorRow split := by
  cases h with
  | mk hcells =>
      refine congrArg (· ++ _) (flatMap_eq_of_forall₂ (fun cell cell' hcell => ?_) hcells)
      rw [(span_alignment_split hcell).1, (span_alignment_split hcell).2]

/-- A table and the table with texts split are written alike, in both layouts, or refused alike. -/
theorem tableText_split {table split : Table} (h : TableSplit table split) (gfm : Bool) :
    tableText gfm table = tableText gfm split := by
  cases h with
  | mk hrows =>
      cases hrows with
      | nil => rfl
      | @cons header header' rows others hheader hrest =>
          have htitles := rowTexts_split hheader
          have hpipe : pipeTable header rows = pipeTable header' others := by
            rw [pipeTable, pipeTable, htitles, separatorRow_split hheader,
              flatMap_eq_of_forall₂ (fun row row' hrow => by rw [rowTexts_split hrow]) hrest]
          have hsimple : simpleTable header rows = simpleTable header' others := by
            rw [simpleTable, simpleTable, htitles,
              flatMap_eq_of_forall₂ (fun row row' hrow => by rw [rowTexts_split hrow]) hrest]
          have hcells : header.cells.isEmpty = header'.cells.isEmpty := by
            cases hheader with
            | mk hcells => cases hcells <;> rfl
          rw [tableText, tableText]
          dsimp only
          rw [hpipe, hsimple, hcells, Table.rowCount, Table.rowCount, List.length_cons, List.length_cons,
            hrest.length_eq]
          rfl

/-! ## Documents -/

/-- Elements and the elements with texts split are written alike, or end the writing alike. -/
theorem elementsText_split (hmedia : other.media = doc.media) {elements others : List Element}
    (h : List.Forall₂ ElementSplit elements others) (w : Writing) :
    elementsText settings doc w elements = elementsText settings other w others := by
  induction h generalizing w with
  | nil => rfl
  | cons helement _ ih =>
      cases helement with
      | paragraph hparagraph =>
          rw [elementsText, elementsText, paragraphText_split hmedia hparagraph]
          dsimp only
          rw [ih]
      | table htable =>
          rw [elementsText, elementsText, tableText_split htable]
          dsimp only
          rw [ih]

/-- The elements are written in the same order, also when the paragraphs come first. -/
theorem forall₂_written (h : DocumentSplit doc other) (settings : ExportSettings) :
    List.Forall₂ ElementSplit (writtenElements settings doc) (writtenElements settings other) := by
  have hbody := h.body
  unfold writtenElements Document.paragraphs Document.tables
  generalize doc.body = body, other.body = body' at hbody
  split
  · exact hbody
  · refine List.rel_append ?_ ?_
    · induction hbody with
      | nil => exact .nil
      | cons helement _ ih =>
          cases helement with
          | paragraph hparagraph => exact .cons (.paragraph hparagraph) ih
          | table htable => exact ih
    · induction hbody with
      | nil => exact .nil
      | cons helement _ ih =>
          cases helement with
          | paragraph hparagraph => exact ih
          | table htable => exact .cons (.table htable) ih

/-- A footnote is found under its id, with its texts split. -/
theorem noteText_split (h : List.Forall₂ FootnoteSplit doc.footnotes other.footnotes) (index : Nat) (id : String) :
    noteText doc index id = noteText other index id := by
  have hfound : (doc.footnote? id).map (·.paragraphs.map Paragraph.textChars) =
      (other.footnote? id).map (·.paragraphs.map Paragraph.textChars) := by
    unfold Document.footnote?
    generalize doc.footnotes = notes, other.footnotes = notes' at h
    induction h with
    | nil => rfl
    | cons hnote _ ih =>
        rw [List.find?_cons, List.find?_cons, hnote.id]
        split
        · exact congrArg some (textChars_eq_of_forall₂ hnote.paragraphs)
        · exact ih
  rw [noteText, noteText]
  cases hnote : doc.footnote? id with
  | none =>
      rw [hnote] at hfound
      rw [Option.map_eq_none_iff.mp hfound.symm]
  | some note =>
      rw [hnote] at hfound
      obtain ⟨note', hnote', hparagraphs⟩ := Option.map_eq_some_iff.mp hfound.symm
      rw [hnote']
      dsimp only
      rw [hparagraphs]

theorem notesText_split (h : List.Forall₂ FootnoteSplit doc.footnotes other.footnotes) (order : NoteOrder) :
    notesText settings doc order = notesText settings other order := by
  have hids : doc.footnotes.map (·.id) = other.footnotes.map (·.id) :=
    map_eq_of_forall₂ (fun _ _ hnote => hnote.id.symm) h
  have hall : allNotes doc order = allNotes other order := by rw [allNotes_eq, allNotes_eq, hids]
  have hempty : doc.footnotes.isEmpty = other.footnotes.isEmpty := by
    rw [← List.isEmpty_map (f := (·.id)), hids, List.isEmpty_map]
  have htext : noteText doc = noteText other := by
    funext index id
    exact noteText_split h index id
  rw [notesText, notesText, hall, hempty, htext]

/-- **A document with runs split into pieces of the same formatting is written as the document is**, whatever the
settings are: the text, the diagnostics and the refusal are the same. -/
theorem write_split (h : DocumentSplit doc other) (settings : ExportSettings) :
    write settings doc = write settings other := by
  rw [write, write, elementsText_split h.media (forall₂_written h settings), h.metadata]
  simp only [notesText_split h.footnotes]

/-- A bold text in three pieces, one of them empty, is one bold text: the blank at the end of a piece is inside. -/
theorem write_split_bold :
    let bold : RunProperties := { bold := some true }
    let doc : Document := { body := [.paragraph { runs := [{ text := "a b", properties := bold }, { text := "c" }] }] }
    let split : Document := { body := [.paragraph { runs := [{ text := "a ", properties := bold },
      { text := "", properties := bold }, { text := "b", properties := bold }, { text := "c" }] }] }
    DocumentSplit doc split ∧ write {} doc = write {} split ∧ (write {} split).1.toOption = some "**a b**c\n\n" := by
  intro bold doc split
  have hruns : RunsSplit [{ text := "a b", properties := bold }, { text := "c" }]
      ([{ text := "a ", properties := bold }, { text := "", properties := bold },
        { text := "b", properties := bold }] ++ [{ text := "c" }]) :=
    .split rfl (List.cons_ne_nil _ _) (by decide) (by decide) (.keep _ .nil)
  have hsplit : DocumentSplit doc split :=
    { metadata := rfl
      defaults := rfl
      media := rfl
      body := .cons (.paragraph ⟨rfl, hruns⟩) .nil
      footnotes := .nil }
  exact ⟨hsplit, write_split hsplit {}, by decide +kernel⟩

end Folio.Markdown
