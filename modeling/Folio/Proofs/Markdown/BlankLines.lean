import Folio.Proofs.Markdown.CodeFence
import Folio.Proofs.Markdown.LineStarts
import Folio.Proofs.Markdown.MetadataBlock
import Folio.Proofs.Markdown.RunCuts

/-!
# Blank lines in a paragraph

A blank line ends a paragraph. What body text is written with (markers, backslashes, the blanks of hard breaks, the
indentation that a line loses) makes no line blank and fills none: the lines of the paragraph are blank where the lines
of its text are.

* `blankLines` : which lines of a text are blank;
* `blankLines_append` : texts in a row share a line;
* `blankLines_formatRun`, `blankLines_inlineText`, `blankLines_escapeBlockStarts` : what the writing does to the lines;
* `paragraph_blank_lines` : body text is written without a blank line exactly when no line of its text is blank.
-/

namespace Folio.Markdown
open Text (lines lines_append lines_of_not_mem lineInduction trim Edges)
open Unicode (isBlank)

/-- The line is empty or white space alone. -/
def isBlankLine (line : List Char) : Bool := line.all isBlank

/-- For each line of a text, whether it is blank. -/
def blankLines (cs : List Char) : List Bool := (lines cs).map isBlankLine

/-- The first of the lines goes on behind something that may be blank. -/
def meetBlank (blank : Bool) : List Bool → List Bool
  | [] => [blank]
  | first :: rest => (blank && first) :: rest

/-- The last line before goes on in the first line behind. -/
def joinBlank : List Bool → List Bool → List Bool
  | [], behind => behind
  | [last], behind => meetBlank last behind
  | first :: next :: rest, behind => first :: joinBlank (next :: rest) behind

/-- Neither the first line nor the last is blank. -/
structure Framed (cs : List Char) : Prop where
  head : (blankLines cs).head? = some false
  last : (blankLines cs).getLast? = some false

/-- The paragraph is body text: no code, list item, heading or quote. -/
def isBody (paragraph : Paragraph) : Bool :=
  styleOf paragraph != Style.code && !isListItem paragraph && (Style.headingLevel (styleOf paragraph)).isNone &&
    styleOf paragraph != Style.quote

/-! ## Texts in a row -/

theorem blankLines_ne_nil (cs : List Char) : blankLines cs ≠ [] := by
  intro h
  exact Text.splitWhen_ne_nil _ _ (List.map_eq_nil_iff.mp h)

theorem blankLines_newline (cs : List Char) : blankLines ('\n' :: cs) = true :: blankLines cs := by
  have hlines : lines ('\n' :: cs) = [] :: lines cs := lines_append List.not_mem_nil cs
  unfold blankLines
  rw [hlines]
  rfl

theorem blankLines_cons {c : Char} (hc : c ≠ '\n') (cs : List Char) :
    blankLines (c :: cs) = meetBlank (isBlank c) (blankLines cs) := by
  have hsep : (c == '\n') = false := beq_eq_false_iff_ne.mpr hc
  have hne := Text.splitWhen_ne_nil (· == '\n') cs
  unfold blankLines lines Text.splitOn
  rw [Text.splitWhen, hsep]
  cases hcs : Text.splitWhen (· == '\n') cs with
  | nil => exact absurd hcs hne
  | cons first rest => rfl

theorem blankLines_prepend {piece : List Char} (h : '\n' ∉ piece) (cs : List Char) :
    blankLines (piece ++ cs) = meetBlank (isBlankLine piece) (blankLines cs) := by
  induction piece with
  | nil =>
      obtain ⟨first, rest, hcs⟩ := List.exists_cons_of_ne_nil (blankLines_ne_nil cs)
      rw [List.nil_append, hcs]
      rfl
  | cons c piece ih =>
      obtain ⟨hc, hpiece⟩ := not_or.mp (mt List.mem_cons.mpr h)
      rw [List.cons_append, blankLines_cons (Ne.symm hc), ih hpiece]
      cases blankLines cs <;> simp [meetBlank, isBlankLine, Bool.and_assoc]

theorem blankLines_append (cs ds : List Char) : blankLines (cs ++ ds) = joinBlank (blankLines cs) (blankLines ds) := by
  induction cs using lineInduction with
  | last piece h =>
      have hpiece : blankLines piece = [isBlankLine piece] := by rw [blankLines, lines_of_not_mem h, List.map_singleton]
      rw [blankLines_prepend h, hpiece, joinBlank]
  | more piece rest h ih =>
      have hlines : ∀ after, blankLines (piece ++ '\n' :: after) = isBlankLine piece :: blankLines after := by
        intro after
        rw [blankLines, lines_append h, List.map_cons, blankLines]
      obtain ⟨first, others, hrest⟩ := List.exists_cons_of_ne_nil (blankLines_ne_nil rest)
      rw [List.append_assoc, List.cons_append, hlines, hlines, ih, hrest, joinBlank]

theorem joinBlank_of_getLast? {before : List Bool} (h : before.getLast? = some false) (blank : Bool) :
    joinBlank before [blank] = before := by
  induction before with
  | nil => cases h
  | cons first rest ih =>
      cases rest with
      | nil =>
          obtain rfl : first = false := by simpa using h
          rfl
      | cons next rest =>
          rw [List.getLast?_cons_cons] at h
          rw [joinBlank, ih h]

theorem getLast?_joinBlank_false (before : List Bool) : (joinBlank before [false]).getLast? = some false := by
  induction before with
  | nil => rfl
  | cons first rest ih =>
      cases rest with
      | nil => simp [joinBlank, meetBlank]
      | cons next rest =>
          obtain ⟨last, hlast⟩ : ∃ last, joinBlank (next :: rest) [false] = last := ⟨_, rfl⟩
          rw [joinBlank, hlast]
          rw [hlast] at ih
          cases last with
          | nil => cases ih
          | cons other last => rwa [List.getLast?_cons_cons]

/-- A text has a character that is not blank when one of its lines is not blank. -/
theorem forall_isBlank_iff (cs : List Char) : (∀ c ∈ cs, isBlank c = true) ↔ ∀ blank ∈ blankLines cs, blank = true := by
  induction cs using lineInduction with
  | last piece h =>
      rw [blankLines, lines_of_not_mem h, List.map_singleton, List.forall_mem_singleton]
      exact List.all_eq_true.symm
  | more piece rest h ih =>
      have hlines : blankLines (piece ++ '\n' :: rest) = isBlankLine piece :: blankLines rest := by
        rw [blankLines, lines_append h, List.map_cons, blankLines]
      have hfeed : isBlank '\n' = true := by decide
      rw [hlines, List.forall_mem_cons, ← ih, List.forall_mem_append, List.forall_mem_cons, isBlankLine,
        List.all_eq_true]
      simp only [hfeed, true_and]

/-! ## What a text is set between -/

/-- Nothing that is set around a text on its first and its last line makes a line blank or fills one, when these two are
not blank. -/
theorem Framed.between {front inner back : List Char} (h : Framed inner) (hfront : '\n' ∉ front) (hback : '\n' ∉ back) :
    blankLines (front ++ inner ++ back) = blankLines inner := by
  have hend : blankLines back = [isBlankLine back] := by rw [blankLines, lines_of_not_mem hback, List.map_singleton]
  rw [blankLines_append, hend, blankLines_prepend hfront]
  obtain ⟨first, rest, hinner⟩ := List.exists_cons_of_ne_nil (blankLines_ne_nil inner)
  have hhead := h.head
  have hlast := h.last
  rw [hinner] at hhead hlast ⊢
  obtain rfl : first = false := by simpa using hhead
  rw [meetBlank, Bool.and_false]
  exact joinBlank_of_getLast? hlast _

theorem Framed.of_eq {cs ds : List Char} (h : Framed cs) (heq : blankLines ds = blankLines cs) : Framed ds where
  head := by rw [heq, h.head]
  last := by rw [heq, h.last]

theorem Framed.wrap {inner : List Char} (h : Framed inner) {mark : Char} (hmark : mark ≠ '\n') (k : Nat) :
    blankLines (wrap mark k inner) = blankLines inner := by
  have hrow : '\n' ∉ List.replicate k mark := fun hmem => hmark (List.eq_of_mem_replicate hmem).symm
  exact h.between hrow hrow

theorem framed_of_trimmed {cs : List Char} (h : Trimmed cs) (hne : cs ≠ []) : Framed cs where
  head := by
    obtain ⟨c, rest, rfl⟩ := List.exists_cons_of_ne_nil hne
    have hc : isBlank c = false := h.head c rfl
    have hfeed : c ≠ '\n' := by
      rintro rfl
      exact absurd hc (by decide)
    rw [blankLines_cons hfeed, hc]
    cases blankLines rest <;> rfl
  last := by
    obtain ⟨front, c, rfl⟩ := (List.eq_nil_or_concat cs).resolve_left hne
    rw [List.concat_eq_append] at h ⊢
    have hc : isBlank c = false := h.last c List.getLast?_concat
    have hfeed : c ≠ '\n' := by
      rintro rfl
      exact absurd hc (by decide)
    have hlast : blankLines [c] = [false] := by
      rw [blankLines_cons hfeed, hc]
      rfl
    rw [blankLines_append, hlast]
    exact getLast?_joinBlank_false _

/-! ## Runs -/

theorem isBlankLine_escapeInline (line : List Char) : isBlankLine (escapeInline line) = isBlankLine line := by
  unfold isBlankLine
  induction line with
  | nil => rfl
  | cons c line ih =>
      by_cases h : c = '\\' ∨ Live c line
      · have hslash : isBlank '\\' = false := by decide
        have hc : isBlank c = false := not_isBlank_of_isAsciiMark (isAsciiMark_of_live h)
        rw [escapeInline_live h, List.all_cons, List.all_cons, List.all_cons, hslash, hc, Bool.false_and,
          Bool.false_and]
      · obtain ⟨hother, hdead⟩ := not_or.mp h
        rw [escapeInline_dead hother hdead, List.all_cons, List.all_cons, ih]

theorem blankLines_escapeInline (cs : List Char) : blankLines (escapeInline cs) = blankLines cs := by
  unfold blankLines
  rw [lines_escapeInline, List.map_map]
  exact List.map_congr_left fun line _ => isBlankLine_escapeInline line

theorem blankLines_codeSpan {code : List Char} (h : Framed code) : blankLines (codeSpan code) = blankLines code := by
  have hpadded : blankLines (padded code) = blankLines code := by
    unfold padded
    dsimp only
    split
    · exact h.between (by decide) (by decide)
    · exact h.between List.not_mem_nil List.not_mem_nil
  rw [codeSpan_eq, (h.of_eq hpadded).wrap (by decide), hpadded]

section Settings
variable {settings : ExportSettings} (hmarker : settings.emphasisMarker ≠ '\n')
include hmarker

theorem blankLines_coreText {core : List Char} (h : Framed core) (properties : RunProperties) :
    blankLines (coreText settings properties core) = blankLines core := by
  have hplain : blankLines (if isCode settings properties then codeSpan core else escapeInline core) =
      blankLines core := by
    split
    · exact blankLines_codeSpan h
    · exact blankLines_escapeInline core
  have hemphasis := (h.of_eq hplain).wrap hmarker (emphasisLength properties)
  have hstrike := (h.of_eq (hemphasis.trans hplain)).wrap (show '~' ≠ '\n' by decide) (strikeLength properties)
  exact hstrike.trans (hemphasis.trans hplain)

/-- The lines of a run are blank where those of its text are. -/
theorem blankLines_formatRun (run : Run) : blankLines (formatRun settings run) = blankLines run.text.toList := by
  by_cases hcore : (Edges.ofText run.text.toList).core = []
  · unfold formatRun
    dsimp only
    rw [hcore]
    rfl
  · have hframed : Framed (Edges.ofText run.text.toList).core := framed_of_trimmed (trimmed_trim _) hcore
    rw [formatRun_eq hcore, blankLines_append, blankLines_append, blankLines_coreText hmarker hframed,
      ← blankLines_append, ← blankLines_append, Edges.ofText_append]

theorem blankLines_flatMap_formatRun (runs : List Run) :
    blankLines (runs.flatMap (formatRun settings)) = blankLines (charsOf runs) := by
  induction runs with
  | nil => rfl
  | cons run runs ih =>
      have hchars : charsOf (run :: runs) = run.text.toList ++ charsOf runs := List.flatMap_cons
      rw [List.flatMap_cons, hchars, blankLines_append, blankLines_append, blankLines_formatRun hmarker, ih]

omit hmarker in
theorem blankLines_breakLines (cs : List Char) : blankLines (breakLines cs) = blankLines cs := by
  induction cs with
  | nil => rfl
  | cons c cs ih =>
      by_cases hc : c = '\n'
      · subst hc
        change blankLines (' ' :: ' ' :: '\n' :: breakLines cs) = _
        rw [blankLines_cons (by decide), blankLines_cons (by decide), blankLines_newline, blankLines_newline, ih]
        rfl
      · rw [breakLines_cons hc, blankLines_cons hc, blankLines_cons hc, ih]

/-- The lines of runs in a row are blank where those of their text are. -/
theorem blankLines_inlineText (doc : Document) (order : NoteOrder) {runs : List Run}
    (hruns : ∀ run ∈ runs, isTextRun run = true) :
    blankLines (inlineText settings doc order runs).1 = blankLines (charsOf runs) := by
  change blankLines (breakLines (runTexts settings doc order (mergeRuns runs)).1) = _
  rw [blankLines_breakLines, runTexts_of_text settings doc order (isTextRun_mergeRuns hruns),
    blankLines_flatMap_formatRun hmarker, charsOf_mergeRuns]

end Settings

/-! ## Lines -/

theorem isBlankLine_dropWhile (line : List Char) : isBlankLine (line.dropWhile isSpaceOrTab) = isBlankLine line := by
  have hblank : isBlankLine (line.takeWhile isSpaceOrTab) = true := by
    refine List.all_eq_true.mpr fun c hc => ?_
    exact isBlank_of_isTabOrSpace (List.mem_takeWhile_imp hc)
  have hline : line.takeWhile isSpaceOrTab ++ line.dropWhile isSpaceOrTab = line := List.takeWhile_append_dropWhile
  conv_rhs => rw [← hline, isBlankLine, List.all_append]
  rw [isBlankLine] at hblank
  rw [hblank, Bool.true_and, isBlankLine]

theorem isBlankLine_escapeLineStart (line : List Char) : isBlankLine (escapeLineStart line) = isBlankLine line := by
  have hstart := startEscape line
  rw [← isBlankLine_dropWhile line]
  generalize line.dropWhile isSpaceOrTab = start at hstart
  generalize escapeLineStart line = written at hstart ⊢
  unfold isBlankLine
  cases hstart with
  | marked begins =>
      obtain ⟨c, rest, rfl, hc⟩ := mark_of_begins begins
      have hmark : isBlank c = false := by
        simp only [List.mem_cons, List.not_mem_nil, or_false] at hc
        rcases hc with rfl | rfl | rfl | rfl | rfl | rfl <;> decide
      rw [List.all_cons, List.all_cons, hmark, Bool.false_and, Bool.and_false]
  | numbered number =>
      obtain ⟨rfl, -, -, mark, after, rfl, hmark⟩ := orderedMarker?_eq_some number
      have hblank : isBlank mark = false := by rcases hmark with rfl | rfl <;> decide
      simp [hblank]
  | kept => rfl

theorem blankLines_escapeBlockStarts (cs : List Char) : blankLines (escapeBlockStarts cs) = blankLines cs := by
  unfold blankLines
  rw [lines_escapeBlockStarts, List.map_map]
  exact List.map_congr_left fun line _ => isBlankLine_escapeLineStart line

/-- **Body text is written without a blank line exactly when no line of its text is blank**: line by line, the paragraph
is blank where its text is. -/
theorem paragraph_blank_lines (settings : ExportSettings) (doc : Document) (w : Writing) {paragraph : Paragraph}
    (hbody : isBody paragraph = true) (hruns : ∀ run ∈ paragraph.runs, isTextRun run = true)
    (htext : ∃ c ∈ paragraph.textChars, isBlank c = false) (hwrap : settings.wrapWidth = none)
    (hmarker : settings.emphasisMarker ≠ '\n') :
    ∃ body, (paragraphText settings doc w paragraph).1 = (closeGroup settings w).1 ++ (body ++ ['\n', '\n']) ∧
      (lines body).map isBlankLine = (lines paragraph.textChars).map isBlankLine ∧
      ((∀ line ∈ lines body, isBlankLine line = false) ↔
        ∀ line ∈ lines paragraph.textChars, isBlankLine line = false) := by
  simp only [isBody, Bool.and_eq_true, bne_iff_ne, Bool.not_eq_true', Option.isNone_iff_eq_none] at hbody
  obtain ⟨⟨⟨hcode, hlist⟩, hheading⟩, hquote⟩ := hbody
  have hfilled : ∀ cs, blankLines cs = blankLines paragraph.textChars → (trim cs).isEmpty = false := by
    intro cs hsame
    rw [List.isEmpty_eq_false_iff]
    intro hnil
    obtain ⟨c, hc, hblank⟩ := htext
    have hall := (forall_isBlank_iff cs).mp (isBlank_of_trim_eq_nil hnil)
    rw [hsame, ← forall_isBlank_iff] at hall
    exact absurd (hall c hc) (by rw [hblank]; exact Bool.false_ne_true)
  have hinline := blankLines_inlineText hmarker doc (closeGroup settings w).2.notes hruns
  generalize htext' : (inlineText settings doc (closeGroup settings w).2.notes paragraph.runs).1 = text at hinline
  have hwritten := blankLines_escapeBlockStarts text
  refine ⟨escapeBlockStarts text, ?_, hwritten.trans hinline, ?_⟩
  · have hplain : (plainParagraph settings doc { (closeGroup settings w).2 with counter := 0 } paragraph).1 =
        escapeBlockStarts text ++ ['\n', '\n'] := by
      have hrule : ¬ (paragraph.properties.borderBottom = true ∧ (trim paragraph.textChars).isEmpty = true) := by
        rw [hfilled _ rfl]
        exact fun h => Bool.noConfusion h.2
      unfold plainParagraph
      rw [hheading]
      dsimp only
      rw [if_neg hquote, if_neg hrule]
      change bodyText settings (inlineText settings doc (closeGroup settings w).2.notes paragraph.runs).1 = _
      unfold bodyText
      rw [htext', hfilled text hinline, hwrap]
      rfl
    unfold paragraphText
    rw [if_neg hcode, hlist, if_neg Bool.false_ne_true]
    exact congrArg ((closeGroup settings w).1 ++ ·) hplain
  · have hall : ∀ ls : List (List Char),
        (∀ line ∈ ls, isBlankLine line = false) ↔ ∀ blank ∈ ls.map isBlankLine, blank = false := fun ls =>
      (List.forall_mem_map (P := (· = false))).symm
    have hsame : (lines (escapeBlockStarts text)).map isBlankLine = (lines paragraph.textChars).map isBlankLine :=
      hwritten.trans hinline
    rw [hall, hall, hsame]

/-- Bold text that ends with a line feed, and text behind it that begins with a blank. -/
theorem paragraph_blank_lines_bold :
    let paragraph : Paragraph :=
      { runs := [{ text := "a\n", properties := { bold := some true } }, { text := " - b\u00a0" }] }
    (isBody paragraph = true ∧ (∀ run ∈ paragraph.runs, isTextRun run = true) ∧
        (∃ c ∈ paragraph.textChars, isBlank c = false) ∧ ({} : ExportSettings).wrapWidth = none ∧
        ({} : ExportSettings).emphasisMarker ≠ '\n') ∧
      (paragraphText {} {} {} paragraph).1 = "**a**  \n\\- b\u00a0\n\n".toList ∧
      ∀ line ∈ lines "**a**  \n\\- b\u00a0".toList, isBlankLine line = false := by
  intro paragraph
  have hbody : isBody paragraph = true := by decide
  have hruns : ∀ run ∈ paragraph.runs, isTextRun run = true := by decide
  have htext : ∃ c ∈ paragraph.textChars, isBlank c = false := ⟨'a', by decide, by decide⟩
  have hmarker : ({} : ExportSettings).emphasisMarker ≠ '\n' := by decide
  have hwritten : (paragraphText {} {} {} paragraph).1 = "**a**  \n\\- b\u00a0\n\n".toList := by decide +kernel
  obtain ⟨body, heq, -, hiff⟩ := paragraph_blank_lines {} {} {} hbody hruns htext rfl hmarker
  have hsplit : body ++ ['\n', '\n'] = "**a**  \n\\- b\u00a0".toList ++ ['\n', '\n'] := heq.symm.trans hwritten
  obtain rfl := List.append_cancel_right hsplit
  exact ⟨⟨hbody, hruns, htext, rfl, hmarker⟩, hwritten, hiff.mpr (by decide)⟩

/-- Two line feeds in a row leave an empty line between the lines of the paragraph. -/
theorem paragraph_blank_lines_feeds :
    let paragraph : Paragraph := { runs := [{ text := "a\n\nb" }] }
    (isBody paragraph = true ∧ (∀ run ∈ paragraph.runs, isTextRun run = true) ∧
        (∃ c ∈ paragraph.textChars, isBlank c = false) ∧ ({} : ExportSettings).wrapWidth = none) ∧
      (paragraphText {} {} {} paragraph).1 = "a  \n\nb".toList ++ ['\n', '\n'] ∧ [] ∈ lines "a  \n\nb".toList := by
  intro paragraph
  have htext : ∃ c ∈ paragraph.textChars, isBlank c = false := ⟨'a', by decide, by decide⟩
  exact ⟨⟨by decide, by decide, htext, rfl⟩, by decide +kernel, by decide⟩

end Folio.Markdown
