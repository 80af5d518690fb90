import Folio.Proofs.Markdown.CodeFence
import Folio.Proofs.Markdown.DashLines
import Folio.Proofs.Markdown.LineStarts

/-!
# Blocks with lines of dashes

A paragraph is written in one of six ways. Those that have a line of three dashes are the rule, the underline of a short
heading of level two and the code that holds such a line; all others are escaped. Each step of the writing has the
lines of dashes of its own element, and those of the code before it that it puts in a fence.

* `BlockKind`, `paragraphText_plain` : the ways in which a paragraph is written;
* `WritesDashes`, `IsLeftOut` : the elements that have a line of dashes, and those that leave no trace;
* `BeginsOtherwise`, `beginsOtherwise_blockText` : what is no rule does not begin with a line of dashes;
* `DashStep`, `dashStep_elementText` : a step of the writing has its lines of dashes, or leaves them in the code that
  waits for its fence.
-/

namespace Folio.Markdown
open FrontMatter (delimiter)
open Text (lines lines_append lines_of_not_mem lineInduction trim)

/-! ## Blocks -/

/-- The ways in which a paragraph is written. -/
inductive BlockKind where
  | code
  | item
  | heading (level : Nat)
  | quote
  | rule
  | body
  deriving DecidableEq, Repr

/-- The way in which the paragraph is written. -/
def blockKind (paragraph : Paragraph) : BlockKind :=
  if styleOf paragraph = Style.code then .code
  else if isListItem paragraph then .item
  else
    match Style.headingLevel (styleOf paragraph) with
    | some level => .heading level
    | none =>
      if styleOf paragraph = Style.quote then .quote
      else if paragraph.properties.borderBottom ∧ (trim paragraph.textChars).isEmpty then .rule
      else .body

/-- What is written for a paragraph whose runs make the text `inline`, when it is neither code nor an item. -/
def blockText (settings : ExportSettings) (paragraph : Paragraph) (inline : List Char) : BlockKind → List Char
  | .heading level => headingText settings level inline
  | .quote => quoteText paragraph.textChars
  | .rule => "---\n\n".toList
  | .body => bodyText settings inline
  | .code | .item => []

/-- The paragraph, written in the given way, has a line of dashes: code and its language are written as they are, and a
short title of level two is underlined by three dashes. -/
def blockDashes (settings : ExportSettings) (doc : Document) (paragraph : Paragraph) : BlockKind → Prop
  | .code => delimiter ∈ (lines settings.codeLanguage.toList).tail ∨ delimiter ∈ lines paragraph.textChars
  | .heading level =>
    settings.setextHeadings = true ∧ level = 2 ∧ titleOf (inlineChars settings doc paragraph) ≠ [] ∧
      (escapeBlockStarts (titleOf (inlineChars settings doc paragraph))).length ≤ 3
  | .rule => True
  | .item | .quote | .body => False

/-- The paragraph, written in the given way, leaves no trace. -/
def blockLeftOut (settings : ExportSettings) (doc : Document) (paragraph : Paragraph) : BlockKind → Prop
  | .heading _ => titleOf (inlineChars settings doc paragraph) = []
  | .quote => trim paragraph.textChars = []
  | .body => trim (inlineChars settings doc paragraph) = []
  | .code | .item | .rule => False

/-- The element is written with a line of dashes; of a table that is a later row of the simple layout. -/
def WritesDashes (settings : ExportSettings) (doc : Document) : Element → Prop
  | .paragraph paragraph => blockDashes settings doc paragraph (blockKind paragraph)
  | .table table =>
    IsWrittenTable settings table ∧ settings.gfm = false ∧ ∃ row ∈ table.rows.tail, rowTexts row = [delimiter]

/-- The element leaves no trace: a heading, a quote or body text that is blank, or a table that is not written. -/
def IsLeftOut (settings : ExportSettings) (doc : Document) : Element → Prop
  | .paragraph paragraph => blockLeftOut settings doc paragraph (blockKind paragraph)
  | .table table => ¬ IsWrittenTable settings table

/-- The element is a rule. -/
def IsRule : Element → Prop
  | .paragraph paragraph => blockKind paragraph = .rule
  | .table _ => False

variable {settings : ExportSettings} {doc : Document} {w : Writing}

/-- The tests that settle how a paragraph is written, in the order in which they are made. -/
theorem blockKind_cases (paragraph : Paragraph) :
    (styleOf paragraph = Style.code ∧ blockKind paragraph = .code) ∨
      styleOf paragraph ≠ Style.code ∧
        ((isListItem paragraph = true ∧ blockKind paragraph = .item) ∨
          isListItem paragraph = false ∧
            ((∃ level, Style.headingLevel (styleOf paragraph) = some level ∧ blockKind paragraph = .heading level) ∨
              Style.headingLevel (styleOf paragraph) = none ∧
                blockKind paragraph =
                  if styleOf paragraph = Style.quote then .quote
                  else if paragraph.properties.borderBottom ∧ (trim paragraph.textChars).isEmpty then .rule
                  else .body)) := by
  unfold blockKind
  by_cases hstyle : styleOf paragraph = Style.code
  · exact .inl ⟨hstyle, if_pos hstyle⟩
  rw [if_neg hstyle]
  refine .inr ⟨hstyle, ?_⟩
  cases hlist : isListItem paragraph with
  | true => exact .inl ⟨rfl, rfl⟩
  | false =>
      rw [if_neg Bool.false_ne_true]
      refine .inr ⟨rfl, ?_⟩
      cases Style.headingLevel (styleOf paragraph) with
      | some level => exact .inl ⟨level, rfl, rfl⟩
      | none => exact .inr ⟨rfl, rfl⟩

theorem styleOf_of_code {paragraph : Paragraph} (h : blockKind paragraph = .code) : styleOf paragraph = Style.code := by
  rcases blockKind_cases paragraph with ⟨hstyle, -⟩ | ⟨-, ⟨-, hkind⟩ | ⟨-, ⟨level, -, hkind⟩ | ⟨-, hkind⟩⟩⟩
  · exact hstyle
  · cases h.symm.trans hkind
  · cases h.symm.trans hkind
  · rw [h] at hkind
    split_ifs at hkind

theorem paragraphText_code {paragraph : Paragraph} (h : blockKind paragraph = .code) :
    paragraphText settings doc w paragraph = codeLine settings w paragraph := if_pos (styleOf_of_code h)

theorem isListItem_of_item {paragraph : Paragraph} (h : blockKind paragraph = .item) :
    styleOf paragraph ≠ Style.code ∧ isListItem paragraph = true := by
  rcases blockKind_cases paragraph with ⟨-, hkind⟩ | ⟨hstyle, ⟨hlist, -⟩ | ⟨-, ⟨level, -, hkind⟩ | ⟨-, hkind⟩⟩⟩
  · cases h.symm.trans hkind
  · exact ⟨hstyle, hlist⟩
  · cases h.symm.trans hkind
  · rw [h] at hkind
    split_ifs at hkind

theorem paragraphText_item {paragraph : Paragraph} (h : blockKind paragraph = .item) :
    paragraphText settings doc w paragraph =
      andThen (closeFence settings) (andThen (restartList settings paragraph) (itemLine settings doc paragraph)) w := by
  obtain ⟨hstyle, hlist⟩ := isListItem_of_item h
  unfold paragraphText
  rw [if_neg hstyle, if_pos hlist]
  rfl

/-- A paragraph that is neither code nor an item is written behind the end of what is open. -/
theorem paragraphText_plain (settings : ExportSettings) (doc : Document) (w : Writing) {paragraph : Paragraph}
    (hcode : blockKind paragraph ≠ .code)
    (hitem : blockKind paragraph ≠ .item) :
    ∃ notes, paragraphText settings doc w paragraph =
      ((closeGroup settings w).1 ++
          blockText settings paragraph (inlineText settings doc w.notes paragraph.runs).1 (blockKind paragraph),
        { notes }) := by
  rcases blockKind_cases paragraph with ⟨-, hkind⟩ | ⟨hstyle, ⟨-, hkind⟩ | ⟨hlist, hkind⟩⟩
  · exact absurd hkind hcode
  · exact absurd hkind hitem
  unfold paragraphText plainParagraph
  rw [if_neg hstyle, hlist, if_neg Bool.false_ne_true]
  rcases hkind with ⟨level, hlevel, hkind⟩ | ⟨hlevel, hkind⟩
  · rw [hlevel, hkind]
    exact ⟨_, rfl⟩
  · rw [hlevel, hkind]
    dsimp only
    split
    · exact ⟨_, rfl⟩
    · split
      · exact ⟨_, rfl⟩
      · exact ⟨_, rfl⟩

theorem one_le_of_blockKind {paragraph : Paragraph} {level : Nat} (h : blockKind paragraph = .heading level) :
    1 ≤ level := by
  rcases blockKind_cases paragraph with ⟨-, hkind⟩ | ⟨-, ⟨-, hkind⟩ | ⟨-, ⟨found, hlevel, hkind⟩ | ⟨-, hkind⟩⟩⟩
  · cases h.symm.trans hkind
  · cases h.symm.trans hkind
  · obtain rfl := BlockKind.heading.inj (h.symm.trans hkind)
    exact one_le_headingLevel hlevel
  · rw [h] at hkind
    split_ifs at hkind

/-- The lines of dashes of a block are its own, whatever numbers were given before. -/
theorem dashes_blockText (settings : ExportSettings) (doc : Document) (order : NoteOrder) {paragraph : Paragraph}
    (hcode : blockKind paragraph ≠ .code) :
    Dashes (blockDashes settings doc paragraph (blockKind paragraph))
      (blockText settings paragraph (inlineText settings doc order paragraph.runs).1 (blockKind paragraph)) := by
  cases hkind : blockKind paragraph with
  | code => exact absurd hkind hcode
  | item => exact dashes_nil
  | heading level =>
      have hlines := dashes_headingText settings (one_le_of_blockKind hkind)
        (newline_not_mem_oneLine settings doc order paragraph.runs)
      refine hlines.iff ?_
      simp only [blockDashes, ne_eq, titleOf_inlineText_order, short_inlineText_order]
  | quote => exact dashes_quoteText
  | rule =>
      have hdelimiter : '\n' ∉ delimiter := by decide
      have hrule := (dashes_line hdelimiter).append (dashes_ended [])
      exact hrule.iff (iff_of_true (.inl rfl) trivial)
  | body => exact dashes_bodyText settings _

/-- A block that leaves no trace is written as nothing, whatever numbers were given before. -/
theorem blockText_eq_nil (order : NoteOrder) {paragraph : Paragraph} {kind : BlockKind}
    (h : blockLeftOut settings doc paragraph kind) :
    blockText settings paragraph (inlineText settings doc order paragraph.runs).1 kind = [] := by
  cases kind with
  | heading level =>
      have htitle := (titleOf_inlineText_order settings doc order paragraph).mpr h
      rw [titleOf] at htitle
      unfold blockText headingText
      dsimp only
      rw [htitle]
      rfl
  | quote =>
      unfold blockText quoteText
      rw [show trim paragraph.textChars = [] from h]
      rfl
  | body =>
      unfold blockText bodyText
      rw [(trim_inlineText_order settings doc order paragraph).mpr h]
      rfl
  | code => exact h.elim
  | item => exact h.elim
  | rule => exact h.elim

/-! ## What a text begins with -/

/-- Whatever follows, the text does not begin with a line of dashes. -/
def BeginsOtherwise (text : List Char) : Prop := ∀ more, (lines (text ++ more)).head? ≠ some delimiter

/-- A text without a line of dashes does not begin with one, once its first line is ended. -/
theorem beginsOtherwise_of_not_hasDashes {text : List Char} (h : ¬ HasDashes text) (hfeed : '\n' ∈ text) :
    BeginsOtherwise text := by
  intro more
  induction text using lineInduction with
  | last piece hpiece => exact absurd hfeed hpiece
  | more piece rest hpiece _ =>
      have hfirst : piece ≠ delimiter := by
        rintro rfl
        exact h (by rw [HasDashes, lines_append hpiece]; exact List.mem_cons_self)
      rw [List.append_assoc, List.cons_append, lines_append hpiece, List.head?_cons, Ne, Option.some_inj]
      exact hfirst

theorem beginsOtherwise_of_dashes {text : List Char} (h : Dashes False text) (hfeed : '\n' ∈ text) :
    BeginsOtherwise text := beginsOtherwise_of_not_hasDashes h.hasDashes.mp hfeed

theorem beginsOtherwise_cons {c : Char} (hfeed : c ≠ '\n') (hdash : c ≠ '-') (text : List Char) :
    BeginsOtherwise (c :: text) := by
  intro more
  have hpiece : '\n' ∉ [c] := fun hmem => hfeed (List.mem_singleton.mp hmem).symm
  have hlines : lines (c :: (text ++ more)) = _ := lines_prepend hpiece (text ++ more)
  rw [List.cons_append, hlines, List.head?_cons]
  exact fun h => hdash (List.cons.inj (Option.some.inj h)).1

theorem BeginsOtherwise.append {text : List Char} (h : BeginsOtherwise text) (back : List Char) :
    BeginsOtherwise (text ++ back) := fun more => by
  rw [List.append_assoc]
  exact h (back ++ more)

theorem beginsOtherwise_headingText (settings : ExportSettings) (level : Nat) {text : List Char}
    (hline : '\n' ∉ oneLine text) (hne : titleOf text ≠ []) : BeginsOtherwise (headingText settings level text) := by
  unfold headingText
  dsimp only
  rw [← titleOf.eq_1, List.isEmpty_eq_false_iff.mpr hne, if_neg Bool.false_ne_true]
  split
  · -- The title stands above its underline.
    have htitle : ¬ HasDashes (escapeBlockStarts (titleOf text) ++ ['\n']) := fun h =>
      not_hasDashes_escapeBlockStarts _ ((dashes_ended _).hasDashes.mp h)
    have hall := (beginsOtherwise_of_not_hasDashes htitle (by simp)).append
      (List.replicate (max (escapeBlockStarts (titleOf text)).length 3) (if min level 6 = 1 then '=' else '-') ++
        ['\n', '\n'])
    simpa only [List.append_assoc, List.cons_append, List.nil_append] using hall
  · exact beginsOtherwise_of_dashes (dashes_hashed _ fun hmem => hline (mem_of_mem_trim hmem)) (by simp)

theorem newline_mem_quoteText {text : List Char} (h : trim text ≠ []) : '\n' ∈ quoteText text := by
  unfold quoteText
  rw [List.isEmpty_eq_false_iff.mpr h, if_neg Bool.false_ne_true]
  exact List.mem_append_right _ (List.mem_singleton_self _)

theorem newline_mem_bodyText {text : List Char} (h : trim text ≠ []) : '\n' ∈ bodyText settings text := by
  unfold bodyText
  rw [List.isEmpty_eq_false_iff.mpr h, if_neg Bool.false_ne_true]
  exact List.mem_append_right _ (List.mem_cons_self)

/-- A block that leaves a trace does not begin with dashes, unless it is a rule. -/
theorem beginsOtherwise_blockText (order : NoteOrder) {paragraph : Paragraph} (hcode : blockKind paragraph ≠ .code)
    (hitem : blockKind paragraph ≠ .item) (hrule : blockKind paragraph ≠ .rule)
    (hkept : ¬ blockLeftOut settings doc paragraph (blockKind paragraph)) :
    BeginsOtherwise
      (blockText settings paragraph (inlineText settings doc order paragraph.runs).1 (blockKind paragraph)) := by
  cases hkind : blockKind paragraph with
  | code => exact absurd hkind hcode
  | item => exact absurd hkind hitem
  | rule => exact absurd hkind hrule
  | heading level =>
      rw [hkind] at hkept
      exact beginsOtherwise_headingText settings level
        (newline_not_mem_oneLine settings doc order paragraph.runs)
        (mt (titleOf_inlineText_order settings doc order paragraph).mp hkept)
  | quote =>
      rw [hkind] at hkept
      exact beginsOtherwise_of_dashes dashes_quoteText (newline_mem_quoteText hkept)
  | body =>
      rw [hkind] at hkept
      exact beginsOtherwise_of_dashes (dashes_bodyText settings _)
        (newline_mem_bodyText (mt (trim_inlineText_order settings doc order paragraph).mp hkept))

theorem beginsOtherwise_tableChars {table : Table} (h : IsWrittenTable settings table) :
    BeginsOtherwise (tableChars settings table) := by
  obtain ⟨htables, header, rows, hrows, hcells⟩ := h
  rw [tableChars_written htables hrows hcells]
  cases settings.gfm with
  | true => exact beginsOtherwise_cons (by decide) (by decide) _
  | false =>
      have htitles := dashes_line (newline_not_mem_join fun _ => newline_not_mem_boldTitles header)
      have hnone := mt htitles.hasDashes.mp (boldTitles_ne header)
      rw [if_neg Bool.false_ne_true, simpleTable_eq, List.flatMap_cons, List.append_assoc]
      exact (beginsOtherwise_of_not_hasDashes hnone (by simp)).append _

/-! ## Steps of the writing -/

/-- Dashes are among the code that waits for its fence, or in the name of its language. -/
def DashesWait (settings : ExportSettings) (w : Writing) : Prop :=
  w.codeLines ≠ [] ∧ (delimiter ∈ (lines settings.codeLanguage.toList).tail ∨ ∃ line ∈ w.codeLines, HasDashes line)

/-- The step writes lines of dashes, its own and those that wait, or leaves them waiting. -/
def DashStep (settings : ExportSettings) (P : Prop) (step : Writing → List Char × Writing) : Prop :=
  ∀ w, ∃ Q, Dashes Q (step w).1 ∧ (Q ∨ DashesWait settings (step w).2 ↔ DashesWait settings w ∨ P)

theorem DashStep.andThen {P Q : Prop} {first second : Writing → List Char × Writing}
    (hfirst : DashStep settings P first) (hsecond : DashStep settings Q second) :
    DashStep settings (P ∨ Q) (andThen first second) := by
  intro w
  obtain ⟨before, hbefore, hwait⟩ := hfirst w
  obtain ⟨behind, hbehind, hnext⟩ := hsecond (first w).2
  refine ⟨before ∨ behind, hbefore.append hbehind, ?_⟩
  calc (before ∨ behind) ∨ DashesWait settings (Markdown.andThen first second w).2
      ↔ before ∨ (behind ∨ DashesWait settings (second (first w).2).2) := or_assoc
    _ ↔ before ∨ (DashesWait settings (first w).2 ∨ Q) := by rw [hnext]
    _ ↔ (DashesWait settings w ∨ P) ∨ Q := by rw [← or_assoc, hwait]
    _ ↔ DashesWait settings w ∨ (P ∨ Q) := or_assoc

theorem DashStep.iff {P Q : Prop} {step : Writing → List Char × Writing} (h : DashStep settings P step)
    (hiff : P ↔ Q) : DashStep settings Q step := by
  rw [← propext hiff]
  exact h

/-- A step that leaves the code alone writes its own lines. -/
theorem DashStep.of_codeLines {P : Prop} {step : Writing → List Char × Writing} (hdashes : ∀ w, Dashes P (step w).1)
    (hcode : ∀ w, (step w).2.codeLines = w.codeLines) : DashStep settings P step := by
  intro w
  refine ⟨P, hdashes w, ?_⟩
  unfold DashesWait
  rw [hcode w, or_comm]

theorem dashStep_closeGroup (settings : ExportSettings) : DashStep settings False (closeGroup settings) := by
  intro w
  refine ⟨DashesWait settings w, ?_, ?_⟩
  · have hblank : Dashes False (if w.inList then ['\n'] else []) := by
      split
      · exact (dashes_ended []).iff (iff_false_intro not_hasDashes_nil)
      · exact dashes_nil
    unfold closeGroup DashesWait
    dsimp only
    cases hcode : w.codeLines with
    | nil => exact (dashes_nil.append hblank).iff (by simp)
    | cons line rest =>
        have hfence := (dashes_fenceText settings.codeLanguage (line :: rest)).append hblank
        exact hfence.iff (by simp)
  · have hclosed : ¬ DashesWait settings (closeGroup settings w).2 := fun h => h.1 rfl
    rw [or_iff_left hclosed, or_false]

/-- Closes what is open where the condition holds. -/
def closeWhere (settings : ExportSettings) (condition : Writing → Bool) (w : Writing) : List Char × Writing :=
  if condition w then closeGroup settings w else ([], w)

theorem dashStep_closeWhere (condition : Writing → Bool) : DashStep settings False (closeWhere settings condition) := by
  intro w
  unfold closeWhere
  split
  · exact dashStep_closeGroup settings w
  · exact ⟨False, dashes_nil, or_comm⟩

theorem dashStep_closeFence : DashStep settings False (closeFence settings) := by
  have hfence : closeFence settings = closeWhere settings (!·.codeLines.isEmpty) := by
    funext w
    unfold closeFence closeWhere
    cases hcode : w.codeLines.isEmpty <;> simp [hcode]
  rw [hfence]
  exact dashStep_closeWhere _

theorem dashStep_restartList (settings : ExportSettings) (paragraph : Paragraph) :
    DashStep settings False (restartList settings paragraph) := by
  intro w
  unfold restartList
  cases topLevelStart paragraph with
  | none => exact ⟨False, dashes_nil, or_comm⟩
  | some start =>
      cases hlist : w.inList with
      | false => exact ⟨False, dashes_nil, or_comm⟩
      | true => exact dashStep_closeGroup settings w

/-- The text of an item is what stands behind its mark. -/
theorem itemGlyph_suffix (text : List Char) : (itemGlyph text).2 <:+ text := by
  have hstart (cs : List Char) : Text.trimStart cs <:+ cs := List.dropWhile_suffix _
  have hmark {c : Char} {rest : List Char} (heq : Text.trimStart text = c :: rest) : Text.trimStart rest <:+ text :=
    (hstart rest).trans ((List.suffix_cons c rest).trans (heq ▸ hstart text))
  unfold itemGlyph
  split
  next heq => exact hmark heq
  next heq => exact hmark heq
  next heq => exact hmark heq
  next => exact hstart text

/-- The text of an item on one line and behind its glyph. -/
def itemText (settings : ExportSettings) (doc : Document) (order : NoteOrder) (runs : List Run) : List Char :=
  Text.trimEnd (itemGlyph (oneLine (inlineText settings doc order runs).1)).2

/-- The text of an item as it is written, behind the box of its task. -/
def itemChars (settings : ExportSettings) (doc : Document) (order : NoteOrder) (runs : List Run) : List Char :=
  taskBox settings (itemGlyph (oneLine (inlineText settings doc order runs).1)).1 ++
    escapeBlockStarts (itemText settings doc order runs)

/-- The mark of an item: its number, or a bullet. -/
def markText (settings : ExportSettings) (paragraph : Paragraph) (number : Nat) : List Char :=
  if isOrdered paragraph then number.repr.toList ++ ['.'] else [settings.bulletMarker]

theorem itemLine_eq (settings : ExportSettings) (doc : Document) (paragraph : Paragraph) (w : Writing) :
    itemLine settings doc paragraph w =
      (markText settings paragraph (nextNumber w.counter) ++ ' ' :: itemChars settings doc w.notes paragraph.runs ++ ['\n'],
        { w with
          notes := (inlineText settings doc w.notes paragraph.runs).2
          counter := if isOrdered paragraph then nextNumber w.counter else 0
          inList := true }) := by
  unfold itemLine markText itemChars itemText
  cases isOrdered paragraph <;> simp

theorem newline_not_mem_itemText (settings : ExportSettings) (doc : Document) (order : NoteOrder) (runs : List Run) :
    '\n' ∉ itemText settings doc order runs := fun hmem =>
  newline_not_mem_oneLine settings doc order runs
    ((itemGlyph_suffix _).mem ((Text.dropWhileEnd_isPrefixOf _ _).mem hmem))

theorem newline_not_mem_itemChars (settings : ExportSettings) (doc : Document) (order : NoteOrder) (runs : List Run) :
    '\n' ∉ itemChars settings doc order runs := by
  have hbox : ∀ task, '\n' ∉ taskBox settings task := by
    intro task
    unfold taskBox
    cases settings.taskLists <;> cases task with
      | none => decide
      | some done => cases done <;> decide
  unfold itemChars
  rw [List.mem_append, not_or]
  exact ⟨hbox _, newline_not_mem_escapeBlockStarts (newline_not_mem_itemText _ _ _ _)⟩

theorem newline_not_mem_markText {paragraph : Paragraph} (h : isOrdered paragraph = true) (number : Nat) :
    '\n' ∉ markText settings paragraph number := by
  rw [markText, if_pos h, List.mem_append]
  rintro (hdigit | hdot)
  · exact absurd (Text.isDigit_of_mem_repr hdigit) (by decide)
  · exact absurd hdot (by decide)

theorem dashes_itemText {marker body : List Char} (hmarker : '\n' ∈ marker → marker = ['\n']) (hbody : '\n' ∉ body) :
    Dashes False (marker ++ ' ' :: body ++ ['\n']) := by
  have hblank : '\n' ∉ ' ' :: body := by simp [hbody]
  by_cases hfeed : '\n' ∈ marker
  · rw [hmarker hfeed]
    have hlines := (dashes_ended []).append (dashes_marked hblank List.mem_cons_self (by decide))
    exact hlines.iff (by simp [not_hasDashes_nil])
  · refine dashes_marked (c := ' ') ?_ (List.mem_append_right _ List.mem_cons_self) (by decide)
    rw [List.mem_append]
    exact fun hmem => hmem.elim hfeed hblank

theorem dashStep_itemLine (doc : Document) (paragraph : Paragraph) :
    DashStep settings False (itemLine settings doc paragraph) := by
  refine .of_codeLines (fun w => ?_) fun w => rfl
  rw [itemLine_eq]
  refine dashes_itemText (fun hmem => ?_) (newline_not_mem_itemChars _ _ _ _)
  cases hordered : isOrdered paragraph with
  | true => exact absurd hmem (newline_not_mem_markText hordered _)
  | false =>
      have hbullet : markText settings paragraph (nextNumber w.counter) = [settings.bulletMarker] := by
        rw [markText, hordered, if_neg Bool.false_ne_true]
      rw [hbullet] at hmem ⊢
      rw [List.mem_singleton.mp hmem]

theorem hasDashes_lineOfCode (paragraph : Paragraph) :
    HasDashes (lineOfCode paragraph) ↔ HasDashes paragraph.textChars := by
  unfold lineOfCode
  split
  next hblank =>
    refine iff_of_false not_hasDashes_nil fun hdashes => ?_
    have hmem : '-' ∈ delimiter := by decide
    have hdash : '-' ∈ paragraph.textChars := Text.mem_of_mem_piece hmem hdashes
    exact absurd (isBlank_of_trim_eq_nil (List.isEmpty_iff.mp hblank) '-' hdash) (by decide)
  next => exact Iff.rfl

/-- Adds a line to the code that waits. -/
def addCode (paragraph : Paragraph) (w : Writing) : List Char × Writing :=
  ([], { w with codeLines := w.codeLines ++ [lineOfCode paragraph] })

theorem codeLine_steps (paragraph : Paragraph) :
    (codeLine settings · paragraph) = andThen (closeWhere settings (·.inList))
      (andThen (addCode paragraph) (closeWhere settings fun _ => closesCode paragraph)) := rfl

theorem dashStep_codeLine (paragraph : Paragraph) :
    DashStep settings (delimiter ∈ (lines settings.codeLanguage.toList).tail ∨ HasDashes paragraph.textChars)
      (codeLine settings · paragraph) := by
  have hadd : DashStep settings
      (delimiter ∈ (lines settings.codeLanguage.toList).tail ∨ HasDashes paragraph.textChars) (addCode paragraph) := by
    intro w
    refine ⟨False, dashes_nil, ?_⟩
    rw [← hasDashes_lineOfCode]
    unfold DashesWait addCode
    cases hcode : w.codeLines with
    | nil => simp
    | cons line rest =>
        simp only [ne_eq, List.cons_append, reduceCtorEq, not_false_eq_true, true_and, false_or, List.mem_cons,
          List.mem_append, List.not_mem_nil, or_false, or_and_right, exists_or, exists_eq_left]
        grind
  rw [codeLine_steps]
  exact ((dashStep_closeWhere _).andThen (hadd.andThen (dashStep_closeWhere _))).iff (by rw [or_false, false_or])

/-- What one element adds to the text, where it does not end the writing. -/
def elementText (settings : ExportSettings) (doc : Document) (w : Writing) : Element → List Char × Writing
  | .paragraph paragraph => paragraphText settings doc w paragraph
  | .table table =>
    ((closeGroup settings w).1 ++ tableChars settings table, { (closeGroup settings w).2 with counter := 0 })

/-- An element is written in front of those behind it, or ends the writing. -/
theorem elementsText_cons (settings : ExportSettings) (doc : Document) (w : Writing) (element : Element) :
    (∃ d, ∀ rest, elementsText settings doc w (element :: rest) = (.error d, [d])) ∨
      ∃ first, ∀ rest, elementsText settings doc w (element :: rest) =
        ((elementsText settings doc (elementText settings doc w element).2 rest).1.map fun written =>
            ((elementText settings doc w element).1 ++ written.1, written.2),
          first ++ (elementsText settings doc (elementText settings doc w element).2 rest).2) := by
  cases element with
  | paragraph paragraph => exact .inr ⟨[], fun rest => rfl⟩
  | table table =>
      unfold elementText tableChars
      dsimp only
      cases htables : settings.tables with
      | false =>
          refine .inr ⟨[], fun rest => ?_⟩
          rw [elementsText, htables, if_neg Bool.false_ne_true, List.append_nil]
          rfl
      | true =>
          cases htable : tableText settings.gfm table with
          | ok chars =>
              refine .inr ⟨[], fun rest => ?_⟩
              rw [elementsText, htables, htable]
              rfl
          | error e =>
              cases haborts : settings.errors.aborts with
              | true =>
                  refine .inl ⟨.ofEdit "table" e, fun rest => ?_⟩
                  rw [elementsText, htables, htable, haborts]
                  rfl
              | false =>
                  refine .inr ⟨[.ofEdit "table" e], fun rest => ?_⟩
                  rw [elementsText, htables, htable, haborts, if_pos rfl, Except.toOption, Option.getD_none,
                    List.append_nil]
                  rfl

theorem dashStep_elementText (settings : ExportSettings) (doc : Document) (element : Element) :
    DashStep settings (WritesDashes settings doc element) (elementText settings doc · element) := by
  intro w
  obtain ⟨Q, hdashes, hwait⟩ := dashStep_closeGroup settings w
  have hclosed : ∀ {w : Writing}, w.codeLines = [] → ¬ DashesWait settings w := fun h hwait => hwait.1 h
  rw [or_iff_left (hclosed rfl), or_false] at hwait
  cases element with
  | table table =>
      refine ⟨Q ∨ WritesDashes settings doc (.table table), hdashes.append (dashes_tableChars settings table), ?_⟩
      rw [or_iff_left (hclosed rfl), hwait]
  | paragraph paragraph =>
      simp only [elementText, WritesDashes]
      cases hkind : blockKind paragraph with
      | code =>
          rw [paragraphText_code hkind]
          exact dashStep_codeLine paragraph w
      | item =>
          rw [paragraphText_item hkind]
          have hitem := dashStep_closeFence.andThen ((dashStep_restartList settings paragraph).andThen
            (dashStep_itemLine doc paragraph))
          exact hitem.iff (by simp [blockDashes]) w
      | _ =>
          have hplain : blockKind paragraph ≠ .code ∧ blockKind paragraph ≠ .item := by simp [hkind]
          obtain ⟨notes, hwritten⟩ := paragraphText_plain settings doc w hplain.1 hplain.2
          have hblock := dashes_blockText settings doc w.notes hplain.1
          rw [hwritten]
          rw [hkind] at hblock ⊢
          refine ⟨_, hdashes.append hblock, ?_⟩
          rw [or_iff_left (hclosed rfl), hwait]

end Folio.Markdown
