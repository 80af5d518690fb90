import Folio.Proofs.Markdown.MetadataBlock
import Folio.Proofs.Markdown.NoteNumbers

/-!
# Lines of three dashes

A line of three dashes is what metadata stands between. A rule is written as one, and so is the underline of a short
heading of level two; lines of code and the cells of a simple table are not escaped, and may be one.

* `HasDashes`, `Dashes P text` : the text has such a line; it has one where `P` holds, whatever text follows;
* `dashes_bodyText`, `dashes_quoteText`, `dashes_headingText` : escaped lines and titles;
* `inlineText_order_iff` : what is asked of a text does not depend on the numbers of its references;
* `dashes_tableChars`, `dashes_fenceText` : the tables and the code that have such a line.
-/

namespace Folio.Markdown
open FrontMatter (delimiter)
open Text (lines lines_append lines_of_not_mem lineInduction trim)

/-- The text has a line of three dashes. -/
def HasDashes (cs : List Char) : Prop := delimiter ∈ lines cs

instance (cs : List Char) : Decidable (HasDashes cs) := inferInstanceAs (Decidable (delimiter ∈ lines cs))

/-- Its last line ended, the text has a line of three dashes exactly when `P` holds. -/
def Dashes (P : Prop) (text : List Char) : Prop := ∀ rest, HasDashes (text ++ rest) ↔ P ∨ HasDashes rest

/-! ## Texts put together -/

theorem lines_feed (front back : List Char) : lines (front ++ '\n' :: back) = lines front ++ lines back :=
  @Text.splitWhen_append_cons (· == '\n') '\n' BEq.rfl front back

theorem lines_prepend {piece : List Char} (h : '\n' ∉ piece) (cs : List Char) :
    lines (piece ++ cs) = (piece ++ (lines cs).headD []) :: (lines cs).tail := by
  induction cs using lineInduction with
  | last other hother =>
      have hboth : '\n' ∉ piece ++ other := by simp [h, hother]
      rw [lines_of_not_mem hboth, lines_of_not_mem hother]
      rfl
  | more other rest hother _ =>
      have hboth : '\n' ∉ piece ++ other := by simp [h, hother]
      rw [← List.append_assoc, lines_append hboth, lines_append hother]
      rfl

theorem hasDashes_feed (front back : List Char) :
    HasDashes (front ++ '\n' :: back) ↔ HasDashes front ∨ HasDashes back := by
  unfold HasDashes
  rw [lines_feed, List.mem_append]

theorem not_hasDashes_nil : ¬ HasDashes [] := by decide

theorem hasDashes_line {line : List Char} (h : '\n' ∉ line) : HasDashes line ↔ line = delimiter := by
  unfold HasDashes
  rw [lines_of_not_mem h, List.mem_singleton, eq_comm]

/-- Behind a first line that begins otherwise, only the later lines can be dashes. -/
theorem hasDashes_prepend (c : Char) (piece : List Char) (hc : c ≠ '-') (h : '\n' ∉ c :: piece) (cs : List Char) :
    HasDashes (c :: piece ++ cs) ↔ delimiter ∈ (lines cs).tail := by
  have hfirst : delimiter ≠ c :: piece ++ (lines cs).headD [] := fun heq => hc (List.cons.inj heq).1.symm
  unfold HasDashes
  rw [lines_prepend h, List.mem_cons, or_iff_right hfirst]

theorem Dashes.iff {P Q : Prop} {text : List Char} (h : Dashes P text) (hiff : P ↔ Q) : Dashes Q text := fun rest => by
  rw [h rest, hiff]

theorem Dashes.hasDashes {P : Prop} {text : List Char} (h : Dashes P text) : HasDashes text ↔ P := by
  have hend := h []
  rw [List.append_nil] at hend
  rw [hend, or_iff_left not_hasDashes_nil]

theorem dashes_nil : Dashes False [] := fun _ => (or_iff_right not_false).symm

theorem dashes_ended (cs : List Char) : Dashes (HasDashes cs) (cs ++ ['\n']) := fun rest => by
  rw [List.append_assoc, List.singleton_append, hasDashes_feed]

theorem dashes_line {line : List Char} (h : '\n' ∉ line) : Dashes (line = delimiter) (line ++ ['\n']) :=
  (dashes_ended line).iff (hasDashes_line h)

theorem Dashes.append {P Q : Prop} {front back : List Char} (hfront : Dashes P front) (hback : Dashes Q back) :
    Dashes (P ∨ Q) (front ++ back) := fun rest => by
  rw [List.append_assoc, hfront, hback, or_assoc]

theorem dashes_flatMap {α : Type} {P : α → Prop} {f : α → List Char} {items : List α}
    (h : ∀ item ∈ items, Dashes (P item) (f item)) : Dashes (∃ item ∈ items, P item) (items.flatMap f) := by
  induction items with
  | nil => exact dashes_nil.iff (by simp)
  | cons item items ih =>
      obtain ⟨hitem, hitems⟩ := List.forall_mem_cons.mp h
      rw [List.flatMap_cons]
      exact (hitem.append (ih hitems)).iff (by rw [List.exists_mem_cons_iff])

/-! ## Escaped lines -/

/-- No escaped line is a row of dashes. -/
theorem escapeLineStart_ne_delimiter (line : List Char) : escapeLineStart line ≠ delimiter := by
  intro h
  have hstart := startEscape line
  rw [h] at hstart
  have hslash : '\\' ∉ delimiter := by decide
  generalize hwritten : delimiter = written at hstart
  rw [hwritten] at hslash
  cases hstart with
  | marked => exact hslash List.mem_cons_self
  | numbered => exact hslash (List.mem_append_right _ List.mem_cons_self)
  | kept marker underline =>
      rw [← hwritten] at underline
      exact absurd underline (by decide)

theorem not_hasDashes_escapeBlockStarts (cs : List Char) : ¬ HasDashes (escapeBlockStarts cs) := by
  intro h
  unfold HasDashes at h
  rw [lines_escapeBlockStarts] at h
  obtain ⟨line, -, hline⟩ := List.mem_map.mp h
  exact escapeLineStart_ne_delimiter line hline

theorem escapeBlockStarts_of_not_mem {cs : List Char} (h : '\n' ∉ cs) : escapeBlockStarts cs = escapeLineStart cs := by
  unfold escapeBlockStarts
  rw [lines_of_not_mem h, List.map_singleton, Text.unlines, Text.join, List.intersperse_singleton,
    List.flatten_singleton]

theorem newline_not_mem_escapeBlockStarts {cs : List Char} (h : '\n' ∉ cs) : '\n' ∉ escapeBlockStarts cs := by
  rw [escapeBlockStarts_of_not_mem h]
  intro hmem
  exact (mem_escapeLineStart hmem).elim (by decide) h

theorem dashes_bodyText (settings : ExportSettings) (text : List Char) : Dashes False (bodyText settings text) := by
  unfold bodyText
  split
  · exact dashes_nil
  · have hlines : ∀ cs, Dashes False (escapeBlockStarts cs ++ ['\n', '\n']) := by
      intro cs
      have hfeeds := (dashes_ended (escapeBlockStarts cs)).append (dashes_ended [])
      rw [List.append_assoc] at hfeeds
      exact hfeeds.iff (by simp [not_hasDashes_escapeBlockStarts, not_hasDashes_nil])
    cases settings.wrapWidth with
    | none => exact hlines _
    | some width => exact hlines _

theorem dashes_quoteText {text : List Char} : Dashes False (quoteText text) := by
  unfold quoteText
  split
  · exact dashes_nil
  · have hquoted : ∀ line, Dashes False ('>' :: ' ' :: escapeBlockStarts (escapeInline line) ++ ['\n']) := by
      intro line
      refine (dashes_ended _).iff (iff_false_intro fun h => ?_)
      have htail := (hasDashes_prepend '>' [' '] (by decide) (by decide) _).mp h
      exact not_hasDashes_escapeBlockStarts _ (List.mem_of_mem_tail htail)
    have hall := (dashes_flatMap fun line (_ : line ∈ textLines text) => hquoted line).append (dashes_ended [])
    exact hall.iff (by simp [not_hasDashes_nil])

/-! ## Titles -/

/-- The title that a text is on one line. -/
def titleOf (text : List Char) : List Char := trim (oneLine text)

theorem not_hardBreak_isPrefixOf_breakLines (c : Char) (cs : List Char) :
    hardBreak.isPrefixOf (c :: breakLines cs) = false := by
  rw [Bool.eq_false_iff]
  intro h
  rw [List.isPrefixOf_iff_prefix] at h
  have hfeed : ∀ {cs}, breakLines cs ≠ [] → (breakLines cs).head? ≠ some '\n' := by
    intro cs _ hhead
    cases cs with
    | nil => cases hhead
    | cons d cs =>
        by_cases hd : d = '\n'
        · subst hd
          exact absurd hhead (by simp [breakLines, hardBreak])
        · rw [breakLines_cons hd] at hhead
          exact hd (Option.some.inj hhead)
  obtain ⟨rest, hrest⟩ := h
  obtain ⟨-, hrest⟩ := List.cons.inj hrest
  cases cs with
  | nil => cases hrest
  | cons d cs =>
      by_cases hd : d = '\n'
      · subst hd
        have hbreak : breakLines ('\n' :: cs) = ' ' :: ' ' :: '\n' :: breakLines cs := rfl
        rw [hbreak] at hrest
        exact absurd (List.cons.inj (List.cons.inj hrest).2).1 (by decide)
      · rw [breakLines_cons hd] at hrest
        have hmore : '\n' :: rest = breakLines cs := (List.cons.inj hrest).2
        exact hfeed (by rw [← hmore]; exact List.cons_ne_nil _ _) (by rw [← hmore]; rfl)

/-- On one line, each line feed of a text is a blank. -/
theorem oneLine_breakLines (cs : List Char) :
    oneLine (breakLines cs) = cs.map fun c => if c = '\n' then ' ' else c := by
  induction cs with
  | nil => rfl
  | cons c cs ih =>
      unfold oneLine Text.replace at ih ⊢
      by_cases hc : c = '\n'
      · subst hc
        change ' ' :: Text.replaceFrom hardBreak [' '] 0 (breakLines cs) = _
        rw [ih, List.map_cons, if_pos rfl]
      · rw [breakLines_cons hc, Text.replaceFrom, not_hardBreak_isPrefixOf_breakLines, if_neg Bool.false_ne_true, ih,
          List.map_cons, if_neg hc]

theorem newline_not_mem_oneLine (settings : ExportSettings) (doc : Document) (order : NoteOrder) (runs : List Run) :
    '\n' ∉ oneLine (inlineText settings doc order runs).1 := by
  change '\n' ∉ oneLine (breakLines (runTexts settings doc order (mergeRuns runs)).1)
  rw [oneLine_breakLines, List.mem_map]
  rintro ⟨c, -, hc⟩
  by_cases h : c = '\n'
  · rw [if_pos h] at hc
    exact absurd hc (by decide)
  · rw [if_neg h] at hc
    exact h hc

/-- Keeping the hashes adds a backslash and nothing else. -/
theorem mem_keepHashes {title : List Char} {c : Char} (h : c ∈ keepHashes title) : c = '\\' ∨ c ∈ title := by
  unfold keepHashes at h
  dsimp only at h
  split at h
  · rw [List.mem_append, List.mem_cons] at h
    rcases h with h | h | h
    · exact .inr ((Text.dropWhileEnd_isPrefixOf _ title).subset h)
    · exact .inl h
    · exact .inr (List.mem_of_mem_drop h)
  · exact .inr h

theorem one_le_headingLevel {style : String} {level : Nat} (h : Style.headingLevel style = some level) : 1 ≤ level := by
  unfold Style.headingLevel at h
  split at h
  · exact Nat.le_of_eq (Option.some.inj h)
  · dsimp only at h
    split at h
    · obtain ⟨number, -, hnumber⟩ := Option.bind_eq_some_iff.mp h
      split at hnumber
      next hbounds =>
        obtain rfl := Option.some.inj hnumber
        exact hbounds.1
      next => cases hnumber
    · cases h

/-- Escaped text above an underline has a line of dashes exactly when the underline is one. -/
theorem dashes_underlined (title : List Char) {mark : Char} (hmark : mark ≠ '\n') (length : Nat) :
    Dashes (length = 3 ∧ mark = '-')
      (escapeBlockStarts title ++ '\n' :: List.replicate length mark ++ ['\n', '\n']) := by
  have hrow : '\n' ∉ List.replicate length mark := fun hmem => hmark (List.eq_of_mem_replicate hmem).symm
  have hthree : delimiter = List.replicate 3 '-' := rfl
  have hlines := ((dashes_ended (escapeBlockStarts title)).append (dashes_line hrow)).append (dashes_ended [])
  simp only [List.append_assoc, List.cons_append, List.nil_append] at hlines ⊢
  refine hlines.iff ?_
  rw [or_iff_left not_hasDashes_nil, or_iff_right (not_hasDashes_escapeBlockStarts _), hthree, List.replicate_inj]
  constructor
  · rintro ⟨rfl, hmark | hmark⟩
    · cases hmark
    · exact ⟨rfl, hmark⟩
  · rintro ⟨rfl, rfl⟩
    exact ⟨rfl, .inr rfl⟩

/-- A title behind hashes is no line of dashes. -/
theorem dashes_hashed (level : Nat) {title : List Char} (h : '\n' ∉ title) :
    Dashes False (List.replicate level '#' ++ ' ' :: keepHashes title ++ ['\n', '\n']) := by
  have hhash : '\n' ∉ List.replicate level '#' ++ ' ' :: keepHashes title := by
    rw [List.mem_append, List.mem_cons]
    rintro (hmem | hmem | hmem)
    · exact absurd (List.eq_of_mem_replicate hmem) (by decide)
    · exact absurd hmem (by decide)
    · exact (mem_keepHashes hmem).elim (by decide) h
  have hlines := (dashes_line hhash).append (dashes_ended [])
  simp only [List.append_assoc, List.cons_append, List.nil_append] at hlines ⊢
  refine hlines.iff ?_
  rw [or_iff_left not_hasDashes_nil, iff_false]
  intro heq
  have hblank : ' ' ∈ delimiter := by
    rw [← heq]
    simp
  exact absurd hblank (by decide)

/-- Only the underline of a heading can be dashes alone: of level two, with a title of three characters or fewer. -/
theorem dashes_headingText (settings : ExportSettings) {level : Nat} (hlevel : 1 ≤ level) {text : List Char}
    (hline : '\n' ∉ oneLine text) :
    Dashes (settings.setextHeadings = true ∧ level = 2 ∧ titleOf text ≠ [] ∧
      (escapeBlockStarts (titleOf text)).length ≤ 3) (headingText settings level text) := by
  have htitle : '\n' ∉ titleOf text := fun hmem => hline (mem_of_mem_trim hmem)
  unfold headingText
  dsimp only
  rw [← titleOf.eq_1]
  split
  next hempty => exact dashes_nil.iff (by simp [List.isEmpty_iff.mp hempty])
  next hfilled =>
    have hne : titleOf text ≠ [] := fun hnil => hfilled (by rw [hnil]; rfl)
    split
    next hsetext =>
      obtain ⟨hsettings, hupper⟩ := hsetext
      refine (dashes_underlined (titleOf text) (by split <;> decide) _).iff ?_
      simp only [hsettings, true_and, hne, ne_eq, not_false_eq_true]
      by_cases hone : min level 6 = 1
      · rw [if_pos hone]
        exact iff_of_false (fun h => absurd h.2 (by decide)) (by omega)
      · simp only [if_neg hone, and_true]
        omega
    next hsetext =>
      refine (dashes_hashed _ htitle).iff (iff_of_false not_false ?_)
      rintro ⟨hsettings, rfl, -⟩
      exact hsetext ⟨hsettings, by decide⟩

/-! ## Numbers of references -/

theorem Refers.four_le_length {n : Nat} {ns : List Nat} {text : List Char} (h : Refers (n :: ns) text) :
    4 ≤ text.length := by
  cases h with
  | cons gap n more =>
      have hdigits : 1 ≤ n.repr.toList.length := by
        rw [Nat.toList_repr]
        exact Nat.length_toDigits_pos
      simp only [noteReference, List.length_append, List.length_cons, List.length_nil]
      omega

/-- A run without a reference is written alike whatever numbers were given before. -/
theorem runText_order (doc : Document) {settings : ExportSettings} {run : Run} (order : NoteOrder)
    (h : settings.footnotes = true → run.footnote = none) :
    runText settings doc order run = ((runText settings doc [] run).1, order) := by
  unfold runText
  cases hfootnote : run.footnote with
  | none => cases run.media.bind (imageLink settings doc) <;> rfl
  | some id =>
      have hoff : ¬ settings.footnotes = true := fun hon => by
        rw [h hon] at hfootnote
        cases hfootnote
      simp only [if_neg hoff]

theorem runTexts_order (doc : Document) {settings : ExportSettings} {runs : List Run} (order : NoteOrder)
    (h : settings.footnotes = true → references runs = []) :
    runTexts settings doc order runs = ((runTexts settings doc [] runs).1, order) := by
  induction runs generalizing order with
  | nil => rfl
  | cons run runs ih =>
      simp only [references_cons, List.append_eq_nil_iff, Option.toList_eq_nil_iff] at h
      unfold runTexts
      rw [runText_order doc order fun hon => (h hon).1, runText_order doc [] fun hon => (h hon).1]
      dsimp only
      rw [ih order fun hon => (h hon).2, ih [] fun hon => (h hon).2]

/-- Runs are written alike whatever numbers were given before, or they have references, and every text of theirs is
long. -/
theorem inlineText_order (settings : ExportSettings) (doc : Document) (runs : List Run) :
    (∀ order, (inlineText settings doc order runs).1 = (inlineText settings doc [] runs).1) ∨
      ∀ order, ∃ n ns, Refers (n :: ns) (inlineText settings doc order runs).1 := by
  by_cases hnotes : settings.footnotes = true ∧ references runs ≠ []
  · right
    obtain ⟨hnotes, hreferences⟩ := hnotes
    obtain ⟨id, ids, hids⟩ := List.exists_cons_of_ne_nil hreferences
    intro order
    have htext : inlineText settings doc order runs = _ := inlineText_eq hnotes runs (List.prefix_refl _)
    have hrefers : Refers _ (numberedText settings doc _ runs) :=
      refers_numberedText (numberIn (addNotes order (references runs))) runs
    rw [hids, List.map_cons, ← hids] at hrefers
    rw [htext]
    exact ⟨_, _, hrefers⟩
  · left
    intro order
    change breakLines (runTexts settings doc order (mergeRuns runs)).1 =
      breakLines (runTexts settings doc [] (mergeRuns runs)).1
    rw [runTexts_order doc order fun hon => by rw [references_mergeRuns]; exact not_not.mp fun h => hnotes ⟨hon, h⟩]

/-- The inline text of runs whose references count from one. -/
def inlineChars (settings : ExportSettings) (doc : Document) (paragraph : Paragraph) : List Char :=
  (inlineText settings doc [] paragraph.runs).1

section Order
variable (settings : ExportSettings) (doc : Document) (order : NoteOrder) (paragraph : Paragraph)

/-- What no reference has, a text of runs has or has not whatever numbers were given before. -/
theorem inlineText_order_iff {P : List Char → Prop} (hP : ∀ {n ns text}, Refers (n :: ns) text → ¬ P text) :
    P (inlineText settings doc order paragraph.runs).1 ↔ P (inlineChars settings doc paragraph) := by
  rcases inlineText_order settings doc paragraph.runs with hsame | hrefers
  · rw [hsame]
    rfl
  · obtain ⟨n, ns, horder⟩ := hrefers order
    obtain ⟨m, ms, hstart⟩ := hrefers []
    exact iff_of_false (hP horder) (hP hstart)

theorem Refers.ne_nil {n : Nat} {ns : List Nat} {text : List Char} (h : Refers (n :: ns) text) : text ≠ [] := by
  rintro rfl
  exact absurd h.four_le_length (by decide)

theorem trim_inlineText_order :
    trim (inlineText settings doc order paragraph.runs).1 = [] ↔ trim (inlineChars settings doc paragraph) = [] :=
  inlineText_order_iff settings doc order paragraph fun h => h.trim.ne_nil

theorem titleOf_inlineText_order :
    titleOf (inlineText settings doc order paragraph.runs).1 = [] ↔ titleOf (inlineChars settings doc paragraph) = [] :=
  inlineText_order_iff settings doc order paragraph (P := fun text => titleOf text = []) fun h => h.oneLine.trim.ne_nil

theorem short_inlineText_order :
    (escapeBlockStarts (titleOf (inlineText settings doc order paragraph.runs).1)).length ≤ 3 ↔
      (escapeBlockStarts (titleOf (inlineChars settings doc paragraph))).length ≤ 3 := by
  refine inlineText_order_iff settings doc order paragraph
    (P := fun text => (escapeBlockStarts (titleOf text)).length ≤ 3) fun h => ?_
  have hlong := h.oneLine.trim.escapeBlockStarts.four_le_length
  exact Nat.not_le.mpr hlong

end Order


/-! ## Tables -/

theorem newline_not_mem_cellText (cell : Cell) : '\n' ∉ cellText cell := by
  unfold cellText
  split
  · exact List.not_mem_nil
  · intro hmem
    obtain ⟨c, hc, hin⟩ := List.mem_flatMap.mp hmem
    have hfeed : c = '\n' := by
      split at hin
      · exact absurd hin (by decide)
      · exact (List.mem_singleton.mp hin).symm
    subst hfeed
    rcases mem_escapeInline hc with hslash | hline
    · exact absurd hslash (by decide)
    · obtain ⟨d, -, hd⟩ := List.mem_map.mp hline
      split at hd
      · exact absurd hd (by decide)
      next hne => exact hne hd

theorem newline_not_mem_rowTexts {row : Row} {text : List Char} (h : text ∈ rowTexts row) : '\n' ∉ text := by
  obtain ⟨cell, -, hcell⟩ := List.mem_flatMap.mp h
  rcases List.mem_cons.mp hcell with rfl | hempty
  · exact newline_not_mem_cellText cell
  · rw [List.eq_of_mem_replicate hempty]
    exact List.not_mem_nil

/-- A line with a pipe or with an asterisk is no line of dashes. -/
theorem dashes_marked {line : List Char} (hfeed : '\n' ∉ line) {c : Char} (hc : c ∈ line) (hdash : c ≠ '-') :
    Dashes False (line ++ ['\n']) := by
  refine (dashes_line hfeed).iff (iff_false_intro ?_)
  rintro rfl
  exact hdash (List.eq_of_mem_replicate (n := 3) hc)

theorem dashes_pipeRow (columns : Nat) {texts : List (List Char)} (h : ∀ text ∈ texts, '\n' ∉ text) :
    Dashes False (pipeRow columns texts) := by
  refine dashes_marked (c := '|') ?_ List.mem_cons_self (by decide)
  rw [List.mem_cons, List.mem_flatMap]
  rintro (hpipe | ⟨text, htext, hmem⟩)
  · exact absurd hpipe (by decide)
  · have hin : '\n' ∉ text := by
      rcases List.mem_append.mp htext with htext | hempty
      · exact h text htext
      · rw [List.eq_of_mem_replicate hempty]
        exact List.not_mem_nil
    simp [hin] at hmem

theorem dashes_separatorRow (row : Row) : Dashes False (separatorRow row) := by
  have hline : separatorRow row =
      ((row.cells.flatMap fun cell => (List.replicate cell.span ('|' :: separator cell.alignment)).flatten) ++ ['|']) ++
        ['\n'] := by
    rw [List.append_assoc]
    rfl
  rw [hline]
  refine dashes_marked (c := '|') ?_ (List.mem_append_right _ List.mem_cons_self) (by decide)
  rw [List.mem_append, List.mem_flatMap]
  rintro (⟨cell, -, hcell⟩ | hpipe)
  · obtain ⟨piece, hpiece, hmem⟩ := List.mem_flatten.mp hcell
    rw [List.eq_of_mem_replicate hpiece, List.mem_cons] at hmem
    rcases hmem with hmem | hmem
    · exact absurd hmem (by decide)
    · unfold separator at hmem
      split at hmem <;> exact absurd hmem (by decide)
  · exact absurd hpipe (by decide)

theorem dashes_pipeTable (header : Row) (rows : List Row) : Dashes False (pipeTable header rows) := by
  have hrow : ∀ columns row, Dashes False (pipeRow columns (rowTexts row)) := fun columns row =>
    dashes_pipeRow columns fun _ => newline_not_mem_rowTexts
  have hall := (((hrow (rowTexts header).length header).append (dashes_separatorRow header)).append
    (dashes_flatMap fun row (_ : row ∈ rows) => hrow (rowTexts header).length row)).append (dashes_ended [])
  exact hall.iff (by simp [not_hasDashes_nil])

/-- Texts with pipes between them are a line of dashes only when there is one of them. -/
theorem join_eq_delimiter_iff (texts : List (List Char)) :
    Text.join [' ', '|', ' '] texts = delimiter ↔ texts = [delimiter] := by
  cases texts with
  | nil => exact iff_of_false (by decide) (by simp)
  | cons text texts =>
      cases texts with
      | nil => rw [Text.join, List.intersperse_singleton, List.flatten_singleton, List.singleton_inj]
      | cons next texts =>
          refine iff_of_false (fun h => ?_) (by simp)
          have hpipe : '|' ∈ delimiter := by
            rw [← h, Text.join_cons_cons]
            simp
          exact absurd hpipe (by decide)

theorem newline_not_mem_join {texts : List (List Char)} (h : ∀ text ∈ texts, '\n' ∉ text) :
    '\n' ∉ Text.join [' ', '|', ' '] texts := by
  rw [Text.mem_join_iff]
  rintro (⟨text, htext, hmem⟩ | ⟨hmem, -⟩)
  · exact h text htext hmem
  · exact absurd hmem (by decide)

/-- The first row of a simple table, with its texts in bold. -/
def boldTitles (header : Row) : List (List Char) :=
  (rowTexts header).map fun text => if text.isEmpty then [] else ['*', '*'] ++ text ++ ['*', '*']

theorem newline_not_mem_boldTitles (header : Row) {text : List Char} (h : text ∈ boldTitles header) : '\n' ∉ text := by
  obtain ⟨inner, hinner, rfl⟩ := List.mem_map.mp h
  split
  · exact List.not_mem_nil
  · simpa using newline_not_mem_rowTexts hinner

theorem boldTitles_ne (header : Row) : Text.join [' ', '|', ' '] (boldTitles header) ≠ delimiter := by
  rw [Ne, join_eq_delimiter_iff]
  intro h
  have hmem : delimiter ∈ boldTitles header := by
    rw [h]
    exact List.mem_singleton_self _
  obtain ⟨inner, -, hinner⟩ := List.mem_map.mp hmem
  split at hinner
  · exact absurd hinner (by decide)
  · exact absurd (List.cons.inj hinner).1 (by decide)

/-- The first line of a simple table. -/
def titleLine (header : Row) : List Char := Text.join [' ', '|', ' '] (boldTitles header)

/-- The line of any other row. -/
def barredLine (row : Row) : List Char := Text.join [' ', '|', ' '] (rowTexts row)

/-- A simple table is a line for each row and an empty one. -/
theorem simpleTable_eq (header : Row) (rows : List Row) :
    simpleTable header rows = (titleLine header :: rows.map barredLine).flatMap (· ++ ['\n']) ++ ['\n'] := by
  unfold simpleTable titleLine barredLine boldTitles
  rw [List.flatMap_cons, List.flatMap_map, List.append_assoc, List.append_assoc, List.append_assoc]
  rfl

theorem dashes_simpleTable (header : Row) (rows : List Row) :
    Dashes (∃ row ∈ rows, rowTexts row = [delimiter]) (simpleTable header rows) := by
  have htitles : Dashes (titleLine header = delimiter) (titleLine header ++ ['\n']) :=
    dashes_line (newline_not_mem_join fun _ => newline_not_mem_boldTitles header)
  have hrow (row : Row) : Dashes (rowTexts row = [delimiter]) (barredLine row ++ ['\n']) :=
    (dashes_line (newline_not_mem_join fun _ => newline_not_mem_rowTexts)).iff (join_eq_delimiter_iff _)
  have hall := (htitles.append (dashes_flatMap fun row (_ : row ∈ rows) => hrow row)).append (dashes_ended [])
  rw [simpleTable_eq, List.flatMap_cons, List.flatMap_map]
  exact hall.iff (by simp [titleLine, boldTitles_ne, not_hasDashes_nil])

/-- The table is written: tables are on, and its first row has a cell. -/
def IsWrittenTable (settings : ExportSettings) (table : Table) : Prop :=
  settings.tables = true ∧ ∃ header rows, table.rows = header :: rows ∧ header.cells ≠ []

/-- What is written for a table, unless its fault ends the writing. -/
def tableChars (settings : ExportSettings) (table : Table) : List Char :=
  if settings.tables then (tableText settings.gfm table).toOption.getD [] else []

/-- A table whose first row has a cell is written. -/
theorem tableText_written (gfm : Bool) {table : Table} {header : Row} {rows : List Row}
    (hrows : table.rows = header :: rows) (hcells : header.cells ≠ []) :
    tableText gfm table = .ok (if gfm then pipeTable header rows else simpleTable header rows) := by
  unfold tableText
  rw [hrows]
  dsimp only
  rw [List.isEmpty_eq_false_iff.mpr hcells, if_neg Bool.false_ne_true]

theorem tableChars_written {settings : ExportSettings} {table : Table} (htables : settings.tables = true)
    {header : Row} {rows : List Row} (hrows : table.rows = header :: rows) (hcells : header.cells ≠ []) :
    tableChars settings table = if settings.gfm then pipeTable header rows else simpleTable header rows := by
  unfold tableChars
  rw [if_pos htables, tableText_written settings.gfm hrows hcells]
  rfl

theorem tableChars_left_out {settings : ExportSettings} {table : Table} (h : ¬ IsWrittenTable settings table) :
    tableChars settings table = [] := by
  unfold tableChars
  split
  next htables =>
    unfold tableText
    split
    next => rfl
    next header rows hrows =>
      split
      next => rfl
      next hcells =>
        refine absurd ⟨htables, header, rows, hrows, fun hnil => hcells ?_⟩ h
        rw [hnil]
        rfl
  next => rfl

/-- Only the rows of a simple table can be dashes, and not the first of them. -/
theorem dashes_tableChars (settings : ExportSettings) (table : Table) :
    Dashes (IsWrittenTable settings table ∧ settings.gfm = false ∧ ∃ row ∈ table.rows.tail, rowTexts row = [delimiter])
      (tableChars settings table) := by
  by_cases hwritten : IsWrittenTable settings table
  · obtain ⟨htables, header, rows, hrows, hcells⟩ := hwritten
    rw [tableChars_written htables hrows hcells, and_iff_right ⟨htables, header, rows, hrows, hcells⟩, hrows]
    cases settings.gfm with
    | true => exact (dashes_pipeTable header rows).iff (by simp)
    | false => exact (dashes_simpleTable header rows).iff (by simp)
  · rw [tableChars_left_out hwritten]
    exact dashes_nil.iff (iff_of_false id fun h => hwritten h.1)

/-! ## Fences -/

/-- Code lines are written as they are, and so is the name of their language. -/
theorem dashes_fenceText (language : String) (code : List (List Char)) :
    Dashes (delimiter ∈ (lines language.toList).tail ∨ ∃ line ∈ code, HasDashes line) (fenceText language code) := by
  have hopen := (dashes_ended ("```".toList ++ language.toList)).iff
    (hasDashes_prepend '`' ['`', '`'] (by decide) (by decide) language.toList)
  have hclose : Dashes False "```\n\n".toList := fun rest =>
    (hasDashes_prepend '`' ['`', '`'] (by decide) (by decide) ('\n' :: '\n' :: rest)).trans (by
      have hlines : lines ('\n' :: '\n' :: rest) = [] :: [] :: lines rest := rfl
      rw [hlines, List.tail_cons, List.mem_cons, or_iff_right (by decide), false_or]
      rfl)
  have hall := (hopen.append (dashes_flatMap fun line (_ : line ∈ code) => dashes_ended line)).append hclose
  have hfence : fenceText language code =
      "```".toList ++ language.toList ++ ['\n'] ++ (code.flatMap fun line => line ++ ['\n']) ++ "```\n\n".toList := by
    unfold fenceText
    rw [List.append_assoc _ ['\n']]
    rfl
  rw [hfence]
  exact hall.iff (by rw [or_false])

end Folio.Markdown
