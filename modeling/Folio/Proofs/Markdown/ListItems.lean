import Folio.Markdown.Grammar.Finish
import Folio.Proofs.Markdown.DashBlocks

/-!
# Items of lists and the boxes of tasks

An item is one line: a mark, the box of a task if the item's text begins with its glyph, and the text. What stands
before the line are whole lines: the code that waits for its fence, and the empty line behind another list.

* `itemGap`, `item_written` : what is written before the line of an item, and the line;
* `itemGlyph_task`, `not_isBlank_itemText` : what the text of an item begins with, and what remains behind its glyph;
* `taskBox?_escapeBlockStarts` : the marks of blocks are escaped, the box of a task is not;
* `TasksKept`, `item_tasks_iff` : the items that have a box where they have the glyph of a task and nowhere else.
-/

namespace Folio.Markdown
open Text (trimStart trimEnd)
open Unicode (isBlank isAsciiBlank)

variable {settings : ExportSettings} {doc : Document} {w : Writing} {paragraph : Paragraph}

/-! ## The line of an item -/

/-- The text is made of whole lines. -/
def Ended (text : List Char) : Prop := text = [] ∨ text.getLast? = some '\n'

theorem Ended.append {front back : List Char} (hfront : Ended front) (hback : Ended back) : Ended (front ++ back) := by
  rcases hback with rfl | hback
  · rwa [List.append_nil]
  · exact .inr (by rw [List.getLast?_append, hback, Option.some_or])

theorem ended_closeGroup (settings : ExportSettings) (w : Writing) : Ended (closeGroup settings w).1 := by
  refine Ended.append ?_ ?_
  · cases w.codeLines.isEmpty with
    | true => exact .inl rfl
    | false => exact .inr (by rw [if_neg Bool.false_ne_true, fenceText, List.getLast?_append]; rfl)
  · cases w.inList with
    | true => exact .inr rfl
    | false => exact .inl rfl

/-- What is written before an item: the code that waits, and the end of the list before when the item begins another. -/
def itemGap (settings : ExportSettings) (paragraph : Paragraph) : Writing → List Char × Writing :=
  andThen (closeFence settings) (restartList settings paragraph)

theorem paragraphText_itemLine (h : blockKind paragraph = .item) :
    paragraphText settings doc w paragraph =
      andThen (itemGap settings paragraph) (itemLine settings doc paragraph) w := by
  rw [paragraphText_item h]
  unfold itemGap andThen
  simp only [List.append_assoc]

theorem ended_itemGap (settings : ExportSettings) (paragraph : Paragraph) (w : Writing) :
    Ended (itemGap settings paragraph w).1 := by
  have hfence : Ended (closeFence settings w).1 := by
    unfold closeFence
    split
    · exact .inl rfl
    · exact ended_closeGroup settings w
  have hlist : ∀ w, Ended (restartList settings paragraph w).1 := by
    intro w
    unfold restartList
    cases topLevelStart paragraph with
    | none => exact .inl rfl
    | some start =>
        cases hlist : w.inList with
        | false => exact .inl rfl
        | true => exact ended_closeGroup settings w
  exact hfence.append (hlist _)

/-- The number before an item's own: a start begins one lower, but not below zero. -/
def numberBefore (paragraph : Paragraph) (w : Writing) : Nat := (topLevelStart paragraph).elim w.counter (· - 1)

theorem itemGap_state (settings : ExportSettings) (paragraph : Paragraph) (w : Writing) :
    ∃ inList, (itemGap settings paragraph w).2 = ⟨[], inList, numberBefore paragraph w, w.notes⟩ := by
  obtain ⟨codeLines, inList, counter, notes⟩ := w
  unfold itemGap andThen closeFence restartList numberBefore
  cases codeLines <;> cases inList <;> cases topLevelStart paragraph <;> exact ⟨_, rfl⟩

/-- The line of an item, without its end. -/
def lineOfItem (settings : ExportSettings) (doc : Document) (order : NoteOrder) (paragraph : Paragraph) (number : Nat) :
    List Char :=
  markText settings paragraph number ++ ' ' :: itemChars settings doc order paragraph.runs

/-- What is written for an item, and the writing behind it. -/
theorem item_written (h : blockKind paragraph = .item) :
    paragraphText settings doc w paragraph =
      ((itemGap settings paragraph w).1 ++ (markText settings paragraph (nextNumber (numberBefore paragraph w)) ++
          ' ' :: itemChars settings doc w.notes paragraph.runs ++ ['\n']),
        { codeLines := []
          inList := true
          counter := if isOrdered paragraph then nextNumber (numberBefore paragraph w) else 0
          notes := (inlineText settings doc w.notes paragraph.runs).2 }) := by
  obtain ⟨inList, hstate⟩ := itemGap_state settings paragraph w
  rw [paragraphText_itemLine h]
  unfold andThen
  dsimp only
  rw [itemLine_eq, hstate]

/-! ## The text of an item -/

/-- The inline text of an item without the white space in front of it. -/
def itemInline (settings : ExportSettings) (doc : Document) (order : NoteOrder) (runs : List Run) : List Char :=
  trimStart (inlineText settings doc order runs).1

/-- A text begins with the same character on one line. -/
theorem head?_trimStart_oneLine (cs : List Char) :
    (trimStart (oneLine (breakLines cs))).head? = (trimStart (breakLines cs)).head? := by
  have hblank : ∀ {c : Char}, isBlank c = true → ∀ rest, trimStart (c :: rest) = trimStart rest := fun h rest =>
    List.dropWhile_cons_of_pos h
  rw [oneLine_breakLines]
  induction cs with
  | nil => rfl
  | cons c cs ih =>
      rw [List.map_cons]
      by_cases hfeed : c = '\n'
      · subst hfeed
        have hbreak : breakLines ('\n' :: cs) = ' ' :: ' ' :: '\n' :: breakLines cs := rfl
        rw [if_pos rfl, hbreak, hblank (by decide), hblank (by decide), hblank (by decide), hblank (by decide), ih]
      · rw [if_neg hfeed, breakLines_cons hfeed]
        cases hc : isBlank c with
        | true => rw [hblank hc, hblank hc, ih]
        | false =>
            have hkept : ∀ rest, trimStart (c :: rest) = c :: rest := fun rest =>
              List.dropWhile_cons_of_neg (by simp [hc])
            rw [hkept, hkept, List.head?_cons, List.head?_cons]

/-- The task of an item is told by what its text begins with. -/
theorem itemGlyph_task (text : List Char) :
    ((itemGlyph text).1 = some true ∧ (trimStart text).head? = some '☑') ∨
      ((itemGlyph text).1 = some false ∧ (trimStart text).head? = some '☐') ∨
      ((itemGlyph text).1 = none ∧ (trimStart text).head? ≠ some '☑' ∧ (trimStart text).head? ≠ some '☐') := by
  unfold itemGlyph
  split
  next rest heq => exact .inl ⟨rfl, by rw [heq]; rfl⟩
  next rest heq => exact .inr (.inl ⟨rfl, by rw [heq]; rfl⟩)
  next rest heq => exact .inr (.inr ⟨rfl, by rw [heq]; exact ⟨by simp, by simp⟩⟩)
  next hchecked hunchecked _ =>
    refine .inr (.inr ⟨rfl, fun hhead => ?_, fun hhead => ?_⟩)
    · obtain ⟨rest, hrest⟩ := List.head?_eq_some_iff.mp hhead
      exact hchecked rest hrest
    · obtain ⟨rest, hrest⟩ := List.head?_eq_some_iff.mp hhead
      exact hunchecked rest hrest

/-- The text behind a glyph does not begin with white space. -/
theorem not_isBlank_itemText {order : NoteOrder} {runs : List Run} {c : Char} {rest : List Char}
    (h : itemText settings doc order runs = c :: rest) : isBlank c = false := by
  have hstart : ∀ {cs : List Char}, (trimStart cs).head? = some c → isBlank c = false := by
    intro cs hhead
    have hfirst := List.head?_dropWhile_not isBlank cs
    unfold trimStart at hhead
    rw [hhead] at hfirst
    exact hfirst
  have hglyph : ∀ text, (itemGlyph text).2.head? = some c → isBlank c = false := by
    intro text
    unfold itemGlyph
    split <;> exact hstart
  let line := oneLine (inlineText settings doc order runs).1
  obtain ⟨last, hlast⟩ := Text.dropWhileEnd_isPrefixOf isBlank (itemGlyph line).2
  have hsplit : itemText settings doc order runs ++ last = (itemGlyph line).2 := hlast
  refine hglyph line ?_
  rw [← hsplit, h]
  rfl

/-! ## Boxes -/

theorem isBlank_of_isAsciiBlank {c : Char} (h : isAsciiBlank c = true) : isBlank c = true := by
  rw [isBlank, Unicode.Ranges.covers_iff]
  simp only [isAsciiBlank, Bool.or_eq_true, Bool.and_eq_true, decide_eq_true_eq] at h
  rcases h with rfl | ⟨hlow, hhigh⟩
  · exact ⟨(0x20, 0x20), by decide, by decide, by decide⟩
  · exact ⟨(0x9, 0xD), by decide, hlow, hhigh⟩

theorem taskBox?_cons {c : Char} (hblank : isBlank c = false) (hbracket : c ≠ '[') (rest : List Char) :
    taskBox? (c :: rest) = none := by
  have hascii : ¬ isAsciiBlank c = true := fun h => by simp [isBlank_of_isAsciiBlank h] at hblank
  unfold taskBox?
  dsimp only
  rw [List.takeWhile_cons_of_neg hascii, List.length_nil, List.drop_zero]
  split
  next heq => exact absurd (List.cons.inj heq).1 hbracket
  next => rfl

/-- The marks of blocks are escaped, the box of a task is not. -/
theorem taskBox?_escapeBlockStarts {text : List Char} (hfeed : '\n' ∉ text)
    (hhead : ∀ c rest, text = c :: rest → isBlank c = false) :
    taskBox? (escapeBlockStarts text) = taskBox? text := by
  have hindent : text.dropWhile isSpaceOrTab = text := by
    cases text with
    | nil => rfl
    | cons c rest =>
        refine List.dropWhile_cons_of_neg fun hspace => ?_
        have hblank := hhead c rest rfl
        rw [isBlank_of_isTabOrSpace hspace] at hblank
        cases hblank
  have hslash : ∀ rest, taskBox? ('\\' :: rest) = none := taskBox?_cons (by decide) (by decide)
  have hstart := startEscape text
  rw [hindent] at hstart
  rw [escapeBlockStarts_of_not_mem hfeed]
  -- a mark is escaped only at the beginning, where no bracket stands then, before or after
  generalize escapeLineStart text = written at hstart
  cases hstart with
  | marked begins =>
      obtain ⟨c, rest, rfl, hc⟩ := mark_of_begins begins
      rw [hslash, taskBox?_cons (hhead c rest rfl)]
      rintro rfl
      exact absurd hc (by decide)
  | numbered number =>
      obtain ⟨rfl, hdigits, hlength, -⟩ := orderedMarker?_eq_some number
      obtain ⟨d, digits, rfl⟩ := List.exists_cons_of_length_pos hlength.1
      have hbracket : d ≠ '[' := by
        rintro rfl
        exact absurd (hdigits _ List.mem_cons_self) (by decide)
      have hblank := hhead d _ rfl
      rw [List.cons_append, List.cons_append, taskBox?_cons hblank hbracket, taskBox?_cons hblank hbracket]
  | kept => rfl

/-! ## Tasks -/

/-- The item has the box of a task where its inline text begins with the task's glyph, and any other item begins with
nothing that is read as a box. -/
structure TasksKept (inline item : List Char) : Prop where
  checked : "[x] ".toList <+: item ↔ inline.head? = some '☑'
  unchecked : "[ ] ".toList <+: item ↔ inline.head? = some '☐'
  plain : inline.head? ≠ some '☑' → inline.head? ≠ some '☐' → taskBox? item = none

theorem taskBox?_of_box {box item : List Char} (hbox : box = "[x] ".toList ∨ box = "[ ] ".toList) (h : box <+: item) :
    taskBox? item ≠ none := by
  obtain ⟨rest, rfl⟩ := h
  rcases hbox with rfl | rfl
  · exact Option.some_ne_none _
  · exact Option.some_ne_none _

theorem tasksKept_iff_of_plain {inline item : List Char} (hchecked : inline.head? ≠ some '☑')
    (hunchecked : inline.head? ≠ some '☐') : TasksKept inline item ↔ taskBox? item = none := by
  constructor
  · intro h
    exact h.plain hchecked hunchecked
  · intro h
    have hbox : ∀ {box}, (box = "[x] ".toList ∨ box = "[ ] ".toList) → ¬ box <+: item := fun hbox hmem =>
      taskBox?_of_box hbox hmem h
    exact ⟨iff_of_false (hbox (.inl rfl)) hchecked, iff_of_false (hbox (.inr rfl)) hunchecked, fun _ _ => h⟩

/-- The boxes are kept unless a text without a glyph is itself a box. -/
theorem tasksKept_itemChars_iff (htasks : settings.taskLists = true) (order : NoteOrder) (runs : List Run) :
    TasksKept (itemInline settings doc order runs) (itemChars settings doc order runs) ↔
      ((itemInline settings doc order runs).head? ≠ some '☑' → (itemInline settings doc order runs).head? ≠ some '☐' →
        taskBox? (itemText settings doc order runs) = none) := by
  have htext : taskBox? (escapeBlockStarts (itemText settings doc order runs)) =
      taskBox? (itemText settings doc order runs) :=
    taskBox?_escapeBlockStarts (newline_not_mem_itemText _ _ _ _) fun _ _ h => not_isBlank_itemText h
  have htask := itemGlyph_task (oneLine (inlineText settings doc order runs).1)
  have hhead : (trimStart (oneLine (inlineText settings doc order runs).1)).head? =
      (itemInline settings doc order runs).head? := head?_trimStart_oneLine _
  have hthird : ∀ {c d : Char} {back rest : List Char}, ('[' :: c :: back) <+: ('[' :: d :: rest) → c = d := fun h =>
    (List.cons_prefix_cons.mp (List.cons_prefix_cons.mp h).2).1
  rw [hhead] at htask
  unfold itemChars
  rcases htask with ⟨hglyph, hchecked⟩ | ⟨hglyph, hunchecked⟩ | ⟨hglyph, hchecked, hunchecked⟩
  · rw [hglyph, taskBox, htasks]
    refine iff_of_true ⟨?_, ?_, fun h => absurd hchecked h⟩ fun h => absurd hchecked h
    · exact iff_of_true (List.prefix_append _ _) hchecked
    · exact iff_of_false (fun hbox => absurd (hthird hbox) (by decide)) (by simp [hchecked])
  · rw [hglyph, taskBox, htasks]
    refine iff_of_true ⟨?_, ?_, fun _ h => absurd hunchecked h⟩ fun _ h => absurd hunchecked h
    · exact iff_of_false (fun hbox => absurd (hthird hbox) (by decide)) (by simp [hunchecked])
    · exact iff_of_true (List.prefix_append _ _) hunchecked
  · rw [hglyph, taskBox, List.nil_append, tasksKept_iff_of_plain hchecked hunchecked, htext, imp_iff_right hchecked,
      imp_iff_right hunchecked]

/-- **The boxes of tasks.** Behind whole lines an item is one line of its mark, a blank and the text of the item. Its box
stands for the glyph of a task at the beginning of the inline text, unless there is none and the text, behind a bullet's
glyph if that is there, is itself a box: nothing escapes it. -/
theorem item_tasks_iff (htasks : settings.taskLists = true) (hitem : blockKind paragraph = .item) :
    ∃ front number item w',
      paragraphText settings doc w paragraph =
        (front ++ (markText settings paragraph number ++ ' ' :: item ++ ['\n']), w') ∧
      Ended front ∧ '\n' ∉ item ∧
      (TasksKept (itemInline settings doc w.notes paragraph.runs) item ↔
        ((itemInline settings doc w.notes paragraph.runs).head? ≠ some '☑' →
          (itemInline settings doc w.notes paragraph.runs).head? ≠ some '☐' →
            taskBox? (itemText settings doc w.notes paragraph.runs) = none)) :=
  ⟨_, _, _, _, item_written hitem, ended_itemGap settings paragraph w, newline_not_mem_itemChars _ _ _ _,
    tasksKept_itemChars_iff htasks w.notes paragraph.runs⟩

/-- An item of a list with bullets. -/
def bulletOf (text : String) : Paragraph where
  properties := { numbering := some { level := 0, ordered := false } }
  runs := [{ text }]

/-- The glyph of a task becomes its box, and a box further on stays text. -/
theorem item_tasks_iff_checked :
    ({} : ExportSettings).taskLists = true ∧ blockKind (bulletOf "☑ [x] a") = .item ∧
      ∃ front number item w',
        paragraphText {} {} {} (bulletOf "☑ [x] a") =
          (front ++ (markText {} (bulletOf "☑ [x] a") number ++ ' ' :: item ++ ['\n']), w') ∧
        Ended front ∧ '\n' ∉ item ∧ TasksKept "☑ [x] a".toList item := by
  have hitem : blockKind (bulletOf "☑ [x] a") = .item := by decide
  obtain ⟨front, number, item, w', hwritten, hfront, hfeed, hkept⟩ :=
    @item_tasks_iff {} {} {} (bulletOf "☑ [x] a") rfl hitem
  have hinline : itemInline {} {} [] (bulletOf "☑ [x] a").runs = "☑ [x] a".toList := by decide
  refine ⟨rfl, hitem, front, number, item, w', hwritten, hfront, hfeed, ?_⟩
  rw [← hinline]
  exact hkept.mpr fun hchecked => absurd (by rw [hinline]; rfl) hchecked

/-- Plain text that begins like a box is written as a task. -/
theorem item_tasks_not_kept :
    (paragraphText {} {} {} (bulletOf "[x] a")).1 = "- [x] a\n".toList ∧ ¬ TasksKept "[x] a".toList "[x] a".toList := by
  refine ⟨by decide, fun h => ?_⟩
  exact absurd (h.checked.mp (by decide)) (by decide)

end Folio.Markdown
