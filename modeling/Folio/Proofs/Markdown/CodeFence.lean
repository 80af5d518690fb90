import Folio.Markdown.Grammar.Outline
import Folio.Markdown.Writing
import Mathlib.Data.List.TakeWhile
import Mathlib.Tactic.Common

/-!
# Code between fences, written and read back

Code paragraphs in a row share one fence of three backticks, and their lines are copied between its rows as they are.

* `SharesFence` : the code paragraphs in a row that are written in one fence, and what follows them;
* `codeGroup_written` : the text that they are written as;
* `readCode` : the code that a row of backticks opens, up to the first line that closes it;
* `codeGroup_read_iff` : the lines are read back exactly when none of them closes the fence.
-/

namespace Folio.Markdown
open Text (trim lines_append)

/-! ## Writing -/

/-- The line of code that a paragraph stands for: blanks alone count as nothing. -/
def lineOfCode (paragraph : Paragraph) : List Char :=
  if (trim paragraph.textChars).isEmpty then [] else paragraph.textChars

/-- The text that elements in a row are written as, up to the end of the fence or list that they leave open. -/
def groupText (settings : ExportSettings) (doc : Document) (w : Writing) (elements : List Element) :
    Except Diagnostic (List Char) :=
  (elementsText settings doc w elements).1.map fun (text, w) => text ++ (closeGroup settings w).1

/-- The element is a line of code. -/
def isCodeLine : Element → Bool
  | .paragraph p => styleOf p = Style.code
  | .table _ => false

/-- The code paragraphs in a row that go into one fence in front of the elements `rest`: only the last of them may
have space after it, and without that space no more code follows. -/
inductive SharesFence : List Paragraph → List Element → Prop
  | last {p : Paragraph} {rest : List Element} (code : styleOf p = Style.code)
      (ends : closesCode p = true ∨ rest.head?.any isCodeLine = false) : SharesFence [p] rest
  | more {p : Paragraph} {paragraphs : List Paragraph} {rest : List Element} (code : styleOf p = Style.code)
      (goesOn : closesCode p = false) (next : SharesFence paragraphs rest) : SharesFence (p :: paragraphs) rest

section Writing
variable {settings : ExportSettings} {doc : Document} {w : Writing}

theorem closeGroup_nothing (hc : w.codeLines = []) (hl : w.inList = false) : closeGroup settings w = ([], w) := by
  obtain ⟨codeLines, inList, counter, notes⟩ := w
  cases hc
  cases hl
  rfl

theorem closeGroup_code (hc : w.codeLines ≠ []) (hl : w.inList = false) :
    closeGroup settings w = (fenceText settings.codeLanguage w.codeLines, { w with codeLines := [] }) := by
  obtain ⟨codeLines, inList, counter, notes⟩ := w
  cases hl
  cases codeLines with
  | nil => exact absurd rfl hc
  | cons line lines => simp [closeGroup]

/-- A paragraph that is no code ends the open fence in front of it. -/
theorem paragraphText_ended (hc : w.codeLines ≠ []) (hl : w.inList = false) {p : Paragraph}
    (h : styleOf p ≠ Style.code) :
    paragraphText settings doc w p =
      (fenceText settings.codeLanguage w.codeLines ++ (paragraphText settings doc { w with codeLines := [] } p).1,
        (paragraphText settings doc { w with codeLines := [] } p).2) := by
  have closed : closeGroup settings w = _ := closeGroup_code hc hl
  have nothing : closeGroup settings { w with codeLines := [] } = ([], { w with codeLines := [] }) :=
    closeGroup_nothing rfl hl
  have hempty : w.codeLines.isEmpty = false := by simpa using hc
  simp only [paragraphText, if_neg h]
  split
  next => simp [hempty, closed]
  next => simp [closed, nothing]

/-- Elements that do not begin with code end the open fence in front of them. -/
theorem groupText_ended (hc : w.codeLines ≠ []) (hl : w.inList = false) {rest : List Element}
    (h : rest.head?.any isCodeLine = false) :
    groupText settings doc w rest =
      (groupText settings doc { w with codeLines := [] } rest).map
        (fenceText settings.codeLanguage w.codeLines ++ ·) := by
  have closed : closeGroup settings w = _ := closeGroup_code hc hl
  have nothing : closeGroup settings { w with codeLines := [] } = ([], { w with codeLines := [] }) :=
    closeGroup_nothing rfl hl
  cases rest with
  | nil => simp only [groupText, elementsText, Except.map, closed, nothing, List.nil_append, List.append_nil]
  | cons element rest =>
      cases element with
      | paragraph p =>
          have hp : styleOf p ≠ Style.code := by simpa [isCodeLine] using h
          simp only [groupText, elementsText, paragraphText_ended hc hl hp]
          cases (elementsText settings doc (paragraphText settings doc { w with codeLines := [] } p).2 rest).1 with
          | error d => rfl
          | ok written => simp [Except.map]
      | table table =>
          simp only [groupText, elementsText, closed, nothing, List.nil_append]
          -- the table is left out, or written, or the writing ends or goes on without it
          split
          next =>
            cases (elementsText settings doc { w with codeLines := [], counter := 0 } rest).1 with
            | error d => rfl
            | ok written => simp [Except.map]
          next =>
            cases tableText settings.gfm table with
            | ok text =>
                cases (elementsText settings doc { w with codeLines := [], counter := 0 } rest).1 with
                | error d => rfl
                | ok written => simp [Except.map]
            | error e =>
                dsimp only
                split
                next => rfl
                next =>
                  cases (elementsText settings doc { w with codeLines := [], counter := 0 } rest).1 with
                  | error d => rfl
                  | ok written => simp [Except.map]

theorem groupText_cons {p : Paragraph} (h : styleOf p = Style.code) (rest : List Element) :
    groupText settings doc w (.paragraph p :: rest) =
      (groupText settings doc (codeLine settings w p).2 rest).map ((codeLine settings w p).1 ++ ·) := by
  simp only [groupText, elementsText, paragraphText, if_pos h]
  cases (elementsText settings doc (codeLine settings w p).2 rest).1 with
  | error d => rfl
  | ok r => simp [Except.map]

/-- Outside a list a line of code is added to the open fence, which is ended when space follows the line. -/
theorem codeLine_eq (hl : w.inList = false) (p : Paragraph) :
    codeLine settings w p =
      if closesCode p then
        (fenceText settings.codeLanguage (w.codeLines ++ [lineOfCode p]), { w with codeLines := [] })
      else ([], { w with codeLines := w.codeLines ++ [lineOfCode p] }) := by
  obtain ⟨codeLines, inList, counter, notes⟩ := w
  cases hl
  have closed : closeGroup settings ⟨codeLines ++ [lineOfCode p], false, counter, notes⟩ = _ :=
    closeGroup_code (by simp) rfl
  simp only [codeLine, Bool.false_eq_true, if_false, List.nil_append, ← lineOfCode.eq_1, closed]

/-- A line of code ends the list in front of it and goes on as it does outside a list. -/
theorem groupText_inList (hc : w.codeLines = []) (hl : w.inList = true) {p : Paragraph}
    (h : styleOf p = Style.code) (rest : List Element) :
    groupText settings doc w (.paragraph p :: rest) =
      (groupText settings doc { w with codeLines := [], inList := false } (.paragraph p :: rest)).map ('\n' :: ·) := by
  obtain ⟨codeLines, inList, counter, notes⟩ := w
  cases hc
  cases hl
  have line : codeLine settings ⟨[], true, counter, notes⟩ p =
      ('\n' :: (codeLine settings ⟨[], false, counter, notes⟩ p).1,
        (codeLine settings ⟨[], false, counter, notes⟩ p).2) := rfl
  rw [groupText_cons h, groupText_cons h, line]
  cases groupText settings doc (codeLine settings ⟨[], false, counter, notes⟩ p).2 rest with
  | error d => rfl
  | ok text => rfl

/-- The code paragraphs of one fence are added to those that wait for it and written in front of what follows. -/
theorem groupText_code {paragraphs : List Paragraph} {rest : List Element} (h : SharesFence paragraphs rest)
    (hl : w.inList = false) :
    groupText settings doc w (paragraphs.map .paragraph ++ rest) =
      (groupText settings doc { w with codeLines := [] } rest).map
        (fenceText settings.codeLanguage (w.codeLines ++ paragraphs.map lineOfCode) ++ ·) := by
  induction h generalizing w with
  | @last p rest code ends =>
      simp only [List.map_cons, List.map_nil, List.cons_append, List.nil_append]
      rw [groupText_cons code, codeLine_eq hl]
      cases hcloses : closesCode p with
      | true => rfl
      | false =>
          have hnext : rest.head?.any isCodeLine = false := by simpa [hcloses] using ends
          have ended := @groupText_ended settings doc { w with codeLines := w.codeLines ++ [lineOfCode p] } (by simp) hl
            rest hnext
          simp only [Bool.false_eq_true, if_false, ended]
          cases groupText settings doc { w with codeLines := [] } rest with
          | error d => rfl
          | ok text => rfl
  | @more p paragraphs rest code goesOn next ih =>
      have written := @ih { w with codeLines := w.codeLines ++ [lineOfCode p] } hl
      rw [List.map_cons, List.cons_append, groupText_cons code, codeLine_eq hl, goesOn]
      simp only [Bool.false_eq_true, if_false]
      rw [written, List.map_cons, List.append_assoc, List.singleton_append]
      cases groupText settings doc { w with codeLines := [] } rest with
      | error d => rfl
      | ok text => rfl

/-- Code paragraphs in a row are written as one fence around their lines, after the end of a list that was open and
in front of the text of what follows. -/
theorem codeGroup_written {paragraphs : List Paragraph} {rest : List Element} (h : SharesFence paragraphs rest)
    (hc : w.codeLines = []) :
    groupText settings doc w (paragraphs.map .paragraph ++ rest) =
      (groupText settings doc { w with codeLines := [], inList := false } rest).map fun after =>
        (if w.inList then ['\n'] else []) ++
          (fenceText settings.codeLanguage (paragraphs.map lineOfCode) ++ after) := by
  have written := @groupText_code settings doc { w with codeLines := [], inList := false } _ _ h rfl
  rw [List.nil_append] at written
  cases hl : w.inList with
  | false =>
      obtain ⟨codeLines, inList, counter, notes⟩ := w
      cases hc
      cases hl
      exact written
  | true =>
      obtain ⟨p, others, rfl, code⟩ : ∃ p others, paragraphs = p :: others ∧ styleOf p = Style.code := by
        cases h with
        | last code ends => exact ⟨_, _, rfl, code⟩
        | more code goesOn next => exact ⟨_, _, rfl, code⟩
      rw [List.map_cons, List.cons_append] at written ⊢
      rw [groupText_inList hc hl code, written]
      cases groupText settings doc { w with codeLines := [], inList := false } rest with
      | error d => rfl
      | ok after => rfl

end Writing

/-! ## Reading -/

/-- The line ends the code of a fence: a row of the fence's mark that is long enough, less than a tab stop away
from the edge, with blanks alone after it. -/
def closesFence (fence : Fence) (chars : List Char) : Bool :=
  let line : Line := { rest := chars }
  decide (line.indent < codeIndent) && fence.closedBy line.text

/-- The code that a fence at the edge of the first line opens, and the lines after the one that closes it. -/
def readCode : List (List Char) → Option (List (List Char) × List (List Char))
  | [] => none
  | first :: rest =>
    (Fence.ofLine? first).map fun fence =>
      (rest.takeWhile (!closesFence fence ·), (rest.dropWhile (!closesFence fence ·)).tail)

/-- The fence that is written around code. -/
def codeFence : Fence := ⟨'`', 3⟩

/-- A block of code ends on a line for which `closesFence` holds and on no other. -/
theorem continues_closes_iff (block : OpenBlock) (fence : Fence) (indent : Nat)
    (hform : block.form = .fencedCode fence indent) (hasInner : Bool) (chars : List Char) :
    block.continues hasInner { rest := chars } = .closes ↔ closesFence fence chars = true := by
  rw [OpenBlock.continues, hform]
  simp only [closesFence, Bool.and_eq_true, decide_eq_true_eq]
  split <;> simp_all

/-- A line that closes a fence holds the fence's mark. -/
theorem mark_mem_of_closesFence {fence : Fence} {chars : List Char} (h : closesFence fence chars = true) :
    fence.mark ∈ chars := by
  simp only [closesFence, Fence.closedBy, Bool.and_eq_true, decide_eq_true_eq] at h
  obtain ⟨-, ⟨hthree, -⟩, -⟩ := h
  have hrow : 0 < ((chars.dropWhile isTabOrSpace).takeWhile (· == fence.mark)).length :=
    Nat.lt_of_lt_of_le (by decide) hthree
  obtain ⟨c, hc⟩ := List.exists_mem_of_length_pos hrow
  have hmark : c = fence.mark := by simpa using List.mem_takeWhile_imp hc
  rw [← hmark]
  exact (List.dropWhile_sublist _).mem ((List.takeWhile_sublist _).mem hc)

/-- A text that is nothing without its white space is white space throughout. -/
theorem isBlank_of_trim_eq_nil {chars : List Char} (h : trim chars = []) :
    ∀ c ∈ chars, Unicode.isBlank c = true := by
  rw [trim, Text.trimEnd, Text.dropWhileEnd, List.reverse_eq_nil_iff, List.dropWhile_eq_nil_iff] at h
  have hstart : Text.trimStart chars = [] := by
    cases hs : Text.trimStart chars with
    | nil => rfl
    | cons c rest =>
        -- the first character after the leading white space is no white space
        have hhead := List.head?_dropWhile_not Unicode.isBlank chars
        rw [Text.trimStart] at hs
        rw [hs] at hhead
        have hblank := h c (by rw [Text.trimStart, hs]; simp)
        simp [hblank] at hhead
  rwa [Text.trimStart, List.dropWhile_eq_nil_iff] at hstart

theorem trim_eq_nil_iff {chars : List Char} : trim chars = [] ↔ ∀ c ∈ chars, Unicode.isBlank c = true := by
  refine ⟨isBlank_of_trim_eq_nil, fun h => ?_⟩
  have hstart : Text.trimStart chars = [] := List.dropWhile_eq_nil_iff.mpr h
  rw [trim, hstart]
  rfl

/-- Leaving out white space takes no closing fence away. -/
theorem closesFence_lineOfCode (p : Paragraph) :
    closesFence codeFence (lineOfCode p) = closesFence codeFence p.textChars := by
  unfold lineOfCode
  split
  next hblank =>
    have hnone : closesFence codeFence p.textChars ≠ true := fun hcloses =>
      absurd (isBlank_of_trim_eq_nil (List.isEmpty_iff.mp hblank) '`' (mark_mem_of_closesFence hcloses)) (by decide)
    rw [eq_false_of_ne_true hnone]
    decide
  next => rfl

/-- The lines of a fence are its code between two rows of backticks, an empty line and those of what follows. -/
theorem lines_fenceText {code : List (List Char)} (h : ∀ line ∈ code, '\n' ∉ line) (after : List Char) :
    Text.lines (fenceText "" code ++ after) = "```".toList :: (code ++ "```".toList :: [] :: Text.lines after) := by
  have hcode : Text.lines ((code.flatMap fun line => line ++ ['\n']) ++ ("```\n\n".toList ++ after)) =
      code ++ "```".toList :: [] :: Text.lines after := by
    induction code with
    | nil =>
        have hclosing : '\n' ∉ "```".toList := by decide
        exact (lines_append hclosing _).trans (congrArg _ (lines_append List.not_mem_nil after))
    | cons line code ih =>
        obtain ⟨hline, hcode⟩ := List.forall_mem_cons.mp h
        rw [List.flatMap_cons, List.append_assoc, List.append_assoc, List.singleton_append, lines_append hline,
          ih hcode, List.cons_append]
  have hfirst : '\n' ∉ "```".toList := by decide
  rw [← hcode, ← lines_append hfirst, fenceText]
  simp only [List.append_assoc, List.cons_append, String.toList_empty, List.nil_append]

/-- The code of a fence, and no less or more, is read back exactly when no line of it closes the fence. -/
theorem readCode_fenceText {code : List (List Char)} (h : ∀ line ∈ code, '\n' ∉ line) (after : List Char) :
    readCode (Text.lines (fenceText "" code ++ after)) = some (code, [] :: Text.lines after) ↔
      ∀ line ∈ code, closesFence codeFence line = false := by
  have hopens : Fence.ofLine? "```".toList = some codeFence := by decide
  have hcloses : closesFence codeFence "```".toList = true := by decide
  rw [lines_fenceText h, readCode, hopens, Option.map_some]
  constructor
  · intro hread line hline
    obtain ⟨htaken, -⟩ := Prod.mk.inj (Option.some.inj hread)
    rw [← htaken] at hline
    simpa using List.mem_takeWhile_imp hline
  · intro hnone
    have hcode : ∀ line ∈ code, (!closesFence codeFence line) = true := fun line hline => by
      rw [hnone line hline, Bool.not_false]
    rw [List.takeWhile_append_of_pos hcode, List.dropWhile_append_of_pos hcode, List.takeWhile_cons,
      List.dropWhile_cons, hcloses]
    simp

/-! ## Writing and reading back -/

/-- Code paragraphs that share a fence are written as one block, and the block is read back as their lines, with
nothing of it left over, exactly when none of their texts is a row that closes the fence. Such rows are those on which a
reader of blocks ends the code. -/
theorem codeGroup_read_iff {settings : ExportSettings} {doc : Document} {w : Writing} {paragraphs : List Paragraph}
    {rest : List Element} (hlanguage : settings.codeLanguage = "") (hc : w.codeLines = [])
    (h : SharesFence paragraphs rest) (hbreak : ∀ p ∈ paragraphs, '\n' ∉ p.textChars) :
    let block := fenceText settings.codeLanguage (paragraphs.map lineOfCode)
    groupText settings doc w (paragraphs.map .paragraph ++ rest) =
        ((groupText settings doc { w with codeLines := [], inList := false } rest).map fun after =>
          (if w.inList then ['\n'] else []) ++ (block ++ after)) ∧
      (∀ after, readCode (Text.lines (block ++ after)) = some (paragraphs.map lineOfCode, [] :: Text.lines after) ↔
        ∀ p ∈ paragraphs, closesFence codeFence p.textChars = false) ∧
      ∀ (opened : OpenBlock) (indent : Nat), opened.form = .fencedCode codeFence indent → ∀ hasInner line,
        opened.continues hasInner { rest := line } = .closes ↔ closesFence codeFence line = true := by
  have hlines : ∀ line ∈ paragraphs.map lineOfCode, '\n' ∉ line := by
    intro line hline
    obtain ⟨p, hp, rfl⟩ := List.mem_map.mp hline
    unfold lineOfCode
    split
    next => exact List.not_mem_nil
    next => exact hbreak p hp
  refine ⟨codeGroup_written h hc, fun after => ?_, fun opened indent hform =>
    continues_closes_iff opened codeFence indent hform⟩
  rw [hlanguage, readCode_fenceText hlines, List.forall_mem_map]
  simp only [closesFence_lineOfCode]

/-- A code paragraph with one run of text. -/
def codeParagraph (text : String) : Paragraph := (Paragraph.styled Style.code).push { text }

/-- A row of backticks with a word after it, like one that is too short, stays code. -/
theorem codeGroup_read_backticks :
    let paragraphs := [codeParagraph "```x", codeParagraph "  ", codeParagraph " ``"]
    SharesFence paragraphs [] ∧ (∀ p ∈ paragraphs, '\n' ∉ p.textChars) ∧
      (groupText {} {} {} (paragraphs.map .paragraph ++ []) = .ok "```\n```x\n\n ``\n```\n\n".toList) ∧
      readCode (Text.lines (fenceText "" (paragraphs.map lineOfCode) ++ [])) =
        some (["```x".toList, [], " ``".toList], [[], []]) := by
  intro paragraphs
  have shares : SharesFence paragraphs [] :=
    .more (by decide) (by decide) (.more (by decide) (by decide) (.last (by decide) (.inr rfl)))
  have breaks : ∀ p ∈ paragraphs, '\n' ∉ p.textChars := by decide
  have read := @codeGroup_read_iff {} {} {} paragraphs [] rfl rfl shares breaks
  exact ⟨shares, breaks, read.1, (read.2.1 []).mpr (by decide)⟩

/-- A line of three backticks alone closes the fence that it is written in: the code ends in front of it, and the row
that was written to close the fence is left over. -/
theorem codeGroup_read_closed :
    let paragraphs := [codeParagraph "```"]
    SharesFence paragraphs [] ∧ (∀ p ∈ paragraphs, '\n' ∉ p.textChars) ∧
      (groupText {} {} {} (paragraphs.map .paragraph ++ []) = .ok "```\n```\n```\n\n".toList) ∧
      readCode (Text.lines "```\n```\n```\n\n".toList) = some ([], ["```".toList, [], []]) ∧
      paragraphs.map lineOfCode = ["```".toList] := by
  refine ⟨.last (by decide) (.inr rfl), by decide, rfl, by decide, rfl⟩

end Folio.Markdown
