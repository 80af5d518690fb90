import Folio.Proofs.Markdown.CodeFence
import Folio.Proofs.Markdown.ErrorPolicy
import Folio.Proofs.Markdown.LeadingRule

/-!
# Blocks of code from tree to text

A block of code becomes a paragraph for each of its lines, the last of them with space after it. This space alone tells
the writer where the block ends, so that neighbours keep fences of their own.

* `CodeBlock` : a block of code in a tree;
* `run_renderBlocks_code` : the paragraphs that blocks of code become, one block after the other;
* `sharesFence_codeParagraphs` : the paragraphs of a block share a fence with no other;
* `groupText_codeBlocks` : the paragraphs are written block by block;
* `codeBlocks_written` : blocks of code are rendered and written as fences around their lines.
-/

namespace Folio.Markdown
open RenderM
open Unicode (isBlank)

/-- A block of code, fenced or indented, of one line or more. -/
structure CodeBlock where
  fenced : Bool
  info : String
  lines : List String
  children : List Node := []
  line : Nat := 0
  column : Nat := 0
  nonempty : lines ≠ []
  unbroken : ∀ content ∈ lines, '\n' ∉ content.toList

namespace CodeBlock

/-- The block's node. -/
def node (block : CodeBlock) : Node where
  kind := if block.fenced then .fencedCodeBlock block.info block.lines else .codeBlock block.info block.lines
  children := block.children
  line := block.line
  column := block.column

/-- A line of code as it is written: blanks alone are left out. -/
def writtenLine (content : String) : List Char := if content.toList.all isBlank then [] else content.toList

/-- The block as it is written: an opening fence, the lines, and a closing fence with an empty line behind it. -/
def text (language : String) (block : CodeBlock) : List Char :=
  "```".toList ++ language.toList ++ ['\n'] ++ (block.lines.flatMap fun content => writtenLine content ++ ['\n']) ++
    "```\n\n".toList

/-- The lines of the block as it is written. -/
def textLines (block : CodeBlock) : List (List Char) :=
  "```".toList :: block.lines.map writtenLine ++ ["```".toList, []]

end CodeBlock

/-! ## Rendering -/

/-- The paragraph of a line of code. -/
def codeParagraphOf (settings : RenderSettings) (content : String) (last : Bool) : Paragraph where
  properties :=
    { style := some Style.code
      indentation := some { left := some 360 }
      spacing := some { before := some 0, after := some (if last then 120 else 0) } }
  runs := [{
    text := if content.isEmpty then " " else content
    properties := { fontFamily := settings.style.codeFont } }]

/-- The paragraphs of lines of code in a row. -/
def codeParagraphs (settings : RenderSettings) : List String → List Paragraph
  | [] => []
  | content :: rest => codeParagraphOf settings content rest.isEmpty :: codeParagraphs settings rest

/-- The rendering with more paragraphs in its document. -/
def Rendering.pushed (s : Rendering) (paragraphs : List Paragraph) : Rendering :=
  { s with doc := { s.doc with body := s.doc.body ++ paragraphs.map .paragraph } }

section Rendering
variable {context : RenderContext}

theorem Rendering.pushed_nil (s : Rendering) : s.pushed [] = s := by
  simp [Rendering.pushed]

theorem Rendering.pushed_append (s : Rendering) (first second : List Paragraph) :
    s.pushed (first ++ second) = (s.pushed first).pushed second := by
  simp [Rendering.pushed]

theorem run_renderCode (hpush : context.refused.contains .pushParagraph = false) (line column : Nat)
    (lines : List String) (s : Rendering) :
    renderCode line column lines context s = (.ok (), s.pushed (codeParagraphs context.settings lines)) := by
  induction lines generalizing s with
  | nil => exact congrArg (Prod.mk _) s.pushed_nil.symm
  | cons content rest ih =>
      have hstep : renderCode line column (content :: rest) context s =
          (do push (codeParagraphOf context.settings content rest.isEmpty) line column; renderCode line column rest)
            context s := rfl
      have hpushed : push (codeParagraphOf context.settings content rest.isEmpty) line column context s =
          (.ok (), s.pushed [codeParagraphOf context.settings content rest.isEmpty]) := run_push hpush ..
      rw [hstep, run_bind, hpushed]
      dsimp only
      rw [ih, ← Rendering.pushed_append]
      rfl

theorem run_renderBlocks_code (hpush : context.refused.contains .pushParagraph = false) (blocks : List CodeBlock)
    (s : Rendering) :
    renderBlocks (blocks.map CodeBlock.node) context s =
      (.ok (), s.pushed (blocks.flatMap fun block => codeParagraphs context.settings block.lines)) := by
  induction blocks generalizing s with
  | nil => exact congrArg (Prod.mk _) s.pushed_nil.symm
  | cons block blocks ih =>
      have hblock : renderBlock block.node context s =
          (.ok (), s.pushed (codeParagraphs context.settings block.lines)) := by
        rw [← run_renderCode hpush block.line block.column]
        unfold CodeBlock.node
        cases block.fenced <;> rfl
      rw [List.map_cons, renderBlocks, run_bind, hblock]
      dsimp only
      rw [ih, ← Rendering.pushed_append, List.flatMap_cons]

end Rendering

/-! ## Writing -/

/-- An empty line is rendered as a blank, which is left out again. -/
theorem lineOfCode_codeParagraphOf (settings : RenderSettings) (content : String) (last : Bool) :
    lineOfCode (codeParagraphOf settings content last) = CodeBlock.writtenLine content := by
  have hblank : isBlank ' ' = true := by decide
  have hchars : (codeParagraphOf settings content last).textChars =
      if content.isEmpty then [' '] else content.toList := by
    simp only [Paragraph.textChars, codeParagraphOf, List.flatMap_cons, List.flatMap_nil, List.append_nil]
    split <;> rfl
  unfold lineOfCode CodeBlock.writtenLine
  rw [hchars]
  simp only [List.isEmpty_iff, trim_eq_nil_iff, ← List.all_eq_true]
  by_cases hempty : content.isEmpty = true
  · rw [if_pos hempty, String.isEmpty_iff.mp hempty]
    simp [hblank]
  · rw [if_neg hempty]

theorem map_lineOfCode (settings : RenderSettings) (lines : List String) :
    (codeParagraphs settings lines).map lineOfCode = lines.map CodeBlock.writtenLine := by
  induction lines with
  | nil => rfl
  | cons content rest ih =>
      rw [codeParagraphs, List.map_cons, List.map_cons, lineOfCode_codeParagraphOf, ih]

/-- The paragraphs of a block share a fence with no other: the last has space after it and the others have none. -/
theorem sharesFence_codeParagraphs (settings : RenderSettings) {lines : List String} (nonempty : lines ≠ [])
    (rest : List Element) : SharesFence (codeParagraphs settings lines) rest := by
  induction lines with
  | nil => exact absurd rfl nonempty
  | cons content others ih =>
      cases others with
      | nil => exact .last rfl (.inl (by simp [closesCode, codeParagraphOf]))
      | cons next others => exact .more rfl (by simp [closesCode, codeParagraphOf]) (ih (List.cons_ne_nil _ _))

theorem fenceText_block (language : String) (block : CodeBlock) :
    fenceText language (block.lines.map CodeBlock.writtenLine) = block.text language := by
  rw [fenceText, CodeBlock.text, List.flatMap_map, List.append_assoc _ ['\n'], List.singleton_append]

/-- The paragraphs of blocks of code are written block by block. -/
theorem groupText_codeBlocks (settings : RenderSettings) (exported : ExportSettings) (doc : Document) {w : Writing}
    (hidle : Idle w) (blocks : List CodeBlock) :
    groupText exported doc w ((blocks.flatMap fun block => codeParagraphs settings block.lines).map .paragraph) =
      .ok (blocks.flatMap (CodeBlock.text exported.codeLanguage)) := by
  induction blocks generalizing w with
  | nil => exact groupText_nothing hidle
  | cons block blocks ih =>
      obtain ⟨hcode, hlist⟩ := hidle
      rw [List.flatMap_cons, List.map_append,
        codeGroup_written (sharesFence_codeParagraphs settings block.nonempty _) hcode, ih ⟨rfl, rfl⟩, hlist,
        map_lineOfCode, fenceText_block, List.flatMap_cons]
      rfl

/-- Paragraphs are written without diagnostics. -/
theorem elementsText_paragraphs (settings : ExportSettings) (doc : Document) (w : Writing)
    (paragraphs : List Paragraph) : (elementsText settings doc w (paragraphs.map .paragraph)).2 = [] := by
  induction paragraphs generalizing w with
  | nil => rfl
  | cons paragraph paragraphs ih => exact ih _

/-- A document of paragraphs alone is written as they are. -/
theorem write_paragraphs (settings : ExportSettings) {doc : Document} {paragraphs : List Paragraph} {text : List Char}
    (hbody : doc.body = paragraphs.map .paragraph) (hmetadata : doc.metadata.entries = [])
    (hfootnotes : doc.footnotes = []) (h : groupText settings doc {} (paragraphs.map .paragraph) = .ok text) :
    write settings doc = (.ok (String.ofList text), []) := by
  have hwritten : writtenElements settings doc = paragraphs.map .paragraph := by
    unfold writtenElements Document.paragraphs Document.tables
    rw [hbody, List.filterMap_map, List.filterMap_map]
    have hparagraphs : paragraphs.filterMap some = paragraphs := List.filterMap_some
    have htables : paragraphs.filterMap (fun _ => (none : Option Table)) = [] := by simp
    split
    · rfl
    · refine Eq.trans ?_ (List.append_nil _)
      exact congrArg₂ (fun ps ts => List.map Element.paragraph ps ++ List.map Element.table ts) hparagraphs htables
  have hfront : frontMatterText settings doc.metadata = [] := frontMatterText_eq_nil (.inr hmetadata)
  have hnotes : ∀ order, notesText settings doc order = [] := fun order =>
    notesText_eq_nil order fun hwrites => hwrites.2 hfootnotes
  have hdiagnostics := elementsText_paragraphs settings doc {} paragraphs
  unfold groupText at h
  rw [write, hwritten]
  generalize elementsText settings doc {} (paragraphs.map .paragraph) = written at h hdiagnostics ⊢
  obtain ⟨d | ⟨texts, w⟩, diagnostics⟩ := written
  · cases h
  · cases hdiagnostics
    obtain rfl := Except.ok.inj h
    simp only [Except.map, hfront, hnotes, List.nil_append, List.append_nil]

/-- The lines of blocks of code in a row are those of the blocks. -/
theorem lines_codeBlocks (blocks : List CodeBlock) :
    Text.lines (blocks.flatMap (CodeBlock.text "")) = blocks.flatMap CodeBlock.textLines ++ [[]] := by
  induction blocks with
  | nil => rfl
  | cons block blocks ih =>
      have hlines : ∀ line ∈ block.lines.map CodeBlock.writtenLine, '\n' ∉ line := by
        rw [List.forall_mem_map]
        intro content hcontent
        unfold CodeBlock.writtenLine
        split
        · exact List.not_mem_nil
        · exact block.unbroken content hcontent
      rw [List.flatMap_cons, ← fenceText_block, lines_fenceText hlines, ih, List.flatMap_cons, CodeBlock.textLines]
      simp only [List.cons_append, List.append_assoc, List.nil_append]

/-- **Blocks of code in a row are rendered and written as the blocks one after the other**, each between fences of its
own and with an empty line behind it, whatever the settings are that they are rendered by. No two blocks share a fence
and no block has two: the lines of the text are the lines of the blocks. -/
theorem codeBlocks_written (settings : RenderSettings) (blocks : List CodeBlock) (line column : Nat) :
    ∃ doc, render settings { kind := .document, children := blocks.map CodeBlock.node, line, column } = (.ok doc, []) ∧
      write {} doc = (.ok (String.ofList (blocks.flatMap (CodeBlock.text ""))), []) ∧
      Text.lines (blocks.flatMap (CodeBlock.text "")) = blocks.flatMap CodeBlock.textLines ++ [[]] := by
  let paragraphs := blocks.flatMap fun block => codeParagraphs settings block.lines
  let defaults : RunProperties :=
    { fontFamily := some settings.style.fontFamily, fontSize := some settings.style.fontSize }
  refine ⟨{ defaults, body := paragraphs.map .paragraph }, ?_, ?_, lines_codeBlocks blocks⟩
  · have hrun := @run_renderBlocks_code { settings } rfl blocks { doc := { defaults } }
    have hrendered : render settings { kind := .document, children := blocks.map CodeBlock.node, line, column } =
        let (outcome, s) := renderBlocks (blocks.map CodeBlock.node) { settings } { doc := { defaults } }
        (outcome.map fun _ => s.doc, s.diagnostics) := rfl
    rw [hrendered, hrun]
    rfl
  · exact write_paragraphs {} rfl rfl rfl (groupText_codeBlocks settings {} _ ⟨rfl, rfl⟩ blocks)

/-- A fenced block that ends in a blank line. -/
def blockWithBlank : CodeBlock where
  fenced := true
  info := "c"
  lines := ["a", " "]
  nonempty := by decide
  unbroken := by decide

/-- An indented block of one line. -/
def blockOfOne : CodeBlock where
  fenced := false
  info := ""
  lines := ["b"]
  nonempty := by decide
  unbroken := by decide

/-- A fenced block that ends in a blank line and an indented block of one line keep a fence each. -/
theorem codeBlocks_written_neighbours :
    ∃ doc, render {} { kind := .document, children := [blockWithBlank.node, blockOfOne.node] } = (.ok doc, []) ∧
      write {} doc = (.ok "```\na\n\n```\n\n```\nb\n```\n\n", []) := by
  obtain ⟨doc, hrendered, hwritten, -⟩ := codeBlocks_written {} [blockWithBlank, blockOfOne] 0 0
  have htext : String.ofList ([blockWithBlank, blockOfOne].flatMap (CodeBlock.text "")) =
      "```\na\n\n```\n\n```\nb\n```\n\n" := by decide
  exact ⟨doc, hrendered, htext ▸ hwritten⟩

end Folio.Markdown
