import Folio.Document.Store
import Folio.Document.Style
import Folio.Markdown.FrontMatter
import Folio.Markdown.Node
import Folio.Math.Markup
import Folio.Math.Parser
import Folio.Math.Reading
import Folio.Media.Source
import Folio.Settings
import Folio.Text.Slug

/-!
# From Markdown to a document

The blocks of a Markdown tree are visited in order and each appends its paragraphs, its table, its
footnote or its metadata to the document. The inlines of a block become runs; their formatting adds
up on the way down, so that code inside a strong link is bold, monospaced and coloured.

A failure concerns one element: it is reported, and unless the policy ends the conversion the next
element follows. A construct without a counterpart ends it only under a strict policy.
-/

namespace Folio.Markdown

/-- What a rendering goes by: its settings, and the operations that the document refuses. -/
structure RenderContext where
  settings : RenderSettings := {}
  refused : List Operation := []

/-- A rendering in progress. -/
structure Rendering where
  doc : Document := {}
  /-- The diagnostics so far, in order. -/
  diagnostics : List Diagnostic := []
  /-- Whether each open list is ordered, innermost first. -/
  openLists : List Bool := []
  /-- The first number of an ordered list none of whose items has been rendered. -/
  pendingStart : Option Nat := none
  slugs : Text.SlugRegistry := {}
  /-- The footnote labels met so far; a label's place is the footnote's number. -/
  footnoteLabels : List String := []

/-- A step of a rendering, which may end it. -/
abbrev RenderM := ReaderT RenderContext (ExceptT Diagnostic (StateM Rendering))

namespace RenderM

/-- Gives a diagnostic to whoever watches the conversion. -/
def notify (d : Diagnostic) : RenderM Unit :=
  modify fun s => { s with diagnostics := s.diagnostics ++ [d] }

/-- Reports an error, which ends the rendering if the policy says so. -/
def report (d : Diagnostic) : RenderM Unit := do
  notify d
  if (← read).settings.errors.aborts then throw d

/-- Reports a construct without a counterpart. -/
def unsupported (kind : Kind) (line column : Nat) : RenderM Unit := do
  let d := Diagnostic.placed { kind := .unsupportedNode, message := kind.describe } line column
  if (← read).settings.errors.strict then report d else notify d

/-- Reports an edit that the document refused. -/
def refusedEdit (context : String) (e : EditError) (line column : Nat) : RenderM Unit :=
  report ((Diagnostic.ofEdit context e).placed line column)

/-- The document refuses the operation. -/
def refuses (operation : Operation) : RenderM Bool := do
  return (← read).refused.contains operation

/-- Changes the document. -/
def modifyDoc (change : Document → Document) : RenderM Unit :=
  modify fun s => { s with doc := change s.doc }

/-- Appends a paragraph, with an empty run when it has no other. -/
def push (paragraph : Paragraph) (line column : Nat) : RenderM Unit := do
  if ← refuses .pushParagraph then
    refusedEdit "paragraph" Operation.pushParagraph.refusal line column
  else modifyDoc (·.pushParagraph paragraph.ensureRun)

/-- The number of a footnote's label: labels are numbered in the order in which they are met. -/
def footnoteId (label : String) : RenderM String := do
  let s ← get
  match s.footnoteLabels.idxOf? label with
  | some i => return (i + 1).repr
  | none =>
    set { s with footnoteLabels := s.footnoteLabels ++ [label] }
    return (s.footnoteLabels.length + 1).repr

end RenderM

open RenderM

/-- The formatting that an inline takes from those around it. -/
structure InlineFormat where
  bold : Bool := false
  italic : Bool := false
  strike : Bool := false
  code : Bool := false
  link : Bool := false
  deriving DecidableEq, Repr

/-- The formatting of a run in a given style; the colour of code wins over that of a link. -/
def InlineFormat.properties (format : InlineFormat) (style : StyleSettings) : RunProperties where
  bold := if format.bold then some true else none
  italic := if format.italic then some true else none
  strike := if format.strike then some true else none
  fontFamily := if format.code then some style.codeFont else none
  fontColor :=
    if format.code then some style.codeColor
    else if format.link then some style.linkColor
    else none

/-- The run of a formula. -/
def mathRun (settings : RenderSettings) (source : String) : Run :=
  let formula := Math.parse source
  { text := formula.reading
    properties := { fontFamily := some settings.style.mathFont }
    equation := if settings.nativeEquations then some formula.toMarkup.toXml else none }

/-- The box in front of a task. -/
def checkbox (checked : Bool) : String := if checked then "☑ " else "☐ "

/-- The mark in front of an item that is no task. -/
def bullet : String := "• "

/-- A run of text in a format. -/
def textRun (format : InlineFormat) (text : String) : RenderM (List Run) := do
  return [{ text, properties := format.properties (← read).settings.style }]

/-- The run of an image, which is recorded in the media list when images are embedded. -/
def imageRun (format : InlineFormat) (destination alt : String) : RenderM (List Run) := do
  let settings := (← read).settings
  let base := settings.images.basePath.map String.toList
  let source := String.ofList (Media.resolve destination.toList base)
  let label := if alt.isEmpty then source else alt
  let run : Run :=
    { text := "[Image: " ++ label ++ "]", properties := format.properties settings.style }
  if settings.images.embed then
    let s ← get
    let (doc, index) := s.doc.addMedia { source, alt }
    set { s with doc }
    return [{ run with media := some index }]
  else return [run]

mutual

/-- The runs of an inline. -/
def renderInline (format : InlineFormat) : Node → RenderM (List Run)
  | ⟨kind, children, line, column⟩ =>
    match kind with
    | .text content => textRun format content
    | .softBreak => textRun format " "
    | .lineBreak => textRun format "\n"
    | .codeSpan content => textRun { format with code := true } content
    | .emphasis level =>
      renderInlines
        (if 2 ≤ level then { format with bold := true } else { format with italic := true })
        children
    | .strikethrough => renderInlines { format with strike := true } children
    | .link _ _ => renderInlines { format with link := true } children
    | .image destination _ =>
      imageRun format destination (String.ofList (textOfAll true children))
    | .inlineMath source => do return [mathRun (← read).settings source]
    | .footnoteReference label => do
      let id ← footnoteId label
      return [{ text := "", footnote := some id }]
    | .taskCheckBox _ => return []
    | kind => do
      unsupported kind line column
      return []

/-- The runs of inlines in a row. -/
def renderInlines (format : InlineFormat) : List Node → RenderM (List Run)
  | [] => return []
  | node :: rest => do
    let runs ← renderInline format node
    return runs ++ (← renderInlines format rest)

end

/-! ## Tables -/

mutual

/-- The level of the first emphasis in a node, outermost first. -/
def firstEmphasis : Node → Option Nat
  | ⟨kind, children, _, _⟩ =>
    match kind with
    | .emphasis level => some level
    | _ => firstEmphasisOf children

/-- The level of the first emphasis in a row of nodes. -/
def firstEmphasisOf : List Node → Option Nat
  | [] => none
  | node :: rest =>
    match firstEmphasis node with
    | some level => some level
    | none => firstEmphasisOf rest

end

/-- The rows of a table. -/
def tableRows (children : List Node) : List Node :=
  children.filter fun child =>
    match child.kind with
    | .tableRow _ => true
    | _ => false

/-- The formatting of a cell's text: bold in the first row, and elsewhere as its first emphasis
says. -/
def cellProperties (row : Nat) (cell : Node) : RunProperties :=
  match if row = 0 then 2 else (firstEmphasis cell).getD 0 with
  | 0 => {}
  | 1 => { italic := some true }
  | _ => { bold := some true }

/-- The number of columns of a table: that of its longest row or of its alignments. -/
def tableColumns (alignments : List (Option Alignment)) (rows : List Node) : Nat :=
  max ((rows.map (·.children.length)).foldl max 0) alignments.length

/-- The edits that fill a new table: its header, the alignment of its columns, its texts. -/
def tableEdits (alignments : List (Option Alignment)) (rows : List Node) : List Table.Edit :=
  [.setHeaderRow 0] ++
    (List.range (tableColumns alignments rows)).map (fun col =>
      .setColumnAlignment col ((alignments[col]?).join.getD .left)) ++
    (rows.mapIdx fun row node =>
      node.children.mapIdx fun col cell =>
        Table.Edit.setCellText row col cell.textContent (cellProperties row cell)).flatten

/-- Makes edits of a table up to the first that is refused. -/
def editAll (doc : Document) (id : Nat) : List Table.Edit → Document × Option EditError
  | [] => (doc, none)
  | edit :: edits =>
    match doc.editTable id edit with
    | (doc, none) => editAll doc id edits
    | (doc, some e) => (doc, some e)

/-- Appends a table. -/
def renderTable (alignments : List (Option Alignment)) (children : List Node)
    (line column : Nat) : RenderM Unit := do
  let rows := tableRows children
  let fail (e : EditError) : RenderM Unit := refusedEdit "table" e line column
  if ← refuses .createTable then fail Operation.createTable.refusal
  else
    let s ← get
    match s.doc.createTable rows.length (tableColumns alignments rows) with
    | .error e => fail e
    | .ok (doc, id) =>
      set { s with doc }
      if ← refuses .editTable then fail Operation.editTable.refusal
      else
        let (doc, refusal) := editAll doc id (tableEdits alignments rows)
        set { s with doc }
        match refusal with
        | none => pure ()
        | some e => fail e

/-! ## Blocks -/

/-- Appends the lines of code, each a paragraph; the last is set apart from what follows. -/
def renderCode (line column : Nat) : List String → RenderM Unit
  | [] => pure ()
  | content :: rest => do
    let font := (← read).settings.style.codeFont
    let properties : ParagraphProperties :=
      { style := some Style.code
        indentation := some { left := some 360 }
        spacing := some { before := some 0, after := some (if rest.isEmpty then 120 else 0) } }
    let run : Run :=
      { text := if content.isEmpty then " " else content, properties := { fontFamily := font } }
    push { properties, runs := [run] } line column
    renderCode line column rest

/-- Appends a heading; where headings can be linked to it gets a bookmark of its own. -/
def pushHeading (level : Nat) (runs : List Run) (title : List Char) (line column : Nat) :
    RenderM Unit := do
  let toc := (← read).settings.toc
  let level := max 1 (min level 6)
  let bookmark ←
    if toc.enabled && level ≤ toc.maxLevel then do
      let s ← get
      let (slug, slugs) := s.slugs.unique (String.ofList title)
      set { s with slugs }
      pure (some ("_Toc_" ++ slug))
    else pure none
  push { properties := { style := some (Style.heading level), bookmark }, runs } line column

/-- The properties of the next list item's paragraph, and its nesting below the first level. The
first item of an ordered list takes the list's first number. -/
def itemStart : RenderM (ParagraphProperties × Nat) := do
  let s ← get
  let depth := max s.openLists.length 1
  let ordered := s.openLists.head?.getD false
  let start := if ordered then s.pendingStart else none
  if ordered then set { s with pendingStart := none }
  return (
    { style := some Style.listParagraph
      numbering := some { level := min (depth - 1) 255, ordered, start }
      indentation := some { left := some (720 * depth), hanging := some 360 } },
    depth - 1)

/-- The run in front of a list item: two spaces for each level below the first, and a mark. -/
def itemMark (nesting : Nat) (glyph : String) : Run :=
  { text := String.ofList (List.replicate (2 * nesting) ' ') ++ glyph }

mutual

/-- Renders a block. -/
def renderBlock : Node → RenderM Unit
  | ⟨kind, children, line, column⟩ =>
    match kind with
    | .document => renderBlocks children
    | .frontMatter raw =>
      (FrontMatter.entries raw.toList).forM fun (key, value) =>
        modifyDoc (·.setMetadata (String.ofList key) (String.ofList value))
    | .heading level => do
      let runs ← renderInlines {} children
      pushHeading level runs (textOfAll true children) line column
    | .paragraph => do
      let runs ← renderInlines {} children
      push { runs } line column
    | .list ordered start => do
      modify fun s => { s with
        openLists := ordered :: s.openLists
        pendingStart := if ordered then some start else none }
      renderBlocks children
      modify fun s => { s with openLists := s.openLists.tail }
    | .listItem => do
      let (properties, nesting) ← itemStart
      let finish (glyph : String) (runs : List Run) : RenderM Unit :=
        push { properties, runs := itemMark nesting glyph :: runs } line column
      match children with
      | ⟨.taskCheckBox checked, _, _, _⟩ :: ⟨.paragraph, inlines, _, _⟩ :: rest =>
        finish (checkbox checked) (← renderInlines {} inlines)
        renderBlocks rest
      | ⟨.taskCheckBox checked, _, _, _⟩ :: rest =>
        finish (checkbox checked) []
        renderBlocks rest
      | ⟨.paragraph, inlines, _, _⟩ :: rest =>
        finish bullet (← renderInlines {} inlines)
        renderBlocks rest
      | rest =>
        finish bullet []
        renderBlocks rest
    | .blockquote =>
      push { properties := { style := some Style.quote }
             runs := [{ text := String.ofList (textOfAll true children) }] } line column
    | .codeBlock _ lines | .fencedCodeBlock _ lines => renderCode line column lines
    | .thematicBreak =>
      push { properties := { borderBottom := true
                             spacing := some { before := some 0, after := some 120 } } } line column
    | .table alignments => renderTable alignments children line column
    | .taskCheckBox checked => push { runs := [{ text := checkbox checked }] } line column
    | .mathBlock lines => do
      let run := mathRun (← read).settings (String.intercalate "\n" lines)
      push { properties := { style := some Style.math, alignment := some .center }
             runs := [run] } line column
    | .footnoteDefinition label => do
      let id ← footnoteId label
      let paragraphs ← renderNotes children
      if ← refuses .addFootnote then
        refusedEdit "footnote" Operation.addFootnote.refusal line column
      else
        let s ← get
        match s.doc.addFootnote { id, paragraphs } with
        | .ok doc => set { s with doc }
        | .error e => refusedEdit "footnote" e line column
    | kind => do
      if kind.isInline then
        let runs ← renderInline {} ⟨kind, children, line, column⟩
        push { runs } line column
      else unsupported kind line column

/-- Renders blocks in a row. -/
def renderBlocks : List Node → RenderM Unit
  | [] => pure ()
  | node :: rest => do
    renderBlock node
    renderBlocks rest

/-- The paragraphs of a footnote: a paragraph keeps its formatting, any other block is text. -/
def renderNotes : List Node → RenderM (List Paragraph)
  | [] => return []
  | ⟨kind, children, line, column⟩ :: rest => do
    let runs ←
      match kind with
      | .paragraph => renderInlines {} children
      | kind => pure [{ text := String.ofList (Node.textChars ⟨kind, children, line, column⟩) }]
    return Paragraph.ensureRun { runs } :: (← renderNotes rest)

end

/-- Renders a tree into an empty document: its outcome and the document built so far. -/
def renderInto (context : RenderContext) (tree : Node) : Except Diagnostic Unit × Rendering :=
  let style := context.settings.style
  let defaults : RunProperties :=
    { fontFamily := some style.fontFamily, fontSize := some style.fontSize }
  (renderBlock tree).run context |>.run { doc := { defaults } }

/-- The document of a tree and the diagnostics in order. -/
def render (settings : RenderSettings) (tree : Node) :
    Except Diagnostic Document × List Diagnostic :=
  let (outcome, s) := renderInto { settings } tree
  (outcome.map fun _ => s.doc, s.diagnostics)

end Folio.Markdown
