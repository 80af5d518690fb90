import Folio.Document.Style
import Folio.Markdown.RunText
import Folio.Markdown.TableText
import Folio.Text.Wrap

/-!
# From a document to Markdown

A document is written from the top: its metadata, its paragraphs, its tables (or both in the order
of the body), and its footnotes. The style of a paragraph chooses its block syntax. Code paragraphs
in a row share a fence until one has space after it; list paragraphs in a row share a list.
-/

namespace Folio.Markdown
open Text (trim trimStart trimEnd)

/-- What is still open while a document is written. -/
structure Writing where
  /-- The lines of an open code fence. -/
  codeLines : List (List Char) := []
  /-- List lines have been written and the list is not closed. -/
  inList : Bool := false
  /-- The number of the last item of an ordered list. -/
  counter : Nat := 0
  notes : NoteOrder := []
  deriving Repr

/-- The block of a document's metadata. -/
def frontMatterText (settings : ExportSettings) (metadata : Metadata) : List Char :=
  if !settings.includeMetadata || metadata.entries.isEmpty then []
  else
    "---\n".toList ++
      (metadata.entries.flatMap fun (k, v) => k.toList ++ ':' :: ' ' :: v.toList ++ ['\n']) ++
      "---\n\n".toList

/-- A fence around lines of code. -/
def fenceText (language : String) (lines : List (List Char)) : List Char :=
  "```".toList ++ language.toList ++ '\n' :: (lines.flatMap fun line => line ++ ['\n']) ++
    "```\n\n".toList

/-- Closes the open fence and the open list. -/
def closeGroup (settings : ExportSettings) (w : Writing) : List Char × Writing :=
  let fence := if w.codeLines.isEmpty then [] else fenceText settings.codeLanguage w.codeLines
  let blank := if w.inList then ['\n'] else []
  (fence ++ blank, { w with codeLines := [], inList := false })

/-- The paragraph has space after it, which closes the code block that it ends. -/
def closesCode (paragraph : Paragraph) : Bool :=
  ((paragraph.properties.spacing.bind (·.after)).getD 0) > 0

/-- One line of code. -/
def codeLine (settings : ExportSettings) (w : Writing) (paragraph : Paragraph) :
    List Char × Writing :=
  let (before, w) := if w.inList then closeGroup settings w else ([], w)
  let text := paragraph.textChars
  let line := if (trim text).isEmpty then [] else text
  let w := { w with codeLines := w.codeLines ++ [line] }
  let (after, w) := if closesCode paragraph then closeGroup settings w else ([], w)
  (before ++ after, w)

/-- The mark in front of a list item and the item's text after it. -/
def itemGlyph (text : List Char) : Option Bool × List Char :=
  match trimStart text with
  | '☑' :: rest => (some true, trimStart rest)
  | '☐' :: rest => (some false, trimStart rest)
  | '•' :: rest => (none, trimStart rest)
  | text => (none, text)

/-- The box of a task. -/
def taskBox (settings : ExportSettings) : Option Bool → List Char
  | some true => (if settings.taskLists then "[x] " else "☑ ").toList
  | some false => (if settings.taskLists then "[ ] " else "☐ ").toList
  | none => []

/-- The text on one line: its hard breaks are spaces. -/
def oneLine (text : List Char) : List Char := Text.replace hardBreak [' '] text

/-- The first number of a list that begins on the top level. -/
def topLevelStart (paragraph : Paragraph) : Option Nat :=
  match paragraph.properties.numbering with
  | some numbering => if numbering.level = 0 then numbering.start else none
  | none => none

/-- The item belongs to an ordered list. -/
def isOrdered (paragraph : Paragraph) : Bool := paragraph.properties.numbering.any (·.ordered)

/-- The number behind another one in a list. Numbers are words of 64 bits: behind the last one they
begin again. -/
def nextNumber (number : Nat) : Nat := (number + 1) % UInt64.size

/-- One item of a list. A recorded start begins a new list. -/
def listLine (settings : ExportSettings) (doc : Document) (w : Writing) (paragraph : Paragraph) :
    List Char × Writing :=
  let (before, w) :=
    match topLevelStart paragraph with
    | some start =>
      let (before, w) := if w.inList then closeGroup settings w else ([], w)
      (before, { w with counter := start - 1 })
    | none => ([], w)
  let (text, notes) := inlineText settings doc w.notes paragraph.runs
  let (task, body) := itemGlyph (oneLine text)
  let counter := if isOrdered paragraph then nextNumber w.counter else 0
  let marker :=
    if isOrdered paragraph then counter.repr.toList ++ ['.'] else [settings.bulletMarker]
  let line := marker ++ ' ' :: taskBox settings task ++ escapeBlockStarts (trimEnd body) ++ ['\n']
  (before ++ line, { w with notes, counter, inList := true })

/-- The title without the hashes that would close it: a backslash keeps them. -/
def keepHashes (title : List Char) : List Char :=
  let cut := Text.dropWhileEnd (· == '#') title
  if cut.length < title.length then cut ++ '\\' :: title.drop cut.length else title

/-- A heading of the given level. -/
def headingText (settings : ExportSettings) (level : Nat) (text : List Char) : List Char :=
  let title := trim (oneLine text)
  if title.isEmpty then []
  else
    let level := min level 6
    if settings.setextHeadings ∧ level ≤ 2 then
      let title := escapeBlockStarts title
      title ++ '\n' :: List.replicate (max title.length 3) (if level = 1 then '=' else '-') ++
        ['\n', '\n']
    else List.replicate level '#' ++ ' ' :: keepHashes title ++ ['\n', '\n']

/-- The lines of a text, each without its line ending. -/
def textLines (cs : List Char) : List (List Char) :=
  let pieces := Text.lines cs
  let ended := pieces.dropLast.map fun line =>
    if line.getLast? = some '\r' then line.dropLast else line
  match pieces.getLast? with
  | none | some [] => ended
  | some last => ended ++ [last]

/-- Quoted lines. -/
def quoteText (text : List Char) : List Char :=
  if (trim text).isEmpty then []
  else
    ((textLines text).flatMap fun line =>
      '>' :: ' ' :: escapeBlockStarts (escapeInline line) ++ ['\n']) ++ ['\n']

/-- The text with each stretch between hard breaks wrapped to the width. -/
def wrapSegments (width : Nat) (text : List Char) : List Char :=
  Text.join hardBreak ((Text.splitText hardBreak text).map (Text.wrap · width))

/-- A paragraph of body text. -/
def bodyText (settings : ExportSettings) (text : List Char) : List Char :=
  if (trim text).isEmpty then []
  else
    let text := match settings.wrapWidth with
      | some width => wrapSegments width text
      | none => text
    escapeBlockStarts text ++ ['\n', '\n']

/-- The paragraph's style. -/
def styleOf (paragraph : Paragraph) : String := paragraph.properties.style.getD Style.normal

/-- The paragraph is a list item. -/
def isListItem (paragraph : Paragraph) : Bool :=
  paragraph.properties.numbering.isSome || styleOf paragraph == Style.listParagraph

/-- One paragraph that is neither code nor a list item. -/
def plainParagraph (settings : ExportSettings) (doc : Document) (w : Writing)
    (paragraph : Paragraph) : List Char × Writing :=
  match Style.headingLevel (styleOf paragraph) with
  | some level =>
    let (text, notes) := inlineText settings doc w.notes paragraph.runs
    (headingText settings level text, { w with notes })
  | none =>
    if styleOf paragraph = Style.quote then (quoteText paragraph.textChars, w)
    else if paragraph.properties.borderBottom ∧ (trim paragraph.textChars).isEmpty then
      ("---\n\n".toList, w)
    else
      let (text, notes) := inlineText settings doc w.notes paragraph.runs
      (bodyText settings text, { w with notes })

/-- One paragraph. -/
def paragraphText (settings : ExportSettings) (doc : Document) (w : Writing)
    (paragraph : Paragraph) : List Char × Writing :=
  if styleOf paragraph = Style.code then codeLine settings w paragraph
  else if isListItem paragraph then
    let (before, w) := if w.codeLines.isEmpty then ([], w) else closeGroup settings w
    let (line, w) := listLine settings doc w paragraph
    (before ++ line, w)
  else
    let (before, w) := closeGroup settings w
    let (text, w) := plainParagraph settings doc { w with counter := 0 } paragraph
    (before ++ text, w)

/-- Elements in a row: their text, or the diagnostic that ended the writing, and the diagnostics in
order. -/
def elementsText (settings : ExportSettings) (doc : Document) :
    Writing → List Element → Except Diagnostic (List Char × Writing) × List Diagnostic
  | w, [] => (.ok ([], w), [])
  | w, .paragraph paragraph :: rest =>
    let (text, w) := paragraphText settings doc w paragraph
    let (outcome, diagnostics) := elementsText settings doc w rest
    (outcome.map fun (texts, w) => (text ++ texts, w), diagnostics)
  | w, .table table :: rest =>
    let (before, w) := closeGroup settings w
    let w := { w with counter := 0 }
    if !settings.tables then
      let (outcome, diagnostics) := elementsText settings doc w rest
      (outcome.map fun (texts, w) => (before ++ texts, w), diagnostics)
    else
      match tableText settings.gfm table with
      | .ok text =>
        let (outcome, diagnostics) := elementsText settings doc w rest
        (outcome.map fun (texts, w) => (before ++ text ++ texts, w), diagnostics)
      | .error e =>
        let d := Diagnostic.ofEdit "table" e
        if settings.errors.aborts then (.error d, [d])
        else
          let (outcome, diagnostics) := elementsText settings doc w rest
          (outcome.map fun (texts, w) => (before ++ texts, w), d :: diagnostics)

/-- The order of all footnotes: those without a reference come last, in document order. -/
def allNotes (doc : Document) (order : NoteOrder) : NoteOrder :=
  doc.footnotes.foldl (fun order note => (noteNumber order note.id).2) order

/-- The definition of a numbered footnote, if the document has it. -/
def noteText (doc : Document) (index : Nat) (id : String) : List Char :=
  match doc.footnote? id with
  | none => []
  | some note =>
    let text := Text.join [' '] (note.paragraphs.map Paragraph.textChars)
    noteReference (index + 1) ++ ':' :: ' ' :: escapeInline (trim text) ++ ['\n']

/-- The definitions of the footnotes. -/
def notesText (settings : ExportSettings) (doc : Document) (order : NoteOrder) : List Char :=
  if !settings.footnotes || doc.footnotes.isEmpty then []
  else "---\n\n".toList ++ ((allNotes doc order).mapIdx (noteText doc)).flatten

/-- The elements of a document in the order in which they are written. -/
def writtenElements (settings : ExportSettings) (doc : Document) : List Element :=
  if settings.preserveElementOrder then doc.body
  else doc.paragraphs.map .paragraph ++ doc.tables.map .table

/-- The Markdown of a document and the diagnostics in order. -/
def write (settings : ExportSettings) (doc : Document) :
    Except Diagnostic String × List Diagnostic :=
  let (outcome, diagnostics) := elementsText settings doc {} (writtenElements settings doc)
  let text := outcome.map fun (texts, w) =>
    let (after, w) := closeGroup settings w
    String.ofList (frontMatterText settings doc.metadata ++ texts ++ after ++
      notesText settings doc w.notes)
  (text, diagnostics)

end Folio.Markdown
