import Folio.Document.Store
import Folio.Markdown.Escape
import Folio.Media.Source
import Folio.Settings

/-!
# Runs as Markdown

Runs in a row become inline text. Neighbours with the same formatting are one run, so that their
markers never meet; white space at the edges of a run stays outside its markers. A run with a
footnote becomes a reference, numbered in the order of first use, and a run with an image becomes
a link to the extracted file. Line feeds become hard breaks.
-/

namespace Folio.Markdown

/-- A line break inside a paragraph. -/
def hardBreak : List Char := [' ', ' ', '\n']

/-- The run is text and nothing else. -/
def isTextRun (run : Run) : Bool := run.footnote.isNone && run.media.isNone

/-- The runs after `last`, merged into it as far as they are text of the same formatting. -/
def mergeAfter (last : Run) : List Run → List Run
  | [] => [last]
  | run :: rest =>
    if isTextRun run && isTextRun last && last.properties == run.properties then
      mergeAfter { last with text := last.text ++ run.text } rest
    else last :: mergeAfter run rest

/-- The runs with neighbours of the same formatting merged. -/
def mergeRuns : List Run → List Run
  | [] => []
  | run :: rest => mergeAfter run rest

/-- The marker of bold and italic text. -/
def emphasisMarkers (settings : ExportSettings) (properties : RunProperties) : List Char :=
  let count := (if properties.isBold then 2 else 0) + (if properties.isItalic then 1 else 0)
  List.replicate count settings.emphasisMarker

/-- The run is set in a code font. -/
def isCode (settings : ExportSettings) (properties : RunProperties) : Bool :=
  properties.fontFamily.any settings.isCodeFont

/-- The text of a run between its markers. -/
def formatRun (settings : ExportSettings) (run : Run) : List Char :=
  let edges := Text.Edges.ofText run.text.toList
  if edges.core.isEmpty then run.text.toList
  else
    let core :=
      if isCode settings run.properties then codeSpan edges.core else escapeInline edges.core
    let markers := emphasisMarkers settings run.properties
    let strike := if run.properties.isStrike then ['~', '~'] else []
    edges.lead ++ strike ++ markers ++ core ++ markers ++ strike ++ edges.trail

/-- The link to an image of the document, when images are extracted. -/
def imageLink (settings : ExportSettings) (doc : Document) (index : Nat) : Option (List Char) := do
  let images := settings.images
  if !images.extract then none
  let media ← doc.media[index]?
  let target := Media.extractionTarget images.outputDir.toList (index + 1) media.source.toList
    images.namingPattern.toList
  let link := Media.linkPath target (images.linkBase.map String.toList)
  return '!' :: '[' :: media.alt.toList ++ [']', '('] ++ link ++ [')']

/-- The ids of the footnotes numbered so far, in order. -/
abbrev NoteOrder := List String

/-- The number of a footnote and the order that knows it. -/
def noteNumber (order : NoteOrder) (id : String) : Nat × NoteOrder :=
  match order.idxOf? id with
  | some i => (i + 1, order)
  | none => (order.length + 1, order ++ [id])

/-- The reference to a footnote by its number. -/
def noteReference (number : Nat) : List Char := ['[', '^'] ++ number.repr.toList ++ [']']

/-- The text of one run. -/
def runText (settings : ExportSettings) (doc : Document) (order : NoteOrder) (run : Run) :
    List Char × NoteOrder :=
  match run.footnote with
  | some id =>
    if settings.footnotes then
      let (number, order) := noteNumber order id
      (escapeInline run.text.toList ++ noteReference number, order)
    else (escapeInline run.text.toList, order)
  | none =>
    match run.media.bind (imageLink settings doc) with
    | some link => (link, order)
    | none => (formatRun settings run, order)

/-- The texts of runs in a row. -/
def runTexts (settings : ExportSettings) (doc : Document) :
    NoteOrder → List Run → List Char × NoteOrder
  | order, [] => ([], order)
  | order, run :: rest =>
    let (text, order) := runText settings doc order run
    let (texts, order) := runTexts settings doc order rest
    (text ++ texts, order)

/-- The inline text of runs in a row, with line feeds made hard breaks. -/
def inlineText (settings : ExportSettings) (doc : Document) (order : NoteOrder) (runs : List Run) :
    List Char × NoteOrder :=
  let (text, order) := runTexts settings doc order (mergeRuns runs)
  (text.flatMap fun c => if c = '\n' then hardBreak else [c], order)

end Folio.Markdown
