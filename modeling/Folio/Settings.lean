import Folio.Diagnostic
import Folio.Document.Style

/-!
# Settings

What can be chosen about reading Markdown into a document and about writing a document as Markdown.
-/

namespace Folio

/-- The extensions of Markdown that are read. -/
structure Features where
  /-- Strikethrough and bare links. -/
  gfm : Bool := true
  footnotes : Bool := true
  tables : Bool := true
  taskLists : Bool := true
  math : Bool := true
  deriving DecidableEq, Repr, Inhabited

/-- Fonts and colours; colours are red, green and blue in hexadecimal, sizes are half-points. -/
structure StyleSettings where
  fontFamily : String := "Calibri"
  fontSize : Nat := 22
  codeFont : String := "Consolas"
  codeColor : String := "C7254E"
  linkColor : String := "0563C1"
  mathFont : String := "Cambria Math"
  deriving DecidableEq, Repr, Inhabited

/-- Which headings can be linked to from a table of contents. -/
structure TocSettings where
  enabled : Bool := false
  /-- The deepest heading level that gets a bookmark. -/
  maxLevel : Nat := 3
  deriving DecidableEq, Repr, Inhabited

/-- How images are read. -/
structure ImageSettings where
  /-- The directory that relative paths are resolved against. -/
  basePath : Option String := none
  /-- Images are recorded in the document's media list. -/
  embed : Bool := false
  deriving DecidableEq, Repr, Inhabited

/-- How Markdown is made into a document. -/
structure RenderSettings where
  features : Features := {}
  style : StyleSettings := {}
  toc : TocSettings := {}
  images : ImageSettings := {}
  /-- Formulas carry their equation markup. -/
  nativeEquations : Bool := false
  errors : ErrorPolicy := {}
  deriving DecidableEq, Repr, Inhabited

/-- Where the images of a document go. -/
structure ExtractSettings where
  extract : Bool := false
  outputDir : String := "images"
  /-- The file name of an image, in which the number, the stem and the extension are put. -/
  namingPattern : String := "image\x7bn\x7d.\x7bext\x7d"
  /-- The directory that links are relative to. -/
  linkBase : Option String := none
  deriving DecidableEq, Repr, Inhabited

/-- How a document is written as Markdown. -/
structure ExportSettings where
  /-- Tables are written with pipes; otherwise in a simple layout with a bold header. -/
  gfm : Bool := true
  footnotes : Bool := true
  tables : Bool := true
  taskLists : Bool := true
  /-- The first two heading levels are underlined. -/
  setextHeadings : Bool := false
  emphasisMarker : Char := '*'
  bulletMarker : Char := '-'
  codeLanguage : String := ""
  /-- The fonts in which code is set. -/
  codeFonts : List String := ["Consolas", "Courier New", "Menlo", "Monaco", "monospace"]
  wrapWidth : Option Nat := none
  includeMetadata : Bool := true
  /-- Tables stand where they appear instead of after all paragraphs. -/
  preserveElementOrder : Bool := false
  images : ExtractSettings := {}
  errors : ErrorPolicy := {}
  deriving DecidableEq, Repr, Inhabited

/-- Code is set in the font. -/
def ExportSettings.isCodeFont (settings : ExportSettings) (family : String) : Bool :=
  settings.codeFonts.any (Style.sameIgnoringCase · family)

end Folio
