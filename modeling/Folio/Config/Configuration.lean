import Folio.Batch
import Folio.Config.Value
import Folio.Settings

/-!
# Configurations

A configuration chooses the settings of a conversion. It is read from a table with a section for
each of reading, writing and batches; every key has to be there but for the directory of images. A
value that does not fit is a fault that comes before that of a key which is missing beside it.

* `read_standard`: the standard table gives the settings that hold when nothing is chosen.
-/

namespace Folio

/-- The settings of a conversion. -/
structure Configuration where
  render : RenderSettings := {}
  exporting : ExportSettings := {}
  batch : BatchSettings := {}
  deriving DecidableEq, Repr, Inhabited

namespace Config

/-- The policy of a section: a strict one ignores no errors. -/
def policy (strict ignoreErrors : Bool) : ErrorPolicy where
  strict
  ignoreErrors := ignoreErrors && !strict

/-- The largest numbers that are kept in one byte, in four, and in eight. -/
def maxByte : Nat := 0xFF

@[inherit_doc maxByte]
def maxWord : Nat := 0xFFFFFFFF

@[inherit_doc maxByte]
def maxLong : Nat := 0xFFFFFFFFFFFFFFFF

/-! ## Sections -/

/-- The extensions of Markdown that are read. -/
def readFeatures (value : Value) : Except Fault Features := do
  let table ← value.toRecord ["gfm", "footnotes", "tables", "task_lists", "math"]
  let gfm ← table.field? "gfm" Value.toFlag
  let footnotes ← table.field? "footnotes" Value.toFlag
  let tables ← table.field? "tables" Value.toFlag
  let taskLists ← table.field? "task_lists" Value.toFlag
  let math ← table.field? "math" Value.toFlag
  return {
    gfm := ← needed "gfm" gfm
    footnotes := ← needed "footnotes" footnotes
    tables := ← needed "tables" tables
    taskLists := ← needed "task_lists" taskLists
    math := ← needed "math" math }

/-- Fonts and colours. -/
def readStyle (value : Value) : Except Fault StyleSettings := do
  let table ← value.toRecord
    ["font_family", "font_size", "code_font", "code_color", "link_color", "math_font"]
  let fontFamily ← table.field? "font_family" Value.toText
  let fontSize ← table.field? "font_size" (Value.toNatural maxWord)
  let codeFont ← table.field? "code_font" Value.toText
  let codeColor ← table.field? "code_color" Value.toText
  let linkColor ← table.field? "link_color" Value.toText
  let mathFont ← table.field? "math_font" Value.toText
  return {
    fontFamily := ← needed "font_family" fontFamily
    fontSize := ← needed "font_size" fontSize
    codeFont := ← needed "code_font" codeFont
    codeColor := ← needed "code_color" codeColor
    linkColor := ← needed "link_color" linkColor
    mathFont := ← needed "math_font" mathFont }

/-- Which headings can be linked to. -/
def readToc (value : Value) : Except Fault TocSettings := do
  let table ← value.toRecord ["enabled", "max_level"]
  let enabled ← table.field? "enabled" Value.toFlag
  let maxLevel ← table.field? "max_level" (Value.toNatural maxByte)
  return {
    enabled := ← needed "enabled" enabled
    maxLevel := ← needed "max_level" maxLevel }

/-- The directory of images, which may be left out. -/
def readBasePath (value : Value) : Except Fault (Option String) := do
  let table ← value.toRecord ["base_path"]
  return (← table.field? "base_path" (Value.toOption Value.toText)).getD none

/-- How Markdown is read. -/
def readRender (value : Value) : Except Fault RenderSettings := do
  let table ← value.toRecord ["strict", "ignore_errors", "embed_images", "native_equations",
    "features", "style", "toc", "images"]
  let strict ← table.field? "strict" Value.toFlag
  let ignoreErrors ← table.field? "ignore_errors" Value.toFlag
  let embed ← table.field? "embed_images" Value.toFlag
  let nativeEquations ← table.field? "native_equations" Value.toFlag
  let features ← table.field? "features" readFeatures
  let style ← table.field? "style" readStyle
  let toc ← table.field? "toc" readToc
  let basePath ← table.field? "images" readBasePath
  return {
    errors := policy (← needed "strict" strict) (← needed "ignore_errors" ignoreErrors)
    images := { basePath := basePath.getD none, embed := ← needed "embed_images" embed }
    nativeEquations := ← needed "native_equations" nativeEquations
    features := ← needed "features" features
    style := ← needed "style" style
    toc := ← needed "toc" toc }

/-- Where images are extracted to. -/
def readExtraction (value : Value) : Except Fault ExtractSettings := do
  let table ← value.toRecord ["extract", "output_dir", "naming_pattern"]
  let extract ← table.field? "extract" Value.toFlag
  let outputDir ← table.field? "output_dir" Value.toText
  let namingPattern ← table.field? "naming_pattern" Value.toText
  return {
    extract := ← needed "extract" extract
    outputDir := ← needed "output_dir" outputDir
    namingPattern := ← needed "naming_pattern" namingPattern }

/-- How Markdown is written; a width of zero wraps nothing. -/
def readExport (value : Value) : Except Fault ExportSettings := do
  let table ← value.toRecord ["gfm", "footnotes", "tables", "task_lists", "setext_headings",
    "emphasis_marker", "bullet_marker", "code_language", "code_fonts", "wrap_width",
    "include_metadata", "preserve_element_order", "ignore_errors", "images"]
  let gfm ← table.field? "gfm" Value.toFlag
  let footnotes ← table.field? "footnotes" Value.toFlag
  let tables ← table.field? "tables" Value.toFlag
  let taskLists ← table.field? "task_lists" Value.toFlag
  let setextHeadings ← table.field? "setext_headings" Value.toFlag
  let emphasisMarker ← table.field? "emphasis_marker" Value.toChar
  let bulletMarker ← table.field? "bullet_marker" Value.toChar
  let codeLanguage ← table.field? "code_language" Value.toText
  let codeFonts ← table.field? "code_fonts" Value.toTexts
  let width ← table.field? "wrap_width" (Value.toNatural maxLong)
  let includeMetadata ← table.field? "include_metadata" Value.toFlag
  let preserveElementOrder ← table.field? "preserve_element_order" Value.toFlag
  let ignoreErrors ← table.field? "ignore_errors" Value.toFlag
  let images ← table.field? "images" readExtraction
  let width ← needed "wrap_width" width
  return {
    gfm := ← needed "gfm" gfm
    footnotes := ← needed "footnotes" footnotes
    tables := ← needed "tables" tables
    taskLists := ← needed "task_lists" taskLists
    setextHeadings := ← needed "setext_headings" setextHeadings
    emphasisMarker := ← needed "emphasis_marker" emphasisMarker
    bulletMarker := ← needed "bullet_marker" bulletMarker
    codeLanguage := ← needed "code_language" codeLanguage
    codeFonts := ← needed "code_fonts" codeFonts
    wrapWidth := if width = 0 then none else some width
    includeMetadata := ← needed "include_metadata" includeMetadata
    preserveElementOrder := ← needed "preserve_element_order" preserveElementOrder
    images := ← needed "images" images
    errors := policy false (← needed "ignore_errors" ignoreErrors) }

/-- How batches are run: one item at a time at least. -/
def readBatch (value : Value) : Except Fault BatchSettings := do
  let table ← value.toRecord ["jobs", "ignore_errors"]
  let jobs ← table.field? "jobs" (Value.toNatural maxLong)
  let ignoreErrors ← table.field? "ignore_errors" Value.toFlag
  return {
    parallelism := max (← needed "jobs" jobs) 1
    ignoreErrors := ← needed "ignore_errors" ignoreErrors }

/-- The configuration that a table gives. -/
def Table.read (table : Table) : Except Fault Configuration := do
  let render ← table.field? "render" readRender
  let exporting ← table.field? "export" readExport
  let batch ← table.field? "batch" readBatch
  return {
    render := ← needed "render" render
    exporting := ← needed "export" exporting
    batch := ← needed "batch" batch }

/-! ## The standard configuration -/

/-- A whole number in a table. -/
def number (n : Nat) : Value := .integer n

/-- The table of the settings that hold when nothing is chosen. -/
def standard : Table :=
  let features : Features := {}
  let style : StyleSettings := {}
  let toc : TocSettings := {}
  let render : RenderSettings := {}
  let exporting : ExportSettings := {}
  let extraction : ExtractSettings := {}
  let batch : BatchSettings := {}
  [("render", .table [
      ("strict", .flag render.errors.strict),
      ("ignore_errors", .flag render.errors.ignoreErrors),
      ("embed_images", .flag render.images.embed),
      ("native_equations", .flag render.nativeEquations),
      ("features", .table [
        ("gfm", .flag features.gfm),
        ("footnotes", .flag features.footnotes),
        ("tables", .flag features.tables),
        ("task_lists", .flag features.taskLists),
        ("math", .flag features.math)]),
      ("style", .table [
        ("font_family", .text style.fontFamily),
        ("font_size", number style.fontSize),
        ("code_font", .text style.codeFont),
        ("code_color", .text style.codeColor),
        ("link_color", .text style.linkColor),
        ("math_font", .text style.mathFont)]),
      ("toc", .table [
        ("enabled", .flag toc.enabled),
        ("max_level", number toc.maxLevel)]),
      ("images", .table [])]),
    ("export", .table [
      ("gfm", .flag exporting.gfm),
      ("footnotes", .flag exporting.footnotes),
      ("tables", .flag exporting.tables),
      ("task_lists", .flag exporting.taskLists),
      ("setext_headings", .flag exporting.setextHeadings),
      ("emphasis_marker", .text exporting.emphasisMarker.toString),
      ("bullet_marker", .text exporting.bulletMarker.toString),
      ("code_language", .text exporting.codeLanguage),
      ("code_fonts", .list (exporting.codeFonts.map .text)),
      ("wrap_width", number (exporting.wrapWidth.getD 0)),
      ("include_metadata", .flag exporting.includeMetadata),
      ("preserve_element_order", .flag exporting.preserveElementOrder),
      ("ignore_errors", .flag exporting.errors.ignoreErrors),
      ("images", .table [
        ("extract", .flag extraction.extract),
        ("output_dir", .text extraction.outputDir),
        ("naming_pattern", .text extraction.namingPattern)])]),
    ("batch", .table [
      ("jobs", number batch.parallelism),
      ("ignore_errors", .flag batch.ignoreErrors)])]

theorem read_standard : standard.read = .ok {} := by rfl

end Config
end Folio
