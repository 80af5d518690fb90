import Folio.Document.Codec
import Folio.Markdown.Reading
import Folio.Markdown.Rendering
import Folio.Markdown.Writing

/-!
# Formats

A format is a way to keep documents as text. It may be read, written, or both, and is recognised by
the extensions of its files. Markdown and JSON are the formats that come with the library.
-/

namespace Folio

/-- The outcome of a step and the diagnostics it reported, in order. -/
abbrev Reported (α : Type) := Except Diagnostic α × List Diagnostic

/-- An outcome without diagnostics. -/
def Reported.of (outcome : Except Diagnostic α) : Reported α := (outcome, [])

/-- One step after another; the second is taken only if the first one succeeds. -/
def Reported.andThen (first : Reported α) (second : α → Reported β) : Reported β :=
  match first with
  | (.ok value, before) =>
    let (outcome, after) := second value
    (outcome, before ++ after)
  | (.error e, before) => (.error e, before)

/-- A format's refusal to be read or written. -/
def Diagnostic.unableFormat (name direction : String) : Diagnostic :=
  { kind := .format, message := "format '" ++ name ++ "' does not support " ++ direction }

/-- A way to keep documents as text. -/
structure Format where
  name : String
  description : String := ""
  /-- The extensions of its files, in lower case. -/
  extensions : List String := []
  parses : Bool := false
  serializes : Bool := false
  read : RenderSettings → String → Reported Document :=
    fun _ _ => .of (.error (.unableFormat name "parsing"))
  write : ExportSettings → Document → Reported String :=
    fun _ _ => .of (.error (.unableFormat name "serialization"))

/-- The document of a Markdown text. -/
def Markdown.readDocument (settings : RenderSettings) (source : String) : Reported Document :=
  render settings (parse settings.features source)

/-- The document of a Markdown text given in bytes. -/
def Markdown.readBytes (settings : RenderSettings) (bytes : List UInt8) : Reported Document :=
  (Reported.of (parseBytes settings.features bytes)).andThen (render settings)

/-- A fault in a document's JSON, with its place. -/
def Diagnostic.ofJson (fault : Json.Fault) : Diagnostic :=
  { kind := .parse
    message := "invalid document JSON: " ++ fault.message
    line := fault.position.map (·.line)
    column := fault.position.map (·.column) }

/-- The document of a JSON text. -/
def Json.readDocument (source : String) : Except Diagnostic Document :=
  (Document.ofText source).mapError .ofJson

namespace Format

/-- Markdown with the usual extensions. -/
def markdown : Format where
  name := "markdown"
  description := "CommonMark Markdown with GFM, math and footnote extensions"
  extensions := ["md", "markdown"]
  parses := true
  serializes := true
  read := Markdown.readDocument
  write := Markdown.write

/-- A document as it is, in JSON. -/
def json : Format where
  name := "json"
  description := "Document model as JSON"
  extensions := ["json"]
  parses := true
  serializes := true
  read := fun _ source => .of (Json.readDocument source)
  write := fun _ doc => .of (.ok doc.toText)

end Format
end Folio
