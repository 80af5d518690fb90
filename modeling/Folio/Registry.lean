import Folio.Format
import Folio.Media.FilePath

/-!
# Formats by name

A registry holds one format of each name. Files are matched with a format by their extension, in
whichever case it is written.
-/

namespace Folio

/-- Formats by name. -/
structure Registry where
  formats : List Format := []

namespace Registry

/-- The registry of the formats that come with the library. -/
def standard : Registry := ⟨[.markdown, .json]⟩

/-- The registry with a format in place of the one of its name. -/
def register (registry : Registry) (format : Format) : Registry :=
  ⟨registry.formats.filter (·.name != format.name) ++ [format]⟩

/-- The format of a name. -/
def find? (registry : Registry) (name : String) : Option Format :=
  registry.formats.find? (·.name == name)

/-- The format of a name, which has to be there. -/
def get (registry : Registry) (name : String) : Except Diagnostic Format :=
  match registry.find? name with
  | some format => .ok format
  | none => .error { kind := .format, message := "unknown format '" ++ name ++ "'" }

/-- A format of that name is there. -/
def has (registry : Registry) (name : String) : Bool := (registry.find? name).isSome

/-- The names of the formats in order. -/
def names (registry : Registry) : List String :=
  (registry.formats.map (·.name)).mergeSort fun a b => decide (a ≤ b)

/-- The name of the format that a file's extension tells of. -/
def detect (registry : Registry) (path : String) : Option String := do
  let extension ← FilePath.extension path.toList
  let extension := String.ofList (extension.map Char.toLower)
  let format ← registry.formats.find? (·.extensions.contains extension)
  return format.name

/-- The document that a text of a named format holds. -/
def parse (registry : Registry) (name : String) (settings : RenderSettings) (source : String) :
    Reported Document :=
  (Reported.of (registry.get name)).andThen fun format =>
    if format.parses then format.read settings source
    else .of (.error (.unableFormat name "parsing"))

/-- The text of a document in a named format. -/
def serialize (registry : Registry) (name : String) (settings : ExportSettings) (doc : Document) :
    Reported String :=
  (Reported.of (registry.get name)).andThen fun format =>
    if format.serializes then format.write settings doc
    else .of (.error (.unableFormat name "serialization"))

end Registry
end Folio
