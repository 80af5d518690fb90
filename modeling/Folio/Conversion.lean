import Folio.Batch
import Folio.Files.Access
import Folio.Media.Source
import Folio.Registry

/-!
# Conversions of files

A conversion reads a document from one file and writes it into another. The formats are named, or
told by the extensions of the files. Images of a Markdown text are found from the directory that the
text is in; on request they are copied to the place of the output and linked from there.
-/

namespace Folio

/-- A computation on files that reports diagnostics and may end with one. -/
abbrev Conversion (m : Type → Type) := ExceptT Diagnostic (StateT (List Diagnostic) m)

/-- What a conversion chooses. -/
structure ConversionSettings where
  /-- The format of the input, unless its extension tells. -/
  source : Option String := none
  /-- The format of the output, unless its extension tells. -/
  target : Option String := none
  render : RenderSettings := {}
  exporting : ExportSettings := {}
  deriving DecidableEq, Repr, Inhabited

namespace Conversion

variable {m : Type → Type} [Monad m]

/-- A step whose diagnostics are added to those before. -/
def ofReported (step : Reported α) : Conversion m α :=
  ExceptT.mk fun diagnostics => pure (step.1, diagnostics ++ step.2)

/-- An access to files. -/
def access (action : m α) : Conversion m α := ExceptT.lift (StateT.lift action)

/-- An operation on a file, whose fault ends the conversion. -/
def onFile (operation path : String) (action : m (Except FileFault α)) : Conversion m α := do
  match ← access action with
  | .ok value => return value
  | .error fault => throw (.ofFile operation path fault.message)

/-- Reports a failure, which ends the conversion if the policy says so. -/
def report (policy : ErrorPolicy) (d : Diagnostic) : Conversion m Unit := do
  modify fun diagnostics => diagnostics ++ [d]
  if policy.aborts then throw d

/-- The outcome of a conversion and the diagnostics it reported. -/
def outcome (conversion : Conversion m α) : m (Reported α) := conversion.run.run []

end Conversion

/-- The format that is named, or that the extension of a file tells. -/
def Registry.formatOf (registry : Registry) (named : Option String) (path : String) :
    Except Diagnostic String :=
  match named with
  | some name => (registry.get name).map fun _ => name
  | none =>
    match registry.detect path with
    | some name => .ok name
    | none =>
      .error {
        kind := .format
        message := "cannot detect a format for '" ++ path ++ "'; available: " ++
          String.intercalate ", " registry.names }

variable {m : Type → Type} [Monad m] [FileAccess m]

/-- The settings for a Markdown file: relative images are found from its directory. -/
def RenderSettings.forFile (settings : RenderSettings) (path : String) : RenderSettings :=
  match settings.images.basePath with
  | some _ => settings
  | none =>
    let basePath := (FilePath.parent path.toList).map String.ofList
    { settings with images := { settings.images with basePath } }

/-- The document that a file holds in a format. -/
def loadDocument (path format : String) (settings : RenderSettings) : Conversion m Document := do
  let content ← Conversion.onFile "read" path (FileAccess.read path)
  if format = Format.markdown.name then
    .ofReported (Markdown.readBytes (settings.forFile path) content)
  else
    match Text.decodeUtf8 content with
    | .ok source => .ofReported (Registry.standard.parse format settings source)
    | .error _ => throw { kind := .parse, message := "'" ++ path ++ "' is not valid UTF-8" }

/-- The document that a file holds. -/
def readDocument (path : String) (named : Option String) (settings : RenderSettings) :
    Conversion m Document := do
  let format ← Conversion.ofReported (.of (Registry.standard.formatOf named path))
  loadDocument path format settings

/-! ## Images -/

/-- Copies local images, which are given with their numbers, and gives the files written. -/
def copyImages (settings : ExportSettings) : List (MediaRef × Nat) → Conversion m (List String)
  | [] => return []
  | (image, number) :: rest => do
    let source := image.source.toList
    if Media.isRemote source then copyImages settings rest
    else
      let target := String.ofList (Media.extractionTarget settings.images.outputDir.toList number
        source settings.images.namingPattern.toList)
      match ← Conversion.access (FileAccess.copy image.source target) with
      | .ok () => return target :: (← copyImages settings rest)
      | .error fault =>
        Conversion.report settings.errors (.ofFile "copy image" image.source fault.message)
        copyImages settings rest

/-- Copies the local images of a document into the directory for images. Remote ones stay where they
are, but every image counts in the numbering. -/
def extractImages (doc : Document) (settings : ExportSettings) : Conversion m (List String) := do
  if doc.media.isEmpty then return []
  else
    let dir := settings.images.outputDir
    Conversion.onFile "create directory" dir (FileAccess.createDirectories dir)
    copyImages settings (doc.media.zipIdx 1)

/-! ## Files -/

/-- The directory that a file is in, unless it is the one that relative paths begin in. -/
def directoryOf (path : String) : Option String :=
  match FilePath.parent path.toList with
  | some [] | none => none
  | some dir => some (String.ofList dir)

/-- The settings for a Markdown file with images: they go below its directory, and links are
relative to it. -/
def ExportSettings.forFile (settings : ExportSettings) (path : String) : ExportSettings :=
  let dir := directoryOf path
  let images := settings.images
  let outputDir := match dir with
    | some dir => String.ofList (FilePath.join dir.toList images.outputDir.toList)
    | none => images.outputDir
  { settings with
    images := { images with outputDir, linkBase := some (images.linkBase.getD (dir.getD "")) } }

/-- Converts a file into another one. -/
def convertFile (input output : String) (settings : ConversionSettings) : Conversion m Unit := do
  let source ← .ofReported (.of (Registry.standard.formatOf settings.source input))
  let target ← .ofReported (.of (Registry.standard.formatOf settings.target output))
  let doc ← loadDocument input source settings.render
  let extracts := target = Format.markdown.name ∧ settings.exporting.images.extract
  let exporting := if extracts then settings.exporting.forFile output else settings.exporting
  if extracts then
    let _ ← extractImages doc exporting
  let text ← .ofReported (Registry.standard.serialize target exporting doc)
  match directoryOf output with
  | some dir => Conversion.onFile "create directory" dir (FileAccess.createDirectories dir)
  | none => pure ()
  Conversion.onFile "write" output (FileAccess.write output (.ofText text))

/-- Converts files one after the other; the diagnostics of all are kept. -/
def convertFiles (pairs : List (String × String)) (settings : ConversionSettings)
    (batch : BatchSettings) (cancelled : Bool) :
    StateT (List Diagnostic) m (Except Diagnostic BatchReport × Batch) :=
  let job (pair : String × String) : StateT (List Diagnostic) m JobOutcome := do
    return { result := ← (convertFile pair.1 pair.2 settings).run }
  Batch.run batch job pairs cancelled

end Folio
