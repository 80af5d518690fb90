import Folio.CommandLine.Invocation
import Folio.Config.Layer
import Folio.Conversion
import Folio.Math.Markup
import Folio.Math.Parser
import Folio.Math.Reading

/-!
# Running the program

The configuration is loaded first, whatever is asked for. Diagnostics are printed as warnings; a
failure is printed as an error and shows in the exit code. A command line that is not understood has
an exit code of its own.
-/

namespace Folio.CommandLine

/-- What the program prints, and its exit code. -/
structure Reply where
  exit : Nat := 0
  stdout : String := ""
  stderr : String := ""
  deriving DecidableEq, Repr, Inhabited

namespace Reply

/-- The program ends with a failure. -/
def failure (message : String) : Reply := { exit := 1, stderr := message ++ "\n" }

/-- A diagnostic ended what was asked for. -/
def ofError (e : Diagnostic) : Reply := failure ("Error: " ++ e.display)

/-- The reply with diagnostics printed before it. -/
def warned (reply : Reply) (diagnostics : List Diagnostic) : Reply :=
  let warnings := diagnostics.map fun d => "warning: " ++ d.display ++ "\n"
  { reply with stderr := String.join warnings ++ reply.stderr }

end Reply

/-- The name and the version of the program. -/
def versionText : String := "docmark 0.1.0\n"

/-- How the program is used. -/
def usageText : String :=
  "Convert between Markdown and word-processing documents\n\n" ++
  "docmark [convert] INPUT --to FORMAT [--from FORMAT] [-o FILE]\n" ++
  "docmark batch INPUTS... --to FORMAT --out-dir DIR [-j N] [--strict]\n" ++
  "docmark math FORMULA [--xml]\n" ++
  "docmark --list-formats\n\n" ++
  "--config PATH reads a configuration file, --extra-KEY [VALUE] sets a configuration value.\n"

/-- A text with blanks after it, up to a width. -/
def padded (width : Nat) (text : String) : String :=
  text ++ String.ofList (List.replicate (width - text.length) ' ')

/-- One format in the list of formats. -/
def formatLine (format : Format) : String :=
  "  " ++ padded 10 format.name ++ " " ++ format.description ++ " (." ++
    String.intercalate ", ." format.extensions ++ ")\n"

/-- The list of formats. -/
def formatsText (registry : Registry) : String :=
  "Available formats:\n\n" ++
    String.join (registry.names.filterMap fun name => (registry.find? name).map formatLine)

/-- A formula as text, or as markup. -/
def formulaText (source : String) (markup : Bool) : String :=
  let formula := Math.parse source
  if markup then formula.toMarkup.toXml else formula.reading

/-- Why there is no configuration, in words. -/
def configFailure (fault : Config.Fault) : String :=
  match fault with
  | .malformedKey _ => "Invalid configuration override: " ++ fault.message
  | _ => "Failed to load configuration: " ++ fault.message

/-- The layers of configuration: the local file, the file asked for, and single values. -/
def layers (file : Option String) (overrides : List (String × String)) : List Config.Layer :=
  .file Config.localFile false :: (file.toList.map (.file · true)) ++
    overrides.map fun (key, value) => .value key (.text value)

variable {m : Type → Type} [Monad m] [FileAccess m]

/-- Converts a file and prints the result. -/
def convertToText (input : String) (settings : ConversionSettings) : Conversion m String := do
  let target := settings.target.getD Format.markdown.name
  let _ ← .ofReported (.of (Registry.standard.get target))
  let doc ← readDocument input settings.source settings.render
  .ofReported (Registry.standard.serialize target settings.exporting doc)

/-- Does a conversion. -/
def runConvert (input : String) (output : Option String) (settings : ConversionSettings) :
    m Reply := do
  let text : Conversion m String := match output with
    | some output => do convertFile input output settings; return ""
    | none => convertToText input settings
  let (outcome, diagnostics) ← text.outcome
  let reply : Reply := match outcome with
    | .ok stdout => { stdout }
    | .error e => .ofError e
  return reply.warned diagnostics

/-- The lines about a batch that came to its end. -/
def batchReply (inputs : List String) (directory : String) (report : BatchReport) : Reply where
  exit := if report.isSuccess then 0 else 1
  stderr :=
    String.join (report.failures.map fun failure =>
      inputs.getD failure.index "" ++ ": " ++ failure.error.display ++ "\n") ++
    "Converted " ++ report.succeeded.repr ++ " of " ++ report.total.repr ++ " file(s) into " ++
      directory ++ "\n"

/-- Does a batch of conversions. A strict one ends at the first failure, and warnings are failures. -/
def runBatch (inputs : List String) (target directory : String) (jobs : Option Nat) (strict : Bool)
    (config : Configuration) : m Reply := do
  match Registry.standard.get target with
  | .error e => return .ofError e
  | .ok format =>
    let extension := (format.extensions.headD target).toList
    let pairs := inputs.map fun input =>
      (input, String.ofList (outputPath input.toList directory.toList extension))
    let errors : ErrorPolicy :=
      if strict then { strict := true, ignoreErrors := false } else config.render.errors
    let settings : ConversionSettings :=
      { target := some target, render := { config.render with errors }, exporting := config.exporting }
    let batch : BatchSettings :=
      { parallelism := (jobs.map (max · 1)).getD config.batch.parallelism
        ignoreErrors := !strict && config.batch.ignoreErrors }
    let ((outcome, _), diagnostics) ← (convertFiles pairs settings batch false).run []
    let reply := match outcome with
      | .ok report => batchReply inputs directory report
      | .error e => .ofError e
    return reply.warned diagnostics

/-- Does what a command asks for. -/
def runCommand (config : Configuration) : Command → m Reply
  | .convert input source target output =>
    runConvert input output
      { source, target, render := config.render, exporting := config.exporting }
  | .batch inputs target directory jobs strict =>
    runBatch inputs target directory jobs strict config
  | .formula source markup => return { stdout := formulaText source markup ++ "\n" }

/-- Does what is asked for, with single configuration values. -/
def runInvocation (overrides : List (String × String)) (invocation : Invocation) : m Reply := do
  if invocation.listFormats then return { stdout := formatsText Registry.standard }
  else
    match ← Config.load (layers invocation.config overrides) with
    | .error fault => return .failure (configFailure fault)
    | .ok config =>
      match invocation.command with
      | some command => runCommand config command
      | none => return .failure "Unknown subcommand. Use --help for usage information."

/-- Runs the program with its arguments. -/
def run (args : List String) : m Reply :=
  let (args, overrides) := takeOverrides args
  match parse args with
  | .ok invocation => runInvocation (sortOverrides overrides) invocation
  | .error .help => return { stdout := usageText }
  | .error .version => return { stdout := versionText }
  | .error (.fault fault) =>
    return { exit := 2, stderr := "error: " ++ fault.message ++ "\n\n" ++ usageText }

end Folio.CommandLine
