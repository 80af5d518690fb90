import Folio.Config.Configuration
import Folio.Config.KeyPath
import Folio.Files.Access
import Folio.Text.Utf8
import Folio.Toml.Reading

/-!
# Layers of a configuration

A configuration is built from the standard one by files and single values laid over it. Single
values win over files, wherever they stand among the layers; of the files, and of the values, the
later win. A key of a single value that is no path is a fault that comes before any fault of a file.
-/

namespace Folio.Config

/-- What is laid over a configuration. -/
inductive Layer where
  /-- A file; one that is not required may be missing. -/
  | file (path : String) (required : Bool)
  /-- A single value. -/
  | value (key : String) (value : Value)
  deriving Repr, Inhabited

/-- The file that local configuration is read from when it is there. -/
def localFile : String := "docmark.toml"

/-- The extension that a path may lack. -/
def extension : String := ".toml"

/-- The path under which a configuration file is found: as it is, or with the extension. -/
def findFile [Monad m] [FileAccess m] (path : String) : m (Option String) := do
  if ← FileAccess.isFile path then return some path
  else if ← FileAccess.isFile (path ++ extension) then return some (path ++ extension)
  else return none

/-- The text of a configuration file. -/
def readFile [Monad m] [FileAccess m] (path : String) : m (Option String) := do
  match ← findFile path with
  | none => return none
  | some found =>
    match ← FileAccess.read found with
    | .ok content => return (Text.decodeUtf8 content).toOption
    | .error _ => return none

/-- The table that a configuration file holds; a file that need not be there may hold nothing. -/
def readTable [Monad m] [FileAccess m] (path : String) (required : Bool) :
    m (Except Fault Table) := do
  match ← readFile path with
  | none => return if required then .error (.unreadableFile path) else .ok []
  | some text =>
    match Toml.read text with
    | some members => return .ok (Value.ofTomlMembers members)
    | none => return .error (.malformedFile path)

/-- The paths and values that are laid over the files. -/
def overrides : List Layer → Except Fault (List (KeyPath × Value))
  | [] => .ok []
  | .file _ _ :: rest => overrides rest
  | .value key value :: rest =>
    match KeyPath.ofText? key with
    | some path => return (path, value) :: (← overrides rest)
    | none => .error (.malformedKey key)

/-- The table with the files among the layers laid over it in turn. -/
def overlayFiles [Monad m] [FileAccess m] (table : Table) :
    List Layer → m (Except Fault Table)
  | [] => return .ok table
  | .value _ _ :: rest => overlayFiles table rest
  | .file path required :: rest => do
    match ← readTable path required with
    | .ok above => overlayFiles (table.overlay above) rest
    | .error fault => return .error fault

/-- The configuration of some layers over the standard one. -/
def load [Monad m] [FileAccess m] (layers : List Layer) : m (Except Fault Configuration) := do
  match overrides layers with
  | .error fault => return .error fault
  | .ok values =>
    match ← overlayFiles standard layers with
    | .error fault => return .error fault
    | .ok table => return (values.foldl (fun table (path, value) => table.set path value) table).read

end Folio.Config
