import Folio.CommandLine.Run

/-!
# The program

The outermost layer: files are those of the system, and what a run prints goes to its streams.
-/

namespace Folio

/-- The fault that an error of the system stands for. -/
def FileFault.ofError (e : IO.Error) : FileFault :=
  match e with
  | .noFileOrDirectory .. => .notFound
  | .alreadyExists .. => .alreadyExists
  | .inappropriateType _ 21 _ => .isDirectory
  | .inappropriateType _ 20 _ => .notDirectory
  | _ => .system (toString e)

/-- Runs an action, and says which fault it met. -/
def attempt (action : IO α) : IO (Except FileFault α) := do
  match ← action.toBaseIO with
  | .ok value => return .ok value
  | .error e => return .error (.ofError e)

instance : FileAccess IO where
  read path := attempt do return (← IO.FS.readBinFile path).toList
  write path content := attempt (IO.FS.writeBinFile path ⟨content.toArray⟩)
  createDirectories path := attempt (if path.isEmpty then pure () else IO.FS.createDirAll path)
  copy source target := attempt do
    let _ ← IO.FS.readBinFile source
    IO.FS.writeBinFile target .empty
    IO.FS.writeBinFile target (← IO.FS.readBinFile source)
  isFile path := return (← attempt (IO.FS.readBinFile path)).isOk

end Folio

/-- Runs the program. -/
def main (args : List String) : IO UInt32 := do
  let reply ← Folio.CommandLine.run args
  (← IO.getStdout).putStr reply.stdout
  (← IO.getStderr).putStr reply.stderr
  return reply.exit.toUInt32
