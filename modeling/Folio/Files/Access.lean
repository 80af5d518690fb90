import Folio.Media.FilePath

/-!
# Access to files

What a conversion asks of the place where files are kept: to read and write them, to make
directories, and to copy. A fault says why something could not be done.
-/

namespace Folio

/-- Why an operation on a file failed. -/
inductive FileFault where
  | notFound
  | isDirectory
  | notDirectory
  | alreadyExists
  | nameTooLong
  /-- A path holds the character that ends texts in the system. -/
  | endOfText
  /-- Only a file can be copied. -/
  | irregular
  /-- Another reason, as the system words it. -/
  | system (reason : String)
  deriving DecidableEq, Repr

/-- The reason that the system gives for a fault. -/
def FileFault.message : FileFault → String
  | .notFound => "No such file or directory (os error 2)"
  | .isDirectory => "Is a directory (os error 21)"
  | .notDirectory => "Not a directory (os error 20)"
  | .alreadyExists => "File exists (os error 17)"
  | .nameTooLong => "File name too long (os error 36)"
  | .endOfText => "file name contained an unexpected NUL byte"
  | .irregular => "the source path is neither a regular file nor a symlink to a regular file"
  | .system reason => reason

/-- The content of a file. -/
abbrev Content := List UInt8

/-- The content of a file that holds a text. -/
def Content.ofText (text : String) : Content := text.toUTF8.toList

/-- A place where files are kept. -/
class FileAccess (m : Type → Type) where
  read : String → m (Except FileFault Content)
  /-- Writes a file, which need not have been there. -/
  write : String → Content → m (Except FileFault Unit)
  /-- Makes a directory with those above it, as far as they are not there. -/
  createDirectories : String → m (Except FileFault Unit)
  /-- Empties the target, then writes into it what the source holds at that moment. -/
  copy : (source target : String) → m (Except FileFault Unit)
  /-- The path leads to a file. -/
  isFile : String → m Bool

end Folio
