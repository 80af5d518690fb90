import Folio.Media.FilePath
import Folio.Media.Url

/-!
# Image sources

An image is named by a path or by a URL. Remote images stay where they are; local ones may be
resolved against a directory, and are given a file name of their own when they are extracted.
-/

namespace Folio.Media

/-- The source names a remote resource. A scheme of one letter is a drive, and files are local. -/
def isRemote (source : List Char) : Bool :=
  match Url.parse? source with
  | some url => decide (1 < url.scheme.length) && url.scheme != "file".toList
  | none => false

/-- The path of a file URL. -/
def filePath? (source : List Char) : Option (List Char) := do
  let url ← Url.parse? source
  if url.scheme = "file".toList then url.toFilePath else none

/-- Where an image is found: remote sources stay as they are, file URLs become paths, and relative
paths are joined onto the base. -/
def resolve (source : List Char) (base : Option (List Char)) : List Char :=
  if isRemote source then source
  else
    match filePath? source with
    | some path => FilePath.forwardSlashes path
    | none =>
      match base with
      | some base =>
        if FilePath.isAbsolute source then source
        else FilePath.forwardSlashes (FilePath.join base source)
      | none => source

/-- The file name that a source ends in. -/
def sourceName (source : List Char) : List Char :=
  if isRemote source then ((Url.parse? source).bind Url.lastSegment).getD []
  else (FilePath.fileName source).getD []

/-- The name without extension that an extracted image takes from its source. -/
def sourceStem (number : Nat) (source : List Char) : List Char :=
  match FilePath.stem (sourceName source) with
  | some stem => if stem.isEmpty then "image".toList ++ number.repr.toList else stem
  | none => "image".toList ++ number.repr.toList

/-- The extension that an extracted image takes from its source. -/
def sourceExtension (source : List Char) : List Char :=
  (FilePath.extension (sourceName source)).getD "png".toList

/-- The file name of an extracted image: the pattern with its number, stem and extension put in, in
this order. -/
def extractedName (number : Nat) (source pattern : List Char) : List Char :=
  let withNumber := Text.replace "\x7bn\x7d".toList number.repr.toList pattern
  let withStem := Text.replace "\x7bstem\x7d".toList (sourceStem number source) withNumber
  Text.replace "\x7bext\x7d".toList (sourceExtension source) withStem

/-- Where an extracted image is stored. -/
def extractionTarget (dir : List Char) (number : Nat) (source pattern : List Char) : List Char :=
  FilePath.join dir (extractedName number source pattern)

/-- The text of a link to a file, as seen from a directory. -/
def linkPath (target : List Char) (base : Option (List Char)) : List Char :=
  let path := match base with
    | some base => (FilePath.relativeTo target base).getD target
    | none => target
  FilePath.forwardSlashes path

end Folio.Media
