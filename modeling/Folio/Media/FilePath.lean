import Folio.Text.Lines

/-!
# File paths

A path is a text whose parts stand between slashes. Empty parts and dots say nothing, but for the
dot in front of a relative path; a path that begins with a slash is absolute. Paths are compared and
related by their components, and joined as texts.

* `join_of_absolute`: an absolute path stays itself whatever it is joined onto.
-/

namespace Folio.FilePath

/-- One step of a path. -/
inductive Component where
  /-- The root of the file system. -/
  | root
  /-- The dot in front of a relative path. -/
  | current
  | parent
  | name (name : List Char)
  deriving DecidableEq, Repr

/-- The text of a component. -/
def Component.text : Component → List Char
  | .root => ['/']
  | .current => ['.']
  | .parent => ['.', '.']
  | .name n => n

/-- The path begins at the root. -/
def isAbsolute (path : List Char) : Bool := path.head? == some '/'

/-- The components that the parts between slashes stand for. -/
def componentsOfParts (parts : List (List Char)) : List Component :=
  parts.filterMap fun part =>
    if part = [] ∨ part = ['.'] then none
    else if part = ['.', '.'] then some .parent
    else some (.name part)

/-- The components of a path. -/
def components (path : List Char) : List Component :=
  let parts := Text.splitOn '/' path
  if isAbsolute path then .root :: componentsOfParts parts
  else if parts.head? = some ['.'] then .current :: componentsOfParts parts
  else componentsOfParts parts

/-- One path followed by another: an absolute path stays itself. -/
def join (base path : List Char) : List Char :=
  if isAbsolute path then path
  else
    match base.getLast? with
    | none => path
    | some '/' => base ++ path
    | some _ => base ++ '/' :: path

/-- The path of a row of components. -/
def ofComponents (cs : List Component) : List Char :=
  cs.foldl (fun path c => join path c.text) []

/-- The last component, when it is a name. -/
def fileName (path : List Char) : Option (List Char) :=
  match (components path).getLast? with
  | some (.name n) => some n
  | _ => none

/-- A file name cut at its last dot, which may not come first. -/
def cutExtension (name : List Char) : List Char × Option (List Char) :=
  let after := name.reverse.takeWhile (· != '.')
  match name.reverse.dropWhile (· != '.') with
  | '.' :: before@(_ :: _) => (before.reverse, some after.reverse)
  | _ => (name, none)

/-- The file name without its extension. -/
def stem (path : List Char) : Option (List Char) := (fileName path).map fun n => (cutExtension n).1

/-- What follows the last dot of the file name. -/
def extension (path : List Char) : Option (List Char) :=
  (fileName path).bind fun n => (cutExtension n).2

/-- The part stands for no component. -/
def isEmptyPart (part : List Char) : Bool := part = [] || part = ['.']

/-- The parts of a relative path, last one first, without those at its end that stand for no
component. A dot in front is a component. -/
def dropEmptyParts : List (List Char) → List (List Char)
  | [] => []
  | [first] => if first = [] then [] else [first]
  | part :: rest => if isEmptyPart part then dropEmptyParts rest else part :: rest

/-- The path without its last component, the rest as it is written; the root and the empty path
have none. -/
def parent (path : List Char) : Option (List Char) :=
  match path with
  | '/' :: path =>
    match (Text.splitOn '/' path).reverse.dropWhile isEmptyPart with
    | [] => none
    | _ :: rest => some ('/' :: Text.join ['/'] (rest.dropWhile isEmptyPart).reverse)
  | _ =>
    match dropEmptyParts (Text.splitOn '/' path).reverse with
    | [] => none
    | _ :: rest => some (Text.join ['/'] (dropEmptyParts rest).reverse)

/-- The path can only be that of a directory: it ends in a slash, or in a dot after one. -/
def endsInSlash (path : List Char) : Bool :=
  match (Text.splitOn '/' path).reverse with
  | part :: _ :: _ => isEmptyPart part
  | _ => false

/-- The steps from the components of a base to those of a path, when they can be told: past the
first difference every step of the base is undone, which a step up in the base forbids. -/
def relativeSteps : (started : Bool) → (path base : List Component) → Option (List Component)
  | _, [], [] => some []
  | _, path@(_ :: _), [] => some path
  | _, [], _ :: base => (relativeSteps true [] base).map (.parent :: ·)
  | started, a :: path, b :: base =>
    if !started && a == b then relativeSteps false path base
    else if b = .current then (relativeSteps true path base).map (a :: ·)
    else if b = .parent then none
    else some (.parent :: base.map (fun _ => .parent) ++ a :: path)

/-- The path as seen from a directory, when it can be told. -/
def relativeTo (path base : List Char) : Option (List Char) :=
  if isAbsolute path != isAbsolute base then
    if isAbsolute path then some path else none
  else (relativeSteps false (components path) (components base)).map ofComponents

/-- The path with slashes in place of backslashes. -/
def forwardSlashes (path : List Char) : List Char :=
  path.map fun c => if c = '\\' then '/' else c

theorem join_of_absolute {base path : List Char} (h : isAbsolute path = true) :
    join base path = path := if_pos h

end Folio.FilePath
