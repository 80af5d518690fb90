import Folio.Files.Access

/-!
# Trees of files

A tree holds files and directories by the names that lead to them. Paths are followed step by step:
a step that is not the last has to lead to a directory, and a path that ends in a slash leads to a
directory as well. The tree's own directory is where relative paths begin; nothing outside it is
known.

* `find?_put`: what is put into a tree is found there;
* `find?_put_of_ne`: everything else stays as it was.
-/

namespace Folio

/-- A name within a directory. -/
abbrev Name := List Char

/-- What a name leads to. -/
inductive TreeEntry where
  | file (content : Content)
  | directory
  deriving DecidableEq, Repr

/-- Files and directories by the names that lead to them. -/
structure FileTree where
  entries : List (List Name × TreeEntry) := []
  deriving Repr, Inhabited

namespace FileTree

/-- What the names lead to; without names it is the tree's own directory. -/
def find? (tree : FileTree) (names : List Name) : Option TreeEntry :=
  if names = [] then some .directory else tree.entries.lookup names

/-- The tree with another entry where the names lead. -/
def put (tree : FileTree) (names : List Name) (entry : TreeEntry) : FileTree where
  entries := (names, entry) :: tree.entries.filter (·.1 != names)

theorem find?_put (tree : FileTree) {names : List Name} (entry : TreeEntry) (h : names ≠ []) :
    (tree.put names entry).find? names = some entry := by
  simp [find?, put, h]

theorem lookup_filter_ne {names other : List Name} (h : other ≠ names)
    (entries : List (List Name × TreeEntry)) :
    (entries.filter (·.1 != names)).lookup other = entries.lookup other := by
  induction entries with
  | nil => rfl
  | cons e es ih =>
    obtain ⟨key, entry⟩ := e
    by_cases hk : key = names
    · subst hk
      have : (other == key) = false := by simpa using h
      simpa [List.lookup_cons, this] using ih
    · have : (key != names) = true := by simpa using hk
      simp [this, List.lookup_cons, ih]

theorem find?_put_of_ne (tree : FileTree) {names other : List Name} (entry : TreeEntry)
    (h : other ≠ names) : (tree.put names entry).find? other = tree.find? other := by
  have hb : (other == names) = false := by simpa using h
  simp only [find?, put, List.lookup_cons, hb]
  split
  · rfl
  · exact lookup_filter_ne h tree.entries

/-- Where a path leads. -/
inductive Place where
  | file (names : List Name) (content : Content)
  | directory (names : List Name)
  /-- Nothing is there, but the directory that it would be in. -/
  | vacant (names : List Name)
  deriving DecidableEq, Repr

/-- A name is at most so many bytes long. -/
def maxNameBytes : Nat := 255

/-- The place that steps lead to from a directory. -/
def follow (tree : FileTree) (names : List Name) :
    List FilePath.Component → Except FileFault Place
  | [] => .ok (.directory names)
  | .root :: _ => .error .notFound
  | .current :: rest => tree.follow names rest
  | .parent :: rest =>
    if names = [] then .error .notFound else tree.follow names.dropLast rest
  | .name name :: rest =>
    if maxNameBytes < (String.ofList name).utf8ByteSize then .error .nameTooLong
    else
      let names := names ++ [name]
      match tree.find? names with
      | some .directory => tree.follow names rest
      | some (.file content) => if rest.isEmpty then .ok (.file names content) else .error .notDirectory
      | none => if rest.isEmpty then .ok (.vacant names) else .error .notFound

/-- The place that a path leads to. -/
def locate (tree : FileTree) (path : List Char) : Except FileFault Place :=
  if path = [] then .error .notFound
  else if path.contains '\x00' then .error .endOfText
  else tree.follow [] (FilePath.components path)

/-- What a file holds. -/
def read (tree : FileTree) (path : List Char) : Except FileFault Content := do
  match ← tree.locate path with
  | .file _ content => if FilePath.endsInSlash path then .error .notDirectory else .ok content
  | .directory _ => .error .isDirectory
  | .vacant _ => .error .notFound

/-- The tree after a file has been written. -/
def write (tree : FileTree) (path : List Char) (content : Content) :
    Except FileFault FileTree := do
  match ← tree.locate path with
  | .file names _ =>
    if FilePath.endsInSlash path then .error .notDirectory else .ok (tree.put names (.file content))
  | .directory _ => .error .isDirectory
  | .vacant names =>
    if FilePath.endsInSlash path then .error .isDirectory else .ok (tree.put names (.file content))

/-- The tree after a directory has been made, if it is not there yet. -/
def makeDirectory (tree : FileTree) (steps : List FilePath.Component) :
    Except FileFault FileTree := do
  match ← tree.follow [] steps with
  | .file _ _ => .error .alreadyExists
  | .directory _ => .ok tree
  | .vacant names => .ok (tree.put names .directory)

/-- The tree after a directory has been made with those above it, whose steps are given last one
first. -/
def makeDirectories (tree : FileTree) : List FilePath.Component → Except FileFault FileTree
  | [] => .ok tree
  | step :: above =>
    match tree.makeDirectory (step :: above).reverse with
    | .error .notFound => do
      let tree ← tree.makeDirectories above
      tree.makeDirectory (step :: above).reverse
    | outcome => outcome

/-- The tree after a directory has been made with those above it. -/
def createDirectories (tree : FileTree) (path : List Char) : Except FileFault FileTree :=
  if path.contains '\x00' then .error .endOfText
  else tree.makeDirectories (FilePath.components path).reverse

/-- The tree after a file has been copied: the target is emptied before the source is read. -/
def copy (tree : FileTree) (source target : List Char) : Except FileFault FileTree := do
  match ← tree.locate source with
  | .file _ _ =>
    let _ ← tree.read source
    let emptied ← tree.write target []
    let content ← emptied.read source
    emptied.write target content
  | .directory _ => .error .irregular
  | .vacant _ => .error .notFound

/-- The path leads to a file. -/
def isFile (tree : FileTree) (path : List Char) : Bool := (tree.read path).isOk

/-- The tree of some files, with the directories that they are in. -/
def ofFiles (files : List (String × Content)) : FileTree :=
  files.foldl (fun tree (path, content) =>
    let names := Text.splitOn '/' path.toList
    let above := (List.range names.length).tail.map names.take
    let tree := above.foldl (fun tree names => tree.put names .directory) tree
    tree.put names (.file content)) {}

/-- The files of a tree with their paths. -/
def files (tree : FileTree) : List (String × Content) :=
  tree.entries.filterMap fun
    | (names, .file content) => some (String.ofList (Text.join ['/'] names), content)
    | (_, .directory) => none

/-- Changes a tree unless there is a fault. -/
def update (change : FileTree → Except FileFault FileTree) :
    StateM FileTree (Except FileFault Unit) := do
  match change (← get) with
  | .ok tree => set tree; return .ok ()
  | .error fault => return .error fault

instance : FileAccess (StateM FileTree) where
  read path := return (← get).read path.toList
  write path content := update (·.write path.toList content)
  createDirectories path := update (·.createDirectories path.toList)
  copy source target := update (·.copy source.toList target.toList)
  isFile path := return (← get).isFile path.toList

end FileTree
end Folio
