import Folio.Markdown.Grammar.LinkPart

/-!
# Link reference definitions

A definition gives a label a destination and a title. Definitions stand at the beginning of a
paragraph; the first one of a label counts.

* `takeDefinitions`: the definitions at the beginning of a text, and the text after them.
-/

namespace Folio.Markdown

/-- Where a label leads to. -/
structure Target where
  destination : String
  title : String
  deriving DecidableEq, Repr, Inhabited

/-- The definitions of a text by the keys of their labels. -/
structure References where
  entries : List (List Char × Target) := []
  deriving Repr, Inhabited

/-- The bytes that a reference to the target adds to the text. -/
def Target.size (target : Target) : Nat :=
  target.destination.utf8ByteSize + target.title.utf8ByteSize

/-- What a label refers to. -/
def References.lookup (references : References) (label : List Char) : Option Target :=
  references.entries.lookup (labelKey label)

/-- What a label refers to and the budget that is left, if references may add as many bytes to the
text as the budget says. -/
def References.spend? (references : References) (budget : Nat) (label : List Char) :
    Option (Target × Nat) :=
  match references.lookup label with
  | some target => if target.size ≤ budget then some (target, budget - target.size) else none
  | none => none

/-- The definitions with one more, unless its label is empty or has a definition already. -/
def References.add (references : References) (label : List Char) (target : Target) : References :=
  if (labelKey label).isEmpty || (references.lookup label).isSome then references
  else ⟨references.entries ++ [(labelKey label, target)]⟩

/-- The text after spaces and tabs, one line feed among them at most. -/
def skipLineGap (cs : List Char) : List Char :=
  match cs.dropWhile isTabOrSpace with
  | '\n' :: rest => rest.dropWhile isTabOrSpace
  | rest => rest

/-- The text after the end of a line, if nothing but blanks stand before it. -/
def lineEnd? (cs : List Char) : Option (List Char) :=
  match cs.dropWhile isTabOrSpace with
  | [] => some []
  | '\n' :: rest => some rest
  | _ => none

/-- The title of a definition and the text after its line. A title that does not end its line is read
again as text, if a line of its own holds it. -/
def definitionTitle? (cs : List Char) : Option (List Char × List Char) :=
  let spaced := skipLineGap cs
  match if spaced.length = cs.length then none else title? spaced with
  | some (title, rest) => (lineEnd? rest <|> lineEnd? cs).map fun rest => (title, rest)
  | none => (lineEnd? cs).map fun rest => ([], rest)

/-- The definition that a text begins with: its label, its target and the text after it. -/
def definition? (cs : List Char) : Option (List Char × Target × List Char) := do
  let (label, rest) ← label? cs
  guard !label.isEmpty
  match rest with
  | ':' :: rest =>
    let (destination, rest) ← destination? (skipLineGap rest)
    let (title, rest) ← definitionTitle? rest
    some (label, ⟨cleanDestination destination, cleanTitle title⟩, rest)
  | _ => none

/-- The references with the definitions that a text begins with, and the text after them. -/
def takeDefinitions (references : References) (cs : List Char) : References × List Char :=
  match definition? cs with
  | some (label, target, rest) =>
    if rest.length < cs.length then takeDefinitions (references.add label target) rest
    else (references, cs)
  | none => (references, cs)
  termination_by cs.length

end Folio.Markdown
