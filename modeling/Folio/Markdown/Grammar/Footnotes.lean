import Folio.Markdown.Grammar.LinkPart
import Folio.Markdown.Node

/-!
# Footnotes

The notes that are referred to stand at the end of the text, in the order of their first reference;
the others are left out. A reference to a note that is not defined is text. Of several definitions of
one label the last one counts.
-/

namespace Folio.Markdown

/-- A definition with the key of its label. -/
structure Note where
  key : List Char
  label : String
  node : Node
  deriving Repr, Inhabited

mutual

/-- The definitions in a node, in order; those inside a definition do not count. -/
def definitionsOf : Node → List Note
  | ⟨kind, children, line, column⟩ =>
    match kind with
    | .footnoteDefinition label =>
      let shown := String.ofList (shownLabel label.toList)
      [⟨labelKey label.toList, shown, ⟨.footnoteDefinition shown, children, line, column⟩⟩]
    | _ => definitionsOfAll children

/-- The definitions in nodes, in order. -/
def definitionsOfAll : List Node → List Note
  | [] => []
  | node :: rest => definitionsOf node ++ definitionsOfAll rest

end

/-- The definition of a key. -/
def findNote (notes : List Note) (key : List Char) : Option Note :=
  notes.reverse.find? (·.key == key)

mutual

/-- The keys of the notes that a node refers to, in order. -/
def referencedKeys (notes : List Note) : Node → List (List Char)
  | ⟨kind, children, _, _⟩ =>
    match kind with
    | .footnoteReference label =>
      (findNote notes (labelKey label.toList)).toList.map (·.key)
    | _ => referencedKeysAll notes children

/-- The keys of the notes that nodes refer to, in order. -/
def referencedKeysAll (notes : List Note) : List Node → List (List Char)
  | [] => []
  | node :: rest => referencedKeys notes node ++ referencedKeysAll notes rest

end

/-- A reference with the label that the definition has; text, if there is none. -/
def resolveLabel (notes : List Note) (label : String) : Kind :=
  match findNote notes (labelKey label.toList) with
  | some note => .footnoteReference (String.ofList (shownLabel note.label.toList))
  | none => .text ("[^" ++ label ++ "]")

mutual

/-- The node with its references to notes resolved. -/
def resolveNotes (notes : List Note) : Node → Node
  | ⟨kind, children, line, column⟩ =>
    match kind with
    | .footnoteReference label => ⟨resolveLabel notes label, children, line, column⟩
    | kind => ⟨kind, resolveNotesAll notes children, line, column⟩

/-- The nodes with their references to notes resolved. -/
def resolveNotesAll (notes : List Note) : List Node → List Node
  | [] => []
  | node :: rest => resolveNotes notes node :: resolveNotesAll notes rest

end

/-- The node is the definition of a note. -/
def Node.isDefinition (node : Node) : Bool := node.kind matches .footnoteDefinition _

mutual

/-- The node without the definitions in it. -/
def dropDefinitions : Node → Node
  | ⟨kind, children, line, column⟩ => ⟨kind, dropDefinitionsAll children, line, column⟩

/-- The nodes without the definitions among them and in them. -/
def dropDefinitionsAll : List Node → List Node
  | [] => []
  | node :: rest =>
    if node.isDefinition then dropDefinitionsAll rest
    else dropDefinitions node :: dropDefinitionsAll rest

end

/-- The blocks of a text with the notes they refer to at the end. -/
def placeNotes (blocks : List Node) : List Node :=
  let defined := definitionsOfAll blocks
  let keys := (referencedKeysAll defined blocks).eraseDups
  let blocks := resolveNotesAll defined blocks
  let notes := definitionsOfAll blocks
  dropDefinitionsAll blocks ++ keys.filterMap fun key => (findNote notes key).map (·.node)

end Folio.Markdown
