import Folio.Document.Paragraph
import Folio.Text.Lines
import Folio.Text.Quoted

/-!
# Markdown trees

A Markdown text as a tree of blocks and inlines. Constructs that no document can hold are kept as
nodes of their own kind, so that diagnostics can point at them.

The text of a tree is that of its leaves; a break is a space, and neighbouring blocks are set apart
by a line feed.
-/

namespace Folio.Markdown

/-- What a node is. -/
inductive Kind where
  | document
  /-- A metadata block, delimiters included. -/
  | frontMatter (raw : String)
  | heading (level : Nat)
  | paragraph
  | list (ordered : Bool) (start : Nat)
  | listItem
  | blockquote
  /-- Indented code. -/
  | codeBlock (info : String) (lines : List String)
  | fencedCodeBlock (info : String) (lines : List String)
  | thematicBreak
  | text (content : String)
  | softBreak
  | lineBreak
  | codeSpan (content : String)
  /-- Emphasis of level one, strong emphasis of level two. -/
  | emphasis (level : Nat)
  | strikethrough
  | link (destination title : String)
  | image (destination title : String)
  /-- A table with the alignments of its columns, as far as they are given. -/
  | table (alignments : List (Option Alignment))
  | tableRow (header : Bool)
  | tableCell
  | taskCheckBox (checked : Bool)
  /-- A displayed formula. -/
  | mathBlock (lines : List String)
  | inlineMath (source : String)
  | footnoteReference (label : String)
  | footnoteDefinition (label : String)
  /-- Anything else, with the name it has in diagnostics. -/
  | unsupported (name : String)
  deriving DecidableEq, Repr, Inhabited

/-- A node of a Markdown tree with its place in the source. -/
structure Node where
  kind : Kind
  children : List Node := []
  line : Nat := 0
  column : Nat := 0
  deriving Repr, Inhabited

/-- The kinds that stand inside a line of text. -/
def Kind.isInline : Kind → Bool
  | .text _ | .softBreak | .lineBreak | .codeSpan _ | .emphasis _ | .strikethrough | .link _ _
  | .image _ _ | .inlineMath _ | .footnoteReference _ => true
  | _ => false

/-- The node stands inside a line of text. -/
def Node.isInline (node : Node) : Bool := node.kind.isInline

/-- The text of a leaf; `none` for a node whose text is that of its children. -/
def Kind.ownText : Kind → Option (List Char)
  | .text content | .codeSpan content | .inlineMath content => some content.toList
  | .softBreak | .lineBreak => some [' ']
  | .codeBlock _ lines | .fencedCodeBlock _ lines | .mathBlock lines =>
    some (Text.unlines (lines.map String.toList))
  | .taskCheckBox _ | .footnoteReference _ => some []
  | _ => none

mutual

/-- The characters of a node's text. -/
def Node.textChars : Node → List Char
  | ⟨kind, children, _, _⟩ =>
    match kind.ownText with
    | some text => text
    | none => textOfAll true children

/-- The text of nodes in a row; a line feed stands before every block but the first. -/
def textOfAll (first : Bool) : List Node → List Char
  | [] => []
  | node :: rest =>
    if node.kind.isInline then node.textChars ++ textOfAll first rest
    else (if first then [] else ['\n']) ++ node.textChars ++ textOfAll false rest

end

/-- The text of a node. -/
def Node.textContent (node : Node) : String := String.ofList node.textChars

/-! ## Names in diagnostics -/

/-- A list in square brackets. -/
def showList (items : List String) : String := "[" ++ String.intercalate ", " items ++ "]"

/-- The name of an alignment in a diagnostic. -/
def showAlignment : Option Alignment → String
  | none => "None"
  | some .left => "Some(Left)"
  | some .center => "Some(Center)"
  | some .right => "Some(Right)"
  | some .justify => "Some(Justify)"

/-- A name with fields in braces. -/
def showFields (name : String) (fields : List (String × String)) : String :=
  name ++ " \x7b " ++ String.intercalate ", " (fields.map fun (k, v) => k ++ ": " ++ v) ++ " \x7d"

/-- A flag in words. -/
def showFlag (b : Bool) : String := if b then "true" else "false"

/-- A kind with all it holds, as diagnostics name it. -/
def Kind.show : Kind → String
  | .document => "Document"
  | .frontMatter raw => "FrontMatter(" ++ Text.quote raw ++ ")"
  | .heading level => "Heading(" ++ level.repr ++ ")"
  | .paragraph => "Paragraph"
  | .list ordered start =>
    showFields "List" [("ordered", showFlag ordered), ("start", start.repr)]
  | .listItem => "ListItem"
  | .blockquote => "Blockquote"
  | .codeBlock info lines =>
    showFields "CodeBlock" [("info", Text.quote info), ("lines", showList (lines.map Text.quote))]
  | .fencedCodeBlock info lines =>
    showFields "FencedCodeBlock"
      [("info", Text.quote info), ("lines", showList (lines.map Text.quote))]
  | .thematicBreak => "ThematicBreak"
  | .text content => "Text(" ++ Text.quote content ++ ")"
  | .softBreak => "SoftBreak"
  | .lineBreak => "LineBreak"
  | .codeSpan content => "CodeSpan(" ++ Text.quote content ++ ")"
  | .emphasis level => "Emphasis(" ++ level.repr ++ ")"
  | .strikethrough => "Strikethrough"
  | .link destination title =>
    showFields "Link" [("destination", Text.quote destination), ("title", Text.quote title)]
  | .image destination title =>
    showFields "Image" [("destination", Text.quote destination), ("title", Text.quote title)]
  | .table alignments =>
    showFields "Table" [("alignments", showList (alignments.map showAlignment))]
  | .tableRow header => showFields "TableRow" [("header", showFlag header)]
  | .tableCell => "TableCell"
  | .taskCheckBox checked => "TaskCheckBox(" ++ showFlag checked ++ ")"
  | .mathBlock lines => "MathBlock(" ++ showList (lines.map Text.quote) ++ ")"
  | .inlineMath source => "InlineMath(" ++ Text.quote source ++ ")"
  | .footnoteReference label => "FootnoteReference(" ++ Text.quote label ++ ")"
  | .footnoteDefinition label => "FootnoteDefinition(" ++ Text.quote label ++ ")"
  | .unsupported name => "Unsupported(" ++ Text.quote name ++ ")"

/-- What a diagnostic says about a node that has no counterpart where it stands. -/
def Kind.describe : Kind → String
  | .unsupported name => name
  | .tableRow _ => "table row outside a table"
  | .tableCell => "table cell outside a table"
  | kind => kind.show ++ " in this position"

end Folio.Markdown
