import Folio.Markdown.Grammar.Definition
import Folio.Markdown.Grammar.Html
import Folio.Markdown.Grammar.Marker
import Folio.Markdown.Grammar.TableRow
import Folio.Markdown.Node

/-!
# Blocks

The blocks of a text are found line by line. Blocks that more lines may belong to are open; the open
blocks form a row from the document down to the innermost one, each of which is the last child of
the one above it. Closing a block makes it a finished part of the block above.

* `OpenBlock.finish`: what becomes of a block that is closed.
-/

namespace Folio.Markdown

/-- Text whose inlines are still to be read. -/
structure RawText where
  chars : List Char
  /-- For each source line of the text the bytes that stand before its part of the text. -/
  offsets : List Nat
  deriving Repr, Inhabited

/-- A finished block. -/
inductive Block where
  | parent (kind : Kind) (line column : Nat) (children : List Block)
  | text (kind : Kind) (line column : Nat) (content : RawText)
  deriving Inhabited

/-- What an open block is. -/
inductive BlockForm where
  | document
  | blockquote
  | list (mark : ListMark) (start : Nat)
  /-- An item whose text is indented by a number of columns. -/
  | item (width : Nat)
  | footnote (label : List Char)
  /-- A paragraph; its last line is known to be no table head, or that is still open. -/
  | paragraph (noTable : Bool)
  | indentedCode
  /-- Code after a fence that is indented by a number of blanks. -/
  | fencedCode (fence : Fence) (indent : Nat)
  | html (stop : Html.BlockEnd)
  | table (alignments : List (Option Alignment))
  deriving Repr, Inhabited

/-- A block that is open. -/
structure OpenBlock where
  form : BlockForm
  line : Nat
  column : Nat
  /-- The finished blocks in it, newest first. -/
  children : List Block := []
  /-- The lines of its text, newest first. -/
  lines : List TextLine := []
  /-- The bytes that stand before each line that its text has lost to definitions, newest first. -/
  lost : List Nat := []
  deriving Inhabited

/-- The block may hold others of the given form. -/
def BlockForm.holds (form : BlockForm) (isItem : Bool) : Bool :=
  match form with
  | .document | .blockquote | .item _ | .footnote _ => !isItem
  | .list _ _ => isItem
  | _ => false

/-- The lines of a text in a row, each with a line feed after it. -/
def joinLines (lines : List TextLine) : List Char := lines.flatMap fun line => line.text ++ ['\n']

/-- Lines of code without the blank ones at the end. -/
def dropBlankLines (lines : List (List Char)) : List (List Char) :=
  (lines.reverse.dropWhile (·.all isTabOrSpace)).reverse

/-- Code after a fence: what follows the opening fence says what it is; code that is mathematics is
displayed as such. -/
def fencedKind (info : List Char) (lines : List (List Char)) : Kind :=
  let info := Text.trim (unescapeMarks (trimSpace (decodeReferences info)))
  let lines := if lines.isEmpty then [""] else lines.map String.ofList
  if info = "math".toList then .mathBlock lines else .fencedCodeBlock (String.ofList info) lines

namespace OpenBlock

/-- A block that has just been opened. -/
def empty (form : BlockForm) (line column : Nat) : OpenBlock := { form, line, column }

/-- The text of the block, first line first. -/
def textLines (block : OpenBlock) : List TextLine := block.lines.reverse

/-- The bytes that stand before each line of the block, first line first. Lines that have become
definitions keep their place, so that text after them is placed by the lines it began with. -/
def offsets (block : OpenBlock) : List Nat :=
  block.lost.reverse ++ block.textLines.map (·.offset)

/-- What the block is once it is closed, and the references with the definitions in it. A paragraph
of nothing but definitions leaves no block behind. -/
def finish (references : References) (block : OpenBlock) : Option Block × References :=
  let parent (kind : Kind) : Option Block × References :=
    (some (.parent kind block.line block.column block.children.reverse), references)
  let code := block.textLines.map (·.text)
  match block.form with
  | .document => parent .document
  | .blockquote => parent .blockquote
  | .list mark start => parent (.list (mark matches .number _) start)
  | .item _ => parent .listItem
  | .footnote label => parent (.footnoteDefinition (String.ofList label))
  | .paragraph _ =>
    let (references, chars) := takeDefinitions references (joinLines block.textLines)
    if chars.all Char.isWhitespace then (none, references)
    else (some (.text .paragraph block.line block.column ⟨chars, block.offsets⟩), references)
  | .indentedCode => parent (.codeBlock "" ((dropBlankLines code).map String.ofList))
  | .fencedCode _ _ => parent (fencedKind (code.headD []) (code.drop 1))
  | .html _ => parent (.unsupported "html block")
  | .table alignments => parent (.table alignments)

/-- The block with one more finished block in it. -/
def push (block : OpenBlock) (child : Block) : OpenBlock :=
  { block with children := child :: block.children }

/-- The block with one more line of text. -/
def addLine (block : OpenBlock) (line : TextLine) : OpenBlock :=
  { block with lines := line :: block.lines }

end OpenBlock

/-- The open blocks, innermost first, and the definitions found so far. -/
structure Spine where
  blocks : List OpenBlock
  references : References := {}
  deriving Inhabited

namespace Spine

/-- The innermost open block. -/
def inner? (spine : Spine) : Option OpenBlock := spine.blocks.head?

/-- The row with its innermost block changed. -/
def modifyInner (spine : Spine) (change : OpenBlock → OpenBlock) : Spine :=
  match spine.blocks with
  | block :: rest => { spine with blocks := change block :: rest }
  | [] => spine

/-- The row with a finished block in its innermost open one. -/
def pushBlock (spine : Spine) (child : Block) : Spine := spine.modifyInner (·.push child)

/-- The row without its innermost block, which is finished; the outermost block stays. -/
def closeInner (spine : Spine) : Spine :=
  match spine.blocks with
  | block :: above :: rest =>
    let (child, references) := block.finish spine.references
    let above := match child with
      | some child => above.push child
      | none => above
    ⟨above :: rest, references⟩
  | _ => spine

/-- The row after closing as many inner blocks as given. -/
def close : Nat → Spine → Spine
  | 0, spine => spine
  | n + 1, spine => close n spine.closeInner

/-- How many inner blocks have to be closed before the row can take a block. -/
def obstacles (isItem : Bool) (blocks : List OpenBlock) : Nat :=
  (blocks.takeWhile fun block => !block.form.holds isItem).length

/-- The row after closing the blocks that cannot hold a new one. -/
def makeRoom (isItem : Bool) (spine : Spine) : Spine :=
  spine.close (obstacles isItem spine.blocks)

/-- The row with a new innermost block. -/
def openBlock (spine : Spine) (block : OpenBlock) : Spine :=
  let spine := spine.makeRoom (block.form matches .item _)
  { spine with blocks := block :: spine.blocks }

/-- The row with a new block that is finished already. -/
def addBlock (spine : Spine) (block : Block) : Spine := (spine.makeRoom false).pushBlock block

end Spine

end Folio.Markdown
