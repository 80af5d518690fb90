import Folio.Markdown.Grammar.Block
import Folio.Settings

/-!
# Where blocks begin

A line may begin one block inside another. `BlockStart.ofLine?` says which block begins at the place
that a line has been read to; `BlockStart.apply` opens it and says how far the line is read then, or
that nothing of it is left.
-/

namespace Folio.Markdown

/-- A block that begins on a line. -/
inductive BlockStart where
  | blockquote
  | heading (level : Nat)
  | fencedCode (fence : Fence)
  | html (stop : Html.BlockEnd)
  /-- The paragraph before the line is a heading. -/
  | underline (level : Nat)
  | thematicBreak
  | footnote (label : List Char) (length : Nat)
  | item (mark : ItemMark)
  | indentedCode
  /-- The last line of the paragraph before the line may be the head of a table. -/
  | tableHead (alignments : List (Option Alignment))
  | tableRow (alignments : List (Option Alignment))
  deriving Repr

/-- Indentation by this many columns makes code. -/
def codeIndent : Nat := 4

/-- How many blocks a line may begin before no list or footnote begins any more. -/
def maxDepth : Nat := 100

/-- The block of a given container that begins at the text of a line. A line that may belong to a
paragraph begins no indented code. -/
def BlockStart.ofLine? (features : Features) (depth : Nat) (container : BlockForm)
    (afterParagraph : Bool) (line : Line) : Option BlockStart :=
  let text := line.text
  let inParagraph := container matches .paragraph _
  if codeIndent ≤ line.indent then
    if afterParagraph || line.isBlank then none else some .indentedCode
  else if text.head? = some '>' then some .blockquote
  else
    ((headingLevel? text).map .heading)
    <|> ((Fence.ofLine? text).map .fencedCode)
    <|> ((Html.blockEnd? inParagraph text).map .html)
    <|> (if inParagraph then (underlineLevel? text).map .underline else none)
    <|> (if isThematicBreak text then some .thematicBreak else none)
    <|> (if features.footnotes ∧ depth < maxDepth then
          (footnoteMark? text).map fun (label, length) => .footnote label length
        else none)
    <|> (if depth < maxDepth then (ItemMark.ofLine? inParagraph text).map .item else none)
    <|> (if features.gfm ∧ features.tables then
          match container with
          | .paragraph false => (columnAlignments? text).map .tableHead
          | .table alignments => if line.isBlank then none else some (.tableRow alignments)
          | _ => none
        else none)

/-- What remains of a line when a block has begun on it. -/
inductive Remaining where
  /-- The line is used up. -/
  | nothing (spine : Spine)
  /-- Other blocks may begin inside the new one. -/
  | more (spine : Spine) (line : Line)
  /-- The line belongs to the innermost block after all. -/
  | plain (spine : Spine)

/-! ## Lists -/

/-- The columns that an item's text is indented by beyond its mark, and the line from the text on. A
first line without text, or with code, has its text one column after the mark. -/
def itemPadding (line : Line) : Nat × Line :=
  let width := min line.indent 6
  if 1 ≤ width ∧ width < 5 ∧ !(line.skipColumns width).rest.isEmpty then
    (width, line.skipColumns width)
  else (1, line.skipBlank)

/-- The list that holds an item of the given mark is innermost. -/
def Spine.inList (spine : Spine) (mark : ListMark) : Bool :=
  match spine.inner? with
  | some block => match block.form with
    | .list other _ => other = mark
    | _ => false
  | none => false

/-- An item begins, and a list around it unless the innermost block is a list of its kind. -/
def Spine.openItem (spine : Spine) (number : Nat) (mark : ItemMark) (line : Line) : Spine × Line :=
  let column := line.textOffset + 1
  let spine :=
    if spine.inList mark.mark then spine
    else spine.openBlock (.empty (.list mark.mark mark.start) number column)
  let (padding, after) := itemPadding (line.skipBlanks.skip mark.length)
  let width := line.indent + mark.length + padding
  (spine.openBlock (.empty (.item width) number column), after)

/-! ## Headings under their text -/

/-- The paragraph becomes a heading, unless it consists of definitions alone; then the line is its
text. -/
def Spine.underlineParagraph (spine : Spine) (level : Nat) (line : Line) : Remaining :=
  match spine.blocks with
  | block :: above =>
    let lines := block.textLines
    let (references, chars) := takeDefinitions spine.references (joinLines lines)
    if chars.all Char.isWhitespace then
      let lost := block.lines.map (·.offset) ++ block.lost
      let block := { block with lines := [line.skipBlanks.remainder], lost }
      .nothing ⟨block :: above, references⟩
    else
      let content : RawText := ⟨chars, block.offsets⟩
      let heading : Block := .text (.heading level) block.line block.column content
      .nothing (Spine.pushBlock ⟨above, references⟩ heading)
  | [] => .nothing spine

/-! ## Tables -/

/-- A row of a table whose cells stand on the given source line. -/
def rowBlock (header : Bool) (number column : Nat) (cells : List CellText) : Block :=
  .parent (.tableRow header) number column (cells.map fun cell =>
    .text .tableCell number (column + cell.start)
      ⟨cell.text, [column + cell.start + cell.indent - 1]⟩)

/-- The row below the head of a table: as many cells as there are columns, empty ones at the end if
need be. -/
def bodyRow (number column columns : Nat) (cells : List CellText) : Block :=
  let given := cells.take columns
  let last := column + (given.getLast?.map (·.stop)).getD 0
  match rowBlock false number column given with
  | .parent kind line column children =>
    .parent kind line column (children ++
      List.replicate (columns - given.length) (.parent .tableCell number last []))
  | row => row

/-- The last line of the paragraph becomes the head of a table, unless it has another number of
cells; the lines before it stay a paragraph. -/
def Spine.openTable (spine : Spine) (alignments : List (Option Alignment)) : Remaining :=
  match spine.blocks with
  | block :: above =>
    match block.lines with
    | head :: earlier =>
      let cells := rowCells head.text
      if cells.length ≠ alignments.length then
        .plain { spine with blocks := { block with form := .paragraph true } :: above }
      else
        let number := block.line + earlier.length
        let before : List Block :=
          if earlier.isEmpty then []
          else
            let content : RawText :=
              ⟨trimSpace (unescapeBars (joinLines earlier.reverse)), block.offsets.take earlier.length⟩
            [.text .paragraph block.line block.column content]
        let spine := before.foldl Spine.pushBlock { spine with blocks := above }
        let head := rowBlock true number block.column cells
        .nothing (spine.openBlock (.push (.empty (.table alignments) number block.column) head))
    | [] => .plain spine
  | [] => .plain spine

/-- A block begins on a source line; the row holds no block any more that the line does not belong
to. -/
def BlockStart.apply (start : BlockStart) (number : Nat) (spine : Spine) (line : Line) :
    Remaining :=
  let column := line.textOffset + 1
  let text := line.skipBlanks
  match start with
  | .blockquote =>
    .more (spine.openBlock (.empty .blockquote number column)) (text.skip 1).skipBlank
  | .heading level =>
    let mark := text.skip level
    let content := Line.skipBlanks { mark with rest := dropClosingHashes mark.rest }
    .nothing (spine.addBlock
      (.text (.heading level) number column ⟨content.rest, [content.offset]⟩))
  | .fencedCode fence =>
    let blanks := line.textOffset - line.offset
    let block := OpenBlock.empty (.fencedCode fence blanks) number column
    .nothing (spine.openBlock (block.addLine (text.skip fence.length).remainder))
  | .html stop =>
    let block := OpenBlock.empty (.html stop) number column
    let spine := spine.openBlock (block.addLine line.remainder)
    .nothing (if stop.endsWith text.rest then spine.closeInner else spine)
  | .underline level => spine.underlineParagraph level line
  | .thematicBreak => .nothing (spine.addBlock (.parent .thematicBreak number column []))
  | .footnote label length =>
    .more (spine.openBlock (.empty (.footnote label) number column)) (text.skip length)
  | .item mark =>
    let (spine, line) := spine.openItem number mark line
    .more spine line
  | .indentedCode =>
    let code := line.skipColumns codeIndent
    let block := OpenBlock.empty .indentedCode number (code.offset + 1)
    .nothing (spine.openBlock (block.addLine code.remainder))
  | .tableHead alignments => spine.openTable alignments
  | .tableRow alignments =>
    match spine.inner? with
    | some table =>
      .nothing (spine.pushBlock
        (bodyRow number table.column alignments.length (rowCells text.rest)))
    | none => .plain spine

end Folio.Markdown
