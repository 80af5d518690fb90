import Folio.Markdown.Grammar.BlockStart

/-!
# The blocks of a text

Each line first goes on in the open blocks it belongs to, then begins new blocks, and what is left
of it is text. Text may go on in a paragraph although the line lacks the marks of the blocks around
it; otherwise the blocks that the line does not belong to are closed.

* `Outline.ofLines`: the blocks of the lines and the definitions found in them.
-/

namespace Folio.Markdown

/-- How an open block takes a line. -/
inductive Continuation where
  /-- The line belongs to the block, which has the line from here on. -/
  | goesOn (line : Line)
  | ends
  /-- The line closes the block and is used up. -/
  | closes
  deriving Repr

/-- How an open block takes a line; the flag says that another block is open inside it. -/
def OpenBlock.continues (block : OpenBlock) (hasInner : Bool) (line : Line) : Continuation :=
  match block.form with
  | .document | .list _ _ => .goesOn line
  | .blockquote =>
    if line.indent < codeIndent ∧ line.text.head? = some '>' then
      .goesOn (line.skipColumns (line.indent + 1)).skipBlank
    else .ends
  | .item width =>
    if width ≤ line.indent then .goesOn (line.skipColumns width)
    else if line.isBlank && (hasInner || !block.children.isEmpty) then .goesOn line.skipBlanks
    else .ends
  | .footnote _ =>
    if codeIndent ≤ line.indent then .goesOn (line.skipColumns codeIndent)
    else if line.offset = 0 ∧ line.rest = [] then .goesOn line
    else .ends
  | .paragraph _ => if line.isBlank then .ends else .goesOn line
  | .indentedCode =>
    if codeIndent ≤ line.indent then .goesOn (line.skipColumns codeIndent)
    else if line.isBlank then .goesOn line.skipBlanks
    else .ends
  | .fencedCode fence indent =>
    if line.indent < codeIndent ∧ fence.closedBy line.text then .closes
    else .goesOn (line.skipColumns (min indent line.indent))
  | .html .blankLine => if line.isBlank then .ends else .goesOn line
  | .html (.mark _) => .goesOn line
  | .table _ => if (rowCells line.text).isEmpty then .ends else .goesOn line

/-- How far a line goes on in blocks, outermost first: how many of them it belongs to, the line after
their marks, and whether it closes the next one. -/
def matchBlocks (line : Line) : List OpenBlock → Nat × Line × Bool
  | [] => (0, line, false)
  | block :: inner =>
    match block.continues (!inner.isEmpty) line with
    | .goesOn line =>
      let (count, line, closes) := matchBlocks line inner
      (count + 1, line, closes)
    | .ends => (0, line, false)
    | .closes => (0, line, true)

/-- A line that has been read through the marks of the blocks it belongs to. -/
structure Placed where
  spine : Spine
  /-- The inner blocks that the line does not belong to. -/
  pending : Nat
  /-- What is left of the line; `none` when it is used up. -/
  line : Option Line

/-- The new blocks that a line begins, one inside the other. -/
def beginBlocks (features : Features) (number depth : Nat) (afterParagraph : Bool) (spine : Spine)
    (pending : Nat) (line : Line) : Placed :=
  match (spine.blocks.drop pending).head? with
  | none => ⟨spine, pending, line⟩
  | some container =>
    match container.form with
    | .fencedCode _ _ | .indentedCode | .html _ => ⟨spine, pending, line⟩
    | form =>
      match BlockStart.ofLine? features (depth + 1) form afterParagraph line with
      | none => ⟨spine, pending, line⟩
      | some start =>
        match start.apply number (spine.close pending) line with
        | .nothing spine => ⟨spine, 0, none⟩
        | .plain spine => ⟨spine, 0, line⟩
        | .more spine after =>
          if after.rest.length < line.rest.length then
            beginBlocks features number (depth + 1) false spine 0 after
          else ⟨spine, 0, after⟩
  termination_by line.rest.length

/-- The innermost block is a paragraph. -/
def Spine.inParagraph (spine : Spine) : Bool :=
  spine.inner?.any fun block => block.form matches .paragraph _

/-- The row with the rest of a line as text of the innermost block. -/
def Spine.addText (spine : Spine) (number : Nat) (line : Line) : Spine :=
  match spine.inner? with
  | none => spine
  | some block =>
    match block.form with
    | .fencedCode _ _ | .indentedCode => spine.modifyInner (·.addLine line.remainder)
    | .html stop =>
      let spine := spine.modifyInner (·.addLine line.remainder)
      if stop.endsWith line.text then spine.closeInner else spine
    | form =>
      if line.isBlank then spine
      else
        let text := line.skipBlanks.remainder
        match form with
        | .paragraph _ => spine.modifyInner (·.addLine text)
        | _ =>
          let block := OpenBlock.empty (.paragraph false) number (line.textOffset + 1)
          spine.openBlock (block.addLine text)

/-- The row after one more line. -/
def Spine.addSourceLine (features : Features) (number : Nat) (spine : Spine) (line : Line) :
    Spine :=
  let (count, line, closes) := matchBlocks line spine.blocks.reverse
  let pending := spine.blocks.length - count
  if closes then spine.close pending
  else
    let placed := beginBlocks features number 0 spine.inParagraph spine pending line
    match placed.line with
    | none => placed.spine
    | some line =>
      if 0 < placed.pending ∧ placed.spine.inParagraph ∧ !line.isBlank then
        placed.spine.modifyInner (·.addLine line.remainder)
      else (placed.spine.close placed.pending).addText number line

/-- The finished blocks of a text and the definitions found in it. -/
structure Outline where
  blocks : List Block
  references : References
  deriving Inhabited

/-- The row before the first line. -/
def Spine.start : Spine := ⟨[.empty .document 1 1], {}⟩

/-- A source line before anything of it is read; a byte order mark at the beginning of a text is
passed over. -/
def Line.ofSource (number : Nat) (cs : List Char) : Line :=
  match cs with
  | '\ufeff' :: rest => if number = 1 then ⟨rest, 3, 0, false⟩ else ⟨cs, 0, 0, false⟩
  | _ => ⟨cs, 0, 0, false⟩

/-- The blocks of the lines of a text. -/
def Outline.ofLines (features : Features) (lines : List (List Char)) : Outline :=
  let spine := lines.zipIdx.foldl (fun spine (cs, i) =>
    spine.addSourceLine features (i + 1) (Line.ofSource (i + 1) cs)) Spine.start
  let spine := spine.close (spine.blocks.length - 1)
  ⟨(spine.blocks.flatMap (·.children)).reverse, spine.references⟩

end Folio.Markdown
