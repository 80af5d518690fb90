import Folio.Document.Paragraph
import Folio.Markdown.Grammar.LinkPart

/-!
# The rows of a table

A line is cut into cells at its bars; a bar after a backslash belongs to its cell. The bars at the
two ends of the line may be left out. A line of dashes below the first row makes the two a table and
says how its columns are aligned.
-/

namespace Folio.Markdown
open Unicode (isAsciiBlank)

/-- The length of a text in bytes. -/
def byteLength (cs : List Char) : Nat := cs.foldl (fun n c => n + c.utf8Size) 0

/-- A cell as it stands in its line. -/
structure CellText where
  /-- The bytes of the line before the cell. -/
  start : Nat
  /-- The blanks before the text of the cell. -/
  indent : Nat
  /-- The bytes of the line up to the last one of the cell. -/
  stop : Nat
  text : List Char
  deriving DecidableEq, Repr

/-- The pieces of a line between its bars; the flag says that the line goes on from a backslash. -/
def segments (escaped : Bool) : List Char → List (List Char)
  | [] => [[]]
  | c :: rest =>
    if c = '|' ∧ !escaped then [] :: segments false rest
    else
      match segments (c = '\\') rest with
      | piece :: pieces => (c :: piece) :: pieces
      | [] => [[c]]

/-- The text with its escaped bars made plain. -/
def unescapeBars : List Char → List Char
  | '\\' :: '|' :: rest => '|' :: unescapeBars rest
  | c :: rest => c :: unescapeBars rest
  | [] => []

/-- A blank within a row. -/
def isRowBlank (c : Char) : Bool := isAsciiBlank c && c ≠ '\n' && c ≠ '\r'

/-- The cell that a piece after `start` bytes is; the blanks after a bar belong to the bar. -/
def CellText.ofPiece (afterBar : Bool) (start : Nat) (piece : List Char) : CellText :=
  let indent := if afterBar then (piece.takeWhile isRowBlank).length else 0
  { start, indent
    stop := start + byteLength piece - 1
    text := trimSpace (unescapeBars (piece.drop indent)) }

/-- The cells made of the pieces after a bar, the first of which stands after `start` bytes; blanks
after the last bar are no cell. -/
def cellsAfterBar (start : Nat) : List (List Char) → List CellText
  | [] => []
  | [piece] => if piece.all isRowBlank then [] else [CellText.ofPiece true start piece]
  | piece :: rest =>
    CellText.ofPiece true start piece :: cellsAfterBar (start + byteLength piece + 1) rest

/-- The cells of a line. -/
def rowCells (line : List Char) : List CellText :=
  match segments false line with
  | [] :: rest => cellsAfterBar 1 rest
  | piece :: rest =>
    CellText.ofPiece false 0 piece :: cellsAfterBar (byteLength piece + 1) rest
  | [] => []

/-- The alignment that a cell of the dashed line gives its column. -/
def cellAlignment (text : List Char) : Option Alignment :=
  match text.head? == some ':', text.getLast? == some ':' with
  | true, true => some .center
  | true, false => some .left
  | false, true => some .right
  | false, false => none

/-- The text is a row of dashes, with a colon at either end perhaps and with blanks around it. -/
def isDashes (text : List Char) : Bool :=
  let text := Text.dropWhileEnd isRowBlank (text.dropWhile isRowBlank)
  let text := if text.head? = some ':' then text.drop 1 else text
  let dashes := text.takeWhile (· == '-')
  !dashes.isEmpty && (text.drop dashes.length == [] || text.drop dashes.length == [':'])

/-- The alignments that a dashed line gives the columns of a table. -/
def columnAlignments? (line : List Char) : Option (List (Option Alignment)) :=
  let texts := (rowCells line).map (·.text)
  if texts.isEmpty then none
  else if texts.all isDashes then some (texts.map cellAlignment)
  else none

end Folio.Markdown
