import Folio.Markdown.Grammar.LinkPart
import Folio.Text.Lines

/-!
# Lines

A text is a row of lines. While the blocks that a line belongs to are found, the line is read from
its start: what has been read is counted in bytes and in columns, for a tab goes on to the next tab
stop and may be read in part.
-/

namespace Folio.Markdown

/-- The text with every line end made a line feed and every null character replaced; the flag says
that the text follows a carriage return, whose line feed is no further line end. -/
def plainLineEnds (afterReturn : Bool) : List Char → List Char
  | [] => []
  | c :: rest =>
    if c = '\n' then
      if afterReturn then plainLineEnds false rest else '\n' :: plainLineEnds false rest
    else if c = '\r' then '\n' :: plainLineEnds true rest
    else (if c = '\x00' then '\ufffd' else c) :: plainLineEnds false rest

/-- The lines of a text, without their ends: a line feed, a carriage return, or the two in a row. -/
def sourceLines (cs : List Char) : List (List Char) :=
  let pieces := Text.lines (plainLineEnds false cs)
  if pieces.getLast? = some [] then pieces.dropLast else pieces

/-- The width of a tab stop. -/
def tabStop : Nat := 4

/-- The columns from a column to the next tab stop. -/
def toTabStop (column : Nat) : Nat := tabStop - column % tabStop

/-- A line that has been read in part. -/
structure Line where
  /-- What is left of the line. -/
  rest : List Char
  /-- The bytes read. -/
  offset : Nat := 0
  /-- The columns read. -/
  column : Nat := 0
  /-- The line goes on inside a tab. -/
  inTab : Bool := false
  deriving DecidableEq, Repr

namespace Line

/-- The columns of the blanks at the beginning of a text that starts in a given column. -/
def blankWidth (column : Nat) : List Char → Nat
  | c :: rest =>
    if c = ' ' then blankWidth (column + 1) rest + 1
    else if c = '\t' then
      blankWidth (column + toTabStop column) rest + toTabStop column
    else 0
  | [] => 0

/-- The columns of the blanks that come next. -/
def indent (line : Line) : Nat := blankWidth line.column line.rest

/-- What is left of the line after its blanks. -/
def text (line : Line) : List Char := line.rest.dropWhile isTabOrSpace

/-- Nothing but blanks is left of the line. -/
def isBlank (line : Line) : Bool := line.text.isEmpty

/-- The bytes before the text of the line. -/
def textOffset (line : Line) : Nat := line.offset + (line.rest.takeWhile isTabOrSpace).length

/-- The line after `n` more characters. -/
def skip (line : Line) (n : Nat) : Line :=
  match n, line.rest with
  | 0, _ => line
  | _, [] => line
  | n + 1, c :: rest =>
    let width := if c = '\t' then toTabStop line.column else c.utf8Size
    skip ⟨rest, line.offset + c.utf8Size, line.column + width, false⟩ n

/-- The columns of a tab that are left when `n` of them are read, as far as the tab goes. -/
def skipColumnsFrom (n : Nat) (offset column : Nat) (inTab : Bool) : List Char → Line
  | c :: rest =>
    if n = 0 then ⟨c :: rest, offset, column, inTab⟩
    else if c = '\t' then
      if n < toTabStop column then ⟨c :: rest, offset, column + n, true⟩
      else
        skipColumnsFrom (n - toTabStop column) (offset + 1) (column + toTabStop column) false rest
    else skipColumnsFrom (n - 1) (offset + c.utf8Size) (column + 1) false rest
  | [] => ⟨[], offset, column, inTab⟩

/-- The line after `n` more columns. -/
def skipColumns (line : Line) (n : Nat) : Line :=
  skipColumnsFrom n line.offset line.column line.inTab line.rest

/-- The line from its text on. -/
def skipBlanks (line : Line) : Line := line.skip (line.rest.takeWhile isTabOrSpace).length

/-- The line after one blank, if one comes next. -/
def skipBlank (line : Line) : Line :=
  if line.rest.head?.any isTabOrSpace then line.skipColumns 1 else line

end Line

/-- A piece of a line that belongs to a block, with the bytes that stand before it. -/
structure TextLine where
  offset : Nat
  text : List Char
  deriving DecidableEq, Repr

/-- What is left of a line, as part of a block; the columns left of a tab become spaces. -/
def Line.remainder (line : Line) : TextLine :=
  if line.inTab then
    ⟨line.offset + 1, List.replicate (toTabStop line.column) ' ' ++ line.rest.drop 1⟩
  else ⟨line.offset, line.rest⟩

end Folio.Markdown
