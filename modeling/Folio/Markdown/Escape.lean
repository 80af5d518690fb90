import Folio.Text.Edges
import Folio.Text.Lines

/-!
# Escaping literal text

Text that stands for itself is written so that no Markdown syntax comes alive in it: a backslash is
put before the punctuation that would start an inline construct, and before the marks that would
start a block at the beginning of a line. A line also loses its indentation, which would make it
code. Code is set between rows of backticks longer than any row inside it.
-/

namespace Folio.Markdown

/-- The text begins with an entity's name or number and a semicolon. -/
def looksLikeEntity (cs : List Char) : Bool :=
  let name := cs.takeWhile (· != ';')
  match cs.drop name.length with
  | ';' :: _ =>
    match name with
    | [] => false
    | c :: rest => (c.isAlphanum || c = '#') && rest.all Char.isAlphanum
  | _ => false

/-- The character, followed by `rest`, would start an inline construct. -/
def startsInline (c : Char) (rest : List Char) : Bool :=
  match c with
  | '\\' | '`' | '*' | '_' | '<' | '~' | '$' => true
  | '[' => rest.head? == some '^'
  | ']' => rest.head? == some '(' || rest.head? == some '[' || rest.head? == some ':'
  | '&' => looksLikeEntity rest
  | _ => false

/-- The text with a backslash before every character that would start an inline construct. -/
def escapeInline : List Char → List Char
  | [] => []
  | c :: rest => (if startsInline c rest then ['\\', c] else [c]) ++ escapeInline rest

/-- A space or a tab. -/
def isSpaceOrTab (c : Char) : Bool := c = ' ' || c = '\t'

/-- The text is empty or begins with a space or a tab. -/
def blankOrEnd (cs : List Char) : Bool := cs.head?.all isSpaceOrTab

/-- The line begins with a heading, quote or bullet mark. -/
def startsWithMarker (line : List Char) : Bool :=
  match line with
  | [] => false
  | '#' :: _ =>
    let hashes := line.takeWhile (· == '#')
    decide (hashes.length ≤ 6) && blankOrEnd (line.drop hashes.length)
  | '>' :: _ => true
  | '-' :: rest | '+' :: rest | '*' :: rest => blankOrEnd rest
  | _ => false

/-- The line underlines the line before it. -/
def isUnderline (line : List Char) : Bool :=
  match line with
  | [] => false
  | c :: _ => (c = '-' || c = '=') && (Text.trimEnd line).all (· == c)

/-- The digits of an ordered list mark and the line after them, if the line begins with such a
mark. -/
def orderedMarker? (line : List Char) : Option (List Char × List Char) :=
  let digits := line.takeWhile Char.isDigit
  let rest := line.drop digits.length
  if 1 ≤ digits.length ∧ digits.length ≤ 9 then
    match rest with
    | '.' :: after | ')' :: after => if blankOrEnd after then some (digits, rest) else none
    | _ => none
  else none

/-- The line without its indentation and with its block mark, if it has one, escaped. -/
def escapeLineStart (line : List Char) : List Char :=
  let line := line.dropWhile isSpaceOrTab
  if startsWithMarker line || isUnderline line then '\\' :: line
  else
    match orderedMarker? line with
    | some (digits, rest) => digits ++ '\\' :: rest
    | none => line

/-- The text with the block marks of its lines escaped. -/
def escapeBlockStarts (cs : List Char) : List Char :=
  Text.unlines ((Text.lines cs).map escapeLineStart)

/-- The length of the longest row of backticks, when `current` stand before the text and the longest
row so far has `longest`. -/
def longestBackticks (longest current : Nat) : List Char → Nat
  | [] => longest
  | c :: rest =>
    if c = '`' then longestBackticks (max longest (current + 1)) (current + 1) rest
    else longestBackticks longest 0 rest

/-- Code between rows of backticks longer than any in it; a space keeps a backtick at an edge
apart from them. -/
def codeSpan (code : List Char) : List Char :=
  let fence := List.replicate (longestBackticks 0 0 code + 1) '`'
  let pad := if code.head? = some '`' ∨ code.getLast? = some '`' then [' '] else []
  fence ++ pad ++ code ++ pad ++ fence

end Folio.Markdown
