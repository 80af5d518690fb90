import Folio.Markdown.Grammar.Autolink
import Folio.Markdown.Grammar.Block
import Folio.Settings

/-!
# Inlines

The text of a paragraph, heading or cell is read from left to right. Code, formulas, HTML and
addresses are found as they begin; brackets are kept open until they close, when what stands between
them becomes a link, an image or a footnote's mark if what follows allows it; emphasis is matched
last, inside each link and then in the whole.

A formula between two dollar signs on each side is displayed; it stands as a `mathBlock` among the
inlines until its paragraph is finished.

* `readInlines`: the nodes of a text.
-/

namespace Folio.Markdown
open Unicode (isAsciiBlank isAsciiMark)

/-- What the reading of a text depends on. -/
structure InlineContext where
  features : Features
  references : References
  /-- The source line of the text's first line. -/
  firstLine : Nat
  /-- For each line of the text the bytes that stand before it in its source line. -/
  offsets : List Nat

/-- A bracket that has been opened. -/
structure Bracket where
  image : Bool
  line : Nat
  column : Nat
  /-- The pieces before the bracket, newest first. -/
  before : List Piece
  /-- The source after the bracket. -/
  source : List Char
  /-- Another bracket has been opened after this one. -/
  followed : Bool := false

/-- What is known of the rows of backticks in a text. -/
structure RowsSeen where
  /-- For each length of a row the place where the one seen last begins. -/
  places : List (Nat × Nat) := []
  /-- A row has been looked for up to the end of the text. -/
  toEnd : Bool := false

/-- What is known once a row of some length has been seen at a place. -/
def RowsSeen.note (rows : RowsSeen) (length place : Nat) : RowsSeen :=
  { rows with places := (length, place) :: rows.places.filter (·.1 != length) }

/-- A row of some length is not worth looking for after a place: all of the text has been looked
through, and the row of that length that was seen last lies before. -/
def RowsSeen.isKnownAbsent (rows : RowsSeen) (length place : Nat) : Bool :=
  rows.toEnd && ((rows.places.lookup length).all fun last => decide (last ≤ place))

/-- A text that has been read in part. -/
structure InlineState where
  /-- What has been read, newest first. -/
  before : List Char := []
  rest : List Char
  /-- The characters read. -/
  index : Nat := 0
  /-- The bytes read. -/
  position : Nat := 0
  line : Nat
  /-- The position at which the line begins. -/
  lineStart : Nat := 0
  /-- The pieces since the innermost open bracket, newest first. -/
  pieces : List Piece := []
  /-- The open brackets, innermost first. -/
  brackets : List Bracket := []
  /-- A bracket has been opened that may become a link, and no link has been closed since. -/
  awaitsLink : Bool := false
  /-- The last bracket was an opening one. -/
  inBrackets : Bool := false
  /-- The bytes that references may still add to the text. -/
  budget : Nat
  rows : RowsSeen := {}
  /-- The forms of HTML that are known to have no end in the text. -/
  endless : List Html.Form := []

namespace InlineState

/-- The text after `n` more characters. -/
def advance (s : InlineState) (n : Nat) : InlineState :=
  let read := s.rest.take n
  { s with
    before := read.reverse ++ s.before
    rest := s.rest.drop n
    index := s.index + read.length
    position := s.position + byteLength read }

/-- The text read on to where `rest` is left of it. -/
def advanceTo (s : InlineState) (rest : List Char) : InlineState :=
  s.advance (s.rest.length - rest.length)

/-- The source column of a position in the line that is being read. -/
def columnOf (ctx : InlineContext) (s : InlineState) (position : Nat) : Nat :=
  position + 1 - s.lineStart + (ctx.offsets[s.line - ctx.firstLine]?).getD 0

/-- The state with one more piece. -/
def push (s : InlineState) (piece : Piece) : InlineState := { s with pieces := piece :: s.pieces }

/-- A node that stands at a position, with one more piece. -/
def pushNode (ctx : InlineContext) (s : InlineState) (position : Nat) (kind : Kind)
    (children : List Node := []) : InlineState :=
  s.push (.node ⟨kind, children, s.line, s.columnOf ctx position⟩)

/-- Text that stands at a position, with one more piece. -/
def pushText (ctx : InlineContext) (s : InlineState) (position : Nat) (text : List Char) :
    InlineState :=
  s.pushNode ctx position (.text (String.ofList text))

/-- The next `n` characters as text. -/
def plain (ctx : InlineContext) (s : InlineState) (n : Nat) : InlineState :=
  (s.pushText ctx s.position (s.rest.take n)).advance n

end InlineState

/-! ## Line breaks and escapes -/

/-- The end of a line: a break after two spaces. -/
def readLineEnd (ctx : InlineContext) (s : InlineState) : InlineState :=
  let hard := s.before.take 2 == [' ', ' ']
  let s := (s.pushNode ctx s.position (if hard then .lineBreak else .softBreak)).advance 1
  let s := { s with line := s.line + 1, lineStart := s.position }
  s.advance (s.rest.takeWhile isTabOrSpace).length

/-- A backslash: the mark after it is text, and the end of a line after it is a break. -/
def readBackslash (ctx : InlineContext) (s : InlineState) : InlineState :=
  match s.rest.drop 1 with
  | c :: _ =>
    if isAsciiMark c then (s.pushText ctx s.position [c]).advance 2
    else if c = '\n' then (s.pushNode ctx s.position .lineBreak).advance 2
    else s.plain ctx 1
  | [] => s.plain ctx 1

/-- An ampersand. -/
def readAmpersand (ctx : InlineContext) (s : InlineState) : InlineState :=
  match reference? (s.rest.drop 1) with
  | some (text, length) => (s.pushText ctx s.position text).advance (length + 1)
  | none => s.plain ctx 1

/-! ## Code and formulas -/

/-- The longest row of backticks around code. -/
def maxBackticks : Nat := 80

/-- Looks for a row of `n` backticks from a place on, the last `run` characters before which are
backticks: the place where the row begins, if there is one, and what is known of rows then. -/
def findRow (n run place : Nat) (rows : RowsSeen) : List Char → Option Nat × RowsSeen
  | '`' :: rest => findRow n (run + 1) (place + 1) rows rest
  | _ :: rest =>
    if run = 0 then findRow n 0 (place + 1) rows rest
    else
      let rows := rows.note run (place - run)
      if run = n then (some (place - run), rows) else findRow n 0 (place + 1) rows rest
  | [] =>
    let rows := if run = 0 then rows else rows.note run (place - run)
    if run = n then (some (place - run), rows) else (none, { rows with toEnd := true })

/-- Code without its line ends, and without the single spaces that keep backticks apart. -/
def tidyCode (cs : List Char) : List Char :=
  let code := cs.map fun c => if c = '\n' then ' ' else c
  if code.head? = some ' ' ∧ code.getLast? = some ' ' ∧ code.any (· != ' ') then
    (code.drop 1).dropLast
  else code

/-- A row of marks as text; it counts as standing after itself. -/
def readLoneRow (ctx : InlineContext) (s : InlineState) (n : Nat) : InlineState :=
  let row := s.rest.take n
  let s := s.advance n
  s.pushText ctx s.position row

/-- A row of backticks. -/
def readBackticks (ctx : InlineContext) (s : InlineState) : InlineState :=
  let n := countLeading '`' s.rest
  if maxBackticks < n || s.rows.isKnownAbsent n (s.index + n) then readLoneRow ctx s n
  else
    let inside := s.advance n
    match findRow n 0 inside.index s.rows inside.rest with
    | (some place, rows) =>
      let length := place - inside.index
      let code := tidyCode (inside.rest.take length)
      let inside := inside.pushNode ctx inside.position (.codeSpan (String.ofList code))
      { inside.advance (length + n) with rows }
    | (none, rows) => { readLoneRow ctx s n with rows }

/-- The most dollar signs around a formula. -/
def maxDollars : Nat := 2

/-- The characters up to the end of the row of `n` dollar signs that closes a formula, when `read`
have been passed, the last `run` of them dollar signs, and `previous` was the last one. No blank
stands before a single sign and no digit after the row it belongs to, and a backslash takes away its
meaning. -/
def dollarEnd? (n run : Nat) (previous : Char) (read : Nat) : List Char → Option Nat
  | [] => if run = n then some read else none
  | c :: rest =>
    if run = 0 then
      if c != '$' then dollarEnd? n 0 c (read + 1) rest
      else if n = 1 ∧ previous.isWhitespace then none
      else if n = 1 ∧ previous = '\\' then dollarEnd? n 0 c (read + 1) rest
      else dollarEnd? n 1 c (read + 1) rest
    else if c = '$' then dollarEnd? n (run + 1) c (read + 1) rest
    else if n = 1 ∧ c.isDigit then none
    else if run = n then some read
    else dollarEnd? n 0 c (read + 1) rest

/-- A row of dollar signs. -/
def readDollars (ctx : InlineContext) (s : InlineState) : InlineState :=
  let n := countLeading '$' s.rest
  let inside := s.advance n
  let blank := n = 1 ∧ inside.rest.head?.any Char.isWhitespace
  match if maxDollars < n ∨ blank then none else dollarEnd? n 0 '$' 0 inside.rest with
  | some length =>
    let source := inside.rest.take (length - n)
    let kind :=
      if n = 1 then Kind.inlineMath (String.ofList (tidyCode source))
      else .mathBlock [String.ofList source]
    (inside.pushNode ctx inside.position kind).advance length
  | none => readLoneRow ctx s n

/-! ## Addresses and HTML -/

/-- An angle bracket. -/
def readAngle (ctx : InlineContext) (s : InlineState) : InlineState :=
  let inside := s.rest.drop 1
  let address :=
    match schemeAddress? inside with
    | some (address, rest) => some ("", address, rest)
    | none => (mailAddress? inside).map fun (address, rest) => ("mailto:", address, rest)
  match address with
  | some (scheme, address, rest) =>
    let text := String.ofList (decodeReferences address)
    let place := s.columnOf ctx (s.position + 1)
    let child : Node := ⟨.text text, [], s.line, place⟩
    (s.pushNode ctx (s.position + 1) (.link (scheme ++ text) "") [child]).advanceTo rest
  | none =>
    match Html.findPiece s.endless inside with
    | .piece length =>
      let source := s.rest.take (length + 1)
      (s.push (.html source s.line (s.columnOf ctx s.position))).advance (length + 1)
    | .nothing => s.plain ctx 1
    | .endless form => { s.plain ctx 1 with endless := form :: s.endless }

/-- A link to a bare address; it has no place of its own. -/
def bareLink (destination address : List Char) : Node :=
  ⟨.link (String.ofList destination) "", [textNode address 0 1], 0, 1⟩

/-- The pieces, newest first, without the last `n` characters of their text. -/
def dropText (n : Nat) : List Piece → List Piece
  | [] => []
  | piece :: rest =>
    if n = 0 then piece :: rest
    else
      match piece with
      | .node ⟨.text text, [], line, column⟩ =>
        if n < text.length then
          .node (textNode (text.toList.take (text.length - n)) line column) :: rest
        else dropText (n - text.length) rest
      | _ => piece :: rest

/-- A colon: perhaps the one of a web address whose scheme has been read. -/
def readColon (ctx : InlineContext) (s : InlineState) : InlineState :=
  match if s.inBrackets then none else webAddress? s.before s.rest with
  | some (scheme, address) =>
    let link := bareLink (scheme ++ address) (scheme ++ address)
    let s := { s with pieces := dropText scheme.length s.pieces }
    (s.push (.node link)).advance address.length
  | none => s.plain ctx 1

/-- The letter that the name of a web host may begin with. -/
def readHostLetter (ctx : InlineContext) (s : InlineState) : InlineState :=
  match if s.inBrackets then none else hostAddress? s.before s.rest with
  | some address =>
    (s.push (.node (bareLink ("http://".toList ++ address) address))).advance address.length
  | none => s.plain ctx 1

/-! ## Emphasis marks -/

/-- The nearest character, looking past tildes when they are marks; a line end stands for none. -/
def neighbour (features : Features) (cs : List Char) : Char :=
  (if features.gfm then cs.dropWhile (· == '~') else cs).headD '\n'

/-- A row of emphasis marks. -/
def readDelimiter (ctx : InlineContext) (s : InlineState) (mark : Char) : InlineState :=
  let n := countLeading mark s.rest
  let after := s.rest.drop n
  let (opens, closes) :=
    flanks mark (neighbour ctx.features s.before) (neighbour ctx.features after)
  (s.push (.delimiter ⟨mark, n, n, opens, closes, s.line, s.columnOf ctx s.position⟩)).advance n

/-! ## Brackets -/

/-- An opening bracket, of an image if an exclamation mark stands before it. -/
def openBracket (ctx : InlineContext) (s : InlineState) (image : Bool) : InlineState :=
  let after := s.advance (if image then 2 else 1)
  let outer :=
    match s.brackets with
    | bracket :: rest => { bracket with followed := true } :: rest
    | [] => []
  let bracket : Bracket :=
    ⟨image, s.line, s.columnOf ctx s.position, s.pieces, after.rest, false⟩
  { after with
    pieces := []
    brackets := bracket :: outer
    awaitsLink := s.awaitsLink || !image
    inBrackets := true }

/-- An exclamation mark. -/
def readExclamation (ctx : InlineContext) (s : InlineState) : InlineState :=
  match s.rest.drop 1 with
  | '[' :: rest => if rest.head? = some '^' then s.plain ctx 1 else openBracket ctx s true
  | _ => s.plain ctx 1

/-- The pieces with a bracket that has become text, newest first. -/
def Bracket.release (bracket : Bracket) (pieces : List Piece) : List Piece :=
  let text := if bracket.image then ['!', '['] else ['[']
  pieces ++ .node (textNode text bracket.line bracket.column) :: bracket.before

/-- The target in parentheses that a text begins with, and what follows it. -/
def inlineTarget? (cs : List Char) : Option (Target × List Char) :=
  match cs with
  | '(' :: rest => do
    let (destination, rest) ← destination? (rest.dropWhile isAsciiBlank)
    let spaced := rest.dropWhile isAsciiBlank
    let (title, rest) :=
      if spaced.length = rest.length then ([], rest) else (title? spaced).getD ([], spaced)
    match rest.dropWhile isAsciiBlank with
    | ')' :: rest => some (⟨cleanDestination destination, cleanTitle title⟩, rest)
    | _ => none
  | _ => none

/-- The label that a closed bracket is a reference by, and what follows the reference: the label in
brackets after it, or the text of the bracket itself. -/
def referenceLabel? (bracket : Bracket) (inside after : List Char) :
    Option (List Char × List Char) :=
  match label? after with
  | some (label, rest) =>
    if label.isEmpty ∧ !bracket.followed then some (inside, rest) else some (label, rest)
  | none => if bracket.followed then none else some (inside, after)

/-- The target of a closed bracket, what follows it and the budget that is left: a target in
parentheses costs nothing. -/
def targetOf? (ctx : InlineContext) (s : InlineState) (bracket : Bracket) (inside : List Char) :
    Option (Target × List Char × Nat) :=
  match inlineTarget? s.rest with
  | some (target, rest) => some (target, rest, s.budget)
  | none => do
    let (label, rest) ← referenceLabel? bracket inside s.rest
    let (target, budget) ← ctx.references.spend? s.budget label
    return (target, rest, budget)

/-- The label of the footnote that the pieces in a bracket, oldest first, refer to. -/
def footnoteLabel? (pieces : List Piece) : Option (List Char) :=
  match pieces with
  | .html _ _ _ :: _ => none
  | first :: _ =>
    match first.source? with
    | some ('^' :: _) =>
      let label := (pieces.filterMap Piece.source?).flatten.drop 1
      if label.isEmpty then none else some label
    | _ => none
  | [] => none

/-- A closing bracket. -/
def closeBracket (ctx : InlineContext) (s : InlineState) : InlineState :=
  let start := s
  let s := { s.advance 1 with inBrackets := false }
  match s.brackets with
  | [] => s.pushText ctx start.position [']']
  | bracket :: outer =>
    let fallen : InlineState :=
      { s with pieces := bracket.release s.pieces, brackets := outer }
    if !bracket.image ∧ !s.awaitsLink then fallen.pushText ctx start.position [']']
    else
      let inside := bracket.source.take (bracket.source.length - start.rest.length)
      match targetOf? ctx s bracket inside with
      | some (target, rest, budget) =>
        let kind :=
          if bracket.image then Kind.image target.destination target.title
          else .link target.destination target.title
        let node : Node := ⟨kind, resolve s.pieces, bracket.line, bracket.column⟩
        { s.advanceTo rest with
          pieces := .node node :: bracket.before
          brackets := outer
          budget
          awaitsLink := s.awaitsLink && bracket.image }
      | none =>
        match if ctx.features.footnotes then footnoteLabel? s.pieces.reverse else none with
        | some label =>
          let mark : Node :=
            ⟨.footnoteReference (String.ofList label), [], s.line, bracket.column⟩
          { s with
            pieces := s.pieces.filter (·.source?.isNone) ++ .node mark :: bracket.before
            brackets := outer }
        | none => fallen.pushText ctx start.position [']']

/-! ## The whole text -/

/-- The characters that may begin something other than text. -/
def isSpecial (features : Features) (c : Char) : Bool :=
  c ∈ ['\n', '_', '*', '"', '`', '\\', '&', '<', '[', ']', '!', '$']
    || (features.gfm && c ∈ [':', 'w', '~'])

/-- Text up to the next special character; blanks at the end of its line do not count, nor those
after a break. -/
def readText (ctx : InlineContext) (s : InlineState) : InlineState :=
  let length := (s.rest.drop 1).takeWhile (!isSpecial ctx.features ·) |>.length
  let after := s.advance (length + 1)
  let text := s.rest.take (length + 1)
  let text :=
    if after.rest.head? = some '\n' then trimSpaceEnd text else text
  let text :=
    match s.pieces with
    | .node ⟨.lineBreak, _, _, _⟩ :: _ => text.dropWhile Char.isWhitespace
    | _ => text
  { after with pieces := (s.pushText ctx s.position text).pieces }

/-- The next part of a text. -/
def readInline (ctx : InlineContext) (s : InlineState) (c : Char) : InlineState :=
  match c with
  | '\n' => readLineEnd ctx s
  | '`' => readBackticks ctx s
  | '\\' => readBackslash ctx s
  | '&' => readAmpersand ctx s
  | '<' => readAngle ctx s
  | '*' => readDelimiter ctx s '*'
  | '_' => readDelimiter ctx s '_'
  | '[' => openBracket ctx s false
  | ']' => closeBracket ctx s
  | '!' => readExclamation ctx s
  | '\'' | '"' | '-' | '.' => s.plain ctx 1
  | '~' => if ctx.features.gfm then readDelimiter ctx s '~' else readText ctx s
  | ':' => if ctx.features.gfm then readColon ctx s else s.plain ctx 1
  | 'w' => if ctx.features.gfm then readHostLetter ctx s else readText ctx s
  | '$' => if ctx.features.math then readDollars ctx s else s.plain ctx 1
  | _ => readText ctx s

/-- The state when all of the text has been read. -/
def readAll (ctx : InlineContext) (s : InlineState) : InlineState :=
  match s.rest with
  | [] => s
  | c :: _ =>
    let next := readInline ctx s c
    if next.rest.length < s.rest.length then readAll ctx next else next
  termination_by s.rest.length

/-- The nodes of a text on a source line, and what is left of the budget of references. -/
def readInlines (features : Features) (references : References) (budget line : Nat)
    (text : RawText) : List Node × Nat :=
  let ctx : InlineContext := ⟨features, references, line, text.offsets⟩
  let s := readAll ctx { rest := trimSpaceEnd text.chars, line, budget }
  let pieces := s.brackets.foldl (fun pieces bracket => bracket.release pieces) s.pieces
  (resolve pieces, s.budget)

end Folio.Markdown
