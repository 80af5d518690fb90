import Folio.Text.Lines
import Folio.Unicode.Blank

/-!
# HTML in Markdown

A Markdown text may hold HTML: a tag, a comment, a declaration, a processing instruction or a marked
section inside a line, and blocks of lines that begin with one of these. Only their extent matters
here.
-/

namespace Folio.Markdown.Html
open Unicode (isAsciiBlank)

/-! ## Tags -/

/-- What has been read of a tag. -/
inductive TagState where
  | name
  /-- White space, not after an attribute's name. -/
  | gap
  | attribute
  | afterAttribute
  | beforeValue
  | bareValue
  | quotedValue (quote : Char)
  | afterQuote
  | slash
  | closingName
  | closingGap
  deriving DecidableEq, Repr

/-- What a character makes of the tag read so far. -/
inductive TagStep where
  | goOn (state : TagState)
  | complete
  | broken
  deriving DecidableEq, Repr

/-- A character that can begin the name of an attribute. -/
def beginsAttribute (c : Char) : Bool := c.isAlpha || c = '_' || c = ':'

/-- A character of the name of an attribute. -/
def inAttribute (c : Char) : Bool := c.isAlphanum || c ∈ ['_', ':', '.', '-']

/-- A character of a value without quotes. -/
def inBareValue (c : Char) : Bool := !isAsciiBlank c && c ∉ ['"', '\'', '=', '<', '>', '`']

/-- The end of an opening tag. -/
def endTag (c : Char) : TagStep :=
  if c = '>' then .complete else if c = '/' then .goOn .slash else .broken

/-- How a tag goes on with a character. -/
def TagState.step (state : TagState) (c : Char) : TagStep :=
  match state with
  | .name =>
    if c.isAlphanum || c = '-' then .goOn .name else if isAsciiBlank c then .goOn .gap else endTag c
  | .gap =>
    if isAsciiBlank c then .goOn .gap
    else if beginsAttribute c then .goOn .attribute
    else endTag c
  | .attribute =>
    if inAttribute c then .goOn .attribute
    else if isAsciiBlank c then .goOn .afterAttribute
    else if c = '=' then .goOn .beforeValue
    else endTag c
  | .afterAttribute =>
    if isAsciiBlank c then .goOn .afterAttribute
    else if c = '=' then .goOn .beforeValue
    else if beginsAttribute c then .goOn .attribute
    else endTag c
  | .beforeValue =>
    if isAsciiBlank c then .goOn .beforeValue
    else if c = '"' || c = '\'' then .goOn (.quotedValue c)
    else if inBareValue c then .goOn .bareValue
    else .broken
  | .bareValue =>
    if inBareValue c then .goOn .bareValue
    else if isAsciiBlank c then .goOn .gap
    else if c = '>' then .complete
    else .broken
  | .quotedValue quote => if c = quote then .goOn .afterQuote else .goOn (.quotedValue quote)
  | .afterQuote => if isAsciiBlank c then .goOn .gap else endTag c
  | .slash => if c = '>' then .complete else .broken
  | .closingName =>
    if c.isAlphanum || c = '-' then .goOn .closingName
    else if isAsciiBlank c then .goOn .closingGap
    else if c = '>' then .complete
    else .broken
  | .closingGap =>
    if isAsciiBlank c then .goOn .closingGap else if c = '>' then .complete else .broken

/-- The length of the rest of a tag. -/
def tagRest? (state : TagState) : List Char → Option Nat
  | [] => none
  | c :: rest =>
    match state.step c with
    | .complete => some 1
    | .broken => none
    | .goOn state => (tagRest? state rest).map (· + 1)

/-- The length of a tag after its opening angle bracket. -/
def tagLength? (cs : List Char) : Option Nat :=
  match cs with
  | '/' :: c :: rest => if c.isAlpha then (tagRest? .closingName rest).map (· + 2) else none
  | c :: rest => if c.isAlpha then (tagRest? .name rest).map (· + 1) else none
  | [] => none

/-! ## Inside a line -/

/-- The length of the text up to the end of the first occurrence of `mark`. -/
def through? (mark : List Char) (cs : List Char) : Option Nat :=
  if mark.isPrefixOf cs then some mark.length
  else
    match cs with
    | [] => none
    | _ :: rest => (through? mark rest).map (· + 1)

/-- A piece of HTML that is no tag. -/
inductive Form where
  | comment
  | instruction
  | markedSection
  | declaration
  deriving DecidableEq, Repr

/-- What stands at an opening angle bracket. -/
inductive Found where
  /-- A piece of HTML of a given length after the bracket. -/
  | piece (length : Nat)
  | nothing
  /-- The beginning of a form whose end is missing; no other piece of the form can follow. -/
  | endless (form : Form)
  deriving DecidableEq, Repr

/-- The piece whose length is known, or a form without an end. -/
def Found.ofLength (form : Form) : Option Nat → Found
  | some length => .piece length
  | none => .endless form

/-- The length of the text up to a closing angle bracket after `n` marks; a longer row of marks is cut
into groups of `n + 1` first, which close nothing. `run` marks of a group have been read. -/
def closing? (mark : Char) (n run : Nat) : List Char → Option Nat
  | [] => none
  | c :: rest =>
    if c = '>' ∧ run = n then some 1
    else
      (closing? mark n (if c = mark then (run + 1) % (n + 1) else 0) rest).map (· + 1)

/-- The text begins with `mark`, in whatever case. -/
def beginsWith (mark : String) (cs : List Char) : Bool :=
  mark.toList.isPrefixOf ((cs.take mark.length).map Char.toUpper)

/-- A comment, without what every comment begins with; the shortest comments share dashes between
their two ends. -/
def comment (cs : List Char) : Found :=
  match cs with
  | '>' :: _ => .piece 4
  | '-' :: '>' :: _ => .piece 5
  | _ => .ofLength .comment ((closing? '-' 2 0 cs).map (· + 3))

/-- A marked section, after its first bracket. -/
def markedSection (cs : List Char) : Found :=
  let opening := "CDATA["
  if beginsWith opening cs then
    .ofLength .markedSection
      ((closing? ']' 2 0 (cs.drop opening.length)).map (· + opening.length + 2))
  else .nothing

/-- A declaration, after its exclamation mark: a name of capital letters, a blank and more. -/
def declaration (cs : List Char) : Found :=
  let name := cs.takeWhile Char.isUpper
  let after := cs.drop name.length
  if !name.isEmpty && after.head?.any isAsciiBlank then
    .ofLength .declaration ((through? ['>'] after).map (· + name.length + 1))
  else .nothing

/-- What stands after an opening angle bracket, when some forms are known to have no end. Once a
comment has none, an exclamation mark begins nothing any more. -/
def findPiece (endless : List Form) (cs : List Char) : Found :=
  match cs with
  | '!' :: rest =>
    if endless.contains .comment then .nothing
    else
      match rest with
      | '-' :: '-' :: rest => comment rest
      | '[' :: rest => if endless.contains .markedSection then .nothing else markedSection rest
      | _ => if endless.contains .declaration then .nothing else declaration rest
  | '?' :: rest =>
    if endless.contains .instruction then .nothing
    else .ofLength .instruction ((closing? '?' 1 0 rest).map (· + 1))
  | _ => (tagLength? cs).elim .nothing .piece

/-! ## Blocks -/

/-- The elements that begin a block wherever they stand. -/
def blockElements : List String := [
  "address", "article", "aside", "base", "basefont", "blockquote", "body", "caption", "center",
  "col", "colgroup", "dd", "details", "dialog", "dir", "div", "dl", "dt", "fieldset", "figcaption",
  "figure", "footer", "form", "frame", "frameset", "h1", "h2", "h3", "h4", "h5", "h6", "head",
  "header", "hr", "html", "iframe", "legend", "li", "link", "main", "menu", "menuitem", "nav",
  "noframes", "ol", "optgroup", "option", "p", "param", "search", "section", "summary", "table",
  "tbody", "td", "tfoot", "th", "thead", "title", "tr", "track", "ul"]

/-- The elements whose block goes on to a closing tag. -/
def rawElements : List String := ["script", "pre", "textarea", "style"]

/-- Where a block of HTML ends. -/
inductive BlockEnd where
  /-- With the line that holds one of these texts, whatever their case. -/
  | mark (texts : List String)
  /-- Before a blank line. -/
  | blankLine
  deriving DecidableEq, Repr

/-- The line ends a block that goes on to a mark. -/
def BlockEnd.endsWith (stop : BlockEnd) (line : List Char) : Bool :=
  match stop with
  | .mark texts => texts.any fun text => Text.occursIn text.toList (line.map Char.toLower)
  | .blankLine => false

/-- The name of an element and what follows it. -/
def elementName (cs : List Char) : String × List Char :=
  let name := cs.takeWhile Char.isAlphanum
  (String.ofList (name.map Char.toLower), cs.drop name.length)

/-- The rest of a line is empty, or a blank or the end of a tag stands there. -/
def afterName (slash : Bool) (cs : List Char) : Bool :=
  match cs with
  | [] => true
  | c :: rest => isAsciiBlank c || c = '>' || (slash && c = '/' && rest.head? == some '>')

/-- The end of the block that a line begins which starts with the given text; a line that is not
part of a paragraph may also begin a block with a lone tag of any name. -/
def blockEnd? (inParagraph : Bool) (line : List Char) : Option BlockEnd :=
  match line with
  | '<' :: rest =>
    let (name, after) := elementName rest
    let (blockName, blockAfter) := elementName (if rest.head? = some '/' then rest.drop 1 else rest)
    if rawElements.contains name && afterName false after then
      some (.mark (rawElements.map fun name => "</" ++ name ++ ">"))
    else if "!--".toList.isPrefixOf rest then some (.mark ["-->"])
    else if rest.head? = some '?' then some (.mark ["?>"])
    else if beginsWith "![CDATA[" rest then some (.mark ["]]>"])
    else if rest.head? = some '!' && ((rest.drop 1).head?.any Char.isUpper) then some (.mark [">"])
    else if blockElements.contains blockName && afterName true blockAfter then some .blankLine
    else if inParagraph then none
    else
      match tagLength? rest with
      | some n =>
        if (rest.drop n).all fun c => c ∈ [' ', '\t', '\x0c'] then some .blankLine else none
      | none => none
  | _ => none

end Folio.Markdown.Html
