import Folio.Markdown.Grammar.Line

/-!
# Marks that begin a block

Each reader looks at the text of a line from its first character that is no blank on. A heading has
up to six number signs, a thematic break three marks of a kind or more, a fence three backticks or
tildes or more, an item a bullet or a number of up to nine digits; an underline makes the paragraph
before it a heading.
-/

namespace Folio.Markdown

/-- The characters that a text begins with and that are all the same as `c`. -/
def countLeading (c : Char) (cs : List Char) : Nat := (cs.takeWhile (· == c)).length

/-- The level of the heading that a line opens. -/
def headingLevel? (cs : List Char) : Option Nat :=
  let level := countLeading '#' cs
  if 1 ≤ level ∧ level ≤ 6 ∧ (cs.drop level).head?.all isTabOrSpace then some level else none

/-- The text of a heading's line without the number signs that close it. -/
def dropClosingHashes (cs : List Char) : List Char :=
  let cs := trimSpaceEnd cs
  let front := Text.dropWhileEnd (· == '#') cs
  if front.length < cs.length ∧ front.getLast?.any isTabOrSpace then
    trimSpaceEnd front
  else cs

/-- The level of the heading that a line makes of the paragraph before it. -/
def underlineLevel? (cs : List Char) : Option Nat :=
  match cs with
  | '=' :: _ => if (cs.dropWhile (· == '=')).all isTabOrSpace then some 1 else none
  | '-' :: _ => if (cs.dropWhile (· == '-')).all isTabOrSpace then some 2 else none
  | _ => none

/-- The line is a thematic break. -/
def isThematicBreak (cs : List Char) : Bool :=
  match cs with
  | c :: _ =>
    c ∈ ['*', '-', '_'] && decide (3 ≤ cs.count c) && cs.all fun d => d = c || isTabOrSpace d
  | [] => false

/-- A row of marks before and after code. -/
structure Fence where
  mark : Char
  length : Nat
  deriving DecidableEq, Repr

/-- The fence that a line begins with; no backtick may follow a fence of backticks. -/
def Fence.ofLine? (cs : List Char) : Option Fence :=
  match cs with
  | c :: _ =>
    let length := countLeading c cs
    if (c = '`' ∨ c = '~') ∧ 3 ≤ length ∧ (c = '~' ∨ '`' ∉ cs.drop length) then some ⟨c, length⟩
    else none
  | [] => none

/-- The line ends the code between fences. -/
def Fence.closedBy (fence : Fence) (cs : List Char) : Bool :=
  let length := countLeading fence.mark cs
  decide (3 ≤ length) && decide (fence.length ≤ length) && (cs.drop length).all isTabOrSpace

/-- The label of the footnote that a line begins to define and the length of its mark. -/
def footnoteMark? (cs : List Char) : Option (List Char × Nat) :=
  match cs with
  | '[' :: '^' :: rest =>
    let label := rest.takeWhile fun c => c ∉ [']', ' ', '\r', '\n', '\x00', '\t']
    match rest.drop label.length with
    | ']' :: ':' :: after =>
      if label.isEmpty then none
      else some (label, label.length + 4 + (after.takeWhile isTabOrSpace).length)
    | _ => none
  | _ => none

/-- What marks an item of a list. -/
inductive ListMark where
  | bullet (mark : Char)
  | number (delimiter : Char)
  deriving DecidableEq, Repr

/-- The mark of an item, the number it gives and its length. -/
structure ItemMark where
  mark : ListMark
  start : Nat
  length : Nat
  deriving DecidableEq, Repr

/-- A blank, or the end of the line, comes next. -/
def blankNext (cs : List Char) : Bool := cs.head?.all isTabOrSpace

/-- The mark of the item that a line begins. Within a paragraph an item begins only if it has text
on its first line, and with a number only if that is one. -/
def ItemMark.ofLine? (inParagraph : Bool) (cs : List Char) : Option ItemMark :=
  let found : Option (ItemMark × List Char) :=
    match cs with
    | [] => none
    | c :: rest =>
      if c = '*' ∨ c = '-' ∨ c = '+' then some (⟨.bullet c, 1, 1⟩, rest)
      else
        let digits := (cs.take 9).takeWhile Char.isDigit
        match digits, cs.drop digits.length with
        | _ :: _, d :: rest =>
          let start := (Text.ofDigits? 10 0 digits).getD 0
          if (d = '.' ∨ d = ')') ∧ (inParagraph → start = 1) then
            some (⟨.number d, start, digits.length + 1⟩, rest)
          else none
        | _, _ => none
  found.bind fun (mark, rest) =>
    if blankNext rest ∧ !(inParagraph ∧ rest.all isTabOrSpace) then some mark else none

end Folio.Markdown
