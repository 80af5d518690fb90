import Folio.Markdown.Grammar.Entity
import Folio.Text.Edges
import Folio.Unicode.Folding

/-!
# The parts of a link

A link has a destination, which stands in angle brackets or has balanced parentheses, an optional
title in quotes or parentheses, and a label by which a reference names its definition. Each reader
takes the text from the part on and gives the part with what follows it.
-/

namespace Folio.Markdown
open Unicode (isAsciiMark isBlank)

/-- The text without the spaces, tabs and line ends at its end. -/
def trimSpaceEnd (cs : List Char) : List Char := Text.dropWhileEnd Char.isWhitespace cs

/-- The text without the spaces, tabs and line ends at its two ends. -/
def trimSpace (cs : List Char) : List Char := trimSpaceEnd (cs.dropWhile Char.isWhitespace)

/-- A space or a tab. -/
def isTabOrSpace (c : Char) : Bool := c = ' ' || c = '\t'

/-! ## Destinations -/

/-- What stands before the closing angle bracket, and what follows it. -/
def angled? : List Char → Option (List Char × List Char)
  | '>' :: rest => some ([], rest)
  | '\\' :: c :: rest => (angled? rest).map fun (text, rest) => ('\\' :: c :: text, rest)
  | c :: rest =>
    if c = '\n' ∨ c = '<' then none
    else (angled? rest).map fun (text, rest) => (c :: text, rest)
  | [] => none

/-- How many parentheses of a destination may be open at once. -/
def maxParentheses : Nat := 32

/-- A destination without angle brackets, with `depth` parentheses open; it ends before white space,
a control character or a closing parenthesis of its surroundings. -/
def bare? (depth : Nat) : List Char → Option (List Char × List Char)
  | '\\' :: c :: rest =>
    if isAsciiMark c then (bare? depth rest).map fun (text, rest) => ('\\' :: c :: text, rest)
    else (bare? depth (c :: rest)).map fun (text, rest) => ('\\' :: text, rest)
  | '(' :: rest =>
    if depth = maxParentheses then none
    else (bare? (depth + 1) rest).map fun (text, rest) => ('(' :: text, rest)
  | ')' :: rest =>
    if depth = 0 then some ([], ')' :: rest)
    else (bare? (depth - 1) rest).map fun (text, rest) => (')' :: text, rest)
  | c :: rest =>
    if c.toNat ≤ 32 ∨ c.toNat = 127 then if depth = 0 then some ([], c :: rest) else none
    else (bare? depth rest).map fun (text, rest) => (c :: text, rest)
  | [] => none

/-- The destination that a text begins with, as it is written, and what follows it. -/
def destination? (cs : List Char) : Option (List Char × List Char) :=
  match cs with
  | '<' :: rest => angled? rest
  | _ => bare? 0 cs

/-- The destination that is meant by what is written. -/
def cleanDestination (cs : List Char) : String :=
  String.ofList (unescapeMarks (decodeReferences (trimSpace cs)))

/-! ## Titles -/

/-- The length of a title up to its closing mark, when `n` characters of it are read. A closing mark
after a backslash ends the title only if no other does; `best` is the length that such a mark gives.
-/
def titleEnd (closing : Char) (escaped : Bool) (n : Nat) (best : Option Nat) :
    List Char → Option Nat
  | [] => best
  | c :: rest =>
    if c = closing then
      if escaped then titleEnd closing false (n + 1) (some (n + 1)) rest else some (n + 1)
    else if closing = ')' ∧ c = '(' ∧ !escaped then best
    else titleEnd closing (c = '\\') (n + 1) best rest

/-- The title that a text begins with, marks included, and what follows it. -/
def title? (cs : List Char) : Option (List Char × List Char) :=
  match cs with
  | c :: rest =>
    let length :=
      match c with
      | '"' | '\'' => titleEnd c false 1 none rest
      | '(' => titleEnd ')' false 1 none rest
      | _ => none
    length.map fun n => (cs.take n, cs.drop n)
  | [] => none

/-- The title that is meant by what is written. -/
def cleanTitle (cs : List Char) : String :=
  String.ofList (unescapeMarks (decodeReferences (cs.drop 1).dropLast))

/-! ## Labels -/

/-- The longest label, in bytes. -/
def maxLabelLength : Nat := 1000

/-- What stands before the closing bracket of a label, and what follows it. -/
def labelText? : List Char → Option (List Char × List Char)
  | ']' :: rest => some ([], rest)
  | '[' :: _ => none
  | '\\' :: c :: rest =>
    if isAsciiMark c then (labelText? rest).map fun (text, rest) => ('\\' :: c :: text, rest)
    else (labelText? (c :: rest)).map fun (text, rest) => ('\\' :: text, rest)
  | c :: rest => (labelText? rest).map fun (text, rest) => (c :: text, rest)
  | [] => none

/-- The label in brackets that a text begins with, and what follows it. -/
def label? (cs : List Char) : Option (List Char × List Char) :=
  match cs with
  | '[' :: rest =>
    match labelText? rest with
    | some (text, rest) =>
      if text.foldl (fun n c => n + c.utf8Size) 0 ≤ maxLabelLength then some (trimSpace text, rest)
      else none
    | none => none
  | _ => none

/-- The text with each row of white space made one space; the flag says that the text follows white
space. -/
def collapseBlank (afterBlank : Bool) : List Char → List Char
  | [] => []
  | c :: rest =>
    if isBlank c then
      if afterBlank then collapseBlank true rest else ' ' :: collapseBlank true rest
    else c :: collapseBlank false rest

/-- A label as it is shown: its white space does not matter. -/
def shownLabel (label : List Char) : List Char := collapseBlank false (trimSpace label)

/-- A label as it is compared: neither white space nor case matter. -/
def labelKey (label : List Char) : List Char := Unicode.fold (shownLabel label)

end Folio.Markdown
