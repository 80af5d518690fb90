import Folio.Text.Edges

/-!
# Paragraph styles

The names of the paragraph styles and the level that the name of a heading style spells. Heading
styles are matched without regard to the case of ASCII letters; `Title` is a heading of level one.
-/

namespace Folio.Style

/-- Body text. -/
def normal : String := "Normal"
/-- The title of the document. -/
def title : String := "Title"
/-- Quoted text. -/
def quote : String := "Quote"
/-- One line of code. -/
def code : String := "Code"
/-- One item of a list. -/
def listParagraph : String := "ListParagraph"
/-- A displayed formula. -/
def math : String := "Math"

/-- The style of a heading of the given level. -/
def heading (level : Nat) : String := "Heading" ++ level.repr

/-- The text with its ASCII capitals in lower case. -/
def foldCase (text : String) : List Char := text.toList.map Char.toLower

/-- The texts are equal up to the case of ASCII letters. -/
def sameIgnoringCase (a b : String) : Bool := foldCase a == foldCase b

/-- The value of a row of decimal digits. -/
def digitsValue (digits : List Char) : Nat :=
  digits.foldl (fun n c => 10 * n + (c.toNat - '0'.toNat)) 0

/-- A number written in decimal digits, with or without a plus sign. -/
def readNumber (cs : List Char) : Option Nat :=
  let digits := match cs with
    | '+' :: digits => digits
    | digits => digits
  if !digits.isEmpty && digits.all Char.isDigit then some (digitsValue digits) else none

/-- The heading level that a style's name spells, from one to nine. -/
def headingLevel (style : String) : Option Nat :=
  if sameIgnoringCase style title then some 1
  else
    let name := foldCase style
    let word := "heading".toList
    if word.isPrefixOf name then do
      let level ← readNumber (Text.trimStart (name.drop word.length))
      if 1 ≤ level ∧ level ≤ 9 then some level else none
    else none

end Folio.Style
