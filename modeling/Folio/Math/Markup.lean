import Folio.Math.Command
import Folio.Math.Formula

/-!
# Formulas as structured markup

A formula's markup is a tree of the elements that office documents use for equations. Containers
hold flat rows: the groups of a formula are spliced into the row they stand in, neighbouring texts
are one run, and an empty text leaves no run. The tree is written as XML, with the namespace
declared on the root element.
-/

namespace Folio.Math

/-- The namespace of equation elements. -/
def markupNamespace : String := "http://schemas.openxmlformats.org/officeDocument/2006/math"

/-- An element of an equation. -/
inductive Markup where
  /-- The root element. -/
  | math (row : List Markup)
  /-- Text. -/
  | run (text : String)
  /-- A fraction. -/
  | fraction (num den : List Markup)
  /-- A square root, whose degree is hidden. -/
  | sqrt (radicand : List Markup)
  /-- A root of the given degree. -/
  | root (degree radicand : List Markup)
  /-- A base with a superscript. -/
  | sup (base exponent : List Markup)
  /-- A base with a subscript. -/
  | sub (base subscript : List Markup)
  /-- A base with both scripts. -/
  | subsup (base subscript exponent : List Markup)
  deriving Repr, Inhabited

/-- The row with a text before it; a text merges with the run it stands before. -/
def consText (text : List Char) (row : List Markup) : List Markup :=
  if text.isEmpty then row
  else
    match row with
    | .run next :: row => .run (String.ofList text ++ next) :: row
    | row => .run (String.ofList text) :: row

mutual

/-- The markup of a formula in front of the row that follows it. -/
def markupOnto : Formula → List Markup → List Markup
  | .run text, row => consText (substitute text.toList) row
  | .group parts, row => markupAllOnto parts row
  | .frac num den, row => .fraction (markupOnto num []) (markupOnto den []) :: row
  | .sqrt radicand, row => .sqrt (markupOnto radicand []) :: row
  | .root degree radicand, row => .root (markupOnto degree []) (markupOnto radicand []) :: row
  | .sup base exponent, row => .sup [.run base.toString] (markupOnto exponent []) :: row
  | .sub base subscript, row => .sub [.run base.toString] (markupOnto subscript []) :: row
  | .subsup base subscript exponent, row =>
    .subsup [.run base.toString] (markupOnto subscript []) (markupOnto exponent []) :: row

/-- The markup of several formulas in front of the row that follows them. -/
def markupAllOnto : List Formula → List Markup → List Markup
  | [], row => row
  | part :: parts, row => markupOnto part (markupAllOnto parts row)

end

/-- The markup of a formula. -/
def Formula.toMarkup (formula : Formula) : Markup := .math (markupOnto formula [])

/-- The character as character data: what markup uses is written as an entity. -/
def escapeXmlChar : Char → List Char
  | '&' => "&amp;".toList
  | '<' => "&lt;".toList
  | '>' => "&gt;".toList
  | '"' => "&quot;".toList
  | '\'' => "&apos;".toList
  | c => [c]

/-- The text as character data. -/
def escapeXml (text : List Char) : List Char := text.flatMap escapeXmlChar

/-- The contents between the tags of an element. -/
def element (tag : String) (contents : List Char) : List Char :=
  "<m:".toList ++ tag.toList ++ '>' :: contents ++ "</m:".toList ++ tag.toList ++ ['>']

mutual

/-- The XML of an element. -/
def Markup.xmlChars : Markup → List Char
  | .math row =>
    "<m:oMath xmlns:m=\"".toList ++ markupNamespace.toList ++ "\">".toList ++ xmlAll row ++
      "</m:oMath>".toList
  | .run text =>
    element "r" ("<m:t xml:space=\"preserve\">".toList ++ escapeXml text.toList ++ "</m:t>".toList)
  | .fraction num den => element "f" (element "num" (xmlAll num) ++ element "den" (xmlAll den))
  | .sqrt radicand =>
    element "rad" ("<m:radPr><m:degHide m:val=\"1\"/></m:radPr><m:deg/>".toList ++
      element "e" (xmlAll radicand))
  | .root degree radicand =>
    element "rad" (element "deg" (xmlAll degree) ++ element "e" (xmlAll radicand))
  | .sup base exponent =>
    element "sSup" (element "e" (xmlAll base) ++ element "sup" (xmlAll exponent))
  | .sub base subscript =>
    element "sSub" (element "e" (xmlAll base) ++ element "sub" (xmlAll subscript))
  | .subsup base subscript exponent =>
    element "sSubSup" (element "e" (xmlAll base) ++ element "sub" (xmlAll subscript) ++
      element "sup" (xmlAll exponent))

/-- The XML of several elements in a row. -/
def xmlAll : List Markup → List Char
  | [] => []
  | item :: items => item.xmlChars ++ xmlAll items

end

/-- The XML of an element, as text. -/
def Markup.toXml (markup : Markup) : String := String.ofList markup.xmlChars

end Folio.Math
