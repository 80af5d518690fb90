/-!
# Runs and paragraphs

Text is held in runs, stretches that share their formatting, and runs are held in paragraphs. A
property that is absent asks for nothing: the document's default applies.
-/

namespace Folio

/-- The formatting of a run. -/
structure RunProperties where
  bold : Option Bool := none
  italic : Option Bool := none
  strike : Option Bool := none
  fontFamily : Option String := none
  /-- Red, green and blue in hexadecimal. -/
  fontColor : Option String := none
  /-- The size in half-points. -/
  fontSize : Option Nat := none
  deriving DecidableEq, Repr, Inhabited

namespace RunProperties

/-- The run is set in bold. -/
def isBold (properties : RunProperties) : Bool := properties.bold.getD false

/-- The run is set in italics. -/
def isItalic (properties : RunProperties) : Bool := properties.italic.getD false

/-- The run is struck through. -/
def isStrike (properties : RunProperties) : Bool := properties.strike.getD false

end RunProperties

/-- A stretch of text that shares its formatting. -/
structure Run where
  text : String
  properties : RunProperties := {}
  /-- The footnote that the run refers to. -/
  footnote : Option String := none
  /-- The place in the document's media list of the image that the run stands for. -/
  media : Option Nat := none
  /-- The equation markup of a formula, whose plain text is the run's text. -/
  equation : Option String := none
  deriving DecidableEq, Repr, Inhabited

/-- How the lines of a paragraph are placed between its margins. -/
inductive Alignment where
  | left
  | center
  | right
  | justify
  deriving DecidableEq, Repr, Inhabited

/-- The space around a paragraph, in twentieths of a point. -/
structure Spacing where
  before : Option Nat := none
  after : Option Nat := none
  deriving DecidableEq, Repr, Inhabited

/-- The indentation of a paragraph, in twentieths of a point. -/
structure Indentation where
  left : Option Nat := none
  hanging : Option Nat := none
  deriving DecidableEq, Repr, Inhabited

/-- The place of a paragraph in a list. -/
structure Numbering where
  /-- How many lists the paragraph's list is nested in. -/
  level : Nat
  ordered : Bool
  /-- The first number of an ordered list, on the list's first item. -/
  start : Option Nat := none
  deriving DecidableEq, Repr, Inhabited

/-- The formatting of a paragraph. -/
structure ParagraphProperties where
  style : Option String := none
  alignment : Option Alignment := none
  spacing : Option Spacing := none
  indentation : Option Indentation := none
  numbering : Option Numbering := none
  /-- A rule is drawn below the paragraph. -/
  borderBottom : Bool := false
  bookmark : Option String := none
  deriving DecidableEq, Repr, Inhabited

/-- Runs in a row. -/
structure Paragraph where
  properties : ParagraphProperties := {}
  runs : List Run := []
  deriving DecidableEq, Repr, Inhabited

namespace Paragraph

/-- A paragraph of the given style without any runs. -/
def styled (style : String) : Paragraph := { properties := { style := some style } }

/-- The paragraph with one more run at its end. -/
def push (paragraph : Paragraph) (run : Run) : Paragraph :=
  { paragraph with runs := paragraph.runs ++ [run] }

/-- The paragraph, with an empty run when it has no other. -/
def ensureRun (paragraph : Paragraph) : Paragraph :=
  if paragraph.runs.isEmpty then paragraph.push { text := "" } else paragraph

/-- The characters of the runs in a row. -/
def textChars (paragraph : Paragraph) : List Char :=
  paragraph.runs.flatMap (·.text.toList)

/-- The texts of the runs in a row. -/
def text (paragraph : Paragraph) : String := String.ofList paragraph.textChars

end Paragraph
end Folio
