import Folio.Text.Lines
import Folio.Unicode.Blank

/-!
# Word wrap

Each line of a text is filled greedily: a word goes on the current line when it fits within the
width, counting characters, and starts a new line otherwise. Words are never split, so a word
longer than the width has a line to itself. A width of zero leaves the text as it is.
-/

namespace Folio.Text

/-- The words of a text: its pieces between white space. -/
def words (cs : List Char) : List (List Char) := fields Unicode.isBlank cs

/-- The words set in lines of the given width, when `column` characters stand on the current
line. -/
def fill (width : Nat) : Nat → List (List Char) → List Char
  | _, [] => []
  | column, word :: rest =>
    if column > 0 ∧ column + 1 + word.length > width then
      '\n' :: word ++ fill width word.length rest
    else if column > 0 then
      ' ' :: word ++ fill width (column + 1 + word.length) rest
    else
      word ++ fill width word.length rest

/-- The text with each of its lines filled to the width. -/
def wrap (cs : List Char) (width : Nat) : List Char :=
  if width = 0 then cs
  else unlines ((lines cs).map fun line => fill width 0 (words line))

end Folio.Text
