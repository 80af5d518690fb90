import Folio.Text.Lines

/-!
# The tokens of a TOML text

A scanner takes a token off the front of a text, or finds none there. A scanner that finds none
leaves the text as it was, so that another one can be tried.
-/

namespace Folio.Toml

/-- Takes a value off the front of a text. -/
abbrev Scanner := StateT (List Char) Option

namespace Scanner

/-- The next character, which stays. -/
def peek : Scanner (Option Char) := return (← get).head?

/-- The number of characters left, which bounds every loop over them. -/
def remaining : Scanner Nat := return (← get).length

/-- The next character, if it satisfies a condition. -/
def satisfy (p : Char → Bool) : Scanner Char := fun cs =>
  match cs with
  | c :: rest => if p c then some (c, rest) else none
  | [] => none

/-- The given character. -/
def char (c : Char) : Scanner Unit := do
  let _ ← satisfy (· == c)

/-- The given characters. -/
def word : List Char → Scanner Unit
  | [] => pure ()
  | c :: rest => do char c; word rest

/-- The characters up to the first that fails a condition. -/
def many (p : Char → Bool) : Scanner (List Char) := fun cs => some (cs.takeWhile p, cs.dropWhile p)

/-- The characters up to the first that fails a condition, at least one. -/
def many1 (p : Char → Bool) : Scanner (List Char) := do
  let cs ← many p
  if cs.isEmpty then failure else return cs

/-- Exactly `count` characters that satisfy a condition. -/
def exactly (count : Nat) (p : Char → Bool) : Scanner (List Char) := fun cs =>
  let taken := cs.take count
  if taken.length = count ∧ taken.all p then some (taken, cs.drop count) else none

/-- A value if there is one. -/
def optional (scanner : Scanner α) : Scanner (Option α) :=
  some <$> scanner <|> pure none

/-- Values one after the other, at most `fuel`. -/
def repeated (scanner : Scanner α) : Nat → Scanner (List α)
  | 0 => pure []
  | fuel + 1 => do
    match ← optional scanner with
    | some value => return value :: (← repeated scanner fuel)
    | none => return []

/-- Values with a separator between them, at most `fuel`. -/
def separated (scanner : Scanner α) (separator : Scanner Unit) (fuel : Nat) : Scanner (List α) := do
  match ← optional scanner with
  | some first => return first :: (← repeated (do separator; scanner) fuel)
  | none => return []

/-! ## Blanks, comments and line ends -/

/-- A blank within a line. -/
def isSpace (c : Char) : Bool := c == ' ' || c == '\t'

/-- A character that may stand in a comment or a quoted text: no control character but the tab. -/
def isPlain (c : Char) : Bool := c == '\t' || (decide (0x20 ≤ c.toNat) && c.toNat != 0x7F)

/-- The blanks within a line. -/
def spaces : Scanner Unit := do
  let _ ← many isSpace

/-- The end of a line. -/
def newline : Scanner Unit := word ['\n'] <|> word ['\r', '\n']

/-- A comment up to the end of the line. -/
def comment : Scanner Unit := do
  char '#'
  let _ ← many isPlain

/-- The end of a line or of the text. -/
def lineEnd : Scanner Unit := do
  match ← peek with
  | none => pure ()
  | some _ => newline

/-- What may follow on a line whose content is complete. -/
def restOfLine : Scanner Unit := do
  spaces
  let _ ← optional comment
  lineEnd

/-- One line end in a list, with the blanks and the comment in front of it. -/
def brokenLine : Scanner Unit := do
  spaces
  let _ ← optional comment
  newline

/-- Blanks, comments and line ends between the items of a list. -/
def gap : Scanner Unit := do
  let _ ← repeated brokenLine (← remaining)
  spaces

end Scanner
end Folio.Toml
