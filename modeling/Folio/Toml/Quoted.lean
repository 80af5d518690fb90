import Folio.Text.Digits
import Folio.Toml.Scanner

/-!
# Quoted texts

A text stands between quotes or apostrophes, on one line or, with three of them, on several. Within
quotes a backslash begins an escape; within apostrophes every character stands for itself. On several
lines the line end right after the opening mark does not count, and all others are line feeds.
-/

namespace Folio.Toml.Scanner

/-- The character that a letter after a backslash stands for. -/
def simpleEscape : Char → Option Char
  | 'b' => some '\x08'
  | 't' => some '\t'
  | 'n' => some '\n'
  | 'f' => some '\x0c'
  | 'r' => some '\r'
  | '"' => some '"'
  | '\\' => some '\\'
  | _ => none

/-- The character whose code point is written with so many hexadecimal digits. -/
def codePoint (count : Nat) : Scanner Char := do
  let digits ← exactly count Text.isHexDigit
  match Text.ofDigits? 16 0 digits with
  | some n => if n.isValidChar then return Char.ofNat n else failure
  | none => failure

/-- The character of the escape whose backslash has been passed. -/
def escape : Scanner Char := do
  let c ← satisfy fun _ => true
  match simpleEscape c with
  | some plain => return plain
  | none =>
    if c == 'u' then codePoint 4
    else if c == 'U' then codePoint 8
    else failure

/-- What follows the quote up to the closing one, at most `fuel` characters. -/
def quotedLine : Nat → Scanner (List Char)
  | 0 => failure
  | fuel + 1 => do
    let c ← satisfy isPlain
    if c == '"' then return []
    else if c == '\\' then return (← escape) :: (← quotedLine fuel)
    else return c :: (← quotedLine fuel)

/-- What follows the apostrophe up to the closing one. -/
def literalLine : Scanner (List Char) := do
  let cs ← many fun c => isPlain c && c != '\''
  char '\''
  return cs

/-- A text on one line. -/
def lineText : Scanner String := do
  match ← peek with
  | some '"' => char '"'; return String.ofList (← quotedLine ((← remaining) + 1))
  | some '\'' => char '\''; return String.ofList (← literalLine)
  | _ => failure

/-- What a run of closing marks means inside a text on several lines: fewer than three belong to the
text, and of three to five the last three close it. -/
def closing (mark : Char) : Scanner (List Char × Bool) := do
  let run ← many1 (· == mark)
  if run.length < 3 then return (run, false)
  else if run.length < 6 then return (run.drop 3, true)
  else failure

/-- A backslash at the end of a line, with the blanks and line ends after it. -/
def joinedLine : Scanner Unit := do
  char '\\'
  spaces
  newline
  let _ ← repeated (newline <|> do let _ ← satisfy isSpace) (← remaining)

/-- The text on several lines up to the closing marks, at most `fuel` pieces. -/
def block (mark : Char) (escapes : Bool) : Nat → Scanner (List Char)
  | 0 => failure
  | fuel + 1 => do
    match ← peek with
    | none => failure
    | some c =>
      if c == mark then
        let (run, closed) ← closing mark
        if closed then return run else return run ++ (← block mark escapes fuel)
      else if c == '\n' || c == '\r' then
        newline
        return '\n' :: (← block mark escapes fuel)
      else if c == '\\' && escapes then
        match ← optional joinedLine with
        | some () => block mark escapes fuel
        | none =>
          char '\\'
          return (← escape) :: (← block mark escapes fuel)
      else
        let _ ← satisfy isPlain
        return c :: (← block mark escapes fuel)

/-- A text on several lines between three marks each. -/
def blockText (mark : Char) : Scanner String := do
  word [mark, mark, mark]
  let _ ← optional newline
  return String.ofList (← block mark (mark == '"') ((← remaining) + 1))

/-- A quoted text: three opening marks begin a text on several lines, whatever follows. -/
def quotedText : Scanner String := fun cs =>
  match cs with
  | '"' :: '"' :: '"' :: _ => blockText '"' cs
  | '\'' :: '\'' :: '\'' :: _ => blockText '\'' cs
  | _ => lineText cs

end Folio.Toml.Scanner
