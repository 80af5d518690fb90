import Folio.Json.Value

/-!
# Printing JSON

Values are printed with every item and member on a line of its own, two spaces deeper than the
brackets around it; an empty list or object keeps its brackets together. In strings only quotes,
backslashes and the controls below the space are escaped.
-/

namespace Folio.Json

/-- A digit of a hexadecimal number. -/
def hexDigit (n : Nat) : Char := Nat.digitChar n

/-- How one character of a string is written. -/
def stringChar (c : Char) : List Char :=
  match c with
  | '"' => ['\\', '"']
  | '\\' => ['\\', '\\']
  | '\x08' => ['\\', 'b']
  | '\x0c' => ['\\', 'f']
  | '\n' => ['\\', 'n']
  | '\r' => ['\\', 'r']
  | '\t' => ['\\', 't']
  | c =>
    if c.toNat < 32 then
      ['\\', 'u', '0', '0', hexDigit (c.toNat / 16), hexDigit (c.toNat % 16)]
    else [c]

/-- A string between its quotes. -/
def stringChars (text : String) : List Char := '"' :: text.toList.flatMap stringChar ++ ['"']

/-- A line break and the blanks that begin a line at the given depth. -/
def newline (depth : Nat) : List Char := '\n' :: List.replicate (2 * depth) ' '

mutual

/-- The text of a value whose brackets stand at the given depth. -/
def printChars (depth : Nat) : Json → List Char
  | .null => ['n', 'u', 'l', 'l']
  | .bool true => ['t', 'r', 'u', 'e']
  | .bool false => ['f', 'a', 'l', 's', 'e']
  | .nat n => Nat.toDigits 10 n
  | .neg n => '-' :: Nat.toDigits 10 n
  | .real shown => shown.toList
  | .str text => stringChars text
  | .arr [] => ['[', ']']
  | .arr (item :: items) =>
    '[' :: newline (depth + 1) ++ printChars (depth + 1) item ++ printItems (depth + 1) items ++
      newline depth ++ [']']
  | .obj [] => ['\x7b', '\x7d']
  | .obj ((name, value) :: members) =>
    '\x7b' :: newline (depth + 1) ++ stringChars name ++ [':', ' '] ++
      printChars (depth + 1) value ++ printMembers (depth + 1) members ++ newline depth ++ ['\x7d']

/-- The items of a list after the first. -/
def printItems (depth : Nat) : List Json → List Char
  | [] => []
  | item :: items => ',' :: newline depth ++ printChars depth item ++ printItems depth items

/-- The members of an object after the first. -/
def printMembers (depth : Nat) : List (String × Json) → List Char
  | [] => []
  | (name, value) :: members =>
    ',' :: newline depth ++ stringChars name ++ [':', ' '] ++ printChars depth value ++
      printMembers depth members

end

/-- The text of a value. -/
def pretty (json : Json) : String := String.ofList (printChars 0 json)

end Folio.Json
