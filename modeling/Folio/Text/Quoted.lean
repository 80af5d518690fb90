import Folio.Unicode.Printable

/-!
# Quoted text

A text is quoted for a message between double quotes: quotes and backslashes are escaped, the
common controls have letters, and a character without a shape of its own is written by its code
point in hexadecimal, so that a message shows exactly which text it speaks of.
-/

namespace Folio.Text
open Unicode (isPrintable isGraphemeExtend)

/-- A number in lower-case hexadecimal digits. -/
def hex (n : Nat) : List Char := Nat.toDigits 16 n

/-- How one character of a quoted text is written. -/
def quoteChar (c : Char) : List Char :=
  match c with
  | '\x00' => ['\\', '0']
  | '\t' => ['\\', 't']
  | '\r' => ['\\', 'r']
  | '\n' => ['\\', 'n']
  | '"' => ['\\', '"']
  | '\\' => ['\\', '\\']
  | c =>
    if isGraphemeExtend c || !isPrintable c then
      "\\u".toList ++ ['\x7b'] ++ hex c.toNat ++ ['\x7d']
    else [c]

/-- The text between double quotes, escaped. -/
def quote (text : String) : String :=
  String.ofList ('"' :: text.toList.flatMap quoteChar ++ ['"'])

end Folio.Text
