import Folio.Math.Command
import Folio.Math.Formula
import Folio.Math.Script

/-!
# Formulas as plain text

A formula is read out on one line: a fraction as its two parts in parentheses around a slash, a
root as a radical sign before its radicand in parentheses, and scripts by raised and lowered
characters as far as these exist.
-/

namespace Folio.Math

mutual

/-- The characters of a formula's plain text. -/
def readingChars : Formula → List Char
  | .run text => substitute text.toList
  | .group parts => readingAll parts
  | .frac num den => '(' :: readingChars num ++ [')', '/', '('] ++ readingChars den ++ [')']
  | .sqrt radicand => '√' :: '(' :: readingChars radicand ++ [')']
  | .root degree radicand =>
    toSuperscript (readingChars degree) ++ '√' :: '(' :: readingChars radicand ++ [')']
  | .sup base exponent => base :: toSuperscript (readingChars exponent)
  | .sub base subscript => base :: toSubscript (readingChars subscript)
  | .subsup base subscript exponent =>
    base :: toSubscript (readingChars subscript) ++ toSuperscript (readingChars exponent)

/-- The plain texts of several formulas in a row. -/
def readingAll : List Formula → List Char
  | [] => []
  | part :: parts => readingChars part ++ readingAll parts

end

/-- The plain text of a formula. -/
def Formula.reading (formula : Formula) : String := String.ofList (readingChars formula)

end Folio.Math
