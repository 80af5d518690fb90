/-!
# Superscript and subscript forms

Some characters have a raised or a lowered form among the Unicode characters. A script is set by
replacing every character that has the form wanted and keeping the others as they are.
-/

namespace Folio.Math

/-- The raised form of a character. -/
def superscriptForm : Char → Option Char
  | '0' => some '⁰'
  | '1' => some '¹'
  | '2' => some '²'
  | '3' => some '³'
  | '4' => some '⁴'
  | '5' => some '⁵'
  | '6' => some '⁶'
  | '7' => some '⁷'
  | '8' => some '⁸'
  | '9' => some '⁹'
  | '+' => some '⁺'
  | '-' | '−' => some '⁻'
  | '=' => some '⁼'
  | '(' => some '⁽'
  | ')' => some '⁾'
  | 'a' => some 'ᵃ'
  | 'b' => some 'ᵇ'
  | 'c' => some 'ᶜ'
  | 'd' => some 'ᵈ'
  | 'e' => some 'ᵉ'
  | 'f' => some 'ᶠ'
  | 'g' => some 'ᵍ'
  | 'h' => some 'ʰ'
  | 'i' => some 'ⁱ'
  | 'j' => some 'ʲ'
  | 'k' => some 'ᵏ'
  | 'l' => some 'ˡ'
  | 'm' => some 'ᵐ'
  | 'n' => some 'ⁿ'
  | 'o' => some 'ᵒ'
  | 'p' => some 'ᵖ'
  | 'r' => some 'ʳ'
  | 's' => some 'ˢ'
  | 't' => some 'ᵗ'
  | 'u' => some 'ᵘ'
  | 'v' => some 'ᵛ'
  | 'w' => some 'ʷ'
  | 'x' => some 'ˣ'
  | 'y' => some 'ʸ'
  | 'z' => some 'ᶻ'
  | 'T' => some 'ᵀ'
  | _ => none

/-- The lowered form of a character. -/
def subscriptForm : Char → Option Char
  | '0' => some '₀'
  | '1' => some '₁'
  | '2' => some '₂'
  | '3' => some '₃'
  | '4' => some '₄'
  | '5' => some '₅'
  | '6' => some '₆'
  | '7' => some '₇'
  | '8' => some '₈'
  | '9' => some '₉'
  | '+' => some '₊'
  | '-' | '−' => some '₋'
  | '=' => some '₌'
  | '(' => some '₍'
  | ')' => some '₎'
  | 'a' => some 'ₐ'
  | 'e' => some 'ₑ'
  | 'h' => some 'ₕ'
  | 'i' => some 'ᵢ'
  | 'j' => some 'ⱼ'
  | 'k' => some 'ₖ'
  | 'l' => some 'ₗ'
  | 'm' => some 'ₘ'
  | 'n' => some 'ₙ'
  | 'o' => some 'ₒ'
  | 'p' => some 'ₚ'
  | 'r' => some 'ᵣ'
  | 's' => some 'ₛ'
  | 't' => some 'ₜ'
  | 'u' => some 'ᵤ'
  | 'v' => some 'ᵥ'
  | 'x' => some 'ₓ'
  | _ => none

/-- The text raised as far as raised forms go. -/
def toSuperscript (cs : List Char) : List Char := cs.map fun c => (superscriptForm c).getD c

/-- The text lowered as far as lowered forms go. -/
def toSubscript (cs : List Char) : List Char := cs.map fun c => (subscriptForm c).getD c

end Folio.Math
