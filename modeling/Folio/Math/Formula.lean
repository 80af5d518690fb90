/-!
# Formulas

The tree of a parsed formula. A run is literal text in which backslash commands are still spelled
out, so that each rendering resolves them in its own way. A script belongs to the single character
it is attached to.
-/

namespace Folio.Math

/-- A formula, or a part of one. -/
inductive Formula where
  /-- Literal text, commands spelled out. -/
  | run (text : String)
  /-- Parts in a row. -/
  | group (parts : List Formula)
  /-- A fraction. -/
  | frac (num den : Formula)
  /-- A square root. -/
  | sqrt (radicand : Formula)
  /-- A root of the given degree. -/
  | root (degree radicand : Formula)
  /-- A character with a superscript. -/
  | sup (base : Char) (exponent : Formula)
  /-- A character with a subscript. -/
  | sub (base : Char) (subscript : Formula)
  /-- A character with both scripts. -/
  | subsup (base : Char) (subscript exponent : Formula)
  deriving Repr, Inhabited

/-- The parts as one formula: a single part stands for itself. -/
def Formula.ofParts : List Formula → Formula
  | [part] => part
  | parts => .group parts

end Folio.Math
