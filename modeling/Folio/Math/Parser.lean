import Folio.Math.Formula
import Folio.Math.Source

/-!
# Parsing formulas

The source of a formula is read item by item and each bracketed part is parsed in turn, one level
deeper. Braces that only group are spliced into the row they stand in. Parts nested deeper than
`maxDepth` stay literal text, so the depth of a tree is bounded whatever the source.
-/

namespace Folio.Math

/-- The deepest nesting of parts that is parsed into structure. -/
def maxDepth : Nat := 256

mutual

/-- The formulas that a source holds, at the given nesting of parts. -/
def parseNodes (depth : Nat) (cs : List Char) : List Formula :=
  match cs with
  | [] => []
  | c :: cs =>
    match h : readItem c cs with
    | (item, rest) =>
      have hrest : rest.length ≤ cs.length := by
        have := (length_readItem c cs).1; rwa [h] at this
      have hparts : ∀ part ∈ item.parts, part.inner.length ≤ cs.length := by
        have := (length_readItem c cs).2; rwa [h] at this
      let nodes : List Formula :=
        match item with
        | .run text => [.run (String.ofList text)]
        | .group part => parsePart depth part
        | .frac num den => [.frac (.ofParts (parsePart depth num)) (.ofParts (parsePart depth den))]
        | .sqrt radicand => [.sqrt (.ofParts (parsePart depth radicand))]
        | .root degree radicand =>
          [.root (.ofParts (parsePart depth degree)) (.ofParts (parsePart depth radicand))]
        | .sup base exponent => [.sup base (parseArgument depth exponent)]
        | .sub base subscript => [.sub base (parseArgument depth subscript)]
        | .subsup base subscript exponent =>
          [.subsup base (parseArgument depth subscript) (parseArgument depth exponent)]
      nodes ++ parseNodes depth rest
  termination_by (cs.length, 0)
  decreasing_by
    all_goals
      apply Prod.Lex.left
      simp only [Item.parts, List.mem_append, List.mem_cons, List.not_mem_nil, or_false,
        forall_eq_or_imp, forall_eq] at hparts
      simp only [List.length_cons]
    case _ => omega
    case _ => omega
    case _ => omega
    case _ => omega
    case _ => omega
    case _ => omega
    case _ => exact Nat.lt_succ_of_le (Argument.size_le hparts)
    case _ => exact Nat.lt_succ_of_le (Argument.size_le hparts)
    case _ => exact Nat.lt_succ_of_le (Argument.size_le fun p hp => hparts p (.inl hp))
    case _ => exact Nat.lt_succ_of_le (Argument.size_le fun p hp => hparts p (.inr hp))
    case _ => omega

/-- The formulas that a part of a source holds. -/
def parsePart (depth : Nat) (part : Part) : List Formula :=
  if maxDepth ≤ depth then [.run (String.ofList part.literal)]
  else parseNodes (depth + 1) part.inner
  termination_by (part.inner.length, 1)
  decreasing_by exact Prod.Lex.right _ (by omega)

/-- The formula that the argument of a script marker holds. -/
def parseArgument (depth : Nat) (argument : Argument) : Formula :=
  match argument with
  | .text text => .run (String.ofList text)
  | .part source => .ofParts (parsePart depth source)
  termination_by (argument.size, 2)
  decreasing_by exact Prod.Lex.right _ (by omega)

end

/-- The formula that a source holds: a group of its parts. -/
def parse (source : String) : Formula := .group (parseNodes 0 source.toList)

end Folio.Math
