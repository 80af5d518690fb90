import Folio.Markdown.Grammar.Inline
import Folio.Markdown.Grammar.Outline

/-!
# From blocks to nodes

The texts of the finished blocks are read in order, so that the blocks become the nodes of a tree. A
short reference may stand for a long target; what references add to a text is limited, and those
beyond the limit are text.
-/

namespace Folio.Markdown

/-- The bytes that references may add to any text. -/
def leastBudget : Nat := 100000

mutual

/-- The node that a finished block is, and what is left of the budget of references. -/
def Block.toNode (features : Features) (references : References) (budget : Nat) :
    Block → Node × Nat
  | .parent kind line column children =>
    let (children, budget) := Block.toNodes features references budget children
    (⟨kind, children, line, column⟩, budget)
  | .text kind line column content =>
    let (inlines, budget) := readInlines features references budget line content
    (⟨kind, inlines, line, column⟩, budget)

/-- The nodes that finished blocks are, and what is left of the budget of references. -/
def Block.toNodes (features : Features) (references : References) (budget : Nat) :
    List Block → List Node × Nat
  | [] => ([], budget)
  | block :: rest =>
    let (node, budget) := block.toNode features references budget
    let (nodes, budget) := Block.toNodes features references budget rest
    (node :: nodes, budget)

end

/-- The nodes of the blocks of an outline; references may add as many bytes as the text has, if that
is more than they may add to any text. -/
def Outline.toNodes (features : Features) (size : Nat) (outline : Outline) : List Node :=
  (Block.toNodes features outline.references (max size leastBudget) outline.blocks).1

end Folio.Markdown
