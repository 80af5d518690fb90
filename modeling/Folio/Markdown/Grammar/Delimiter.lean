import Folio.Markdown.Node
import Folio.Unicode.Blank
import Folio.Unicode.Punctuation

/-!
# Emphasis

A row of asterisks, underscores or tildes may open emphasis, close it, or both, depending on the
characters around it. Each row that closes is matched with the nearest row before it that opens; two
marks of each make strong emphasis, and what is left of a row may be matched again.

* `resolve`: the nodes that remain once every row has been matched or has become text.
-/

namespace Folio.Markdown
open Unicode (isBlank isMark)

/-- A row of emphasis marks. -/
structure Delimiter where
  mark : Char
  /-- The marks that are not used up. -/
  count : Nat
  /-- The marks that the row had in the source. -/
  length : Nat
  opens : Bool
  closes : Bool
  line : Nat
  column : Nat
  deriving DecidableEq, Repr

/-- A part of a text on the way to its nodes. -/
inductive Piece where
  | node (content : Node)
  /-- HTML as it stands in the source. -/
  | html (source : List Char) (line column : Nat)
  | delimiter (row : Delimiter)
  deriving Repr, Inhabited

/-- A text node. -/
def textNode (text : List Char) (line column : Nat) : Node :=
  ⟨.text (String.ofList text), [], line, column⟩

/-- The node that a piece is when it is not matched. -/
def Piece.toNode : Piece → Node
  | .node content => content
  | .html _ line column => ⟨.unsupported "inline html", [], line, column⟩
  | .delimiter d => textNode (List.replicate d.count d.mark) d.line d.column

/-- The source of a piece that is text or HTML. -/
def Piece.source? : Piece → Option (List Char)
  | .node content =>
    match content.kind with
    | .text text => some text.toList
    | _ => none
  | .html source _ _ => some source
  | .delimiter d => some (List.replicate d.count d.mark)

/-! ## What a row can do -/

/-- A row of marks between two characters begins a word, as far as they tell. -/
def leftFlanking (before after : Char) : Bool :=
  !isBlank after && (!isMark after || isBlank before || isMark before)

/-- A row of marks between two characters ends a word, as far as they tell. -/
def rightFlanking (before after : Char) : Bool := leftFlanking after before

/-- A row of marks between two characters can open emphasis, and can close it; underscores within a
word can do neither. -/
def flanks (mark before after : Char) : Bool × Bool :=
  let left := leftFlanking before after
  let right := rightFlanking before after
  if mark = '_' then (left && (!right || isMark before), right && (!left || isMark after))
  else (left, right)

/-! ## Matching -/

/-- The two rows may belong together: they have the same mark, and rows that could do either do not
add up to a multiple of three unless both are multiples of three. -/
def Delimiter.matches (opener closer : Delimiter) : Bool :=
  opener.opens && opener.mark == closer.mark &&
    !((closer.opens || opener.closes) && (opener.length + closer.length) % 3 == 0
      && !(opener.length % 3 == 0 && closer.length % 3 == 0))

/-- The nearest row that opens what `closer` closes, with the pieces after it, in order, and those
before it, newest first; `after` has been gone through. -/
def findOpener (closer : Delimiter) (after : List Piece) :
    List Piece → Option (List Piece × Delimiter × List Piece)
  | [] => none
  | .delimiter d :: before =>
    if d.matches closer then some (after, d, before)
    else findOpener closer (.delimiter d :: after) before
  | piece :: before => findOpener closer (piece :: after) before

/-- The row with `n` marks used up; nothing when none is left. -/
def Delimiter.spend (d : Delimiter) (n : Nat) : List Piece :=
  if d.count ≤ n then [] else [.delimiter { d with count := d.count - n }]

/-- The emphasis that `used` marks of two rows put around the pieces between them. -/
def emphasisNode (opener : Delimiter) (used : Nat) (inner : List Piece) : Node :=
  let kind := if opener.mark = '~' then Kind.strikethrough else Kind.emphasis used
  let shift := if used < opener.count ∧ used = 2 then 1 else 0
  ⟨kind, inner.map Piece.toNode, opener.line, opener.column + shift⟩

/-- The marks and pieces that are still to be matched. -/
def weight : List Piece → Nat
  | [] => 0
  | .delimiter d :: rest => d.count + 1 + weight rest
  | _ :: rest => 1 + weight rest

/-- The pieces with their rows matched; `before` has been gone through, newest first. Strikethrough
takes whole rows of one length only: rows of tildes that differ end the matching altogether. -/
def matchPieces (before : List Piece) (pieces : List Piece) : List Piece :=
  match pieces with
  | [] => before.reverse
  | .delimiter closer :: rest =>
    match if closer.closes then findOpener closer [] before else none with
    | none => matchPieces (.delimiter closer :: before) rest
    | some (inner, opener, outer) =>
      let used := if 2 ≤ opener.count ∧ 2 ≤ closer.count then 2 else 1
      if closer.mark = '~' ∧ (opener.count ≠ closer.count ∨ used < opener.count) then
        before.reverse ++ pieces
      else
        let node := Piece.node (emphasisNode opener used inner)
        let before := node :: (opener.spend used ++ outer)
        if closer.count ≤ used then matchPieces before rest
        else matchPieces before (.delimiter { closer with count := closer.count - used } :: rest)
  | piece :: rest => matchPieces (piece :: before) rest
  termination_by weight pieces
  decreasing_by
    · simp [weight]
    · simp [weight]
    · simp only [weight]; split <;> omega
    · cases piece <;> simp [weight]

/-- The nodes of pieces given newest first. -/
def resolve (pieces : List Piece) : List Node :=
  (matchPieces [] pieces.reverse).map Piece.toNode

theorem resolve_node (node : Node) : resolve [.node node] = [node] := by
  simp [resolve, matchPieces, Piece.toNode]

end Folio.Markdown
