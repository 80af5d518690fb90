import Folio.Markdown.Grammar.Autolink
import Folio.Text.Edges
import Folio.Text.Lines

/-!
# Finishing a tree

When all inlines are read, neighbouring texts are joined, a box at the beginning of an item makes it
a task, mail addresses become links, and a paragraph of nothing but a displayed formula becomes that
formula. What stands in a link or an image is left as it was read.
-/

namespace Folio.Markdown
open Unicode (isAsciiBlank)

/-! ## Texts -/

/-- The nodes with neighbouring texts joined, where the first of them stands. -/
def joinTexts : List Node → List Node
  | [] => []
  | node :: rest =>
    match node.kind, joinTexts rest with
    | .text a, ⟨.text b, _, _, _⟩ :: rest => { node with kind := .text (a ++ b) } :: rest
    | _, rest => node :: rest

mutual

/-- The node with the texts in it joined. -/
def joinNode : Node → Node
  | ⟨kind, children, line, column⟩ =>
    match kind with
    | .link _ _ | .image _ _ => ⟨kind, children, line, column⟩
    | _ => ⟨kind, joinTexts (joinAll children), line, column⟩

/-- The nodes with the texts in them joined. -/
def joinAll : List Node → List Node
  | [] => []
  | node :: rest => joinNode node :: joinAll rest

end

/-! ## Tasks -/

/-- Whether the box at the beginning of a text is checked, and the length of the box with the blank
after it. -/
def taskBox? (text : List Char) : Option (Bool × Nat) :=
  let blanks := (text.takeWhile isAsciiBlank).length
  match text.drop blanks with
  | '[' :: c :: ']' :: rest =>
    if c ∈ [' ', 'x', 'X'] ∧ rest.head?.all isAsciiBlank then
      some (c != ' ', blanks + 3 + (rest.take 1).length)
    else none
  | _ => none

/-- The children of an item, a box first if a text begins with one. -/
def taskItem (line column : Nat) (children : List Node) : List Node :=
  match children with
  | ⟨.paragraph, ⟨.text text, inner, l, c⟩ :: inlines, pl, pc⟩ :: rest =>
    match taskBox? text.toList with
    | some (checked, length) =>
      let text := textNode (text.toList.drop length) l (c + length)
      ⟨.taskCheckBox checked, [], line, column⟩ ::
        ⟨.paragraph, { text with children := inner } :: inlines, pl, pc + length⟩ :: rest
    | none => children
  | _ => children

mutual

/-- The node with the tasks in it marked. -/
def markTasks : Node → Node
  | ⟨kind, children, line, column⟩ =>
    let children := markTasksAll children
    ⟨kind, if kind = .listItem then taskItem line column children else children, line, column⟩

/-- The nodes with the tasks in them marked. -/
def markTasksAll : List Node → List Node
  | [] => []
  | node :: rest => markTasks node :: markTasksAll rest

end

/-! ## Mail addresses -/

/-- The text of a node with its mail addresses made links. A text after an address has no place of
its own. -/
def linkMail (text : List Char) (line column : Nat) : List Node :=
  match findMail [] 0 text with
  | none => [textNode text line column]
  | some mail =>
    let link : Node :=
      ⟨.link (String.ofList mail.destination) "", [textNode mail.address 0 1], 0, 1⟩
    textNode mail.before line column :: link ::
      (if mail.after.isEmpty then []
      else if mail.after.length < text.length then linkMail mail.after 0 1
      else [textNode mail.after 0 1])
  termination_by text.length

/-- The mail addresses in a node, if it is text, are links. -/
def linkMailIn (node : Node) : List Node :=
  match node.kind with
  | .text text => linkMail text.toList node.line node.column
  | _ => [node]

mutual

/-- The node with the mail addresses in it made links. -/
def linkNode : Node → Node
  | ⟨kind, children, line, column⟩ =>
    match kind with
    | .link _ _ | .image _ _ => ⟨kind, children, line, column⟩
    | _ => ⟨kind, linkAll children, line, column⟩

/-- The nodes with the mail addresses among them and in them made links. -/
def linkAll : List Node → List Node
  | [] => []
  | node :: rest => linkMailIn (linkNode node) ++ linkAll rest

end

/-! ## Displayed formulas -/

/-- The inline stands around a formula without saying anything. -/
def Node.isSilent (node : Node) : Bool :=
  match node.kind with
  | .softBreak | .lineBreak => true
  | .text text => (Text.trim text.toList).isEmpty
  | _ => false

/-- The lines of the only thing in a paragraph, a displayed formula. -/
def displayedLines? (inlines : List Node) : Option (List String) :=
  match inlines.filter (!·.isSilent) with
  | [⟨.mathBlock [source], _, _, _⟩] =>
    some ((Text.lines (Text.trim source.toList)).map String.ofList)
  | _ => none

/-- A displayed formula among other inlines is a formula like any other. -/
def inlineFormula (node : Node) : Node :=
  match node.kind with
  | .mathBlock [source] => { node with kind := .inlineMath source }
  | _ => node

mutual

/-- The node with the displayed formulas in it on their own or inline. -/
def settleFormulas (inText : Bool) : Node → Node
  | ⟨kind, children, line, column⟩ =>
    match if kind = .paragraph then displayedLines? children else none with
    | some lines => ⟨.mathBlock lines, [], line, column⟩
    | none =>
      let inside := inText || kind matches .paragraph | .heading _ | .tableCell
      let node : Node := ⟨kind, settleFormulasAll inside children, line, column⟩
      if inText then inlineFormula node else node

/-- The nodes with the displayed formulas in them on their own or inline. -/
def settleFormulasAll (inText : Bool) : List Node → List Node
  | [] => []
  | node :: rest => settleFormulas inText node :: settleFormulasAll inText rest

end

end Folio.Markdown
