import Folio.Diagnostic
import Folio.Markdown.Grammar.Finish
import Folio.Markdown.Grammar.Footnotes
import Folio.Markdown.Grammar.Tree
import Folio.Text.Utf8

/-!
# Reading Markdown

Every text is Markdown: it has a tree of blocks and inlines, whatever it holds. Bytes have to be
UTF-8. Metadata between two lines of dashes may stand at the beginning.
-/

namespace Folio.Markdown

/-- A line of dashes, and what follows it up to the next line, when the text begins with it. -/
def delimiterLine? (cs : List Char) : Option (List Char × List Char) :=
  match cs with
  | '-' :: '-' :: '-' :: '\n' :: rest => some ("---\n".toList, rest)
  | '-' :: '-' :: '-' :: '\r' :: '\n' :: rest => some ("---\r\n".toList, rest)
  | _ => none

/-- The text up to and including the first occurrence of `mark`, and what follows it. -/
def splitThrough? (mark : List Char) (cs : List Char) : Option (List Char × List Char) :=
  (Html.through? mark cs).map fun n => (cs.take n, cs.drop n)

/-- The end of the line that a text begins with, if the text begins with it. -/
def takeLineEnd (cs : List Char) : List Char × List Char :=
  match cs with
  | '\n' :: rest => (['\n'], rest)
  | '\r' :: '\n' :: rest => (['\r', '\n'], rest)
  | _ => ([], cs)

/-- The metadata at the beginning of a text, with its two delimiters and a blank line after them,
and the text that follows. The closing delimiter is a whole line; it is looked for with a carriage
return first. -/
def splitFrontMatter? (cs : List Char) : Option (List Char × List Char) := do
  let cs := match cs with
    | '\ufeff' :: rest => rest
    | _ => cs
  let (opening, rest) ← delimiterLine? cs
  let (body, rest) ← splitThrough? "\n---\r\n".toList rest <|> splitThrough? "\n---\n".toList rest
  let (blank, rest) := takeLineEnd rest
  return (opening ++ body ++ blank, rest)

/-- The tree of a text. -/
def parse (features : Features) (source : String) : Node :=
  let (metadata, body) :=
    match splitFrontMatter? source.toList with
    | some (raw, rest) =>
      ([(⟨.frontMatter (String.ofList raw), [], 0, 1⟩ : Node)], rest)
    | none => ([], source.toList)
  let outline := Outline.ofLines features (sourceLines body)
  let blocks := outline.toNodes features (byteLength body)
  let blocks := joinAll (if features.footnotes then placeNotes blocks else blocks)
  let blocks := if features.gfm ∧ features.taskLists then markTasksAll blocks else blocks
  let blocks := if features.gfm then linkAll blocks else blocks
  ⟨.document, metadata ++ settleFormulasAll false blocks, 1, 1⟩

/-- The tree of a text given in bytes; the fault of bytes that are no text is placed after the
characters before it. -/
def parseBytes (features : Features) (bytes : List UInt8) : Except Diagnostic Node :=
  match Text.decodeUtf8 bytes with
  | .ok source => .ok (parse features source)
  | .error fault =>
    let before := Text.decodeLossy (bytes.take fault.index)
    let line := before.count '\n' + 1
    let column := (before.reverse.takeWhile (· != '\n')).length + 1
    .error ⟨.parse, "input is not valid UTF-8: " ++ fault.message, some line, some column⟩

end Folio.Markdown
