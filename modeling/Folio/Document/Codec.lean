import Folio.Document.Schema
import Folio.Document.Store
import Folio.Json.Printer

/-!
# Documents as JSON

A document is written as an object of its parts. A property that is absent is left out, and so are
the lists and flags that have nothing to say; the rest is always written, in the order of the
schema. Reading goes through the normal form of the schema, from which the typed value is taken.
-/

namespace Folio

/-- The name of an alignment. -/
def Alignment.name : Alignment → String
  | .left => "left"
  | .center => "center"
  | .right => "right"
  | .justify => "justify"

/-- The alignment of a name. -/
def Alignment.ofName? : String → Option Alignment
  | "left" => some .left
  | "center" => some .center
  | "right" => some .right
  | "justify" => some .justify
  | _ => none

/-- The name of an end of a vertical merge. -/
def VerticalMerge.name : VerticalMerge → String
  | .restart => "restart"
  | .continue => "continue"

/-- The end of a vertical merge of a name. -/
def VerticalMerge.ofName? : String → Option VerticalMerge
  | "restart" => some .restart
  | "continue" => some .continue
  | _ => none

namespace Document

/-! ## Writing -/

/-- A member that is always written. -/
def always (name : String) (value : Json) : List (String × Json) := [(name, value)]

/-- A member that is left out when absent. -/
def ifSome {α : Type} (name : String) (toJson : α → Json) : Option α → List (String × Json)
  | some value => [(name, toJson value)]
  | none => []

/-- A member that is left out when false. -/
def ifTrue (name : String) (value : Bool) : List (String × Json) :=
  if value then [(name, .bool true)] else []

/-- A member that is left out when empty. -/
def ifItems (name : String) (items : List Json) : List (String × Json) :=
  if items.isEmpty then [] else [(name, .arr items)]

/-- A number or null. -/
def natOrNull : Option Nat → Json
  | some n => .nat n
  | none => .null

/-- The formatting of a run, of which only what is set is written. -/
def runPropertiesJson (p : RunProperties) : Json :=
  .obj (ifSome "bold" .bool p.bold ++ ifSome "italic" .bool p.italic ++
    ifSome "strike" .bool p.strike ++ ifSome "font_family" .str p.fontFamily ++
    ifSome "font_color" .str p.fontColor ++ ifSome "font_size" .nat p.fontSize)

/-- A run with its text and its formatting. -/
def runJson (run : Run) : Json :=
  .obj (always "text" (.str run.text) ++ always "properties" (runPropertiesJson run.properties) ++
    ifSome "footnote" .str run.footnote ++ ifSome "media" .nat run.media ++
    ifSome "equation" .str run.equation)

/-- The space around a paragraph; both ends are written. -/
def spacingJson (s : Spacing) : Json :=
  .obj [("before", natOrNull s.before), ("after", natOrNull s.after)]

/-- The indentation of a paragraph; both measures are written. -/
def indentationJson (i : Indentation) : Json :=
  .obj [("left", natOrNull i.left), ("hanging", natOrNull i.hanging)]

/-- The place of a paragraph in a list. -/
def numberingJson (n : Numbering) : Json :=
  .obj (always "level" (.nat n.level) ++ always "ordered" (.bool n.ordered) ++
    ifSome "start" .nat n.start)

/-- The formatting of a paragraph, of which only what is set is written. -/
def paragraphPropertiesJson (p : ParagraphProperties) : Json :=
  .obj (ifSome "style" .str p.style ++ ifSome "alignment" (.str ·.name) p.alignment ++
    ifSome "spacing" spacingJson p.spacing ++ ifSome "indentation" indentationJson p.indentation ++
    ifSome "numbering" numberingJson p.numbering ++ ifTrue "border_bottom" p.borderBottom ++
    ifSome "bookmark" .str p.bookmark)

/-- The members of a paragraph. -/
def paragraphMembers (p : Paragraph) : List (String × Json) :=
  always "properties" (paragraphPropertiesJson p.properties) ++
    always "runs" (.arr (p.runs.map runJson))

/-- A paragraph outside the body, where its kind needs no name. -/
def paragraphJson (p : Paragraph) : Json := .obj (paragraphMembers p)

/-- The shape of a cell. -/
def cellPropertiesJson (p : CellProperties) : Json :=
  .obj (ifSome "grid_span" .nat p.gridSpan ++ ifSome "v_merge" (.str ·.name) p.verticalMerge ++
    ifSome "width" .nat p.width)

/-- The formatting of a table. -/
def tablePropertiesJson (p : TableProperties) : Json :=
  .obj (ifSome "style" .str p.style ++ ifSome "width" .nat p.width)

mutual

/-- The members of a table. -/
def tableMembers : Table → List (String × Json)
  | ⟨properties, grid, rows⟩ =>
    always "properties" (tablePropertiesJson properties) ++ always "grid" (.arr (grid.map .nat)) ++
      always "rows" (.arr (rowsJson rows))

/-- The rows of a table. -/
def rowsJson : List Row → List Json
  | [] => []
  | row :: rows => rowJson row :: rowsJson rows

/-- A row; that it is a header is written only of one. -/
def rowJson : Row → Json
  | ⟨header, cells⟩ => .obj (ifTrue "header" header ++ always "cells" (.arr (cellsJson cells)))

/-- The cells of a row. -/
def cellsJson : List Cell → List Json
  | [] => []
  | cell :: cells => cellJson cell :: cellsJson cells

/-- A cell with its paragraphs and the tables inside it. -/
def cellJson : Cell → Json
  | ⟨properties, paragraphs, tables⟩ =>
    .obj (always "properties" (cellPropertiesJson properties) ++
      always "paragraphs" (.arr (paragraphs.map paragraphJson)) ++
      ifItems "tables" (tablesJson tables))

/-- The tables inside a cell. -/
def tablesJson : List Table → List Json
  | [] => []
  | table :: tables => .obj (tableMembers table) :: tablesJson tables

end

/-- An element of the body, which says by its first member what it is. -/
def elementJson : Element → Json
  | .paragraph p => .obj (("type", .str "paragraph") :: paragraphMembers p)
  | .table t => .obj (("type", .str "table") :: tableMembers t)

/-- A footnote. -/
def footnoteJson (f : Footnote) : Json :=
  .obj [("id", .str f.id), ("paragraphs", .arr (f.paragraphs.map paragraphJson))]

/-- An image. -/
def mediaJson (m : MediaRef) : Json := .obj [("source", .str m.source), ("alt", .str m.alt)]

/-- A document as a JSON value. -/
def toJson (doc : Document) : Json :=
  .obj (ifItems "metadata" (doc.metadata.entries.map fun (k, v) => .arr [.str k, .str v]) ++
    always "defaults" (runPropertiesJson doc.defaults) ++
    always "body" (.arr (doc.body.map elementJson)) ++
    ifItems "footnotes" (doc.footnotes.map footnoteJson) ++
    ifItems "media" (doc.media.map mediaJson))

/-- The text that a document is kept as: its JSON and a line feed. -/
def toText (doc : Document) : String := doc.toJson.pretty ++ "\n"

/-! ## Reading the normal form -/

namespace Normal

/-- A text. -/
def str? : Json → Option String
  | .str s => some s
  | _ => none

/-- A number. -/
def nat? : Json → Option Nat
  | .nat n => some n
  | _ => none

/-- A flag. -/
def bool? : Json → Option Bool
  | .bool b => some b
  | _ => none

/-- A value that may be null. -/
def orNull {α : Type} (read : Json → Option α) : Json → Option (Option α)
  | .null => some none
  | value => (read value).map some

/-- A list of values. -/
def list? {α : Type} (read : Json → Option α) : Json → Option (List α)
  | .arr items => items.mapM read
  | _ => none

/-- The formatting of a run. -/
def runProperties? : Json → Option RunProperties
  | .arr [bold, italic, strike, fontFamily, fontColor, fontSize] => do
    return ⟨← orNull bool? bold, ← orNull bool? italic, ← orNull bool? strike,
      ← orNull str? fontFamily, ← orNull str? fontColor, ← orNull nat? fontSize⟩
  | _ => none

/-- A run. -/
def run? : Json → Option Run
  | .arr [text, properties, footnote, media, equation] => do
    return ⟨← str? text, ← runProperties? properties, ← orNull str? footnote,
      ← orNull nat? media, ← orNull str? equation⟩
  | _ => none

/-- The space around a paragraph. -/
def spacing? : Json → Option Spacing
  | .arr [before, after] => do return ⟨← orNull nat? before, ← orNull nat? after⟩
  | _ => none

/-- The indentation of a paragraph. -/
def indentation? : Json → Option Indentation
  | .arr [left, hanging] => do return ⟨← orNull nat? left, ← orNull nat? hanging⟩
  | _ => none

/-- The place of a paragraph in a list. -/
def numbering? : Json → Option Numbering
  | .arr [level, ordered, start] => do
    return ⟨← nat? level, ← bool? ordered, ← orNull nat? start⟩
  | _ => none

/-- An alignment by its name. -/
def alignment? (value : Json) : Option Alignment := do Alignment.ofName? (← str? value)

/-- The end of a vertical merge by its name. -/
def verticalMerge? (value : Json) : Option VerticalMerge := do VerticalMerge.ofName? (← str? value)

/-- The formatting of a paragraph. -/
def paragraphProperties? : Json → Option ParagraphProperties
  | .arr [style, alignment, spacing, indentation, numbering, borderBottom, bookmark] => do
    return ⟨← orNull str? style, ← orNull alignment? alignment, ← orNull spacing? spacing,
      ← orNull indentation? indentation, ← orNull numbering? numbering, ← bool? borderBottom,
      ← orNull str? bookmark⟩
  | _ => none

/-- A paragraph. -/
def paragraph? : Json → Option Paragraph
  | .arr [properties, runs] => do
    return ⟨← paragraphProperties? properties, ← list? run? runs⟩
  | _ => none

/-- The formatting of a table. -/
def tableProperties? : Json → Option TableProperties
  | .arr [style, width] => do return ⟨← orNull str? style, ← orNull nat? width⟩
  | _ => none

/-- The shape of a cell. -/
def cellProperties? : Json → Option CellProperties
  | .arr [gridSpan, verticalMerge, width] => do
    return ⟨← orNull nat? gridSpan, ← orNull verticalMerge? verticalMerge, ← orNull nat? width⟩
  | _ => none

mutual

/-- A table. -/
def table? : Json → Option Table
  | .arr [properties, grid, .arr rows] => do
    return ⟨← tableProperties? properties, ← list? nat? grid, ← rows? rows⟩
  | _ => none

/-- The rows of a table. -/
def rows? : List Json → Option (List Row)
  | [] => some []
  | row :: rows => do return (← row? row) :: (← rows? rows)

/-- A row. -/
def row? : Json → Option Row
  | .arr [header, .arr cells] => do return ⟨← bool? header, ← cells? cells⟩
  | _ => none

/-- The cells of a row. -/
def cells? : List Json → Option (List Cell)
  | [] => some []
  | cell :: cells => do return (← cell? cell) :: (← cells? cells)

/-- A cell. -/
def cell? : Json → Option Cell
  | .arr [properties, paragraphs, .arr tables] => do
    return ⟨← cellProperties? properties, ← list? paragraph? paragraphs, ← tables? tables⟩
  | _ => none

/-- The tables inside a cell. -/
def tables? : List Json → Option (List Table)
  | [] => some []
  | table :: tables => do return (← table? table) :: (← tables? tables)

end

/-- An element of the body, which a member named for its kind holds. -/
def element? : Json → Option Element
  | .obj [("paragraph", value)] => (paragraph? value).map .paragraph
  | .obj [("table", value)] => (table? value).map .table
  | _ => none

/-- A footnote. -/
def footnote? : Json → Option Footnote
  | .arr [id, paragraphs] => do return ⟨← str? id, ← list? paragraph? paragraphs⟩
  | _ => none

/-- An image. -/
def media? : Json → Option MediaRef
  | .arr [source, alt] => do return ⟨← str? source, ← str? alt⟩
  | _ => none

/-- A key of the metadata with its value. -/
def metadataEntry? : Json → Option (String × String)
  | .arr [key, value] => do return (← str? key, ← str? value)
  | _ => none

/-- The document of a normal form. -/
def document? : Json → Option Document
  | .arr [metadata, defaults, body, footnotes, media] => do
    return ⟨⟨← list? metadataEntry? metadata⟩, ← runProperties? defaults, ← list? element? body,
      ← list? footnote? footnotes, ← list? media? media⟩
  | _ => none

end Normal

/-- The document that a text holds. -/
def ofText (source : String) : Except Json.Fault Document := do
  let normal ← Json.readText schema (.record .document) source
  match Normal.document? normal with
  | some doc => return doc
  | none => throw ⟨.expectedValue, none⟩

end Document
end Folio
