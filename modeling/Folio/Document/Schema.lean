import Folio.Json.Shape

/-!
# The shapes of a document's JSON

The records that a document is written with, and the fields of each in the order in which they are
written. A field that has a value when it is absent may be left out.
-/

namespace Folio.Document
open Json (Shape Member Schema)

/-- The records of a document. -/
inductive Record where
  | document
  | footnote
  | media
  | paragraph
  | paragraphProperties
  | spacing
  | indentation
  | numbering
  | run
  | runProperties
  | table
  | tableProperties
  | row
  | cell
  | cellProperties
  deriving DecidableEq, Repr

/-- The names of the alignments. -/
def alignmentNames : List String := ["left", "center", "right", "justify"]

/-- The names of the two ends of a vertical merge. -/
def mergeNames : List String := ["restart", "continue"]

/-- A field that has to be there. -/
def needed (name : String) (shape : Shape Record) : Member Record := { name, shape }

/-- A field that is null when absent. -/
def maybe (name : String) (shape : Shape Record) : Member Record :=
  { name, shape, nullable := true, absent := some .null }

/-- A field that is null when an object lacks it, but that a list has to have. -/
def maybeInObject (name : String) (shape : Shape Record) : Member Record :=
  { name, shape, nullable := true, absent := some .null, optional := false }

/-- A field with a value of its own when absent. -/
def defaulting (name : String) (shape : Shape Record) (absent : Json) : Member Record :=
  { name, shape, absent := some absent }

/-- A list that is empty when absent. -/
def listing (name : String) (item : Shape Record) : Member Record :=
  defaulting name (.list item) (.arr [])

/-- The fields that may all be absent, as the value of an absent record. -/
def nulls (n : Nat) : Json := .arr (List.replicate n .null)

/-- The formatting of a paragraph that asks for nothing. -/
def plainParagraph : Json :=
  .arr [.null, .null, .null, .null, .null, .bool false, .null]

/-- An element of the body: a paragraph or a table, told apart by its type. -/
def elementShape : Shape Record :=
  .tagged "Element" "type" [("paragraph", .paragraph), ("table", .table)]

/-- The fields of each record. -/
def Record.fields : Record → List (Member Record)
  | .document => [
      listing "metadata" (.pair .text .text),
      defaulting "defaults" (.record .runProperties) (nulls 6),
      listing "body" elementShape,
      listing "footnotes" (.record .footnote),
      listing "media" (.record .media)]
  | .footnote => [needed "id" .text, needed "paragraphs" (.list (.record .paragraph))]
  | .media => [needed "source" .text, needed "alt" .text]
  | .paragraph => [
      defaulting "properties" (.record .paragraphProperties) plainParagraph,
      listing "runs" (.record .run)]
  | .paragraphProperties => [
      maybe "style" .text,
      maybe "alignment" (.choice alignmentNames),
      maybe "spacing" (.record .spacing),
      maybe "indentation" (.record .indentation),
      maybe "numbering" (.record .numbering),
      defaulting "border_bottom" .flag (.bool false),
      maybe "bookmark" .text]
  | .spacing => [maybeInObject "before" (.number .word), maybeInObject "after" (.number .word)]
  | .indentation => [maybeInObject "left" (.number .word), maybeInObject "hanging" (.number .word)]
  | .numbering => [
      needed "level" (.number .byte), needed "ordered" .flag, maybe "start" (.number .size)]
  | .run => [
      needed "text" .text,
      defaulting "properties" (.record .runProperties) (nulls 6),
      maybe "footnote" .text,
      maybe "media" (.number .size),
      maybe "equation" .text]
  | .runProperties => [
      maybe "bold" .flag,
      maybe "italic" .flag,
      maybe "strike" .flag,
      maybe "font_family" .text,
      maybe "font_color" .text,
      maybe "font_size" (.number .word)]
  | .table => [
      defaulting "properties" (.record .tableProperties) (nulls 2),
      needed "grid" (.list (.number .word)),
      needed "rows" (.list (.record .row))]
  | .tableProperties => [maybe "style" .text, maybe "width" (.number .word)]
  | .row => [defaulting "header" .flag (.bool false), needed "cells" (.list (.record .cell))]
  | .cell => [
      defaulting "properties" (.record .cellProperties) (nulls 3),
      needed "paragraphs" (.list (.record .paragraph)),
      listing "tables" (.record .table)]
  | .cellProperties => [
      maybe "grid_span" (.number .size),
      maybe "v_merge" (.choice mergeNames),
      maybe "width" (.number .word)]

/-- What each record is called in a fault. -/
def Record.name : Record → String
  | .document => "Document"
  | .footnote => "Footnote"
  | .media => "MediaRef"
  | .paragraph => "Paragraph"
  | .paragraphProperties => "ParagraphProperties"
  | .spacing => "Spacing"
  | .indentation => "Indentation"
  | .numbering => "Numbering"
  | .run => "Run"
  | .runProperties => "RunProperties"
  | .table => "Table"
  | .tableProperties => "TableProperties"
  | .row => "TableRow"
  | .cell => "TableCell"
  | .cellProperties => "CellProperties"

/-- The records of a document with their fields. -/
def schema : Schema Record := ⟨Record.name, Record.fields⟩

end Folio.Document
