import Folio.Toml.Draft
import Folio.Toml.Number
import Folio.Toml.Quoted

/-!
# Reading TOML

A text is a row of sections. Each begins with a header, but for the first, and holds keys with their
values, one on a line. The sections are read first, then put together into one table.
-/

namespace Folio.Toml

/-- A dotted key: the tables on the way and the last part. -/
abbrev DottedKey := List String × String

/-- What the keys of a section belong to. -/
inductive Header where
  | top
  /-- The table of that name, which is opened once. -/
  | table (name : DottedKey)
  /-- A further table in the list of that name. -/
  | row (name : DottedKey)
  deriving DecidableEq, Repr

/-- A header with the entries under it. -/
structure Section where
  header : Header
  entries : List (List String × String × Toml)

namespace Scanner

/-! ## Keys -/

/-- A character of a key that needs no quotes. -/
def isBare (c : Char) : Bool :=
  c.isAlphanum || c == '_' || c == '-'

/-- One part of a key with the blanks around it. -/
def keyPart : Scanner String := do
  spaces
  let part ← lineText <|> String.ofList <$> many1 isBare
  spaces
  return part

/-- A dotted key. -/
def dottedKey : Scanner DottedKey := do
  let first ← keyPart
  let more ← repeated (do char '.'; keyPart) (← remaining)
  let parts := first :: more
  if maxNesting < parts.length then failure
  else return (parts.dropLast, parts.getLastD first)

/-- A key with its value, on the rest of a line or between braces. -/
def entry (value : Scanner Toml) : Scanner (List String × String × Toml) := do
  let (path, key) ← dottedKey
  char '='
  spaces
  return (path, key, ← value)

/-! ## Values -/

/-- The items of a list up to the closing bracket; a comma may follow the last. -/
def listItems (value : Scanner Toml) : Scanner (List Toml) := do
  let item := do gap; let v ← value; gap; return v
  let items ← separated item (char ',') (← remaining)
  if !items.isEmpty then
    let _ ← optional (char ',')
  gap
  char ']'
  return items

/-- The entries of a table up to the closing brace, all on one line. -/
def tableEntries (value : Scanner Toml) : Scanner (List (List String × String × Toml)) := do
  let item := do let e ← entry value; spaces; return e
  let entries ← separated item (char ',') (← remaining)
  spaces
  char '\x7d'
  return entries

/-- A value that is neither list nor table. -/
def plainValue : Scanner Toml :=
  Toml.text <$> quotedText <|> number <|>
    (do word "true".toList; return .bool true) <|> (do word "false".toList; return .bool false)

/-- A value with lists and tables nested so deep. -/
def value : Nat → Scanner Toml
  | 0 => plainValue
  | depth + 1 => do
    match ← peek with
    | some '[' =>
      char '['
      return .list (← listItems (value depth))
    | some '\x7b' =>
      char '\x7b'
      let entries ← tableEntries (value depth)
      match Members.insertAll [] entries with
      | some members => return .table (finishMembers members)
      | none => failure
    | _ => plainValue

/-! ## Sections -/

/-- A header with its line. -/
def header : Scanner Header := do
  char '['
  let header ← (do
    char '['
    let name ← dottedKey
    char ']'
    return Header.row name) <|> Header.table <$> dottedKey
  char ']'
  restOfLine
  return header

/-- An entry with its line. -/
def entryLine : Scanner (List String × String × Toml) := do
  let e ← entry (value maxNesting)
  restOfLine
  return e

/-- A line without content. -/
def blankLine : Scanner Unit := do
  match ← peek with
  | none => failure
  | some _ => restOfLine

/-- The lines of a section after its header. -/
def sectionBody : Scanner (List (List String × String × Toml)) := do
  let lines ← repeated ((do blankLine; return none) <|> some <$> entryLine) (← remaining)
  return lines.filterMap id

/-- A header with the lines under it. -/
def headedSection : Scanner Section := do
  spaces
  let header ← header
  return ⟨header, ← sectionBody⟩

/-- The sections of a text. -/
def sections : Scanner (List Section) := do
  let _ ← optional (char '\ufeff')
  let top ← sectionBody
  let more ← repeated headedSection (← remaining)
  spaces
  match ← peek with
  | none => return ⟨.top, top⟩ :: more
  | some _ => failure

end Scanner

/-- Adds the entries of a section to what its header names. -/
def Members.addSection (members : Members) (part : Section) : Option Members :=
  match part.header with
  | .top => members.insertAll part.entries
  | .table (path, key) =>
    members.changeAt path key fun
      | none => (insertAll [] part.entries).map (.table .header)
      | some (.table .implied inner) => (insertAll inner part.entries).map (.table .header)
      | some _ => none
  | .row (path, key) =>
    members.changeAt path key fun
      | none => (insertAll [] part.entries).map fun table => .rows [table]
      | some (.rows tables) =>
        (insertAll [] part.entries).map fun table => .rows (tables ++ [table])
      | some _ => none

/-- The table that a text describes, if it is TOML. -/
def read (source : String) : Option (List (String × Toml)) := do
  let (parts, _) ← Scanner.sections.run source.toList
  let members ← parts.foldlM Members.addSection []
  return finishMembers members

end Folio.Toml
