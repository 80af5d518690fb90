import Folio.Document.Table

/-!
# Documents

A document is a list of paragraphs and tables with its metadata, its run defaults, its footnotes
and its media. Elements are appended and keep their place, so the place of a table names it.

A document may be told to refuse some kinds of edits; a refused edit changes nothing.

* `keys_set_go_of_mem`, `set_go_of_not_mem`, `nodup_keys_set_go`, `get?_set`: what setting a key makes of the keys and
  of their values.
-/

namespace Folio

/-- An element of a document's body. -/
inductive Element where
  | paragraph (paragraph : Paragraph)
  | table (table : Table)
  deriving Repr, Inhabited

/-- A footnote, which runs refer to by its id. -/
structure Footnote where
  id : String
  paragraphs : List Paragraph
  deriving DecidableEq, Repr, Inhabited

/-- An image that the body shows. -/
structure MediaRef where
  /-- The resolved path or address. -/
  source : String
  alt : String
  deriving DecidableEq, Repr, Inhabited

/-- The properties of a document (title, author, …), in the order of their first setting. -/
structure Metadata where
  entries : List (String × String) := []
  deriving DecidableEq, Repr, Inhabited

namespace Metadata

/-- The value of a key. -/
def get? (metadata : Metadata) (key : String) : Option String := metadata.entries.lookup key

/-- The metadata with a key set: a new key comes last, a known key keeps its place. The entries
read from a file may repeat a key; then the first of them is set. -/
def set (metadata : Metadata) (key value : String) : Metadata where
  entries := go metadata.entries
where
  /-- The entries with the first entry of the key set. -/
  go : List (String × String) → List (String × String)
    | [] => [(key, value)]
    | (k, v) :: rest => if k == key then (k, value) :: rest else (k, v) :: go rest

theorem mem_set_go {key value : String} {entries : List (String × String)} {entry : String × String}
    (h : entry ∈ set.go key value entries) : entry = (key, value) ∨ entry ∈ entries := by
  induction entries with
  | nil => simpa [set.go] using h
  | cons first rest ih =>
      obtain ⟨k, v⟩ := first
      rw [set.go] at h
      split at h
      · rename_i hk
        obtain rfl := eq_of_beq hk
        rcases List.mem_cons.mp h with h | h
        · exact .inl h
        · exact .inr (List.mem_cons_of_mem _ h)
      · rcases List.mem_cons.mp h with rfl | h
        · exact .inr List.mem_cons_self
        · exact (ih h).imp_right (List.mem_cons_of_mem _)

/-- A key that is not there comes last. -/
theorem set_go_of_not_mem {key : String} (value : String) {entries : List (String × String)}
    (h : key ∉ entries.map Prod.fst) : set.go key value entries = entries ++ [(key, value)] := by
  induction entries with
  | nil => rfl
  | cons first rest ih =>
      obtain ⟨k, v⟩ := first
      rw [List.map_cons, List.mem_cons, not_or] at h
      rw [set.go, if_neg (by simpa using Ne.symm h.1), ih h.2]
      rfl

/-- A key that is there keeps its place. -/
theorem keys_set_go_of_mem {key : String} (value : String) {entries : List (String × String)}
    (h : key ∈ entries.map Prod.fst) : (set.go key value entries).map Prod.fst = entries.map Prod.fst := by
  induction entries with
  | nil => exact absurd h List.not_mem_nil
  | cons first rest ih =>
      obtain ⟨k, v⟩ := first
      rw [set.go]
      split
      · rfl
      · rename_i hk
        rw [List.map_cons, List.mem_cons] at h
        have hrest : key ∈ rest.map Prod.fst := h.resolve_left fun heq => hk (by rw [heq]; exact beq_self_eq_true _)
        rw [List.map_cons, List.map_cons, ih hrest]

/-- Setting a key makes no key come twice. -/
theorem nodup_keys_set_go {key value : String} {entries : List (String × String)} (h : (entries.map Prod.fst).Nodup) :
    ((set.go key value entries).map Prod.fst).Nodup := by
  by_cases hmem : key ∈ entries.map Prod.fst
  · rwa [keys_set_go_of_mem value hmem]
  · rw [set_go_of_not_mem value hmem, List.map_append]
    refine List.nodup_append.mpr ⟨h, List.pairwise_singleton _ _, ?_⟩
    rintro k hk k' hk' rfl
    obtain rfl : k = key := List.mem_singleton.mp hk'
    exact hmem hk

/-- A key has the value that it is set to, and the other keys have theirs. -/
theorem get?_set (metadata : Metadata) (key value other : String) :
    (metadata.set key value).get? other = if other == key then some value else metadata.get? other := by
  change (set.go key value metadata.entries).lookup other = if other == key then _ else metadata.entries.lookup other
  induction metadata.entries with
  | nil =>
      rw [set.go, List.lookup_cons]
      cases other == key <;> rfl
  | cons first rest ih =>
      obtain ⟨k, v⟩ := first
      rw [set.go]
      split
      next hk =>
        obtain rfl := eq_of_beq hk
        rw [List.lookup_cons, List.lookup_cons]
        cases other == k <;> rfl
      next hk =>
        rw [List.lookup_cons, List.lookup_cons, ih]
        cases hother : other == k with
        | false => rfl
        | true =>
            obtain rfl := eq_of_beq hother
            dsimp only
            rw [if_neg hk]

end Metadata

/-- A document. -/
structure Document where
  metadata : Metadata := {}
  /-- The formatting of runs that ask for none. -/
  defaults : RunProperties := {}
  body : List Element := []
  footnotes : List Footnote := []
  media : List MediaRef := []
  deriving Repr, Inhabited

/-- The kinds of edits that a document can be told to refuse. -/
inductive Operation where
  | pushParagraph
  | createTable
  | editTable
  | addFootnote
  deriving DecidableEq, Repr

/-- The name of an operation in the reason of its refusal. -/
def Operation.name : Operation → String
  | .pushParagraph => "push_paragraph"
  | .createTable => "create_table"
  | .editTable => "table_mut"
  | .addFootnote => "add_footnote"

/-- The refusal of an operation. -/
def Operation.refusal (operation : Operation) : EditError :=
  .rejected (operation.name ++ " refused")

namespace Document

/-- The paragraphs of the body. -/
def paragraphs (doc : Document) : List Paragraph :=
  doc.body.filterMap fun
    | .paragraph paragraph => some paragraph
    | .table _ => none

/-- The tables of the body. -/
def tables (doc : Document) : List Table :=
  doc.body.filterMap fun
    | .paragraph _ => none
    | .table table => some table

/-- The footnote of an id. -/
def footnote? (doc : Document) (id : String) : Option Footnote :=
  doc.footnotes.find? (·.id == id)

/-- Appends a paragraph. -/
def pushParagraph (doc : Document) (paragraph : Paragraph) : Document :=
  { doc with body := doc.body ++ [.paragraph paragraph] }

/-- Appends a table of empty cells; its id is its place in the body. -/
def createTable (doc : Document) (rows cols : Nat) : Except EditError (Document × Nat) := do
  let table ← Table.new rows cols
  return ({ doc with body := doc.body ++ [.table table] }, doc.body.length)

/-- The table of an id. -/
def table (doc : Document) (id : Nat) : Except EditError Table :=
  match doc.body[id]? with
  | some (.table table) => .ok table
  | _ => .error (.noSuchTable id)

/-- The document with the table of an id replaced. -/
def setTable (doc : Document) (id : Nat) (table : Table) : Document :=
  { doc with body := doc.body.set id (.table table) }

/-- The document after an edit of one of its tables and, when the edit is refused, the reason. -/
def editTable (doc : Document) (id : Nat) (edit : Table.Edit) : Document × Option EditError :=
  match doc.table id with
  | .error e => (doc, some e)
  | .ok table =>
    let (table, refusal) := table.edit edit
    (doc.setTable id table, refusal)

/-- Sets a property of the document. -/
def setMetadata (doc : Document) (key value : String) : Document :=
  { doc with metadata := doc.metadata.set key value }

/-- Appends a footnote, unless its id is taken. -/
def addFootnote (doc : Document) (footnote : Footnote) : Except EditError Document :=
  match doc.footnote? footnote.id with
  | some _ => .error (.duplicateFootnote footnote.id)
  | none => .ok { doc with footnotes := doc.footnotes ++ [footnote] }

/-- Appends an image; its index is its place in the media list. -/
def addMedia (doc : Document) (media : MediaRef) : Document × Nat :=
  ({ doc with media := doc.media ++ [media] }, doc.media.length)

/-- Sets the run defaults. -/
def setDefaults (doc : Document) (defaults : RunProperties) : Document :=
  { doc with defaults }

end Document
end Folio
