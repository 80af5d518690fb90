import Folio.Format
import Folio.Proofs.Json.Shapes

/-!
# A document is read back from its text

* `Document.Fits` : all numbers of a document are of their sizes;
* `Kept` : a value is written by a shape and read again from its normal form;
* `Keeps` : the same for the fields of a record;
* `ofText_toText` : a document is read back from its text exactly, as long as its JSON nests no deeper than the reader
  allows;
* `Format.json_read_write` : so is what the JSON format writes.
-/

namespace Folio
open Json (Width Shape Member Fields Written)

/-! ## The sizes of numbers -/

/-- The number is of the size, if there is one. -/
def WithinSize (width : Width) (number : Option Nat) : Prop := ∀ n ∈ number, n ≤ width.max

/-- The font size is of its size. -/
def RunProperties.Fits (p : RunProperties) : Prop := WithinSize .word p.fontSize

/-- The numbers of a run are of their sizes. -/
def Run.Fits (run : Run) : Prop := run.properties.Fits ∧ WithinSize .size run.media

/-- Both ends are of their size. -/
def Spacing.Fits (s : Spacing) : Prop := WithinSize .word s.before ∧ WithinSize .word s.after

/-- Both measures are of their size. -/
def Indentation.Fits (i : Indentation) : Prop := WithinSize .word i.left ∧ WithinSize .word i.hanging

/-- The level and the first number are of their sizes. -/
def Numbering.Fits (n : Numbering) : Prop := n.level ≤ Width.byte.max ∧ WithinSize .size n.start

/-- The numbers of a paragraph's formatting are of their sizes. -/
def ParagraphProperties.Fits (p : ParagraphProperties) : Prop :=
  (∀ s ∈ p.spacing, s.Fits) ∧ (∀ i ∈ p.indentation, i.Fits) ∧ ∀ n ∈ p.numbering, n.Fits

/-- The numbers of a paragraph are of their sizes. -/
def Paragraph.Fits (p : Paragraph) : Prop := p.properties.Fits ∧ ∀ run ∈ p.runs, run.Fits

/-- The numbers of a cell's shape are of their sizes. -/
def CellProperties.Fits (p : CellProperties) : Prop := WithinSize .size p.gridSpan ∧ WithinSize .word p.width

mutual

/-- The numbers of a table are of their sizes, in the tables inside it too. -/
def Table.Fits : Table → Prop
  | ⟨properties, grid, rows⟩ => WithinSize .word properties.width ∧ (∀ n ∈ grid, n ≤ Width.word.max) ∧ rowsFit rows

/-- The numbers of rows are of their sizes. -/
def rowsFit : List Row → Prop
  | [] => True
  | row :: rows => rowFits row ∧ rowsFit rows

/-- The numbers of a row are of their sizes. -/
def rowFits : Row → Prop
  | ⟨_, cells⟩ => cellsFit cells

/-- The numbers of cells are of their sizes. -/
def cellsFit : List Cell → Prop
  | [] => True
  | cell :: cells => cellFits cell ∧ cellsFit cells

/-- The numbers of a cell are of their sizes. -/
def cellFits : Cell → Prop
  | ⟨properties, paragraphs, tables⟩ => properties.Fits ∧ (∀ p ∈ paragraphs, p.Fits) ∧ tablesFit tables

/-- The numbers of tables are of their sizes. -/
def tablesFit : List Table → Prop
  | [] => True
  | table :: tables => table.Fits ∧ tablesFit tables

end

/-- The numbers of an element are of their sizes. -/
def Element.Fits : Element → Prop
  | .paragraph p => p.Fits
  | .table t => t.Fits

/-- The numbers of a document are of their sizes. -/
def Document.Fits (doc : Document) : Prop :=
  doc.defaults.Fits ∧ (∀ e ∈ doc.body, e.Fits) ∧ ∀ f ∈ doc.footnotes, ∀ p ∈ f.paragraphs, p.Fits

namespace Document
open Document.Normal

/-! ## What is kept -/

/-- The value is written as `json` by the shape and read again from its normal form. -/
def Kept {α : Type} (shape : Shape Record) (json : Json) (read : Json → Option α) (value : α) : Prop :=
  ∃ normal, Written schema shape json normal ∧ read normal = some value

/-- The fields are written as the members, and each of their normal forms is read as wanted. -/
def Keeps (fields : List (Member Record)) (members : List (String × Json)) (wanted : List (Json → Prop)) : Prop :=
  ∃ found normals, Fields (Written schema) fields members found normals ∧
    List.Forall₂ (fun (p : Json → Prop) normal => p normal) wanted normals

theorem kept_text (s : String) : Kept .text (.str s) str? s := ⟨_, .text s, rfl⟩

theorem kept_flag (b : Bool) : Kept .flag (.bool b) bool? b := ⟨_, .flag b, rfl⟩

theorem kept_number {width : Width} {n : Nat} (h : n ≤ width.max) : Kept (.number width) (.nat n) nat? n :=
  ⟨_, .number h, rfl⟩

section Kept
variable {α : Type} {shape : Shape Record} {read : Json → Option α}

theorem kept_list {f : α → Json} {xs : List α} (h : ∀ x ∈ xs, Kept shape (f x) read x) :
    Kept (.list shape) (.arr (xs.map f)) (list? read) xs := by
  have all : ∃ normals, List.Forall₂ (Written schema shape) (xs.map f) normals ∧ normals.mapM read = some xs := by
    induction xs with
    | nil => exact ⟨[], .nil, rfl⟩
    | cons x xs ih =>
        obtain ⟨⟨normal, hw, hr⟩, others⟩ := List.forall_mem_cons.mp h
        obtain ⟨normals, hws, hrs⟩ := ih others
        refine ⟨normal :: normals, .cons hw hws, ?_⟩
        rw [List.mapM_cons, hr, hrs]
        rfl
  obtain ⟨normals, hw, hr⟩ := all
  obtain ⟨hl, hz⟩ := List.forall₂_iff_zip.mp hw
  exact ⟨.arr normals, .list hl hz, hr⟩

end Kept

section Keeps
variable {α : Type} {name : String} {shape : Shape Record} {read : Json → Option α} {fields : List (Member Record)}
  {members : List (String × Json)} {wanted : List (Json → Prop)}

theorem Keeps.nil : Keeps [] [] [] := ⟨[], [], .nil, .nil⟩

/-- A field that is always written. -/
theorem Keeps.always {field : Member Record} {json : Json} {value : α} (h : Kept field.shape json read value)
    (rest : Keeps fields members wanted) :
    Keeps (field :: fields) (always field.name json ++ members)
      ((fun normal => read normal = some value) :: wanted) := by
  obtain ⟨normal, hw, hr⟩ := h
  obtain ⟨found, normals, hf, hp⟩ := rest
  exact ⟨_, normal :: normals, .present hw.ne_null hw hf, .cons hr hp⟩

theorem orNull_of_written {json normal : Json} {value : α} (hw : Written schema shape json normal)
    (hr : read normal = some value) : orNull read normal = some (some value) := by
  have hne := hw.normal_ne_null
  unfold orNull
  split
  · exact absurd rfl hne
  · rw [hr]
    rfl

/-- A field that is left out when absent. -/
theorem Keeps.maybe {toJson : α → Json} (value : Option α) (h : ∀ v ∈ value, Kept shape (toJson v) read v)
    (rest : Keeps fields members wanted) :
    Keeps (maybe name shape :: fields) (ifSome name toJson value ++ members)
      ((fun normal => orNull read normal = some value) :: wanted) := by
  obtain ⟨found, normals, hf, hp⟩ := rest
  cases value with
  | none => exact ⟨_, .null :: normals, .absent rfl hf, .cons rfl hp⟩
  | some v =>
      obtain ⟨normal, hw, hr⟩ := h v rfl
      exact ⟨_, normal :: normals, .present hw.ne_null hw hf, .cons (orNull_of_written hw hr) hp⟩

/-- A number that is written as null when absent. -/
theorem Keeps.number {width : Width} (value : Option Nat) (h : WithinSize width value)
    (rest : Keeps fields members wanted) :
    Keeps (maybeInObject name (.number width) :: fields) ((name, natOrNull value) :: members)
      ((fun normal => orNull nat? normal = some value) :: wanted) := by
  obtain ⟨found, normals, hf, hp⟩ := rest
  cases value with
  | none => exact ⟨_, .null :: normals, .null rfl hf, .cons rfl hp⟩
  | some n => exact ⟨_, .nat n :: normals, .present Json.noConfusion (.number (h n rfl)) hf, .cons rfl hp⟩

/-- A flag that is left out when false. -/
theorem Keeps.flag (value : Bool) (rest : Keeps fields members wanted) :
    Keeps (defaulting name .flag (.bool false) :: fields) (ifTrue name value ++ members)
      ((fun normal => bool? normal = some value) :: wanted) := by
  obtain ⟨found, normals, hf, hp⟩ := rest
  cases value with
  | false => exact ⟨_, .bool false :: normals, .absent rfl hf, .cons rfl hp⟩
  | true => exact ⟨_, .bool true :: normals, .present Json.noConfusion (.flag true) hf, .cons rfl hp⟩

/-- A list that is left out when empty. -/
theorem Keeps.items {f : α → Json} (xs : List α) (h : ∀ x ∈ xs, Kept shape (f x) read x)
    (rest : Keeps fields members wanted) :
    Keeps (listing name shape :: fields) (ifItems name (xs.map f) ++ members)
      ((fun normal => list? read normal = some xs) :: wanted) := by
  obtain ⟨found, normals, hf, hp⟩ := rest
  cases xs with
  | nil => exact ⟨_, .arr [] :: normals, .absent rfl hf, .cons rfl hp⟩
  | cons x xs =>
      obtain ⟨normal, hw, hr⟩ := kept_list h
      exact ⟨_, normal :: normals, .present hw.ne_null hw hf, .cons hr hp⟩

/-- A record is kept when its fields are and it is read from what is wanted of them. -/
theorem kept_record {r : Record} {value : α} (h : Keeps r.fields members wanted)
    (hr : ∀ normals, List.Forall₂ (fun (p : Json → Prop) normal => p normal) wanted normals →
      read (.arr normals) = some value) : Kept (.record r) (.obj members) read value := by
  obtain ⟨found, normals, hf, hp⟩ := h
  exact ⟨.arr normals, .record hf, hr normals hp⟩

end Keeps

/-! ## Runs and paragraphs -/

theorem kept_runProperties {p : RunProperties} (h : p.Fits) :
    Kept (.record .runProperties) (runPropertiesJson p) runProperties? p := by
  have fields : Keeps (Record.fields .runProperties) _ _ :=
    .maybe p.bold (fun b _ => kept_flag b) <| .maybe p.italic (fun b _ => kept_flag b) <|
    .maybe p.strike (fun b _ => kept_flag b) <| .maybe p.fontFamily (fun s _ => kept_text s) <|
    .maybe p.fontColor (fun s _ => kept_text s) <| .maybe p.fontSize (fun n hn => kept_number (h n hn)) .nil
  simp only [runPropertiesJson, List.append_assoc]
  rw [List.append_nil] at fields
  refine kept_record fields ?_
  rintro _ (_ | ⟨h1, _ | ⟨h2, _ | ⟨h3, _ | ⟨h4, _ | ⟨h5, _ | ⟨h6, _ | _⟩⟩⟩⟩⟩⟩)
  simp [runProperties?, h1, h2, h3, h4, h5, h6]

theorem kept_run {run : Run} (h : run.Fits) : Kept (.record .run) (runJson run) run? run := by
  have fields : Keeps (Record.fields .run) _ _ :=
    .always (kept_text run.text) <| .always (kept_runProperties h.1) <| .maybe run.footnote (fun s _ => kept_text s) <|
    .maybe run.media (fun n hn => kept_number (h.2 n hn)) <| .maybe run.equation (fun s _ => kept_text s) .nil
  simp only [runJson, List.append_assoc]
  rw [List.append_nil] at fields
  refine kept_record fields ?_
  rintro _ (_ | ⟨h1, _ | ⟨h2, _ | ⟨h3, _ | ⟨h4, _ | ⟨h5, _ | _⟩⟩⟩⟩⟩)
  simp [run?, h1, h2, h3, h4, h5]

theorem kept_spacing {s : Spacing} (h : s.Fits) : Kept (.record .spacing) (spacingJson s) spacing? s := by
  have fields : Keeps (Record.fields .spacing) _ _ := .number s.before h.1 <| .number s.after h.2 .nil
  refine kept_record fields ?_
  rintro _ (_ | ⟨h1, _ | ⟨h2, _ | _⟩⟩)
  simp [spacing?, h1, h2]

theorem kept_indentation {i : Indentation} (h : i.Fits) :
    Kept (.record .indentation) (indentationJson i) indentation? i := by
  have fields : Keeps (Record.fields .indentation) _ _ := .number i.left h.1 <| .number i.hanging h.2 .nil
  refine kept_record fields ?_
  rintro _ (_ | ⟨h1, _ | ⟨h2, _ | _⟩⟩)
  simp [indentation?, h1, h2]

theorem kept_numbering {n : Numbering} (h : n.Fits) : Kept (.record .numbering) (numberingJson n) numbering? n := by
  have fields : Keeps (Record.fields .numbering) _ _ :=
    .always (kept_number h.1) <| .always (kept_flag n.ordered) <|
      .maybe n.start (fun k hk => kept_number (h.2 k hk)) .nil
  simp only [numberingJson, List.append_assoc]
  rw [List.append_nil] at fields
  refine kept_record fields ?_
  rintro _ (_ | ⟨h1, _ | ⟨h2, _ | ⟨h3, _ | _⟩⟩⟩)
  simp [numbering?, h1, h2, h3]

theorem kept_alignment (a : Alignment) : Kept (.choice alignmentNames) (.str a.name) alignment? a := by
  refine ⟨_, .choice ?_, ?_⟩
  · cases a <;> decide
  · cases a <;> rfl

theorem kept_verticalMerge (m : VerticalMerge) : Kept (.choice mergeNames) (.str m.name) verticalMerge? m := by
  refine ⟨_, .choice ?_, ?_⟩
  · cases m <;> decide
  · cases m <;> rfl

theorem kept_paragraphProperties {p : ParagraphProperties} (h : p.Fits) :
    Kept (.record .paragraphProperties) (paragraphPropertiesJson p) paragraphProperties? p := by
  have fields : Keeps (Record.fields .paragraphProperties) _ _ :=
    .maybe p.style (fun s _ => kept_text s) <| .maybe p.alignment (fun a _ => kept_alignment a) <|
    .maybe p.spacing (fun s hs => kept_spacing (h.1 s hs)) <|
    .maybe p.indentation (fun i hi => kept_indentation (h.2.1 i hi)) <|
    .maybe p.numbering (fun n hn => kept_numbering (h.2.2 n hn)) <| .flag p.borderBottom <|
    .maybe p.bookmark (fun s _ => kept_text s) .nil
  simp only [paragraphPropertiesJson, List.append_assoc]
  rw [List.append_nil] at fields
  refine kept_record fields ?_
  rintro _ (_ | ⟨h1, _ | ⟨h2, _ | ⟨h3, _ | ⟨h4, _ | ⟨h5, _ | ⟨h6, _ | ⟨h7, _ | _⟩⟩⟩⟩⟩⟩⟩)
  simp [paragraphProperties?, h1, h2, h3, h4, h5, h6, h7]

theorem kept_paragraph {p : Paragraph} (h : p.Fits) : Kept (.record .paragraph) (paragraphJson p) paragraph? p := by
  have fields : Keeps (Record.fields .paragraph) _ _ :=
    .always (kept_paragraphProperties h.1) <| .always (kept_list fun run hr => kept_run (h.2 run hr)) .nil
  refine kept_record fields ?_
  rintro _ (_ | ⟨h1, _ | ⟨h2, _ | _⟩⟩)
  simp [paragraph?, h1, h2]

/-! ## Tables -/

theorem kept_cellProperties {p : CellProperties} (h : p.Fits) :
    Kept (.record .cellProperties) (cellPropertiesJson p) cellProperties? p := by
  have fields : Keeps (Record.fields .cellProperties) _ _ :=
    .maybe p.gridSpan (fun n hn => kept_number (h.1 n hn)) <|
    .maybe p.verticalMerge (fun m _ => kept_verticalMerge m) <| .maybe p.width (fun n hn => kept_number (h.2 n hn)) .nil
  simp only [cellPropertiesJson, List.append_assoc]
  rw [List.append_nil] at fields
  refine kept_record fields ?_
  rintro _ (_ | ⟨h1, _ | ⟨h2, _ | ⟨h3, _ | _⟩⟩⟩)
  simp [cellProperties?, h1, h2, h3]

theorem kept_tableProperties {p : TableProperties} (h : WithinSize .word p.width) :
    Kept (.record .tableProperties) (tablePropertiesJson p) tableProperties? p := by
  have fields : Keeps (Record.fields .tableProperties) _ _ :=
    .maybe p.style (fun s _ => kept_text s) <| .maybe p.width (fun n hn => kept_number (h n hn)) .nil
  simp only [tablePropertiesJson]
  rw [List.append_nil] at fields
  refine kept_record fields ?_
  rintro _ (_ | ⟨h1, _ | ⟨h2, _ | _⟩⟩)
  simp [tableProperties?, h1, h2]

theorem rowsJson_eq (rows : List Row) : rowsJson rows = rows.map rowJson := by
  induction rows with
  | nil => rfl
  | cons row rows ih => rw [rowsJson, ih, List.map_cons]

theorem cellsJson_eq (cells : List Cell) : cellsJson cells = cells.map cellJson := by
  induction cells with
  | nil => rfl
  | cons cell cells ih => rw [cellsJson, ih, List.map_cons]

/-- A table that needs no name of its kind. -/
def tableJson (t : Table) : Json := .obj (tableMembers t)

theorem tablesJson_eq (tables : List Table) : tablesJson tables = tables.map tableJson := by
  induction tables with
  | nil => rfl
  | cons table tables ih => rw [tablesJson, ih, List.map_cons, tableJson]

theorem rows?_eq (items : List Json) : rows? items = items.mapM row? := by
  induction items with
  | nil => rfl
  | cons item items ih => rw [rows?, ih, List.mapM_cons]

theorem cells?_eq (items : List Json) : cells? items = items.mapM cell? := by
  induction items with
  | nil => rfl
  | cons item items ih => rw [cells?, ih, List.mapM_cons]

theorem tables?_eq (items : List Json) : tables? items = items.mapM table? := by
  induction items with
  | nil => rfl
  | cons item items ih => rw [tables?, ih, List.mapM_cons]

theorem list?_eq_some {α : Type} {read : Json → Option α} {json : Json} {xs : List α} (h : list? read json = some xs) :
    ∃ items, json = .arr items ∧ items.mapM read = some xs := by
  cases json with
  | arr items => exact ⟨items, rfl, h⟩
  | _ => cases h

mutual

theorem kept_table : ∀ t : Table, t.Fits → Kept (.record .table) (tableJson t) table? t
  | ⟨properties, grid, rows⟩, h => by
    rw [Table.Fits] at h
    have fields : Keeps (Record.fields .table) _ _ :=
      .always (kept_tableProperties h.1) <| .always (kept_list fun n hn => kept_number (h.2.1 n hn)) <|
      .always (kept_list (kept_rows rows h.2.2)) .nil
    rw [tableJson, tableMembers, rowsJson_eq]
    refine kept_record fields ?_
    rintro _ (_ | ⟨h1, _ | ⟨h2, _ | ⟨h3, _ | _⟩⟩⟩)
    obtain ⟨items, rfl, hi⟩ := list?_eq_some h3
    simp [table?, rows?_eq, h1, h2, hi]

theorem kept_rows : ∀ rows : List Row, rowsFit rows → ∀ row ∈ rows, Kept (.record .row) (rowJson row) row? row
  | [], _ => List.forall_mem_nil _
  | row :: rows, h => by
    rw [rowsFit] at h
    exact List.forall_mem_cons.mpr ⟨kept_row row h.1, kept_rows rows h.2⟩

theorem kept_row : ∀ row : Row, rowFits row → Kept (.record .row) (rowJson row) row? row
  | ⟨header, cells⟩, h => by
    rw [rowFits] at h
    have fields : Keeps (Record.fields .row) _ _ := .flag header <| .always (kept_list (kept_cells cells h)) .nil
    rw [rowJson, cellsJson_eq]
    refine kept_record fields ?_
    rintro _ (_ | ⟨h1, _ | ⟨h2, _ | _⟩⟩)
    obtain ⟨items, rfl, hi⟩ := list?_eq_some h2
    simp [row?, cells?_eq, h1, hi]

theorem kept_cells : ∀ cells : List Cell, cellsFit cells →
    ∀ cell ∈ cells, Kept (.record .cell) (cellJson cell) cell? cell
  | [], _ => List.forall_mem_nil _
  | cell :: cells, h => by
    rw [cellsFit] at h
    exact List.forall_mem_cons.mpr ⟨kept_cell cell h.1, kept_cells cells h.2⟩

theorem kept_cell : ∀ cell : Cell, cellFits cell → Kept (.record .cell) (cellJson cell) cell? cell
  | ⟨properties, paragraphs, tables⟩, h => by
    rw [cellFits] at h
    have fields : Keeps (Record.fields .cell) _ _ :=
      .always (kept_cellProperties h.1) <| .always (kept_list fun p hp => kept_paragraph (h.2.1 p hp)) <|
      .items tables (kept_tables tables h.2.2) .nil
    rw [cellJson, tablesJson_eq, List.append_assoc]
    rw [List.append_nil] at fields
    refine kept_record fields ?_
    rintro _ (_ | ⟨h1, _ | ⟨h2, _ | ⟨h3, _ | _⟩⟩⟩)
    obtain ⟨items, rfl, hi⟩ := list?_eq_some h3
    simp [cell?, tables?_eq, h1, h2, hi]

theorem kept_tables : ∀ tables : List Table, tablesFit tables →
    ∀ table ∈ tables, Kept (.record .table) (tableJson table) table? table
  | [], _ => List.forall_mem_nil _
  | table :: tables, h => by
    rw [tablesFit] at h
    exact List.forall_mem_cons.mpr ⟨kept_table table h.1, kept_tables tables h.2⟩

end

/-! ## Elements and documents -/

/-- An element of the body is a record with a member in front that says which it is. -/
theorem written_element {α : Type} {r : Record} {read : Json → Option α} {members : List (String × Json)} {value : α}
    (h : Kept (.record r) (.obj members) read value) (variant : String)
    (hv : [("paragraph", Record.paragraph), ("table", .table)].lookup variant = some r)
    (ht : "type" ∉ r.fields.map Member.name) :
    ∃ normal, Written schema elementShape (.obj (("type", .str variant) :: members)) (.obj [(variant, normal)]) ∧
      read normal = some value := by
  obtain ⟨normal, hw, hr⟩ := h
  cases hw with
  | record hf => exact ⟨_, .tagged hv ht hf, hr⟩

theorem kept_element {e : Element} (h : e.Fits) : Kept elementShape (elementJson e) element? e := by
  cases e with
  | paragraph p =>
      obtain ⟨normal, hw, hr⟩ := written_element (kept_paragraph h) "paragraph" rfl (by decide)
      exact ⟨_, hw, by rw [element?, hr]; rfl⟩
  | table t =>
      obtain ⟨normal, hw, hr⟩ := written_element (kept_table t h) "table" rfl (by decide)
      exact ⟨_, hw, by rw [element?, hr]; rfl⟩

theorem kept_footnote {f : Footnote} (h : ∀ p ∈ f.paragraphs, p.Fits) :
    Kept (.record .footnote) (footnoteJson f) Normal.footnote? f := by
  have fields : Keeps (Record.fields .footnote) _ _ :=
    .always (kept_text f.id) <| .always (kept_list fun p hp => kept_paragraph (h p hp)) .nil
  refine kept_record fields ?_
  rintro _ (_ | ⟨h1, _ | ⟨h2, _ | _⟩⟩)
  simp [Normal.footnote?, h1, h2]

theorem kept_media (m : MediaRef) : Kept (.record .media) (mediaJson m) media? m := by
  have fields : Keeps (Record.fields .media) _ _ := .always (kept_text m.source) <| .always (kept_text m.alt) .nil
  refine kept_record fields ?_
  rintro _ (_ | ⟨h1, _ | ⟨h2, _ | _⟩⟩)
  simp [media?, h1, h2]

theorem kept_metadataEntry (entry : String × String) :
    Kept (.pair .text .text) (.arr [.str entry.1, .str entry.2]) metadataEntry? entry :=
  ⟨_, .pair (.text entry.1) (.text entry.2), rfl⟩

theorem kept_document {doc : Document} (h : doc.Fits) : Kept (.record .document) doc.toJson document? doc := by
  have fields : Keeps (Record.fields .document) _ _ :=
    .items doc.metadata.entries (fun entry _ => kept_metadataEntry entry) <| .always (kept_runProperties h.1) <|
    .always (kept_list fun e he => kept_element (h.2.1 e he)) <|
    .items doc.footnotes (fun f hf => kept_footnote (h.2.2 f hf)) <| .items doc.media (fun m _ => kept_media m) .nil
  simp only [toJson, List.append_assoc]
  rw [List.append_nil] at fields
  refine kept_record fields ?_
  rintro _ (_ | ⟨h1, _ | ⟨h2, _ | ⟨h3, _ | ⟨h4, _ | ⟨h5, _ | _⟩⟩⟩⟩⟩)
  simp [document?, h1, h2, h3, h4, h5]

theorem schema_apart : schema.Apart := by
  intro r
  cases r <;> decide

/-- A document is read back from its text exactly, whatever it holds, as long as its JSON nests no deeper than the
reader allows. -/
theorem ofText_toText {doc : Document} (h : doc.Fits) (hd : doc.toJson.depth ≤ Json.maxNesting) :
    ofText doc.toText = .ok doc := by
  obtain ⟨normal, hw, hr⟩ := kept_document h
  unfold ofText
  rw [toText, Json.readText_written schema_apart hw hd]
  simp only [bind, Except.bind, hr]
  rfl

/-- A table in a table, beside a run with a quote and a control character. -/
def nested : Document where
  body := [.table {
    grid := [0xFFFFFFFF]
    rows := [{ cells := [{
      paragraphs := [{ runs := [{ text := "\"\x01", media := some 0xFFFFFFFFFFFFFFFF }] }]
      tables := [{ grid := [], rows := [] }] }] }] }]

end Document

/-- What the JSON format writes of a document it reads back to the same document, under whatever settings. -/
theorem Format.json_read_write {doc : Document} (h : doc.Fits) (hd : doc.toJson.depth ≤ Json.maxNesting)
    (exporting : ExportSettings) (rendering : RenderSettings) :
    ∃ text, json.write exporting doc = .of (.ok text) ∧ json.read rendering text = .of (.ok doc) := by
  refine ⟨doc.toText, rfl, ?_⟩
  show Reported.of ((Document.ofText doc.toText).mapError .ofJson) = _
  rw [Document.ofText_toText h hd]
  rfl

theorem Format.json_read_write_nested :
    (Document.nested.Fits ∧ Document.nested.toJson.depth ≤ Json.maxNesting) ∧
    ∃ text, json.write {} Document.nested = .of (.ok text) ∧ json.read {} text = .of (.ok Document.nested) := by
  have fits : Document.nested.Fits := by
    simp [Document.nested, Document.Fits, Element.Fits, Table.Fits, rowsFit, rowFits, cellsFit, cellFits, tablesFit,
      Paragraph.Fits, ParagraphProperties.Fits, Run.Fits, RunProperties.Fits, CellProperties.Fits, WithinSize,
      Width.max]
  have depth : Document.nested.toJson.depth ≤ Json.maxNesting := by decide
  exact ⟨⟨fits, depth⟩, json_read_write fits depth {} {}⟩

end Folio
