import Folio.Document.Store
import Mathlib.Data.List.Basic
import Mathlib.Data.List.Infix
import Mathlib.Data.List.Nodup
import Mathlib.Tactic.Common

/-!
# Documents that grow

A document is made by calls in a row, some of which are refused. A call hands out the place of a new table or of a new
image, and this place is a handle: whatever calls follow, it leads to the same table, changed by nothing but the
operations on that table, and to the same image. Footnote ids are taken once; the keys of the metadata keep the order
of their first setting and have the value of their last.

* `Call`, `call`, `after` : the calls, what one of them does and answers, and the document after several;
* `GrowsTo` : the later document goes on where the earlier one ends;
* `growsTo_after` : calls make a document grow, by `GrowsTo.call` for one of them;
* `Orderly` : the footnotes and the metadata are as the calls so far have them;
* `Orderly.after` : they are so after every call, by `Orderly.call` for one of them;
* `handles_after` : all of this for the documents that calls make of the empty one.
-/

namespace Folio

/-! ## Calls -/

/-- The table after operations in a row, refused ones included. -/
def Table.under (table : Table) (operations : List (Table → Table × Option EditError)) : Table :=
  operations.foldl (fun table operation => (operation table).1) table

/-- The element after operations in a row on the table that it is. -/
def Element.under (operations : List (Table → Table × Option EditError)) : Element → Element
  | .paragraph content => .paragraph content
  | .table content => .table (content.under operations)

theorem Element.under_nil (element : Element) : element.under [] = element := by
  cases element <;> rfl

theorem Element.under_append (first second : List (Table → Table × Option EditError)) (element : Element) :
    element.under (first ++ second) = (element.under first).under second := by
  cases element with
  | paragraph content => rfl
  | table content =>
      refine congrArg Element.table ?_
      exact List.foldl_append

namespace Document

/-- The document after an operation on one of its tables and, when it is refused, the reason. -/
def operate (doc : Document) (id : Nat) (operation : Table → Table × Option EditError) :
    Document × Option EditError :=
  match doc.table id with
  | .error e => (doc, some e)
  | .ok table => (doc.setTable id (operation table).1, (operation table).2)

/-- A call that makes or changes a document. -/
inductive Call where
  | pushParagraph (paragraph : Paragraph)
  | createTable (rows cols : Nat)
  /-- The table of an id is handed out and operated on. -/
  | operate (id : Nat) (operation : Table → Table × Option EditError)
  | setMetadata (key value : String)
  | addFootnote (footnote : Footnote)
  | addMedia (media : MediaRef)
  | setDefaults (defaults : RunProperties)

/-- The document after a call, with the handle that the call gives out, if it gives one, or with its refusal. -/
def call (doc : Document) : Call → Document × Except EditError (Option Nat)
  | .pushParagraph paragraph => (doc.pushParagraph paragraph, .ok none)
  | .createTable rows cols =>
    match doc.createTable rows cols with
    | .error e => (doc, .error e)
    | .ok (grown, id) => (grown, .ok (some id))
  | .operate id operation =>
    ((doc.operate id operation).1, (doc.operate id operation).2.elim (.ok none) .error)
  | .setMetadata key value => (doc.setMetadata key value, .ok none)
  | .addFootnote footnote =>
    match doc.addFootnote footnote with
    | .error e => (doc, .error e)
    | .ok grown => (grown, .ok none)
  | .addMedia media => ((doc.addMedia media).1, .ok (some (doc.addMedia media).2))
  | .setDefaults defaults => (doc.setDefaults defaults, .ok none)

/-- The document after calls in a row, refused ones included. -/
def after (doc : Document) (calls : List Call) : Document :=
  calls.foldl (fun doc made => (doc.call made).1) doc

/-- The operation that a call makes on the table of an id, if it makes one. -/
def Call.operation? (id : Nat) : Call → Option (Table → Table × Option EditError)
  | .operate other operation => if other = id then some operation else none
  | _ => none

/-- The operations that calls make on the table of an id. -/
def operationsOn (id : Nat) (calls : List Call) : List (Table → Table × Option EditError) :=
  calls.filterMap (Call.operation? id)

/-- The key and the value that a call sets, if it sets one. -/
def Call.setting? : Call → Option (String × String)
  | .setMetadata key value => some (key, value)
  | _ => none

/-- The keys and values that calls set. -/
def settings (calls : List Call) : List (String × String) := calls.filterMap Call.setting?

/-! ## Growth -/

/-- The later document has the elements, the footnotes and the images of the earlier one in front of its own, the
tables changed by the operations that the calls make on them and nothing else changed. -/
structure GrowsTo (calls : List Call) (doc later : Document) : Prop where
  body : ∃ added, later.body = (doc.body.mapIdx fun id element => element.under (operationsOn id calls)) ++ added
  footnotes : doc.footnotes <+: later.footnotes
  media : doc.media <+: later.media

/-- What is done with a body when no operation is made on any of its tables. -/
theorem mapIdx_under_nil {operations : Nat → List (Table → Table × Option EditError)} (h : ∀ id, operations id = [])
    (body : List Element) : (body.mapIdx fun id element => element.under (operations id)) = body := by
  apply List.ext_getElem?
  intro id
  rw [List.getElem?_mapIdx, h id]
  cases body[id]? with
  | none => rfl
  | some element => exact congrArg some element.under_nil

theorem GrowsTo.refl (doc : Document) : GrowsTo [] doc doc where
  body := ⟨[], by rw [List.append_nil]; exact (mapIdx_under_nil (fun _ => rfl) _).symm⟩
  footnotes := List.prefix_refl _
  media := List.prefix_refl _

theorem GrowsTo.trans {first second : List Call} {doc middle later : Document} (h : GrowsTo first doc middle)
    (h' : GrowsTo second middle later) : GrowsTo (first ++ second) doc later where
  body := by
    obtain ⟨added, hadded⟩ := h.body
    obtain ⟨added', hadded'⟩ := h'.body
    rw [hadded, List.mapIdx_append, List.append_assoc] at hadded'
    refine ⟨_, hadded'.trans (congrArg (· ++ _) ?_)⟩
    rw [List.mapIdx_mapIdx]
    congr 1
    funext id element
    rw [operationsOn, operationsOn, operationsOn, List.filterMap_append, Element.under_append]
    rfl
  footnotes := h.footnotes.trans h'.footnotes
  media := h.media.trans h'.media

/-- A call that operates on no table makes a document grow when its body, its footnotes and its images are continued. -/
theorem GrowsTo.of_continued {made : Call} {doc later : Document} (plain : ∀ id, made.operation? id = none)
    (body : doc.body <+: later.body) (footnotes : doc.footnotes <+: later.footnotes)
    (media : doc.media <+: later.media) : GrowsTo [made] doc later where
  body := by
    obtain ⟨added, hadded⟩ := body
    have hnone : ∀ id, operationsOn id [made] = [] := fun id => List.filterMap_eq_nil_iff.mpr (by simpa using plain id)
    exact ⟨added, by rw [mapIdx_under_nil hnone, hadded]⟩
  footnotes := footnotes
  media := media

theorem table_eq_ok_iff {doc : Document} {id : Nat} {table : Table} :
    doc.table id = .ok table ↔ doc.body[id]? = some (.table table) := by
  unfold Document.table
  split
  next found hfound => simp [hfound]
  next hother =>
    constructor
    · intro h
      cases h
    · intro h
      exact absurd h (hother table)

/-- An operation changes the table that it is made on and no other element. -/
theorem body_operate (doc : Document) (id : Nat) (operation : Table → Table × Option EditError) :
    (doc.operate id operation).1.body =
      doc.body.mapIdx fun other element => element.under (operationsOn other [.operate id operation]) := by
  apply List.ext_getElem?
  intro other
  rw [List.getElem?_mapIdx]
  unfold operate
  by_cases hother : id = other
  · subst hother
    have hoperations : operationsOn id [.operate id operation] = [operation] := by simp [operationsOn, Call.operation?]
    cases htable : doc.table id with
    | ok table =>
        have hplace := table_eq_ok_iff.mp htable
        have hlt : id < doc.body.length := (List.getElem?_eq_some_iff.mp hplace).1
        rw [hplace, hoperations]
        exact List.getElem?_set_self hlt
    | error e =>
        rw [hoperations]
        dsimp only
        cases hplace : doc.body[id]? with
        | none => rfl
        | some element =>
            cases element with
            | paragraph paragraph => rfl
            | table table => cases htable.symm.trans (table_eq_ok_iff.mpr hplace)
  · have hoperations : operationsOn other [.operate id operation] = [] := by
      simp [operationsOn, Call.operation?, hother]
    have hplace : doc.body[other]? = doc.body[other]?.map (Element.under []) := by
      cases doc.body[other]? with
      | none => rfl
      | some element => exact congrArg some element.under_nil.symm
    rw [hoperations]
    cases doc.table id with
    | ok table => exact (List.getElem?_set_ne hother).trans hplace
    | error e => exact hplace

/-- An operation on a table changes nothing but the body. -/
theorem operate_frame (doc : Document) (id : Nat) (operation : Table → Table × Option EditError) :
    (doc.operate id operation).1.metadata = doc.metadata ∧
      (doc.operate id operation).1.footnotes = doc.footnotes ∧ (doc.operate id operation).1.media = doc.media := by
  unfold operate
  cases doc.table id <;> exact ⟨rfl, rfl, rfl⟩

/-- One call makes a document grow, also when it is refused. -/
theorem GrowsTo.call (doc : Document) (made : Call) : GrowsTo [made] doc (doc.call made).1 := by
  cases made with
  | pushParagraph paragraph =>
      exact .of_continued (fun _ => rfl) (List.prefix_append _ _) (List.prefix_refl _) (List.prefix_refl _)
  | createTable rows cols =>
      rw [Document.call, createTable]
      cases Table.new rows cols with
      | error e => exact .of_continued (fun _ => rfl) (List.prefix_refl _) (List.prefix_refl _) (List.prefix_refl _)
      | ok table =>
          exact .of_continued (fun _ => rfl) (List.prefix_append _ _) (List.prefix_refl _) (List.prefix_refl _)
  | operate id operation =>
      obtain ⟨-, hfootnotes, hmedia⟩ := operate_frame doc id operation
      refine ⟨⟨[], ?_⟩, ?_, ?_⟩
      · rw [List.append_nil]
        exact body_operate doc id operation
      · exact hfootnotes.symm ▸ List.prefix_refl _
      · exact hmedia.symm ▸ List.prefix_refl _
  | setMetadata key value =>
      exact .of_continued (fun _ => rfl) (List.prefix_refl _) (List.prefix_refl _) (List.prefix_refl _)
  | addFootnote footnote =>
      rw [Document.call, addFootnote]
      cases doc.footnote? footnote.id with
      | some taken => exact .of_continued (fun _ => rfl) (List.prefix_refl _) (List.prefix_refl _) (List.prefix_refl _)
      | none => exact .of_continued (fun _ => rfl) (List.prefix_refl _) (List.prefix_append _ _) (List.prefix_refl _)
  | addMedia media =>
      exact .of_continued (fun _ => rfl) (List.prefix_refl _) (List.prefix_refl _) (List.prefix_append _ _)
  | setDefaults defaults =>
      exact .of_continued (fun _ => rfl) (List.prefix_refl _) (List.prefix_refl _) (List.prefix_refl _)

theorem growsTo_after (doc : Document) (calls : List Call) : GrowsTo calls doc (doc.after calls) := by
  induction calls generalizing doc with
  | nil => exact .refl doc
  | cons made calls ih => exact (GrowsTo.call doc made).trans (ih (doc.call made).1)

/-- The id of a table leads to that table for good. -/
theorem GrowsTo.table {calls : List Call} {doc later : Document} (h : GrowsTo calls doc later) {id : Nat}
    {table : Table} (found : doc.table id = .ok table) :
    later.table id = .ok (table.under (operationsOn id calls)) := by
  obtain ⟨added, hadded⟩ := h.body
  have hplace := table_eq_ok_iff.mp found
  have hlt : id < doc.body.length := (List.getElem?_eq_some_iff.mp hplace).1
  rw [table_eq_ok_iff, hadded, List.getElem?_append_left (by rwa [List.length_mapIdx]), List.getElem?_mapIdx, hplace]
  rfl

/-- The index of an image leads to that image for good. -/
theorem GrowsTo.image {calls : List Call} {doc later : Document} (h : GrowsTo calls doc later) {index : Nat}
    {image : MediaRef} (found : doc.media[index]? = some image) : later.media[index]? = some image := by
  obtain ⟨added, hadded⟩ := h.media
  rw [← hadded, List.getElem?_append_left (List.getElem?_eq_some_iff.mp found).1]
  exact found

/-! ## Footnotes and metadata -/

/-- The footnotes and the metadata of a document are as the calls so far have them. -/
structure Orderly (calls : List Call) (doc : Document) : Prop where
  /-- No two footnotes have the same id. -/
  notes : (doc.footnotes.map Footnote.id).Nodup
  /-- No key is there twice. -/
  distinct : (doc.metadata.entries.map Prod.fst).Nodup
  /-- The keys stand in the order in which they were first set. -/
  keys : doc.metadata.entries.map Prod.fst = ((settings calls).map Prod.fst).eraseDups
  /-- A key has the value that it was last set to. -/
  values : ∀ key, doc.metadata.get? key = (settings calls).reverse.lookup key

theorem orderly_empty : Orderly [] {} := ⟨List.nodup_nil, List.nodup_nil, rfl, fun _ => rfl⟩

/-- A call that sets nothing and leaves the metadata alone keeps a document orderly when the ids stay apart. -/
theorem Orderly.of_eq {calls : List Call} {doc later : Document} (h : Orderly calls doc) {made : Call}
    (plain : made.setting? = none) (metadata : later.metadata = doc.metadata)
    (notes : (later.footnotes.map Footnote.id).Nodup) : Orderly (calls ++ [made]) later := by
  have hsettings : settings (calls ++ [made]) = settings calls := by simp [settings, plain]
  refine ⟨notes, ?_, ?_, ?_⟩
  · rw [metadata]
    exact h.distinct
  · rw [metadata, hsettings]
    exact h.keys
  · rw [metadata, hsettings]
    exact h.values

/-- Setting a key keeps the order of the first settings and makes the value the last one. -/
theorem Orderly.setMetadata {calls : List Call} {doc : Document} (h : Orderly calls doc) (key value : String) :
    Orderly (calls ++ [.setMetadata key value]) (doc.setMetadata key value) := by
  have hsettings : settings (calls ++ [.setMetadata key value]) = settings calls ++ [(key, value)] := by
    simp [settings, Call.setting?]
  have hmem : key ∈ doc.metadata.entries.map Prod.fst ↔ key ∈ (settings calls).map Prod.fst := by
    rw [h.keys, List.mem_eraseDups]
  have hvalues : ∀ k, (doc.metadata.set key value).get? k = (settings calls ++ [(key, value)]).reverse.lookup k := by
    intro k
    rw [Metadata.get?_set, List.reverse_append, List.reverse_singleton, List.singleton_append, List.lookup_cons,
      h.values]
    cases k == key <;> rfl
  refine ⟨h.notes, ?_, ?_, by rw [hsettings]; exact hvalues⟩
  · exact Metadata.nodup_keys_set_go h.distinct
  · change (Metadata.set.go key value doc.metadata.entries).map Prod.fst = _
    rw [hsettings, List.map_append, List.map_singleton, List.eraseDups_append, ← h.keys]
    by_cases hold : key ∈ doc.metadata.entries.map Prod.fst
    · rw [Metadata.keys_set_go_of_mem _ hold, List.removeAll, List.filter_cons_of_neg (by simpa using hmem.mp hold)]
      exact (List.append_nil _).symm
    · rw [Metadata.set_go_of_not_mem _ hold, List.removeAll,
        List.filter_cons_of_pos (by simpa using fun h => hold (hmem.mpr h)), List.map_append]
      rfl

theorem Orderly.call {calls : List Call} {doc : Document} (h : Orderly calls doc) (made : Call) :
    Orderly (calls ++ [made]) (doc.call made).1 := by
  cases made with
  | pushParagraph paragraph => exact h.of_eq rfl rfl h.notes
  | createTable rows cols =>
      rw [Document.call, createTable]
      cases Table.new rows cols with
      | error e => exact h.of_eq rfl rfl h.notes
      | ok table => exact h.of_eq rfl rfl h.notes
  | operate id operation =>
      obtain ⟨hmetadata, hfootnotes, -⟩ := operate_frame doc id operation
      refine h.of_eq rfl hmetadata ?_
      change ((doc.operate id operation).1.footnotes.map Footnote.id).Nodup
      rw [hfootnotes]
      exact h.notes
  | setMetadata key value => exact h.setMetadata key value
  | addFootnote footnote =>
      rw [Document.call, addFootnote]
      cases hfound : doc.footnote? footnote.id with
      | some taken => exact h.of_eq rfl rfl h.notes
      | none =>
          have hnew : ∀ note ∈ doc.footnotes, note.id ≠ footnote.id := by
            simpa [footnote?] using hfound
          refine h.of_eq rfl rfl ?_
          rw [List.map_append, List.nodup_append]
          refine ⟨h.notes, List.nodup_singleton _, ?_⟩
          rintro id hid _ hid' rfl
          obtain ⟨note, hnote, rfl⟩ := List.mem_map.mp hid
          exact hnew note hnote (List.mem_singleton.mp hid')
  | addMedia media => exact h.of_eq rfl rfl h.notes
  | setDefaults defaults => exact h.of_eq rfl rfl h.notes

theorem Orderly.after {before : List Call} {doc : Document} (h : Orderly before doc) (calls : List Call) :
    Orderly (before ++ calls) (doc.after calls) := by
  induction calls generalizing before doc with
  | nil => rwa [List.append_nil]
  | cons made calls ih =>
      have hnext := ih (h.call made)
      rwa [List.append_assoc] at hnext

/-! ## Handles -/

/-- A refused call that would have made a table or a footnote changes nothing. -/
theorem call_refused {doc : Document} {e : EditError} :
    (∀ rows cols, (doc.call (.createTable rows cols)).2 = .error e → (doc.call (.createTable rows cols)).1 = doc) ∧
      ∀ footnote, (doc.call (.addFootnote footnote)).2 = .error e → (doc.call (.addFootnote footnote)).1 = doc := by
  constructor
  · intro rows cols h
    rw [Document.call] at h ⊢
    cases hmade : doc.createTable rows cols with
    | error e => rfl
    | ok made =>
        rw [hmade] at h
        cases h
  · intro footnote h
    rw [Document.call] at h ⊢
    cases hmade : doc.addFootnote footnote with
    | error e => rfl
    | ok grown =>
        rw [hmade] at h
        cases h

/-- **A document that calls make of the empty one is in order, whatever the calls are and whichever are refused, and the
places that it hands out are good for ever.** Its footnote ids and its keys are there once; the keys stand as they were
first set and have the values that were set last. Later calls continue its body, its footnotes and its images; refused
tables and footnotes change nothing. A new table is found under its id, changed by the operations on that id alone, and
a new image under its index. -/
theorem handles_after (before later : List Call) :
    let doc := ({} : Document).after before
    Orderly before doc ∧ GrowsTo later doc (doc.after later) ∧
      (∀ rows cols e, (doc.call (.createTable rows cols)).2 = .error e → (doc.call (.createTable rows cols)).1 = doc) ∧
      (∀ footnote e, (doc.call (.addFootnote footnote)).2 = .error e → (doc.call (.addFootnote footnote)).1 = doc) ∧
      (∀ rows cols handle, (doc.call (.createTable rows cols)).2 = .ok handle →
        ∃ id table, handle = some id ∧ Table.new rows cols = .ok table ∧
          ((doc.call (.createTable rows cols)).1.after later).table id = .ok (table.under (operationsOn id later))) ∧
      ∀ image, ∃ index, (doc.call (.addMedia image)).2 = .ok (some index) ∧
        ((doc.call (.addMedia image)).1.after later).media[index]? = some image := by
  intro doc
  refine ⟨orderly_empty.after before, growsTo_after doc later, fun _ _ _ => call_refused.1 _ _,
    fun _ _ => call_refused.2 _, fun rows cols handle h => ?_, fun image => ⟨doc.media.length, rfl, ?_⟩⟩
  · rw [Document.call, createTable] at h ⊢
    cases hnew : Table.new rows cols with
    | error e =>
        rw [hnew] at h
        cases h
    | ok table =>
        rw [hnew] at h
        cases h
        refine ⟨_, table, rfl, rfl, (growsTo_after _ later).table ?_⟩
        exact table_eq_ok_iff.mpr List.getElem?_concat_length
  · refine (growsTo_after _ later).image ?_
    exact List.getElem?_concat_length

/-- A new table becomes a table with a header row; a refused table, an operation on no table and a second footnote of
the same id leave it alone. The metadata has its two keys in order. -/
theorem handles_after_sample :
    let note : Footnote := { id := "n", paragraphs := [] }
    let doc := ({} : Document).after
      [.setMetadata "a" "1", .setMetadata "b" "2", .setMetadata "a" "3", .addFootnote note, .pushParagraph {}]
    let later : List Call := [.operate 1 (·.edit (.setHeaderRow 0)), .createTable 0 1,
      .operate 0 (·.edit (.setHeaderRow 0)), .addFootnote note]
    doc.metadata.entries.map Prod.fst = ["a", "b"] ∧ doc.metadata.get? "a" = some "3" ∧
      (doc.call (.createTable 0 1)).1 = doc ∧ (doc.call (.addFootnote note)).1 = doc ∧
      ∃ id table, (doc.call (.createTable 1 1)).2 = .ok (some id) ∧
        ((doc.call (.createTable 1 1)).1.after later).table id = .ok table ∧ table.rows.map (·.header) = [true] := by
  intro note doc later
  obtain ⟨orderly, -, htable, hnote, hmade, -⟩ := handles_after
    [.setMetadata "a" "1", .setMetadata "b" "2", .setMetadata "a" "3", .addFootnote note, .pushParagraph {}] later
  refine ⟨orderly.keys.trans (by decide), orderly.values "a", htable 0 1 (.emptyTable 0 1) rfl,
    hnote note (.duplicateFootnote "n") rfl, ?_⟩
  obtain ⟨id, table, hid, hnew, hlater⟩ := hmade 1 1 (some 1) rfl
  cases hid
  cases hnew
  exact ⟨1, _, rfl, hlater, rfl⟩

end Document
end Folio
