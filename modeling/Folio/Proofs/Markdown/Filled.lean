import Folio.Proofs.Markdown.Drafts

/-!
# Paragraphs that are never empty

A paragraph of a document has a run, were it an empty one, and so has every paragraph in a cell of a table, where there
is always one. A rendering makes no other paragraphs, wherever it ends and whatever the document refuses, and the edits
of tables do not take the runs away.

* `Document.Filled` : no paragraph of the document is without runs, and no cell without paragraphs;
* `Document.Filled.editTable` : an edit of a table keeps a document filled;
* `Builds.filled` : so does everything that a rendering does;
* `rendered_filled` : a rendered document is filled, and stays so under edits.
-/

namespace Folio

/-- Every paragraph of the document has a run, and every cell has a paragraph. -/
structure Document.Filled (doc : Document) : Prop where
  paragraphs : ∀ paragraph, .paragraph paragraph ∈ doc.body → paragraph.runs ≠ []
  notes : ∀ note ∈ doc.footnotes, ∀ paragraph ∈ note.paragraphs, paragraph.runs ≠ []
  tables : ∀ table, .table table ∈ doc.body → table.Each (·.runs ≠ [])

/-- The document after edits of its tables in a row, refused ones included. Each edit says which element it is of. -/
def Document.afterEdits (doc : Document) : List (Nat × Table.Edit) → Document
  | [] => doc
  | (id, edit) :: edits => (doc.editTable id edit).1.afterEdits edits

theorem Paragraph.lasting_runs : Paragraph.Lasting (·.runs ≠ []) where
  empty := List.cons_ne_nil _ _
  written := fun _ _ _ _ => List.cons_ne_nil _ _
  aligned := fun _ h _ => h

namespace Document.Filled

variable {doc : Document}

theorem pushParagraph (h : doc.Filled) {paragraph : Paragraph} (hruns : paragraph.runs ≠ []) :
    (doc.pushParagraph paragraph).Filled where
  paragraphs := by
    intro other hother
    rcases List.mem_append.mp hother with hother | hother
    · exact h.paragraphs other hother
    · cases List.mem_singleton.mp hother
      exact hruns
  notes := h.notes
  tables := by
    intro table htable
    rcases List.mem_append.mp htable with htable | htable
    · exact h.tables table htable
    · cases List.mem_singleton.mp htable

theorem pushTable (h : doc.Filled) {table : Table} (htable : table.Each (·.runs ≠ [])) :
    Document.Filled { doc with body := doc.body ++ [.table table] } where
  paragraphs := by
    intro paragraph hparagraph
    rcases List.mem_append.mp hparagraph with hparagraph | hparagraph
    · exact h.paragraphs paragraph hparagraph
    · cases List.mem_singleton.mp hparagraph
  notes := h.notes
  tables := by
    intro other hother
    rcases List.mem_append.mp hother with hother | hother
    · exact h.tables other hother
    · cases List.mem_singleton.mp hother
      exact htable

theorem pushNote (h : doc.Filled) {note : Footnote} (hnote : ∀ paragraph ∈ note.paragraphs, paragraph.runs ≠ []) :
    Document.Filled { doc with footnotes := doc.footnotes ++ [note] } where
  paragraphs := h.paragraphs
  notes := List.forall_mem_append.mpr ⟨h.notes, List.forall_mem_singleton.mpr hnote⟩
  tables := h.tables

/-- An edit of a table, refused or not, keeps a document filled. -/
theorem editTable (h : doc.Filled) (id : Nat) (edit : Table.Edit) : (doc.editTable id edit).1.Filled := by
  unfold Document.editTable
  cases htable : doc.table id with
  | error e => exact h
  | ok table =>
      have hmem : .table table ∈ doc.body := by
        unfold Document.table at htable
        split at htable
        next found hfound =>
          cases htable
          exact List.mem_of_getElem? hfound
        next => cases htable
      have hedited := (h.tables table hmem).edit Paragraph.lasting_runs edit
      refine ⟨fun paragraph hparagraph => ?_, h.notes, fun other hother => ?_⟩
      · rcases List.mem_or_eq_of_mem_set hparagraph with hold | hnew
        · exact h.paragraphs paragraph hold
        · cases hnew
      · rcases List.mem_or_eq_of_mem_set hother with hold | hnew
        · exact h.tables other hold
        · cases hnew
          exact hedited

theorem afterEdits (h : doc.Filled) (edits : List (Nat × Table.Edit)) : (doc.afterEdits edits).Filled := by
  induction edits generalizing doc with
  | nil => exact h
  | cons edit edits ih => exact ih (h.editTable edit.1 edit.2)

end Document.Filled

namespace Markdown

variable {context : RenderContext} {settings : RenderSettings} {s t : Rendering}

theorem Rendering.Quiet.filled (h : s.Quiet t) (hs : s.doc.Filled) : t.doc.Filled := by
  refine ⟨?_, ?_, ?_⟩
  · rw [h.body]
    exact hs.paragraphs
  · rw [h.footnotes]
    exact hs.notes
  · rw [h.body]
    exact hs.tables

theorem FillsAll.filled {groups : List (List Node)} {paragraphs : List Paragraph}
    (h : FillsAll settings s groups paragraphs t) : ∀ paragraph ∈ paragraphs, paragraph.runs ≠ [] := by
  induction h with
  | nil s => exact fun _ hparagraph => absurd hparagraph List.not_mem_nil
  | cons _ first _ ih =>
      obtain ⟨_, _, _, nonempty, _, _⟩ := first
      exact List.forall_mem_cons.mpr ⟨nonempty, ih⟩

/-- Whatever a rendering does, the document stays filled. -/
theorem Builds.filled {met : List Draft} (h : Builds context s met t) (hs : s.doc.Filled) : t.doc.Filled := by
  induction h with
  | quiet quiet => exact quiet.filled hs
  | trans _ _ ih ih' => exact ih' (ih hs)
  | table plain => exact hs.pushTable (plain.mono fun _ h => h.nonempty)
  | paragraph fills _ =>
      obtain ⟨_, _, _, nonempty, _, gathers⟩ := fills
      exact (gathers.quiet.filled hs).pushParagraph nonempty
  | unpushed quiet _ _ => exact quiet.filled hs
  | note fills _ _ => exact (fills.quiet.filled hs).pushNote fills.filled
  | unstored fills _ _ => exact fills.quiet.filled hs

/-- **A rendered document has no empty paragraph and no empty cell.** Under every policy, whatever the document refuses
and wherever the rendering ends, every paragraph of the body, of a footnote and of a cell has a run, every cell of a
table and of its nested tables has a paragraph, and edits of the tables leave it so. -/
theorem rendered_filled (context : RenderContext) (tree : Node) (edits : List (Nat × Table.Edit)) :
    ((renderInto context tree).2.doc.afterEdits edits).Filled := by
  obtain ⟨met, -, hbuilds, -⟩ := builds_renderInto context tree
  have hstart : (Rendering.start context.settings).doc.Filled :=
    ⟨fun _ h => absurd h List.not_mem_nil, fun _ h => absurd h List.not_mem_nil, fun _ h => absurd h List.not_mem_nil⟩
  exact (hbuilds.filled hstart).afterEdits edits

end Markdown
end Folio
