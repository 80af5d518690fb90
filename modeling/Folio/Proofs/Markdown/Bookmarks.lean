import Folio.Proofs.Markdown.Drafts
import Folio.Proofs.Text.Slugs

/-!
# Bookmarks

A heading that is listed in a table of contents gets a bookmark from the slugs of its document; nothing else gets one.
Since a registry never gives a slug twice, no two headings share a bookmark.

* `Marked` : the paragraphs of listed headings have bookmarks, all different, and the registry knows their slugs;
* `Builds.marked` : what a rendering does keeps it so;
* `slugs_bookmarks_distinct` : a registry gives titles different slugs, and a rendering listed headings different
  bookmarks.
-/

namespace Folio.Markdown
open Text (SlugRegistry)

/-- The block that a paragraph comes from. -/
def Draft.source? : Draft → Option Node
  | .paragraph source _ => some source
  | .note _ _ => none

/-- The bookmarks of a document's paragraphs, in order. -/
def bookmarks (doc : Document) : List String := doc.paragraphs.filterMap (·.properties.bookmark)

/-- A rendering that has met the drafts has given bookmarks to the listed headings among their blocks, and to nothing
else. They differ, and the registry knows the slugs in them. -/
structure Marked (toc : TocSettings) (met : List Draft) (t : Rendering) : Prop where
  paragraphs : List.Forall₂ (fun source paragraph => paragraph.properties.bookmark.isSome = source.isListed toc)
    (met.filterMap Draft.source?) t.doc.paragraphs
  cells : ∀ table ∈ t.doc.tables, table.Each (·.properties.bookmark = none)
  notes : ∀ note ∈ t.doc.footnotes, ∀ paragraph ∈ note.paragraphs, paragraph.properties.bookmark = none
  nodup : (bookmarks t.doc).Nodup
  known : ∀ slug, "_Toc_" ++ slug ∈ bookmarks t.doc → t.slugs.contains slug = true
  sound : t.slugs.Sound

variable {context : RenderContext} {settings : RenderSettings} {toc : TocSettings} {met : List Draft} {s t : Rendering}

theorem FillsAll.unmarked {groups : List (List Node)} {paragraphs : List Paragraph}
    (h : FillsAll settings s groups paragraphs t) :
    ∀ paragraph ∈ paragraphs, paragraph.properties.bookmark = none := by
  induction h with
  | nil s => exact fun _ hparagraph => absurd hparagraph List.not_mem_nil
  | cons unmarked _ _ ih => exact List.forall_mem_cons.mpr ⟨unmarked, ih⟩

theorem Marked.of_quiet (hs : Marked toc met s) (h : s.Quiet t) : Marked toc met t where
  paragraphs := h.paragraphs ▸ hs.paragraphs
  cells := h.tables ▸ hs.cells
  notes := h.footnotes ▸ hs.notes
  nodup := by
    rw [bookmarks, h.paragraphs]
    exact hs.nodup
  known := by
    rw [bookmarks, h.paragraphs, h.slugs]
    exact hs.known
  sound := h.slugs ▸ hs.sound

theorem bookmarks_pushParagraph (doc : Document) (paragraph : Paragraph) :
    bookmarks (doc.pushParagraph paragraph) = bookmarks doc ++ paragraph.properties.bookmark.toList := by
  unfold bookmarks
  rw [Document.paragraphs_pushParagraph, List.filterMap_append]
  cases hbookmark : paragraph.properties.bookmark <;> simp [hbookmark]

/-- A footnote comes from no block of the body. -/
theorem Marked.meetNote (hs : Marked toc met s) (label : String) (groups : List (List Node)) :
    Marked toc (met ++ [.note label groups]) s where
  paragraphs := by
    have hsources : (met ++ [Draft.note label groups]).filterMap Draft.source? = met.filterMap Draft.source? :=
      List.filterMap_append.trans (List.append_nil _)
    rw [hsources]
    exact hs.paragraphs
  cells := hs.cells
  notes := hs.notes
  nodup := hs.nodup
  known := hs.known
  sound := hs.sound

/-- A paragraph without a bookmark is appended. -/
theorem Marked.push (hs : Marked toc met s) {source : Node} (nodes : List Node) {paragraph : Paragraph}
    (hlisted : source.isListed toc = false) (hbookmark : paragraph.properties.bookmark = none) :
    Marked toc (met ++ [.paragraph source nodes]) { s with doc := s.doc.pushParagraph paragraph } := by
  have hmarks : bookmarks (s.doc.pushParagraph paragraph) = bookmarks s.doc := by
    rw [bookmarks_pushParagraph, hbookmark, Option.toList_none, List.append_nil]
  refine ⟨?_, ?_, hs.notes, ?_, ?_, hs.sound⟩
  · rw [List.filterMap_append, Document.paragraphs_pushParagraph]
    refine List.rel_append hs.paragraphs (.cons ?_ .nil)
    rw [hbookmark, hlisted]
    rfl
  · rw [Document.tables_pushParagraph]
    exact hs.cells
  · rw [hmarks]
    exact hs.nodup
  · rw [hmarks]
    exact hs.known

/-- The paragraph of a listed heading is appended. The registry did not know its slug, so no bookmark holds it yet. -/
theorem Marked.pushListed (hs : Marked toc met s) {source : Node} (nodes : List Node) {paragraph : Paragraph}
    {slug : String} {slugs : SlugRegistry} (hnew : s.slugs.New slug slugs) (hlisted : source.isListed toc = true)
    (hbookmark : paragraph.properties.bookmark = some ("_Toc_" ++ slug)) :
    Marked toc (met ++ [.paragraph source nodes]) { s with doc := s.doc.pushParagraph paragraph, slugs } := by
  have hmarks : bookmarks (s.doc.pushParagraph paragraph) = bookmarks s.doc ++ ["_Toc_" ++ slug] := by
    rw [bookmarks_pushParagraph, hbookmark, Option.toList_some]
  refine ⟨?_, ?_, hs.notes, ?_, ?_, hnew.sound⟩
  · rw [List.filterMap_append, Document.paragraphs_pushParagraph]
    refine List.rel_append hs.paragraphs (.cons ?_ .nil)
    rw [hbookmark, hlisted]
    rfl
  · rw [Document.tables_pushParagraph]
    exact hs.cells
  · rw [hmarks, List.nodup_append']
    refine ⟨hs.nodup, List.nodup_singleton _, List.disjoint_singleton.mpr fun hmem => ?_⟩
    exact Bool.noConfusion ((hs.known slug hmem).symm.trans hnew.unknown)
  · intro other hother
    rw [hmarks, List.mem_append, List.mem_singleton] at hother
    rcases hother with hother | hother
    · exact hnew.keeps other (hs.known other hother)
    · obtain rfl : other = slug := (String.append_right_inj "_Toc_").mp hother
      exact hnew.known

/-- Whatever a rendering does, bookmarks are as they are to be, if the document takes paragraphs. -/
theorem Builds.marked (hpush : context.refused.contains .pushParagraph = false) {more : List Draft}
    (h : Builds context s more t) (hs : Marked context.settings.toc met s) :
    Marked context.settings.toc (met ++ more) t := by
  induction h generalizing met with
  | quiet quiet =>
      rw [List.append_nil]
      exact hs.of_quiet quiet
  | trans _ _ ih ih' =>
      rw [← List.append_assoc]
      exact ih' (ih hs)
  | table plain =>
      rw [List.append_nil]
      refine ⟨?_, ?_, hs.notes, ?_, ?_, hs.sound⟩
      · rw [Document.paragraphs_pushTable]
        exact hs.paragraphs
      · rw [Document.tables_pushTable]
        exact List.forall_mem_append.mpr
          ⟨hs.cells, List.forall_mem_singleton.mpr (plain.mono fun _ h => h.bookmark)⟩
      · rw [bookmarks, Document.paragraphs_pushTable]
        exact hs.nodup
      · rw [bookmarks, Document.paragraphs_pushTable]
        exact hs.known
  | @paragraph s t source nodes paragraph slugs fills marked =>
      obtain ⟨_, _, _, _, _, gathers⟩ := fills
      have ht := hs.of_quiet gathers.quiet
      cases hlisted : source.isListed context.settings.toc with
      | true =>
          rw [Node.bookmark, if_pos hlisted] at marked
          obtain ⟨hbookmark, rfl⟩ := Prod.mk.inj marked
          exact ht.pushListed nodes ((SlugRegistry.gives_unique ht.sound _).new ht.sound) hlisted hbookmark
      | false =>
          rw [Node.bookmark, if_neg (Bool.eq_false_iff.mp hlisted)] at marked
          obtain ⟨hbookmark, rfl⟩ := Prod.mk.inj marked
          exact ht.push nodes hlisted hbookmark
  | unpushed _ refused _ => exact Bool.noConfusion (refused.symm.trans hpush)
  | @note s t label groups paragraphs fills _ _ =>
      have ht := (hs.of_quiet fills.quiet).meetNote label groups
      have hnotes := List.forall_mem_append.mpr ⟨ht.notes, (List.forall_mem_singleton
        (a := ({ id := t.noteId label, paragraphs } : Footnote))).mpr fills.unmarked⟩
      exact ⟨ht.paragraphs, ht.cells, hnotes, ht.nodup, ht.known, ht.sound⟩
  | unstored fills _ _ => exact (hs.of_quiet fills.quiet).meetNote _ _

/-- **Slugs and bookmarks are never given twice.** To titles in a row a registry gives slugs, none of them empty and no
two the same. In a rendered document the paragraphs of listed headings have a bookmark, no other paragraph has one, and
no two of the bookmarks are the same. -/
theorem slugs_bookmarks_distinct :
    (∀ titles : List String, SlugRegistry.GivesAll {} titles (SlugRegistry.uniqueAll {} titles) ∧
      "" ∉ SlugRegistry.uniqueAll {} titles ∧ (SlugRegistry.uniqueAll {} titles).Nodup) ∧
    ∀ (settings : RenderSettings) (tree : Node),
      let run := renderInto { settings } tree
      ∃ met, met <+: drafts tree ∧ (run.1 = .ok () → met = drafts tree) ∧
        List.Forall₂ (fun source paragraph => paragraph.properties.bookmark.isSome = source.isListed settings.toc)
          (met.filterMap Draft.source?) run.2.doc.paragraphs ∧
        (∀ note ∈ run.2.doc.footnotes, ∀ paragraph ∈ note.paragraphs, paragraph.properties.bookmark = none) ∧
        (∀ table ∈ run.2.doc.tables, table.Each (·.properties.bookmark = none)) ∧
        (bookmarks run.2.doc).Nodup := by
  refine ⟨fun titles => ?_, fun settings tree => ?_⟩
  · have hgives := SlugRegistry.givesAll_uniqueAll SlugRegistry.sound_empty titles
    exact ⟨hgives, hgives.ne_empty SlugRegistry.sound_empty, (hgives.nodup SlugRegistry.sound_empty).2⟩
  · obtain ⟨met, hprefix, hbuilds, hok⟩ := builds_renderInto { settings } tree
    have hstart : Marked settings.toc [] (.start settings) :=
      ⟨.nil, fun _ h => absurd h List.not_mem_nil, fun _ h => absurd h List.not_mem_nil, List.nodup_nil,
        fun _ h => absurd h List.not_mem_nil, SlugRegistry.sound_empty⟩
    have h := hbuilds.marked rfl hstart
    exact ⟨met, hprefix, hok, h.paragraphs, h.notes, h.cells, h.nodup⟩

end Folio.Markdown
