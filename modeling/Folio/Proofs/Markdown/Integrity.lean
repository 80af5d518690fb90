import Folio.Proofs.Markdown.Drafts

/-!
# What the parts of a rendered document refer to

A run names an image by its place in the media list and a footnote by its id. Images are recorded as their runs are
made, and labels are numbered as they are met, so that no place is taken twice and no two labels share an id. This holds
also where a footnote is made and then left out because its label has been defined before: its images stay recorded, and
no run names them.

* `noteId_eq_iff` : different labels have different ids;
* `Intact` : what the runs and the footnotes of a document refer to is there, and is what the tree says;
* `Builds.intact` : what a rendering does keeps it so;
* `rendered_intact` : it is so in every document that a lenient rendering makes.
-/

namespace Folio.Markdown

/-- The nodes shown in the paragraph that a block asks for. -/
def Draft.nodes? : Draft → Option (List Node)
  | .paragraph _ nodes => some nodes
  | .note _ _ => none

/-- The label of the footnote that a block asks for, with the nodes shown in each of its paragraphs. -/
def Draft.note? : Draft → Option (String × List (List Node))
  | .paragraph _ _ => none
  | .note label groups => some (label, groups)

/-- The labels that a block refers to or defines. -/
def Draft.labels : Draft → List String
  | .paragraph _ nodes => nodes.filterMap Node.reference?
  | .note label groups => label :: groups.flatten.filterMap Node.reference?

/-- The places in the media list that paragraphs name, in order. -/
def indicesIn (paragraphs : List Paragraph) : List Nat := (paragraphs.flatMap (·.runs)).filterMap (·.media)

/-- The places in the media list that the body and the footnotes of a document name. -/
def mediaIndices (doc : Document) : List Nat :=
  indicesIn doc.paragraphs ++ indicesIn (doc.footnotes.flatMap (·.paragraphs))

/-- The last runs of the paragraph show the nodes, and those in front of them are plain. -/
inductive ParagraphShows (settings : RenderSettings) (t : Rendering) (nodes : List Node) (paragraph : Paragraph) : Prop
  | intro (front runs : List Run) (made : paragraph.runs = front ++ runs) (plain : ∀ run ∈ front, run.IsPlain)
      (shows : List.Forall₂ (Shows settings t) nodes runs)

/-- The footnote has the id of the label, and its paragraphs show the nodes. -/
structure NoteShows (settings : RenderSettings) (t : Rendering) (entry : String × List (List Node)) (note : Footnote) :
    Prop where
  id : note.id = t.noteId entry.1
  label : entry.1 ∈ t.footnoteLabels
  paragraphs : List.Forall₂ (ParagraphShows settings t) entry.2 note.paragraphs

/-- A rendering that has met the drafts has made a paragraph for each block of the body and a footnote for each label
that is defined. What their runs and footnotes refer to is there. -/
structure Intact (settings : RenderSettings) (met : List Draft) (t : Rendering) : Prop where
  labels : t.footnoteLabels.Nodup
  known : ∀ label ∈ met.flatMap Draft.labels, label ∈ t.footnoteLabels
  paragraphs : List.Forall₂ (ParagraphShows settings t) (met.filterMap Draft.nodes?) t.doc.paragraphs
  /-- The footnotes are those of some of the definitions, in order. -/
  notes : ∃ kept, kept.Sublist (met.filterMap Draft.note?) ∧ List.Forall₂ (NoteShows settings t) kept t.doc.footnotes
  stored : ∀ entry ∈ met.filterMap Draft.note?, t.noteId entry.1 ∈ t.doc.footnotes.map (·.id)
  ids : (t.doc.footnotes.map (·.id)).Nodup
  cells : ∀ table ∈ t.doc.tables, table.Each Paragraph.IsPlain
  nodup : (mediaIndices t.doc).Nodup
  bounded : ∀ i ∈ mediaIndices t.doc, i < t.doc.media.length

variable {context : RenderContext} {settings : RenderSettings} {met : List Draft} {s t u : Rendering}

/-! ## Labels and ids -/

/-- Labels that are numbered have the same id exactly when they are the same. -/
theorem noteId_eq_iff {a b : String} (ha : a ∈ t.footnoteLabels) : t.noteId a = t.noteId b ↔ a = b := by
  refine ⟨fun h => ?_, fun h => congrArg _ h⟩
  have hplace : t.footnoteLabels.idxOf a + 1 = t.footnoteLabels.idxOf b + 1 := Text.repr_injective (congrArg String.toList h)
  exact (List.idxOf_inj ha).mp (Nat.succ.inj hplace)

theorem known_of_shows {nodes : List Node} {runs : List Run} (h : List.Forall₂ (Shows settings t) nodes runs) :
    ∀ label ∈ nodes.filterMap Node.reference?, label ∈ t.footnoteLabels := by
  intro label hlabel
  obtain ⟨node, hnode, hreference⟩ := List.mem_filterMap.mp hlabel
  induction h with
  | nil => exact absurd hnode List.not_mem_nil
  | cons hshows _ ih =>
      rcases List.mem_cons.mp hnode with rfl | hnode
      · exact hshows.label label hreference
      · exact ih (List.mem_filterMap.mpr ⟨node, hnode, hreference⟩) hnode

theorem ParagraphShows.known {nodes : List Node} {paragraph : Paragraph}
    (h : ParagraphShows settings t nodes paragraph) :
    ∀ label ∈ nodes.filterMap Node.reference?, label ∈ t.footnoteLabels := by
  obtain ⟨_, _, _, _, shows⟩ := h
  exact known_of_shows shows

theorem known_of_paragraphs {groups : List (List Node)} {paragraphs : List Paragraph}
    (h : List.Forall₂ (ParagraphShows settings t) groups paragraphs) :
    ∀ label ∈ groups.flatten.filterMap Node.reference?, label ∈ t.footnoteLabels := by
  induction h with
  | nil => exact fun _ hlabel => absurd hlabel List.not_mem_nil
  | cons first _ ih =>
      rw [List.flatten_cons, List.filterMap_append]
      exact List.forall_mem_append.mpr ⟨first.known, ih⟩

theorem mem_labels_of_note {entry : String × List (List Node)} (h : entry ∈ met.filterMap Draft.note?) :
    entry.1 ∈ met.flatMap Draft.labels := by
  obtain ⟨draft, hdraft, hnote⟩ := List.mem_filterMap.mp h
  cases draft with
  | paragraph => cases hnote
  | note label groups =>
      cases hnote
      exact List.mem_flatMap.mpr ⟨_, hdraft, List.mem_cons_self⟩

/-! ## What stays -/

theorem ParagraphShows.mono {nodes : List Node} {paragraph : Paragraph}
    (h : ParagraphShows settings t nodes paragraph) (hmedia : t.doc.media <+: u.doc.media)
    (hlabels : t.footnoteLabels <+: u.footnoteLabels) : ParagraphShows settings u nodes paragraph := by
  obtain ⟨front, runs, made, plain, shows⟩ := h
  exact .intro front runs made plain (shows.imp fun _ _ hshows => hshows.mono hmedia hlabels)

theorem NoteShows.mono {entry : String × List (List Node)} {note : Footnote} (h : NoteShows settings t entry note)
    (hmedia : t.doc.media <+: u.doc.media) (hlabels : t.footnoteLabels <+: u.footnoteLabels) :
    NoteShows settings u entry note where
  id := h.id.trans (Rendering.noteId_of_prefix hlabels h.label).symm
  label := hlabels.subset h.label
  paragraphs := h.paragraphs.imp fun _ _ hshows => hshows.mono hmedia hlabels

/-- The paragraphs of the body show what they showed, with more images recorded and more labels numbered. -/
theorem Intact.paragraphs_mono (hs : Intact settings met s) (hmedia : s.doc.media <+: u.doc.media)
    (hlabels : s.footnoteLabels <+: u.footnoteLabels) :
    List.Forall₂ (ParagraphShows settings u) (met.filterMap Draft.nodes?) s.doc.paragraphs :=
  hs.paragraphs.imp fun _ _ hshows => hshows.mono hmedia hlabels

/-- So do the footnotes. -/
theorem Intact.notes_mono (hs : Intact settings met s) (hmedia : s.doc.media <+: u.doc.media)
    (hlabels : s.footnoteLabels <+: u.footnoteLabels) : ∃ kept, kept.Sublist (met.filterMap Draft.note?) ∧
      List.Forall₂ (NoteShows settings u) kept s.doc.footnotes := by
  obtain ⟨kept, hkept, hnotes⟩ := hs.notes
  exact ⟨kept, hkept, hnotes.imp fun _ _ hshows => hshows.mono hmedia hlabels⟩

theorem Rendering.Quiet.mediaIndices_eq (h : s.Quiet t) : mediaIndices t.doc = mediaIndices s.doc := by
  rw [mediaIndices, h.paragraphs, h.footnotes, mediaIndices]

theorem Intact.of_quiet (hs : Intact settings met s) (h : s.Quiet t) : Intact settings met t where
  labels := h.nodup hs.labels
  known := fun label hlabel => h.labels.subset (hs.known label hlabel)
  paragraphs := by
    rw [h.paragraphs]
    exact hs.paragraphs_mono h.media h.labels
  notes := by
    rw [h.footnotes]
    exact hs.notes_mono h.media h.labels
  stored := by
    intro entry hentry
    rw [h.footnotes, Rendering.noteId_of_prefix h.labels (hs.known _ (mem_labels_of_note hentry))]
    exact hs.stored entry hentry
  ids := by
    rw [h.footnotes]
    exact hs.ids
  cells := by
    rw [h.tables]
    exact hs.cells
  nodup := by
    rw [h.mediaIndices_eq]
    exact hs.nodup
  bounded := by
    rw [h.mediaIndices_eq]
    exact fun i hi => Nat.lt_of_lt_of_le (hs.bounded i hi) h.media.length_le

/-! ## Places in the media list -/

theorem indicesIn_append (first rest : List Paragraph) :
    indicesIn (first ++ rest) = indicesIn first ++ indicesIn rest := by
  unfold indicesIn
  rw [List.flatMap_append, List.filterMap_append]

theorem Fills.indices {nodes : List Node} {paragraph : Paragraph} (h : Fills settings s nodes paragraph t) :
    indicesIn [paragraph] = s.gained t := by
  obtain ⟨front, runs, made, _, plain, gathers⟩ := h
  have hfront : front.filterMap (·.media) = [] := List.filterMap_eq_nil_iff.mpr fun run hrun => (plain run hrun).media
  unfold indicesIn
  rw [List.flatMap_singleton, made, List.filterMap_append, hfront, gathers.gained, List.nil_append]

theorem Fills.shows {nodes : List Node} {paragraph : Paragraph} (h : Fills settings s nodes paragraph t) :
    s.Quiet t ∧ ParagraphShows settings t nodes paragraph := by
  obtain ⟨front, runs, made, _, plain, gathers⟩ := h
  exact ⟨gathers.quiet, .intro front runs made plain gathers.shows⟩

theorem FillsAll.indices {groups : List (List Node)} {paragraphs : List Paragraph}
    (h : FillsAll settings s groups paragraphs t) : indicesIn paragraphs = s.gained t := by
  induction h with
  | nil s => exact (Rendering.gained_eq_nil rfl).symm
  | @cons s t u nodes groups paragraph paragraphs _ first rest ih =>
      have happend := indicesIn_append [paragraph] paragraphs
      rw [first.indices, ih, Rendering.gained_append first.shows.1.media rest.quiet.media] at happend
      exact happend

theorem FillsAll.shows {groups : List (List Node)} {paragraphs : List Paragraph}
    (h : FillsAll settings s groups paragraphs t) : List.Forall₂ (ParagraphShows settings t) groups paragraphs := by
  induction h with
  | nil s => exact .nil
  | cons _ first rest ih => exact .cons (first.shows.2.mono rest.quiet.media rest.quiet.labels) ih

/-- Places that the media list has gained are added to those named so far. -/
theorem indices_gained {old new : List Nat} (hnodup : old.Nodup) (hbounded : ∀ i ∈ old, i < s.doc.media.length)
    (h : s.doc.media <+: t.doc.media) (hnew : new.Perm (old ++ s.gained t)) :
    new.Nodup ∧ ∀ i ∈ new, i < t.doc.media.length := by
  have hle := h.length_le
  have hgained : ∀ i ∈ s.gained t, s.doc.media.length ≤ i ∧ i < t.doc.media.length := by
    intro i hi
    have hrange := List.mem_range'_1.mp hi
    omega
  constructor
  · rw [hnew.nodup_iff, List.nodup_append']
    refine ⟨hnodup, List.nodup_range', fun i hi hi' => ?_⟩
    exact Nat.not_lt_of_le (hgained i hi').1 (hbounded i hi)
  · intro i hi
    rcases List.mem_append.mp (hnew.mem_iff.mp hi) with hi | hi
    · exact Nat.lt_of_lt_of_le (hbounded i hi) hle
    · exact (hgained i hi).2

/-! ## What a rendering adds -/

theorem Intact.pushTable (hs : Intact settings met s) {table : Table} (plain : table.Each Paragraph.IsPlain) :
    Intact settings met { s with doc := { s.doc with body := s.doc.body ++ [.table table] } } where
  labels := hs.labels
  known := hs.known
  paragraphs := by
    rw [Document.paragraphs_pushTable]
    exact hs.paragraphs_mono List.prefix_rfl List.prefix_rfl
  notes := hs.notes_mono List.prefix_rfl List.prefix_rfl
  stored := hs.stored
  ids := hs.ids
  cells := by
    rw [Document.tables_pushTable]
    exact List.forall_mem_append.mpr ⟨hs.cells, List.forall_mem_singleton.mpr plain⟩
  nodup := by
    rw [mediaIndices, Document.paragraphs_pushTable]
    exact hs.nodup
  bounded := by
    rw [mediaIndices, Document.paragraphs_pushTable]
    exact hs.bounded

theorem filterMap_note_paragraph (met : List Draft) (source : Node) (nodes : List Node) :
    (met ++ [Draft.paragraph source nodes]).filterMap Draft.note? = met.filterMap Draft.note? :=
  List.filterMap_append.trans (List.append_nil _)

theorem filterMap_nodes_note (met : List Draft) (label : String) (groups : List (List Node)) :
    (met ++ [Draft.note label groups]).filterMap Draft.nodes? = met.filterMap Draft.nodes? :=
  List.filterMap_append.trans (List.append_nil _)

theorem Intact.pushParagraph (hs : Intact settings met s) {nodes : List Node} {paragraph : Paragraph}
    (fills : Fills settings s nodes paragraph t) (source : Node) (slugs : Text.SlugRegistry) :
    Intact settings (met ++ [.paragraph source nodes]) { t with doc := t.doc.pushParagraph paragraph, slugs } := by
  obtain ⟨hquiet, hshows⟩ := fills.shows
  have ht := hs.of_quiet hquiet
  have hindices : (mediaIndices (t.doc.pushParagraph paragraph)).Perm (mediaIndices s.doc ++ s.gained t) := by
    rw [← hquiet.mediaIndices_eq, ← fills.indices, mediaIndices, Document.paragraphs_pushParagraph, indicesIn_append,
      mediaIndices, List.append_assoc, List.append_assoc]
    exact List.Perm.append_left _ List.perm_append_comm
  obtain ⟨hnodup, hbounded⟩ := indices_gained hs.nodup hs.bounded hquiet.media hindices
  let u : Rendering := { t with doc := t.doc.pushParagraph paragraph, slugs }
  have hold : List.Forall₂ (ParagraphShows settings u) (met.filterMap Draft.nodes?) t.doc.paragraphs :=
    ht.paragraphs_mono List.prefix_rfl List.prefix_rfl
  have hnew : ParagraphShows settings u nodes paragraph := hshows.mono List.prefix_rfl List.prefix_rfl
  refine ⟨ht.labels, ?_, ?_, ?_, ?_, ht.ids, ?_, hnodup, hbounded⟩
  · rw [List.flatMap_append, List.flatMap_singleton]
    exact List.forall_mem_append.mpr ⟨ht.known, hshows.known⟩
  · rw [Document.paragraphs_pushParagraph, List.filterMap_append]
    exact List.rel_append hold (.cons hnew .nil)
  · rw [filterMap_note_paragraph]
    exact ht.notes_mono List.prefix_rfl List.prefix_rfl
  · rw [filterMap_note_paragraph]
    exact ht.stored
  · rw [Document.tables_pushParagraph]
    exact ht.cells

theorem footnote?_eq_none_iff {doc : Document} {id : String} :
    doc.footnote? id = none ↔ id ∉ doc.footnotes.map (·.id) := by
  unfold Document.footnote?
  rw [List.find?_eq_none, List.mem_map]
  constructor
  · rintro h ⟨note, hnote, rfl⟩
    exact h note hnote (beq_self_eq_true note.id)
  · intro h note hnote hid
    exact h ⟨note, hnote, beq_iff_eq.mp hid⟩

theorem forall_labels_note {label : String} {groups : List (List Node)} (hs : Intact settings met s)
    (known : label ∈ s.footnoteLabels) {paragraphs : List Paragraph}
    (hshows : List.Forall₂ (ParagraphShows settings s) groups paragraphs) :
    ∀ other ∈ (met ++ [Draft.note label groups]).flatMap Draft.labels, other ∈ s.footnoteLabels := by
  rw [List.flatMap_append, List.flatMap_singleton]
  exact List.forall_mem_append.mpr
    ⟨hs.known, List.forall_mem_cons.mpr ⟨known, known_of_paragraphs hshows⟩⟩

/-- A footnote is stored whose id is not taken. -/
theorem Intact.pushNote (hs : Intact settings met s) {label : String} {groups : List (List Node)}
    {paragraphs : List Paragraph} (fills : FillsAll settings s groups paragraphs t) (known : label ∈ t.footnoteLabels)
    (free : t.doc.footnote? (t.noteId label) = none) :
    Intact settings (met ++ [.note label groups])
      { t with doc := { t.doc with footnotes := t.doc.footnotes ++ [{ id := t.noteId label, paragraphs }] } } := by
  have ht := hs.of_quiet fills.quiet
  obtain ⟨kept, hkept, hnotes⟩ := ht.notes
  let note : Footnote := { id := t.noteId label, paragraphs }
  let u : Rendering := { t with doc := { t.doc with footnotes := t.doc.footnotes ++ [note] } }
  have hindices : (mediaIndices u.doc).Perm (mediaIndices s.doc ++ s.gained t) := by
    have hparagraphs : u.doc.footnotes.flatMap (·.paragraphs) = t.doc.footnotes.flatMap (·.paragraphs) ++ paragraphs :=
      List.flatMap_append.trans (congrArg _ (List.flatMap_singleton ..))
    rw [mediaIndices, hparagraphs, indicesIn_append, fills.indices, ← List.append_assoc, ← fills.quiet.mediaIndices_eq]
    exact List.Perm.refl _
  obtain ⟨hnodup, hbounded⟩ := indices_gained hs.nodup hs.bounded fills.quiet.media hindices
  have hnew : NoteShows settings u (label, groups) note :=
    ⟨rfl, known, fills.shows.imp fun _ _ hshows => hshows.mono List.prefix_rfl List.prefix_rfl⟩
  have hmap : u.doc.footnotes.map (·.id) = t.doc.footnotes.map (·.id) ++ [t.noteId label] := List.map_append
  have hknown := forall_labels_note ht known fills.shows
  refine ⟨ht.labels, hknown, ?_, ⟨kept ++ [(label, groups)], ?_, ?_⟩, ?_, ?_, ht.cells, hnodup, hbounded⟩
  · rw [filterMap_nodes_note]
    exact ht.paragraphs_mono List.prefix_rfl List.prefix_rfl
  · rw [List.filterMap_append]
    exact hkept.append (List.Sublist.refl _)
  · refine List.rel_append ?_ (.cons hnew .nil)
    exact hnotes.imp fun _ _ hshows => hshows.mono List.prefix_rfl List.prefix_rfl
  · rw [List.filterMap_append]
    refine List.forall_mem_append.mpr ⟨fun entry hentry => ?_, List.forall_mem_singleton.mpr ?_⟩
    · rw [hmap]
      exact List.mem_append_left _ (ht.stored entry hentry)
    · rw [hmap]
      exact List.mem_append_right _ List.mem_cons_self
  · rw [hmap, List.nodup_append']
    exact ⟨ht.ids, List.nodup_singleton _, List.disjoint_singleton.mpr (footnote?_eq_none_iff.mp free)⟩

/-- A footnote whose id is taken is left out. The images in it stay recorded. -/
theorem Intact.dropNote (hs : Intact settings met s) {label : String} {groups : List (List Node)}
    {paragraphs : List Paragraph} (fills : FillsAll settings s groups paragraphs t) (known : label ∈ t.footnoteLabels)
    (taken : t.doc.footnote? (t.noteId label) ≠ none) : Intact settings (met ++ [.note label groups]) t := by
  have ht := hs.of_quiet fills.quiet
  obtain ⟨kept, hkept, hnotes⟩ := ht.notes
  have hknown := forall_labels_note ht known fills.shows
  refine ⟨ht.labels, hknown, ?_, ⟨kept, ?_, hnotes⟩, ?_, ht.ids, ht.cells, ht.nodup, ht.bounded⟩
  · rw [filterMap_nodes_note]
    exact ht.paragraphs
  · rw [List.filterMap_append]
    exact hkept.trans (List.sublist_append_left _ _)
  · rw [List.filterMap_append]
    refine List.forall_mem_append.mpr ⟨ht.stored, List.forall_mem_singleton.mpr ?_⟩
    by_contra hfree
    exact taken (footnote?_eq_none_iff.mpr hfree)

/-- Whatever a rendering does into a document that takes all edits, what its parts refer to is there. -/
theorem Builds.intact (hrefused : context.refused = []) {more : List Draft} (h : Builds context s more t)
    (hs : Intact context.settings met s) : Intact context.settings (met ++ more) t := by
  induction h generalizing met with
  | quiet quiet =>
      rw [List.append_nil]
      exact hs.of_quiet quiet
  | trans _ _ ih ih' =>
      rw [← List.append_assoc]
      exact ih' (ih hs)
  | table plain =>
      rw [List.append_nil]
      exact hs.pushTable plain
  | paragraph fills _ => exact hs.pushParagraph fills _ _
  | unpushed _ refused _ =>
      rw [hrefused] at refused
      cases refused
  | note fills known free => exact hs.pushNote fills known free
  | unstored fills known refused =>
      rw [hrefused] at refused
      exact hs.dropNote fills known (refused.resolve_left Bool.false_ne_true)

theorem intact_start (settings : RenderSettings) : Intact settings [] (.start settings) where
  labels := List.nodup_nil
  known := fun _ h => absurd h List.not_mem_nil
  paragraphs := .nil
  notes := ⟨[], List.Sublist.refl _, .nil⟩
  stored := fun _ h => absurd h List.not_mem_nil
  ids := List.nodup_nil
  cells := fun _ h => absurd h List.not_mem_nil
  nodup := List.nodup_nil
  bounded := fun _ h => absurd h List.not_mem_nil

/-- **What the parts of a rendered document refer to is there.** A lenient rendering of a tree succeeds. Every run that
shows an image names its place in the media list, where the image's resolved source and text are, and no other run names
a place, nor do two runs name the same one. The ids of footnotes differ. Every reference and every stored footnote has
the id of its label, and two labels have the same id exactly when they are the same. -/
theorem rendered_intact (settings : RenderSettings) (tree : Node) :
    let lenient := { settings with errors := .lenient }
    let run := renderInto { settings := lenient } tree
    run.1 = .ok () ∧ Intact lenient (drafts tree) run.2 ∧
      ∀ a ∈ run.2.footnoteLabels, ∀ b ∈ run.2.footnoteLabels, run.2.noteId a = run.2.noteId b ↔ a = b := by
  intro lenient run
  have hok : run.1 = .ok () := renderInto_ok rfl tree
  obtain ⟨met, -, hbuilds, hmet⟩ := builds_renderInto { settings := lenient } tree
  obtain rfl := hmet hok
  exact ⟨hok, hbuilds.intact rfl (intact_start lenient), fun a ha b _ => noteId_eq_iff ha⟩

end Folio.Markdown
