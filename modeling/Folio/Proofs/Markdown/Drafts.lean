import Folio.Proofs.Document.Cells
import Folio.Proofs.Markdown.ErrorPolicy
import Mathlib.Data.List.Nodup

/-!
# What a rendering makes of a tree

A tree asks for paragraphs and footnotes, in the order of its blocks. A rendering meets them one after the other: it
gathers the runs of a block, which may add images to the media list and labels to those numbered, and appends the
paragraph or the footnote, or else reports that the document refuses it. A rendering that ends early has met some first
ones of them.

* `shown` : the nodes of an inline that are shown as runs, in order;
* `drafts` : the paragraphs and footnotes that a tree asks for, each with the nodes shown in it;
* `Gathers` : runs show nodes, and the images among them are the ones that the media list has gained;
* `Builds` : what a rendering that meets drafts does to its state, one case for each thing that it can do;
* `Yields` : where a step succeeds its result is as one condition says, and where it ends early as another;
* `makes_renderBlock` : the rendering of a block meets the drafts of the block;
* `builds_renderInto` : so does the rendering of a tree into an empty document.
-/

namespace Folio

/-- A run of text that stands neither for an image nor for a reference. -/
structure Run.IsPlain (run : Run) : Prop where
  media : run.media = none
  footnote : run.footnote = none

/-- Runs of text, at least one, without a bookmark. -/
structure Paragraph.IsPlain (paragraph : Paragraph) : Prop where
  bookmark : paragraph.properties.bookmark = none
  nonempty : paragraph.runs ≠ []
  runs : ∀ run ∈ paragraph.runs, run.IsPlain

/-- The edits of a table keep its paragraphs plain. -/
theorem Paragraph.lasting_isPlain : Paragraph.Lasting Paragraph.IsPlain where
  empty := ⟨rfl, List.cons_ne_nil _ _, List.forall_mem_singleton.mpr ⟨rfl, rfl⟩⟩
  written := fun _ h _ _ => ⟨h.bookmark, List.cons_ne_nil _ _, List.forall_mem_singleton.mpr ⟨rfl, rfl⟩⟩
  aligned := fun _ h _ => ⟨h.bookmark, h.nonempty, h.runs⟩

namespace Document

theorem paragraphs_pushParagraph (doc : Document) (paragraph : Paragraph) :
    (doc.pushParagraph paragraph).paragraphs = doc.paragraphs ++ [paragraph] := List.filterMap_append

theorem tables_pushParagraph (doc : Document) (paragraph : Paragraph) :
    (doc.pushParagraph paragraph).tables = doc.tables :=
  List.filterMap_append.trans (List.append_nil _)

theorem paragraphs_pushTable (doc : Document) (table : Table) :
    Document.paragraphs { doc with body := doc.body ++ [.table table] } = doc.paragraphs :=
  List.filterMap_append.trans (List.append_nil _)

theorem tables_pushTable (doc : Document) (table : Table) :
    Document.tables { doc with body := doc.body ++ [.table table] } = doc.tables ++ [table] := List.filterMap_append

end Document

namespace Markdown
open RenderM

/-! ## What a tree asks for -/

mutual

/-- The nodes of an inline that are shown as runs, in order. -/
def shown : Node → List Node
  | ⟨kind, children, line, column⟩ =>
    match kind with
    | .emphasis _ | .strikethrough | .link _ _ => shownOf children
    | .text _ | .softBreak | .lineBreak | .codeSpan _ | .image _ _ | .inlineMath _ | .footnoteReference _ =>
      [⟨kind, children, line, column⟩]
    | _ => []

def shownOf : List Node → List Node
  | [] => []
  | node :: rest => shown node ++ shownOf rest

end

/-- What a block asks a document to hold. -/
inductive Draft where
  /-- A paragraph, with the block it comes from and the nodes shown in it. -/
  | paragraph (source : Node) (nodes : List Node)
  /-- A footnote, with its label and the nodes shown in each of its paragraphs. -/
  | note (label : String) (paragraphs : List (List Node))

/-- The nodes shown in the paragraphs of a footnote. A block other than a paragraph is text. -/
def noteParagraphs (children : List Node) : List (List Node) :=
  children.map fun child => if child.kind = .paragraph then shownOf child.children else []

mutual

/-- The paragraphs and footnotes that a block asks for, in order. -/
def drafts : Node → List Draft
  | ⟨kind, children, line, column⟩ =>
    let source : Node := ⟨kind, children, line, column⟩
    match kind with
    | .document | .list _ _ => draftsOf children
    | .heading _ | .paragraph => [.paragraph source (shownOf children)]
    | .listItem =>
      match children with
      | ⟨.taskCheckBox _, _, _, _⟩ :: ⟨.paragraph, inlines, _, _⟩ :: rest =>
        .paragraph source (shownOf inlines) :: draftsOf rest
      | ⟨.taskCheckBox _, _, _, _⟩ :: rest => .paragraph source [] :: draftsOf rest
      | ⟨.paragraph, inlines, _, _⟩ :: rest => .paragraph source (shownOf inlines) :: draftsOf rest
      | rest => .paragraph source [] :: draftsOf rest
    | .blockquote | .thematicBreak | .taskCheckBox _ | .mathBlock _ => [.paragraph source []]
    | .codeBlock _ lines | .fencedCodeBlock _ lines => lines.map fun _ => .paragraph source []
    | .footnoteDefinition label => [.note label (noteParagraphs children)]
    | .frontMatter _ | .table _ => []
    | kind => if kind.isInline then [.paragraph source (shown source)] else []

def draftsOf : List Node → List Draft
  | [] => []
  | node :: rest => drafts node ++ draftsOf rest

end

/-- The image that the media list is to hold for a node. -/
def Node.image? (settings : RenderSettings) (node : Node) : Option MediaRef :=
  match node.kind with
  | .image destination _ =>
    if settings.images.embed then
      some { source := String.ofList (Media.resolve destination.toList (settings.images.basePath.map String.toList))
             alt := node.textContent }
    else none
  | _ => none

/-- The label that a node refers to. -/
def Node.reference? (node : Node) : Option String :=
  match node.kind with
  | .footnoteReference label => some label
  | _ => none

/-- The node is a heading that is listed in a table of contents. -/
def Node.isListed (toc : TocSettings) (node : Node) : Bool :=
  match node.kind with
  | .heading level => toc.enabled && decide (max 1 (min level 6) ≤ toc.maxLevel)
  | _ => false

/-- The bookmark of a block's paragraph, and the registry that knows of it. -/
def Node.bookmark (toc : TocSettings) (slugs : Text.SlugRegistry) (node : Node) : Option String × Text.SlugRegistry :=
  if node.isListed toc then
    (some ("_Toc_" ++ (slugs.unique (String.ofList (textOfAll true node.children))).1),
      (slugs.unique (String.ofList (textOfAll true node.children))).2)
  else (none, slugs)

/-! ## What a rendering does -/

/-- The id of a footnote's label, if the label is numbered. -/
def Rendering.noteId (s : Rendering) (label : String) : String := (s.footnoteLabels.idxOf label + 1).repr

/-- No paragraph, table, footnote or bookmark comes to be. -/
structure Rendering.Quiet (s t : Rendering) : Prop where
  body : t.doc.body = s.doc.body
  footnotes : t.doc.footnotes = s.doc.footnotes
  slugs : t.slugs = s.slugs
  media : s.doc.media <+: t.doc.media
  labels : s.footnoteLabels <+: t.footnoteLabels
  nodup : s.footnoteLabels.Nodup → t.footnoteLabels.Nodup

/-- The places of the images that the media list has gained from `s` to `t`. -/
def Rendering.gained (s t : Rendering) : List Nat :=
  List.range' s.doc.media.length (t.doc.media.length - s.doc.media.length)

/-- The run shows the node: an image that is to be held is at the run's place of the media list, and a reference has the
id of its label. -/
structure Shows (settings : RenderSettings) (t : Rendering) (node : Node) (run : Run) : Prop where
  media : run.media.map (t.doc.media[·]?) = (node.image? settings).map some
  footnote : run.footnote = node.reference?.map t.noteId
  label : ∀ label ∈ node.reference?, label ∈ t.footnoteLabels

/-- From `s` to `t` the runs are made that show the nodes. They stand for the images that the media list has gained. -/
structure Gathers (settings : RenderSettings) (s : Rendering) (nodes : List Node) (runs : List Run) (t : Rendering) :
    Prop where
  quiet : s.Quiet t
  shows : List.Forall₂ (Shows settings t) nodes runs
  gained : runs.filterMap (·.media) = s.gained t

/-- From `s` to `t` the runs of a paragraph are made that show the nodes. What is in front of them is plain. -/
inductive Fills (settings : RenderSettings) (s : Rendering) (nodes : List Node) (paragraph : Paragraph)
    (t : Rendering) : Prop
  | intro (front runs : List Run) (made : paragraph.runs = front ++ runs) (nonempty : paragraph.runs ≠ [])
      (plain : ∀ run ∈ front, run.IsPlain) (gathers : Gathers settings s nodes runs t)

/-- From `s` to `t` the paragraphs of a footnote are made, one after the other. They have no bookmarks. -/
inductive FillsAll (settings : RenderSettings) : Rendering → List (List Node) → List Paragraph → Rendering → Prop
  | nil (s : Rendering) : FillsAll settings s [] [] s
  | cons {s t u : Rendering} {nodes : List Node} {groups : List (List Node)} {paragraph : Paragraph}
      {paragraphs : List Paragraph} (unmarked : paragraph.properties.bookmark = none)
      (first : Fills settings s nodes paragraph t) (rest : FillsAll settings t groups paragraphs u) :
      FillsAll settings s (nodes :: groups) (paragraph :: paragraphs) u

/-- From `s` to `t` a rendering meets the drafts. -/
inductive Builds (context : RenderContext) : Rendering → List Draft → Rendering → Prop
  | quiet {s t : Rendering} (h : s.Quiet t) : Builds context s [] t
  | trans {s t u : Rendering} {met more : List Draft} (first : Builds context s met t)
      (rest : Builds context t more u) : Builds context s (met ++ more) u
  | table {s : Rendering} {table : Table} (plain : table.Each Paragraph.IsPlain) :
      Builds context s [] { s with doc := { s.doc with body := s.doc.body ++ [.table table] } }
  | paragraph {s t : Rendering} {source : Node} {nodes : List Node} {paragraph : Paragraph} {slugs : Text.SlugRegistry}
      (fills : Fills context.settings s nodes paragraph t)
      (marked : (paragraph.properties.bookmark, slugs) = source.bookmark context.settings.toc t.slugs) :
      Builds context s [.paragraph source nodes] { t with doc := t.doc.pushParagraph paragraph, slugs }
  /-- The document refuses the paragraph. Its bookmark is gone all the same. -/
  | unpushed {s t : Rendering} {source : Node} {nodes : List Node} {slugs : Text.SlugRegistry} (quiet : s.Quiet t)
      (refused : context.refused.contains .pushParagraph = true)
      (marked : slugs = (source.bookmark context.settings.toc t.slugs).2) :
      Builds context s [.paragraph source nodes] { t with slugs }
  | note {s t : Rendering} {label : String} {groups : List (List Node)} {paragraphs : List Paragraph}
      (fills : FillsAll context.settings s groups paragraphs t) (known : label ∈ t.footnoteLabels)
      (free : t.doc.footnote? (t.noteId label) = none) :
      Builds context s [.note label groups]
        { t with doc := { t.doc with footnotes := t.doc.footnotes ++ [{ id := t.noteId label, paragraphs }] } }
  /-- The document refuses the footnote, or has one with the id already. -/
  | unstored {s t : Rendering} {label : String} {groups : List (List Node)} {paragraphs : List Paragraph}
      (fills : FillsAll context.settings s groups paragraphs t) (known : label ∈ t.footnoteLabels)
      (refused : context.refused.contains .addFootnote = true ∨ t.doc.footnote? (t.noteId label) ≠ none) :
      Builds context s [.note label groups] t

/-! ## Quiet changes -/

theorem Rendering.Quiet.refl (s : Rendering) : s.Quiet s :=
  ⟨rfl, rfl, rfl, List.prefix_rfl, List.prefix_rfl, id⟩

theorem Rendering.Quiet.trans {s t u : Rendering} (h : s.Quiet t) (h' : t.Quiet u) : s.Quiet u where
  body := h'.body.trans h.body
  footnotes := h'.footnotes.trans h.footnotes
  slugs := h'.slugs.trans h.slugs
  media := h.media.trans h'.media
  labels := h.labels.trans h'.labels
  nodup := fun hs => h'.nodup (h.nodup hs)

/-- A change of what drafts do not depend on. -/
theorem Rendering.Quiet.of_eq {s t : Rendering} (hbody : t.doc.body = s.doc.body)
    (hfootnotes : t.doc.footnotes = s.doc.footnotes) (hmedia : t.doc.media = s.doc.media) (hslugs : t.slugs = s.slugs)
    (hlabels : t.footnoteLabels = s.footnoteLabels) : s.Quiet t where
  body := hbody
  footnotes := hfootnotes
  slugs := hslugs
  media := hmedia ▸ List.prefix_rfl
  labels := hlabels ▸ List.prefix_rfl
  nodup := fun hs => hlabels ▸ hs

theorem Rendering.Quiet.paragraphs {s t : Rendering} (h : s.Quiet t) : t.doc.paragraphs = s.doc.paragraphs := by
  rw [Document.paragraphs, h.body, Document.paragraphs]

theorem Rendering.Quiet.tables {s t : Rendering} (h : s.Quiet t) : t.doc.tables = s.doc.tables := by
  rw [Document.tables, h.body, Document.tables]

theorem Rendering.quiet_told (s : Rendering) (d : Diagnostic) : s.Quiet (s.told d) := .of_eq rfl rfl rfl rfl rfl

/-- A label keeps its id. -/
theorem Rendering.noteId_of_prefix {s t : Rendering} (h : s.footnoteLabels <+: t.footnoteLabels) {label : String}
    (hlabel : label ∈ s.footnoteLabels) : t.noteId label = s.noteId label := by
  obtain ⟨more, hmore⟩ := h
  rw [noteId, noteId, ← hmore, List.idxOf_append_of_mem hlabel]

theorem Rendering.gained_append {s t u : Rendering} (h : s.doc.media <+: t.doc.media)
    (h' : t.doc.media <+: u.doc.media) : s.gained t ++ t.gained u = s.gained u := by
  have hst := h.length_le
  have htu := h'.length_le
  have hend : t.doc.media.length = s.doc.media.length + (t.doc.media.length - s.doc.media.length) := by omega
  have hsize : u.doc.media.length - s.doc.media.length =
      (t.doc.media.length - s.doc.media.length) + (u.doc.media.length - t.doc.media.length) := by omega
  unfold gained
  rw [hsize, ← List.range'_append_1, ← hend]

theorem Rendering.gained_eq_nil {s t : Rendering} (h : t.doc.media = s.doc.media) : s.gained t = [] := by
  rw [gained, h, Nat.sub_self, List.range'_zero]

variable {settings : RenderSettings}

/-- What a run shows it shows for good. -/
theorem Shows.mono {t u : Rendering} {node : Node} {run : Run} (hshows : Shows settings t node run)
    (hmedia : t.doc.media <+: u.doc.media) (hlabels : t.footnoteLabels <+: u.footnoteLabels) :
    Shows settings u node run where
  media := by
    rw [← hshows.media]
    cases hindex : run.media with
    | none => rfl
    | some i =>
        have hentry := hshows.media
        rw [hindex] at hentry
        cases himage : node.image? settings with
        | none =>
            rw [himage] at hentry
            cases hentry
        | some entry =>
            rw [himage] at hentry
            have hi : t.doc.media[i]? = some entry := Option.some.inj hentry
            obtain ⟨more, hmore⟩ := hmedia
            have hlt := (List.getElem?_eq_some_iff.mp hi).1
            rw [Option.map_some, Option.map_some, hi, ← hmore, List.getElem?_append_left hlt, hi]
  footnote := by
    rw [hshows.footnote]
    cases hlabel : node.reference? with
    | none => rfl
    | some label =>
        rw [Option.map_some, Option.map_some, Rendering.noteId_of_prefix hlabels (hshows.label label hlabel)]
  label := fun label hlabel => hlabels.subset (hshows.label label hlabel)

theorem Gathers.of_quiet {s t : Rendering} (h : s.Quiet t) (hmedia : t.doc.media = s.doc.media) :
    Gathers settings s [] [] t :=
  ⟨h, .nil, (Rendering.gained_eq_nil hmedia).symm⟩

theorem Gathers.append {s t u : Rendering} {nodes nodes' : List Node} {runs runs' : List Run}
    (h : Gathers settings s nodes runs t) (h' : Gathers settings t nodes' runs' u) :
    Gathers settings s (nodes ++ nodes') (runs ++ runs') u where
  quiet := h.quiet.trans h'.quiet
  shows := List.rel_append (h.shows.imp fun _ _ hshows => hshows.mono h'.quiet.media h'.quiet.labels) h'.shows
  gained := by
    rw [List.filterMap_append, h.gained, h'.gained, Rendering.gained_append h.quiet.media h'.quiet.media]

theorem forall_plain_nil : ∀ run ∈ ([] : List Run), run.IsPlain := fun _ hrun => absurd hrun List.not_mem_nil

/-- The paragraph with an empty run if it has no other. -/
theorem Gathers.fills {s t : Rendering} {nodes : List Node} {front runs : List Run}
    (h : Gathers settings s nodes runs t) (hplain : ∀ run ∈ front, run.IsPlain) (properties : ParagraphProperties) :
    Fills settings s nodes (Paragraph.ensureRun { properties, runs := front ++ runs }) t := by
  unfold Paragraph.ensureRun
  split
  next hempty =>
    obtain ⟨rfl, rfl⟩ := List.append_eq_nil_iff.mp (List.isEmpty_iff.mp hempty)
    exact .intro [{ text := "" }] [] rfl (List.cons_ne_nil _ _) (List.forall_mem_singleton.mpr ⟨rfl, rfl⟩) h
  next hempty => exact .intro front runs rfl (fun hnil => hempty (List.isEmpty_iff.mpr hnil)) hplain h

theorem ensureRun_properties (paragraph : Paragraph) : paragraph.ensureRun.properties = paragraph.properties := by
  unfold Paragraph.ensureRun
  split <;> rfl

/-! ## Steps that may end early -/

variable {α β : Type} {context : RenderContext} {s : Rendering}

/-- From `s` on, the step either succeeds with a result and a state as `post` says or ends in a state as `stopped`
says. -/
def Yields (context : RenderContext) (s : Rendering) (m : RenderM α) (post : α → Rendering → Prop)
    (stopped : Rendering → Prop) : Prop :=
  match m context s with
  | (.ok a, t) => post a t
  | (.error _, t) => stopped t

theorem Yields.pure {a : α} {post : α → Rendering → Prop} {stopped : Rendering → Prop} (h : post a s) :
    Yields context s (pure a : RenderM α) post stopped := h

theorem Yields.bind {m : RenderM α} {f : α → RenderM β} {mid : α → Rendering → Prop} {post : β → Rendering → Prop}
    {stopped : Rendering → Prop} (hm : Yields context s m mid stopped)
    (hf : ∀ a t, mid a t → Yields context t (f a) post stopped) : Yields context s (m >>= f) post stopped := by
  unfold Yields at hm ⊢
  rw [run_bind]
  rcases hrun : m context s with ⟨d | a, t⟩
  · rw [hrun] at hm
    exact hm
  · rw [hrun] at hm
    exact hf a t hm

theorem Yields.mono {m : RenderM α} {post post' : α → Rendering → Prop} {stopped stopped' : Rendering → Prop}
    (h : Yields context s m post stopped) (hpost : ∀ a t, post a t → post' a t)
    (hstopped : ∀ t, stopped t → stopped' t) : Yields context s m post' stopped' := by
  unfold Yields at h ⊢
  rcases hrun : m context s with ⟨d | a, t⟩
  · rw [hrun] at h
    exact hstopped t h
  · rw [hrun] at h
    exact hpost a t h

theorem Yields.of_run {m n : RenderM α} {post : α → Rendering → Prop} {stopped : Rendering → Prop} (u : Rendering)
    (h : m context s = n context u) (h' : Yields context u n post stopped) : Yields context s m post stopped := by
  unfold Yields at h' ⊢
  rwa [h]

theorem Yields.get_bind {f : Rendering → RenderM α} {post : α → Rendering → Prop} {stopped : Rendering → Prop}
    (h : Yields context s (f s) post stopped) : Yields context s (get >>= f) post stopped := h

theorem Yields.set_bind {t : Rendering} {f : PUnit → RenderM α} {post : α → Rendering → Prop}
    {stopped : Rendering → Prop} (h : Yields context t (f ⟨⟩) post stopped) :
    Yields context s (set t >>= f) post stopped := h

theorem yields_refuses (operation : Operation) {m m' : RenderM α} {post : α → Rendering → Prop}
    {stopped : Rendering → Prop}
    (h : context.refused.contains operation = true → Yields context s m post stopped)
    (h' : context.refused.contains operation = false → Yields context s m' post stopped) :
    Yields context s (do if ← refuses operation then m else m') post stopped := by
  cases hrefused : context.refused.contains operation with
  | true => exact .of_run s ((run_refuses ..).trans (if_pos hrefused)) (h hrefused)
  | false => exact .of_run s ((run_refuses ..).trans (if_neg (Bool.eq_false_iff.mp hrefused))) (h' hrefused)

/-- A report is one more diagnostic, whether it ends the rendering or not. -/
theorem yields_report (d : Diagnostic) {post : Unit → Rendering → Prop} {stopped : Rendering → Prop}
    (hpost : post () (s.told d)) (hstopped : stopped (s.told d)) : Yields context s (report d) post stopped := by
  unfold Yields
  rw [run_report]
  cases context.settings.errors.aborts with
  | true => exact hstopped
  | false => exact hpost

theorem yields_unsupported (kind : Kind) (line column : Nat) {post : Unit → Rendering → Prop}
    {stopped : Rendering → Prop} (hpost : ∀ d, post () (s.told d)) (hstopped : ∀ d, stopped (s.told d)) :
    Yields context s (unsupported kind line column) post stopped := by
  unfold Yields
  rw [run_unsupported]
  cases context.settings.errors.strict with
  | true => exact hstopped _
  | false => exact hpost _

/-! ## Inlines -/

/-- The runs that a step makes show the nodes. A step that ends early has made no paragraph. -/
def Renders (context : RenderContext) (s : Rendering) (m : RenderM (List Run)) (nodes : List Node) : Prop :=
  Yields context s m (Gathers context.settings s nodes) s.Quiet

theorem Renders.nil : Renders context s (pure []) [] := Gathers.of_quiet (.refl s) rfl

/-- A run of text. -/
theorem Renders.text (run : Run) (hrun : run.IsPlain) {node : Node} (himage : node.image? context.settings = none)
    (hreference : node.reference? = none) {m : RenderM (List Run)} (h : m context s = (.ok [run], s)) :
    Renders context s m [node] := by
  unfold Renders Yields
  rw [h]
  refine ⟨.refl s, .cons ⟨?_, ?_, ?_⟩ .nil, ?_⟩
  · rw [hrun.media, himage]
    rfl
  · rw [hrun.footnote, hreference]
    rfl
  · intro label hlabel
    rw [hreference] at hlabel
    cases hlabel
  · rw [Rendering.gained_eq_nil rfl, List.filterMap_cons_none hrun.media, List.filterMap_nil]

/-- A construct without a counterpart is reported, and no run stands for it. -/
theorem renders_unsupported (kind : Kind) (line column : Nat) :
    Renders context s (do unsupported kind line column; return []) [] := by
  have htold : Yields context s (unsupported kind line column)
      (fun _ t => Gathers context.settings s [] [] t) s.Quiet :=
    yields_unsupported _ _ _ (fun d => .of_quiet (s.quiet_told d) rfl) s.quiet_told
  exact htold.bind fun _ t h => .pure h

/-- Each label has an id, and a label that has none gets the next. -/
theorem yields_footnoteId (label : String) {stopped : Rendering → Prop} :
    Yields context s (footnoteId label)
      (fun id t => s.Quiet t ∧ t.doc.media = s.doc.media ∧ id = t.noteId label ∧ label ∈ t.footnoteLabels) stopped := by
  unfold footnoteId
  refine .get_bind ?_
  cases hfound : s.footnoteLabels.idxOf? label with
  | some i =>
      have hmem : label ∈ s.footnoteLabels := List.isSome_idxOf?.mp (by rw [hfound]; rfl)
      have hi : s.footnoteLabels.idxOf label = i := by rw [List.idxOf_eq_getD_idxOf?, hfound, Option.getD_some]
      refine .pure ⟨.refl s, rfl, ?_, hmem⟩
      rw [Rendering.noteId, hi]
  | none =>
      have hnew : label ∉ s.footnoteLabels := List.idxOf?_eq_none_iff.mp hfound
      refine .set_bind (.pure ⟨⟨rfl, rfl, rfl, List.prefix_rfl, List.prefix_append .., fun hs => ?_⟩, rfl, ?_, ?_⟩)
      · refine List.nodup_append'.mpr ⟨hs, List.nodup_singleton _, ?_⟩
        rw [List.disjoint_singleton]
        exact hnew
      · rw [Rendering.noteId, List.idxOf_append_of_notMem hnew, List.idxOf_cons_self, Nat.add_zero]
      · exact List.mem_append_right _ List.mem_cons_self

/-- An image is shown as a run that names its place in the media list, if images are to be held. -/
theorem renders_imageRun (format : InlineFormat) (destination title : String) (children : List Node)
    (line column : Nat) :
    Renders context s (imageRun format destination (String.ofList (textOfAll true children)))
      [⟨.image destination title, children, line, column⟩] := by
  refine .of_run s (run_imageRun ..) ?_
  unfold imageSteps
  dsimp only
  split
  next hembed =>
    have himage : Node.image? context.settings ⟨.image destination title, children, line, column⟩ = some
        { source := String.ofList
            (Media.resolve destination.toList (context.settings.images.basePath.map String.toList))
          alt := String.ofList (textOfAll true children) } := if_pos hembed
    refine .get_bind (.set_bind (.pure ⟨⟨rfl, rfl, rfl, List.prefix_append .., List.prefix_rfl, id⟩,
      .cons ⟨?_, rfl, fun label hlabel => nomatch hlabel⟩ .nil, ?_⟩))
    · rw [himage, Option.map_some, Option.map_some]
      exact congrArg some List.getElem?_concat_length
    · unfold Rendering.gained Document.addMedia
      dsimp only
      rw [List.length_append, List.length_singleton, Nat.add_sub_cancel_left]
      rfl
  next hembed =>
    have himage : Node.image? context.settings ⟨.image destination title, children, line, column⟩ = none :=
      if_neg hembed
    exact Renders.text { text := _, properties := _ } ⟨rfl, rfl⟩ himage rfl rfl

mutual

/-- The runs of an inline show what is to be shown of it. -/
theorem renders_renderInline (format : InlineFormat) : ∀ (node : Node) (s : Rendering),
    Renders context s (renderInline format node) (shown node)
  | ⟨kind, children, line, column⟩, s => by
    unfold renderInline shown
    cases kind with
    | text | softBreak | lineBreak | codeSpan => exact .text _ ⟨rfl, rfl⟩ rfl rfl rfl
    | inlineMath source => exact .text (mathRun context.settings source) ⟨rfl, rfl⟩ rfl rfl rfl
    | emphasis | strikethrough | link => exact renders_renderInlines _ children s
    | image => exact renders_imageRun ..
    | footnoteReference label =>
        refine (yields_footnoteId label).bind fun id t h => .pure ?_
        obtain ⟨hquiet, hmedia, rfl, hlabel⟩ := h
        refine ⟨hquiet, .cons ⟨rfl, rfl, fun other hother => ?_⟩ .nil, ?_⟩
        · obtain rfl : label = other := Option.some.inj hother
          exact hlabel
        · exact (Rendering.gained_eq_nil hmedia).symm
    | taskCheckBox => exact .nil
    | _ => exact renders_unsupported ..

theorem renders_renderInlines (format : InlineFormat) : ∀ (nodes : List Node) (s : Rendering),
    Renders context s (renderInlines format nodes) (shownOf nodes)
  | [], s => by
    rw [renderInlines, shownOf]
    exact .nil
  | node :: rest, s => by
    rw [renderInlines, shownOf]
    refine (renders_renderInline format node s).bind fun runs t h => ?_
    refine ((renders_renderInlines format rest t).mono (fun _ _ => id) fun u => h.quiet.trans).bind fun more u h' => ?_
    exact .pure (h.append h')

end

/-! ## Blocks -/

/-- A rendering that has come from `s` to `t` goes on with the step, and has then met the drafts since `s`. If it ends
early it has met some first ones of them. -/
def Makes (context : RenderContext) (s t : Rendering) (m : RenderM α) (ds : List Draft) : Prop :=
  Yields context t m (fun _ u => Builds context s ds u) fun u => ∃ met, met <+: ds ∧ Builds context s met u

theorem builds_of_quiet {t : Rendering} (h : s.Quiet t) (ds : List Draft) :
    ∃ met, met <+: ds ∧ Builds context s met t :=
  ⟨[], List.nil_prefix, .quiet h⟩

theorem Builds.then_quiet {t u : Rendering} {met : List Draft} (h : Builds context s met t) (h' : t.Quiet u) :
    Builds context s met u := by
  have hboth := h.trans (.quiet h')
  rwa [List.append_nil] at hboth

theorem Makes.of_builds {t u : Rendering} {m : RenderM α} {a : α} {ds : List Draft} (hrun : m context t = (.ok a, u))
    (h : Builds context s ds u) : Makes context s t m ds := by
  unfold Makes Yields
  rw [hrun]
  exact h

theorem Makes.bind {t : Rendering} {m : RenderM α} {f : α → RenderM β} {ds more : List Draft}
    (hm : Makes context s t m ds) (hf : ∀ a u, Makes context u u (f a) more) :
    Makes context s t (m >>= f) (ds ++ more) := by
  refine Yields.bind (hm.mono (fun _ _ => id) fun u hstopped => ?_) fun a u h => ?_
  · obtain ⟨met, hprefix, hmet⟩ := hstopped
    exact ⟨met, hprefix.trans (List.prefix_append ..), hmet⟩
  · refine (hf a u).mono (fun _ _ h' => h.trans h') fun v hstopped => ?_
    obtain ⟨met, hprefix, hmet⟩ := hstopped
    exact ⟨ds ++ met, (List.prefix_append_right_inj ds).mpr hprefix, h.trans hmet⟩

/-- A quiet step in front. -/
theorem Makes.after {m : RenderM α} {f : α → RenderM β} {mid : α → Rendering → Prop} {ds : List Draft}
    (hm : Yields context s m (fun a t => s.Quiet t ∧ mid a t) s.Quiet)
    (hf : ∀ a t, mid a t → Makes context t t (f a) ds) : Makes context s s (m >>= f) ds := by
  refine Yields.bind (hm.mono (fun _ _ => id) fun t h => builds_of_quiet h ds) fun a t h => ?_
  refine (hf a t h.2).mono (fun _ _ h' => (Builds.quiet h.1).trans h') fun u hstopped => ?_
  obtain ⟨met, hprefix, hmet⟩ := hstopped
  exact ⟨met, hprefix, (Builds.quiet h.1).trans hmet⟩

/-- The runs of inlines are made in front. -/
theorem Renders.makes {m : RenderM (List Run)} {f : List Run → RenderM α} {nodes : List Node} {ds : List Draft}
    (hm : Renders context s m nodes)
    (hf : ∀ runs t, Gathers context.settings s nodes runs t → Makes context s t (f runs) ds) :
    Makes context s s (m >>= f) ds :=
  Yields.bind (hm.mono (fun _ _ => id) fun _ h => builds_of_quiet h ds) hf

theorem makes_modify {change : Rendering → Rendering} (h : s.Quiet (change s)) :
    Makes context s s (modify change : RenderM Unit) [] :=
  .of_builds rfl (.quiet h)

/-- A report is made once the drafts are met. -/
theorem makes_refusedEdit {t : Rendering} {ds : List Draft} (h : Builds context s ds t) (what : String) (e : EditError)
    (line column : Nat) : Makes context s t (refusedEdit what e line column) ds := by
  have htold := h.then_quiet (t.quiet_told ((Diagnostic.ofEdit what e).placed line column))
  exact yields_report _ htold ⟨ds, List.prefix_rfl, htold⟩

/-- A paragraph whose runs are made is appended, unless the document refuses it. -/
theorem makes_push {t : Rendering} {source : Node} {nodes : List Node} {paragraph : Paragraph}
    (slugs : Text.SlugRegistry) (fills : Fills context.settings s nodes paragraph.ensureRun t)
    (marked : (paragraph.properties.bookmark, slugs) = source.bookmark context.settings.toc t.slugs)
    (line column : Nat) :
    Makes context s { t with slugs } (push paragraph line column) [.paragraph source nodes] := by
  refine yields_refuses _ (fun hrefused => ?_) fun _ => ?_
  · obtain ⟨_, _, _, _, _, gathers⟩ := fills
    exact makes_refusedEdit (.unpushed gathers.quiet hrefused (congrArg Prod.snd marked)) ..
  · rw [← ensureRun_properties] at marked
    exact Makes.of_builds rfl (.paragraph (t := t) fills marked)

/-- A paragraph without a bookmark is appended, unless the document refuses it. -/
theorem makes_pushText {t : Rendering} {source : Node} (hsource : source.isListed context.settings.toc = false)
    {properties : ParagraphProperties} (hbookmark : properties.bookmark = none) {front : List Run}
    (hplain : ∀ run ∈ front, run.IsPlain) {nodes : List Node} {runs : List Run}
    (h : Gathers context.settings s nodes runs t) (line column : Nat) :
    Makes context s t (push { properties, runs := front ++ runs } line column) [.paragraph source nodes] := by
  refine makes_push t.slugs (h.fills hplain properties) ?_ line column
  rw [Node.bookmark, if_neg (Bool.eq_false_iff.mp hsource)]
  dsimp only
  rw [hbookmark]

/-- A paragraph of a single run of text. -/
theorem makes_pushRun {source : Node} (hsource : source.isListed context.settings.toc = false)
    {properties : ParagraphProperties} (hbookmark : properties.bookmark = none) {run : Run} (hplain : run.IsPlain)
    (line column : Nat) :
    Makes context s s (push { properties, runs := [run] } line column) [.paragraph source []] :=
  makes_pushText hsource hbookmark (List.forall_mem_singleton.mpr hplain) (.of_quiet (.refl s) rfl) line column

theorem makes_pushHeading {t : Rendering} {level : Nat} {children : List Node} {nodes : List Node} {runs : List Run}
    (h : Gathers context.settings s nodes runs t) (line column : Nat) :
    Makes context s t (pushHeading level runs (textOfAll true children) line column)
      [.paragraph ⟨.heading level, children, line, column⟩ nodes] := by
  refine .of_run t (run_pushHeading ..) ?_
  have hfills (bookmark : Option String) := h.fills forall_plain_nil
    { style := some (Style.heading (max 1 (min level 6))), bookmark }
  unfold headingSteps
  dsimp only
  split
  next hlisted => exact .get_bind (.set_bind (makes_push _ (hfills _) (if_pos hlisted).symm line column))
  next hlisted => exact makes_push t.slugs (hfills none) (if_neg hlisted).symm line column

theorem makes_renderCode {source : Node} (hsource : source.isListed context.settings.toc = false) (line column : Nat)
    (lines : List String) (s : Rendering) :
    Makes context s s (renderCode line column lines) (lines.map fun _ => .paragraph source []) := by
  induction lines generalizing s with
  | nil => exact .of_builds rfl (.quiet (.refl s))
  | cons content rest ih =>
      let run : Run :=
        { text := if content.isEmpty then " " else content
          properties := { fontFamily := context.settings.style.codeFont } }
      let properties : ParagraphProperties :=
        { style := some Style.code
          indentation := some { left := some 360 }
          spacing := some { before := some 0, after := some (if rest.isEmpty then 120 else 0) } }
      refine .of_run (n := do push { properties, runs := [run] } line column; renderCode line column rest) s rfl ?_
      exact Makes.bind (makes_pushRun hsource rfl ⟨rfl, rfl⟩ line column) fun _ t => ih t

theorem makes_setEntries (entries : List (List Char × List Char)) (s : Rendering) :
    Makes context s s (entries.forM fun (key, value) =>
      modifyDoc (·.setMetadata (String.ofList key) (String.ofList value))) [] := by
  induction entries generalizing s with
  | nil => exact .of_builds rfl (.quiet (.refl s))
  | cons entry entries ih => exact Makes.bind (makes_modify (.of_eq rfl rfl rfl rfl rfl)) fun _ t => ih t

/-- An item takes the first number of its list, and nothing else changes. -/
theorem yields_itemStart :
    Yields context s itemStart (fun start t => s.Quiet t ∧ start.1.bookmark = none) s.Quiet := by
  refine .get_bind ?_
  dsimp only
  split
  · exact .set_bind (.pure ⟨.of_eq rfl rfl rfl rfl rfl, rfl⟩)
  · exact .pure ⟨.refl s, rfl⟩

/-! ## Tables -/

/-- An edit of the last element of a body edits the table that it is. -/
theorem editTable_last_table (doc : Document) (elements : List Element) (table : Table) (edit : Table.Edit) :
    Document.editTable { doc with body := elements ++ [.table table] } elements.length edit =
      ({ doc with body := elements ++ [.table (table.edit edit).1] }, (table.edit edit).2) := by
  have hfound : Document.table { doc with body := elements ++ [.table table] } elements.length = .ok table := by
    unfold Document.table
    dsimp only
    rw [List.getElem?_concat_length]
  have hset : ∀ table', (elements ++ [Element.table table]).set elements.length (.table table') =
      elements ++ [.table table'] := fun table' => by
    rw [List.set_append_right _ _ (Nat.le_refl _), Nat.sub_self, List.set_cons_zero]
  unfold Document.editTable
  rw [hfound]
  dsimp only [Document.setTable]
  rw [hset]

/-- The edits that fill the last table keep it plain. -/
theorem plain_editAll (doc : Document) (elements : List Element) {table : Table}
    (h : table.Each Paragraph.IsPlain) (edits : List Table.Edit) :
    ∃ filled, filled.Each Paragraph.IsPlain ∧
      (editAll { doc with body := elements ++ [.table table] } elements.length edits).1 =
        { doc with body := elements ++ [.table filled] } := by
  induction edits generalizing table with
  | nil => exact ⟨table, h, rfl⟩
  | cons edit edits ih =>
      have hedit := h.edit Paragraph.lasting_isPlain edit
      rw [editAll, editTable_last_table]
      cases (table.edit edit).2 with
      | none => exact ih hedit
      | some e => exact ⟨_, hedit, rfl⟩

/-- A table is appended whole, in part or not at all, and holds plain text. -/
theorem makes_renderTable (alignments : List (Option Alignment)) (children : List Node) (line column : Nat) :
    Makes context s s (renderTable alignments children line column) [] := by
  have hnothing : Builds context s [] s := .quiet (.refl s)
  unfold renderTable
  refine yields_refuses _ (fun _ => makes_refusedEdit hnothing ..) fun _ => .get_bind ?_
  unfold Document.createTable
  cases hnew : Table.new (tableRows children).length (tableColumns alignments (tableRows children)) with
  | error e => exact makes_refusedEdit hnothing ..
  | ok table =>
      have hplain := Table.each_new Paragraph.lasting_isPlain hnew
      refine .set_bind (yields_refuses _ (fun _ => makes_refusedEdit (.table hplain) ..) fun _ => ?_)
      obtain ⟨filled, hfilled, heq⟩ :=
        plain_editAll s.doc s.doc.body hplain (tableEdits alignments (tableRows children))
      dsimp only
      rcases hall : editAll { s.doc with body := s.doc.body ++ [.table table] } s.doc.body.length
        (tableEdits alignments (tableRows children)) with ⟨doc, refusal⟩
      rw [hall] at heq
      obtain rfl : doc = _ := heq
      refine .set_bind ?_
      cases refusal with
      | none => exact Makes.of_builds rfl (.table hfilled)
      | some e => exact makes_refusedEdit (.table hfilled) ..

/-! ## Footnotes -/

theorem FillsAll.quiet {t : Rendering} {groups : List (List Node)} {paragraphs : List Paragraph}
    (h : FillsAll settings s groups paragraphs t) : s.Quiet t := by
  induction h with
  | nil s => exact .refl s
  | cons _ first _ ih =>
      obtain ⟨_, _, _, _, _, gathers⟩ := first
      exact gathers.quiet.trans ih

/-- The paragraphs of a footnote are made one after the other. -/
theorem yields_renderNotes : ∀ (children : List Node) (s : Rendering),
    Yields context s (renderNotes children) (FillsAll context.settings s (noteParagraphs children)) s.Quiet
  | [], s => by
    rw [renderNotes]
    exact .pure (.nil s)
  | ⟨kind, children, line, column⟩ :: rest, s => by
    have hrest {nodes : List Node} {front runs : List Run} {t : Rendering} (hplain : ∀ run ∈ front, run.IsPlain)
        (h : Gathers context.settings s nodes runs t) :
        Yields context t (do return Paragraph.ensureRun { runs := front ++ runs } :: (← renderNotes rest))
          (FillsAll context.settings s (nodes :: noteParagraphs rest)) s.Quiet := by
      refine ((yields_renderNotes rest t).mono (fun _ _ => id) fun u => h.quiet.trans).bind fun paragraphs u h' => ?_
      refine .pure (.cons ?_ (h.fills hplain {}) h')
      rw [ensureRun_properties]
    unfold renderNotes
    rw [noteParagraphs, List.map_cons]
    cases kind with
    | paragraph =>
        rw [if_pos rfl]
        exact (renders_renderInlines {} children s).bind fun runs t => hrest forall_plain_nil
    | _ =>
        rw [if_neg (fun h => by cases h)]
        exact hrest (List.forall_mem_singleton.mpr ⟨rfl, rfl⟩) (.of_quiet (.refl s) rfl)

/-- A footnote is stored under the id of its label, unless the document refuses it or has one with the id. -/
theorem makes_addFootnote {t : Rendering} {label : String} {groups : List (List Node)} {paragraphs : List Paragraph}
    (fills : FillsAll context.settings s groups paragraphs t) (known : label ∈ t.footnoteLabels) (line column : Nat) :
    Makes context s t (do
      if ← refuses .addFootnote then
        refusedEdit "footnote" Operation.addFootnote.refusal line column
      else
        let s ← get
        match s.doc.addFootnote { id := t.noteId label, paragraphs } with
        | .ok doc => set { s with doc }
        | .error e => refusedEdit "footnote" e line column) [.note label groups] := by
  refine yields_refuses _ (fun hrefused => ?_) fun _ => .get_bind ?_
  · exact makes_refusedEdit (.unstored fills known (.inl hrefused)) ..
  · unfold Document.addFootnote
    cases hfound : t.doc.footnote? (t.noteId label) with
    | some note =>
        have htaken : t.doc.footnote? (t.noteId label) ≠ none := by
          rw [hfound]
          exact Option.some_ne_none note
        exact makes_refusedEdit (.unstored fills known (.inr htaken)) ..
    | none => exact Makes.of_builds rfl (.note fills known hfound)

theorem makes_renderDefinition (label : String) (children : List Node) (line column : Nat) (s : Rendering) :
    Makes context s s (renderBlock ⟨.footnoteDefinition label, children, line, column⟩)
      [.note label (noteParagraphs children)] := by
  unfold renderBlock
  refine .after (yields_footnoteId label |>.mono (fun _ _ h => h) fun _ => id) fun id t h => ?_
  obtain ⟨-, rfl, hlabel⟩ := h
  refine Yields.bind ((yields_renderNotes children t).mono (fun _ _ => id) fun _ h => builds_of_quiet h _)
    fun paragraphs u fills => ?_
  have hlabels := fills.quiet.labels
  rw [← Rendering.noteId_of_prefix hlabels hlabel]
  exact makes_addFootnote fills (hlabels.subset hlabel) line column

/-! ## The whole walk -/

mutual

/-- The rendering of a block meets what the block asks for. -/
theorem makes_renderBlock : ∀ (node : Node) (s : Rendering), Makes context s s (renderBlock node) (drafts node)
  | ⟨kind, children, line, column⟩, s => by
    unfold renderBlock drafts
    cases kind with
    | footnoteDefinition label =>
        exact makes_renderDefinition label children line column s
    | listItem =>
        refine .after yields_itemStart fun start t hbookmark => ?_
        have hpushText {glyph : String} {nodes : List Node} {runs : List Run} (u : Rendering)
            (h : Gathers context.settings t nodes runs u) : Makes context t u
              (push { properties := start.1, runs := itemMark start.2 glyph :: runs } line column)
              [.paragraph ⟨.listItem, children, line, column⟩ nodes] :=
          makes_pushText rfl hbookmark (List.forall_mem_singleton.mpr ⟨rfl, rfl⟩) h line column
        have hpushMark {glyph : String} (t : Rendering) : Makes context t t
              (push { properties := start.1, runs := [itemMark start.2 glyph] } line column)
              [.paragraph ⟨.listItem, children, line, column⟩ []] :=
          makes_pushRun rfl hbookmark ⟨rfl, rfl⟩ line column
        -- by the shape that the item's children have, a task in front and a paragraph behind it or in its place
        cases children with
        | nil => exact (hpushMark t).bind fun _ u => makes_renderBlocks [] u
        | cons first rest =>
            obtain ⟨kind, inner, _, _⟩ := first
            cases kind with
            | paragraph =>
                refine (renders_renderInlines {} inner t).makes fun runs u h => ?_
                exact (hpushText u h).bind fun _ v => makes_renderBlocks rest v
            | taskCheckBox checked =>
                cases rest with
                | nil => exact (hpushMark t).bind fun _ u => makes_renderBlocks [] u
                | cons second rest =>
                    obtain ⟨kind, inner, _, _⟩ := second
                    cases kind with
                    | paragraph =>
                        refine (renders_renderInlines {} inner t).makes fun runs u h => ?_
                        exact (hpushText u h).bind fun _ v => makes_renderBlocks rest v
                    | _ => exact (hpushMark t).bind fun _ u => makes_renderBlocks (_ :: rest) u
            | _ => exact (hpushMark t).bind fun _ u => makes_renderBlocks (_ :: rest) u
    | document =>
        exact makes_renderBlocks children s
    | list ordered start =>
        let opening (s : Rendering) : Rendering :=
          { s with openLists := ordered :: s.openLists, pendingStart := if ordered then some start else none }
        let closing (s : Rendering) : Rendering := { s with openLists := s.openLists.tail }
        have hopening : Makes context s s (modify opening) [] := makes_modify (.of_eq rfl rfl rfl rfl rfl)
        have hclosing (u : Rendering) : Makes context u u (modify closing) [] :=
          makes_modify (.of_eq rfl rfl rfl rfl rfl)
        have hlist := hopening.bind fun _ t => (makes_renderBlocks children t).bind fun _ u => hclosing u
        rw [List.nil_append, List.append_nil] at hlist
        exact hlist
    | frontMatter raw =>
        exact makes_setEntries _ s
    | heading level =>
        exact (renders_renderInlines {} children s).makes fun runs t h => makes_pushHeading h line column
    | paragraph =>
        exact (renders_renderInlines {} children s).makes fun runs t h =>
          makes_pushText rfl rfl forall_plain_nil h line column
    | blockquote | taskCheckBox =>
        exact makes_pushRun rfl rfl ⟨rfl, rfl⟩ line column
    | thematicBreak =>
        exact makes_pushText rfl rfl forall_plain_nil (.of_quiet (.refl s) rfl) line column
    | mathBlock lines =>
        let run := mathRun context.settings (String.intercalate "\n" lines)
        let properties : ParagraphProperties := { style := some Style.math, alignment := some .center }
        refine .of_run (n := push { properties, runs := [run] } line column) s rfl ?_
        exact makes_pushRun rfl rfl ⟨rfl, rfl⟩ line column
    | codeBlock | fencedCodeBlock =>
        exact makes_renderCode rfl line column _ s
    | table =>
        exact makes_renderTable ..
    | tableRow | tableCell | unsupported =>
        exact yields_unsupported _ _ _ (fun d => .quiet (s.quiet_told d)) fun d => builds_of_quiet (s.quiet_told d) []
    | text | softBreak | lineBreak | codeSpan | emphasis | strikethrough | link | image | inlineMath
    | footnoteReference =>
        exact (renders_renderInline {} _ s).makes fun runs t h =>
          makes_pushText rfl rfl forall_plain_nil h line column

theorem makes_renderBlocks : ∀ (nodes : List Node) (s : Rendering),
    Makes context s s (renderBlocks nodes) (draftsOf nodes)
  | [], s => by
    rw [renderBlocks, draftsOf]
    exact .of_builds rfl (.quiet (.refl s))
  | node :: rest, s => by
    rw [renderBlocks, draftsOf]
    exact Makes.bind (makes_renderBlock node s) fun _ t => makes_renderBlocks rest t

end

/-- The rendering of a tree meets what the tree asks for, or some first part of it when it ends early. -/
theorem builds_renderInto (context : RenderContext) (tree : Node) :
    ∃ met, met <+: drafts tree ∧ Builds context (.start context.settings) met (renderInto context tree).2 ∧
      ((renderInto context tree).1 = .ok () → met = drafts tree) := by
  have hrun : renderInto context tree = renderBlock tree context (.start context.settings) := rfl
  have h := @makes_renderBlock context tree (.start context.settings)
  unfold Makes Yields at h
  rw [hrun]
  rcases hresult : renderBlock tree context (.start context.settings) with ⟨d | ⟨⟩, t⟩
  · rw [hresult] at h
    obtain ⟨met, hprefix, hmet⟩ := h
    exact ⟨met, hprefix, hmet, fun hok => by cases hok⟩
  · rw [hresult] at h
    exact ⟨drafts tree, List.prefix_rfl, h, fun _ => rfl⟩

end Markdown
end Folio
