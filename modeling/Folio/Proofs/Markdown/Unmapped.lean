import Folio.Proofs.Markdown.ErrorPolicy

/-!
# What a rendering says about constructs without a counterpart

Under a policy that is not strict, a construct that no document can hold is reported and left out. The walk over a tree
reads some nodes as blocks and some as inlines; of the others it takes the text or nothing at all, and an unsupported
construct among these is not reported.

* `Place.within` : how a node's children are read, from how the node itself is read;
* `reported` : the nodes of a tree without a counterpart where they stand, in document order;
* `outermost` : the unsupported nodes of a tree that are within no other one, in document order;
* `Reports` : a step gives one diagnostic for each of some nodes, in order, or ends before it has given them all;
* `reports_renderBlock` : a block is rendered with the diagnostics of its reported nodes;
* `unsupported_reported_iff` : the unsupported nodes are all reported exactly when each stands where nodes are rendered.
-/

namespace Folio
namespace Markdown
open RenderM

/-- How a node is read. -/
inductive Place where
  | block
  /-- As a block of a footnote. -/
  | note
  | phrase
  /-- For its text, or not at all. -/
  | text
  deriving DecidableEq, Repr

/-- A node in the place is rendered, or else reported. -/
def Place.isRendered : Place → Bool
  | .block | .phrase => true
  | .note | .text => false

/-- How the children of a node are read. -/
def Place.within : Place → Kind → Place
  | .block, .document | .block, .list _ _ | .block, .listItem => .block
  | .block, .footnoteDefinition _ => .note
  | .block, .heading _ | .block, .paragraph | .note, .paragraph => .phrase
  | .block, .emphasis _ | .block, .strikethrough | .block, .link _ _ => .phrase
  | .phrase, .emphasis _ | .phrase, .strikethrough | .phrase, .link _ _ => .phrase
  | _, _ => .text

/-- A node of the kind has no counterpart in the place. -/
def Place.lacks : Place → Kind → Bool
  | .block, .tableRow _ | .block, .tableCell | .block, .unsupported _ => true
  | .phrase, .taskCheckBox _ => false
  | .phrase, kind => !kind.isInline
  | _, _ => false

def Kind.isUnsupported : Kind → Bool
  | .unsupported _ => true
  | _ => false

/-- What is said about a node without a counterpart. -/
def Node.unmapped (node : Node) : Diagnostic :=
  Diagnostic.placed { kind := .unsupportedNode, message := node.kind.describe } node.line node.column

mutual

/-- The nodes without a counterpart, in document order. What is within one of them is left out with it. -/
def reported (place : Place) : Node → List Node
  | ⟨kind, children, line, column⟩ =>
    if place.lacks kind then [⟨kind, children, line, column⟩] else reportedOf (place.within kind) children

def reportedOf (place : Place) : List Node → List Node
  | [] => []
  | node :: rest => reported place node ++ reportedOf place rest

end

mutual

/-- The unsupported nodes that are within no other unsupported node, in document order. -/
def outermost : Node → List Node
  | ⟨kind, children, line, column⟩ =>
    if kind.isUnsupported then [⟨kind, children, line, column⟩] else outermostOf children

def outermostOf : List Node → List Node
  | [] => []
  | node :: rest => outermost node ++ outermostOf rest

end

mutual

/-- The same nodes, each with the place that it stands in. -/
def unsupportedIn (place : Place) : Node → List (Place × Node)
  | ⟨kind, children, line, column⟩ =>
    if kind.isUnsupported then [(place, ⟨kind, children, line, column⟩)]
    else unsupportedInAll (place.within kind) children

def unsupportedInAll (place : Place) : List Node → List (Place × Node)
  | [] => []
  | node :: rest => unsupportedIn place node ++ unsupportedInAll place rest

end

/-! ## Which of the unsupported nodes are reported -/

mutual

theorem map_unsupportedIn : ∀ (place : Place) (node : Node), (unsupportedIn place node).map Prod.snd = outermost node
  | place, ⟨kind, children, line, column⟩ => by
    rw [unsupportedIn, outermost]
    split
    · rfl
    · exact map_unsupportedInAll (place.within kind) children

theorem map_unsupportedInAll : ∀ (place : Place) (nodes : List Node),
    (unsupportedInAll place nodes).map Prod.snd = outermostOf nodes
  | _, [] => by rw [unsupportedInAll, outermostOf, List.map_nil]
  | place, node :: rest => by
    rw [unsupportedInAll, outermostOf, List.map_append, map_unsupportedIn place node, map_unsupportedInAll place rest]

end

theorem Place.lacks_unsupported (place : Place) (name : String) :
    place.lacks (.unsupported name) = place.isRendered := by
  cases place <;> rfl

/-- What is within a node without a counterpart is left out. -/
theorem Place.within_of_lacks {place : Place} {kind : Kind} (h : place.lacks kind = true) :
    place.within kind = .text := by
  cases place <;> cases kind <;> first | rfl | cases h

mutual

theorem places_text : ∀ (node : Node), ∀ found ∈ unsupportedIn .text node, found.1 = .text
  | ⟨kind, children, line, column⟩, found, hmem => by
    rw [unsupportedIn] at hmem
    split at hmem
    · rw [List.mem_singleton.mp hmem]
    · have hwithin : Place.within .text kind = .text := by cases kind <;> rfl
      rw [hwithin] at hmem
      exact places_text_all children found hmem

theorem places_text_all : ∀ (nodes : List Node), ∀ found ∈ unsupportedInAll .text nodes, found.1 = .text
  | [], found, hmem => by
    rw [unsupportedInAll] at hmem
    exact absurd hmem List.not_mem_nil
  | node :: rest, found, hmem => by
    rw [unsupportedInAll] at hmem
    rcases List.mem_append.mp hmem with hmem | hmem
    · exact places_text node found hmem
    · exact places_text_all rest found hmem

end

mutual

/-- Nothing is reported of what is taken for its text. -/
theorem reported_text : ∀ (node : Node), reported .text node = []
  | ⟨kind, children, line, column⟩ => by
    have hlacks : Place.lacks .text kind = false := by cases kind <;> rfl
    have hwithin : Place.within .text kind = .text := by cases kind <;> rfl
    rw [reported, hlacks, hwithin, if_neg Bool.false_ne_true]
    exact reportedOf_text children

theorem reportedOf_text : ∀ (nodes : List Node), reportedOf .text nodes = []
  | [] => by rw [reportedOf]
  | node :: rest => by rw [reportedOf, reported_text node, reportedOf_text rest, List.append_nil]

end

mutual

/-- The unsupported nodes among the reported ones are those that stand where nodes are rendered. -/
theorem filter_reported : ∀ (place : Place) (node : Node),
    (reported place node).filter (·.kind.isUnsupported) =
      ((unsupportedIn place node).filter (·.1.isRendered)).map Prod.snd
  | place, ⟨kind, children, line, column⟩ => by
    rw [reported, unsupportedIn]
    by_cases hunsupported : kind.isUnsupported = true
    · obtain ⟨name, rfl⟩ : ∃ name, kind = .unsupported name := by
        cases kind <;> first | exact ⟨_, rfl⟩ | cases hunsupported
      have hwithin : place.within (.unsupported name) = .text := by cases place <;> rfl
      rw [if_pos hunsupported, place.lacks_unsupported, hwithin, reportedOf_text]
      cases place <;> rfl
    · rw [if_neg hunsupported]
      by_cases hlacks : place.lacks kind = true
      · -- a misplaced node is reported itself, and what is within it stands where nothing is rendered
        have hhidden : (unsupportedInAll (place.within kind) children).filter (·.1.isRendered) = [] := by
          rw [Place.within_of_lacks hlacks, List.filter_eq_nil_iff]
          intro found hmem
          rw [places_text_all children found hmem]
          exact Bool.false_ne_true
        rw [if_pos hlacks, hhidden, List.map_nil]
        exact List.filter_cons_of_neg hunsupported
      · rw [if_neg hlacks]
        exact filter_reportedOf (place.within kind) children

theorem filter_reportedOf : ∀ (place : Place) (nodes : List Node),
    (reportedOf place nodes).filter (·.kind.isUnsupported) =
      ((unsupportedInAll place nodes).filter (·.1.isRendered)).map Prod.snd
  | _, [] => by
    rw [reportedOf, unsupportedInAll]
    rfl
  | place, node :: rest => by
    rw [reportedOf, unsupportedInAll, List.filter_append, List.filter_append, List.map_append,
      filter_reported place node, filter_reportedOf place rest]

end

theorem reported_of_lacks {place : Place} {kind : Kind} (h : place.lacks kind = true) {children : List Node}
    {line column : Nat} : reported place ⟨kind, children, line, column⟩ = [⟨kind, children, line, column⟩] := by
  rw [reported, if_pos h]

theorem reported_of_mapped {place : Place} {kind : Kind} (h : place.lacks kind = false) {children : List Node}
    {line column : Nat} : reported place ⟨kind, children, line, column⟩ = reportedOf (place.within kind) children := by
  rw [reported, if_neg (by rw [h]; exact Bool.false_ne_true)]

theorem reported_eq_nil {place : Place} {kind : Kind} (h : place.lacks kind = false) (h' : place.within kind = .text)
    {children : List Node} {line column : Nat} : reported place ⟨kind, children, line, column⟩ = [] := by
  rw [reported_of_mapped h, h', reportedOf_text]

/-- All the unsupported nodes are reported when each of them stands where nodes are rendered, and only then. -/
theorem filter_reported_eq_iff (place : Place) (node : Node) :
    (reported place node).filter (·.kind.isUnsupported) = outermost node ↔
      ∀ found ∈ unsupportedIn place node, found.1.isRendered = true := by
  rw [filter_reported, ← map_unsupportedIn place node]
  constructor
  · intro h
    have hlength := congrArg List.length h
    rw [List.length_map, List.length_map] at hlength
    exact List.length_filter_eq_length_iff.mp hlength
  · intro h
    rw [List.filter_eq_self.mpr h]

/-! ## What a step reports -/

/-- The diagnostics about nodes without a counterpart. -/
def Rendering.unmapped (s : Rendering) : List Diagnostic := s.diagnostics.filter (·.kind = .unsupportedNode)

variable {α β : Type}

/-- From `s` on, the step gives one diagnostic for each of the nodes, in order. If it ends before its time, it has given
those of the first of them. -/
def Reports (context : RenderContext) (s : Rendering) (m : RenderM α) (nodes : List Node) : Prop :=
  ∃ met, met <+: nodes ∧ (m context s).2.unmapped = s.unmapped ++ met.map Node.unmapped ∧
    ∀ a, (m context s).1 = .ok a → met = nodes

variable {context : RenderContext} {s : Rendering}

/-- A step that says nothing about such nodes. -/
theorem Reports.of_silent {m : RenderM α} (h : (m context s).2.unmapped = s.unmapped) : Reports context s m [] :=
  ⟨[], List.prefix_rfl, by rw [h, List.map_nil, List.append_nil], fun _ _ => rfl⟩

/-- A step that comes down to another one after a silent change of the state. -/
theorem Reports.of_run {m n : RenderM α} {nodes : List Node} (u : Rendering) (h : m context s = n context u)
    (hu : u.unmapped = s.unmapped) (h' : Reports context u n nodes) : Reports context s m nodes := by
  obtain ⟨met, hprefix, hsaid, hok⟩ := h'
  refine ⟨met, hprefix, ?_, fun a ha => hok a ?_⟩
  · rw [h, hsaid, hu]
  · rw [← h, ha]

theorem Reports.pure (a : α) : Reports context s (pure a : RenderM α) [] := .of_silent rfl

theorem Reports.bind {m : RenderM α} {f : α → RenderM β} {nodes nodes' : List Node} (hm : Reports context s m nodes)
    (hf : ∀ a t, Reports context t (f a) nodes') : Reports context s (m >>= f) (nodes ++ nodes') := by
  obtain ⟨met, hprefix, hsaid, hok⟩ := hm
  rcases hr : m context s with ⟨d | a, t⟩
  · have hrun : (m >>= f) context s = (.error d, t) := by rw [run_bind, hr]
    refine ⟨met, hprefix.trans (List.prefix_append ..), ?_, fun b hb => ?_⟩
    · rw [hrun, ← hsaid, hr]
    · rw [hrun] at hb
      cases hb
  · have hrun : (m >>= f) context s = f a context t := by rw [run_bind, hr]
    obtain rfl : met = nodes := hok a (by rw [hr])
    rw [hr] at hsaid
    obtain ⟨met', hprefix', hsaid', hok'⟩ := hf a t
    refine ⟨met ++ met', List.prefix_append_right_inj met |>.mpr hprefix', ?_, fun b hb => ?_⟩
    · rw [hrun, hsaid', hsaid, List.map_append, List.append_assoc]
    · rw [hrun] at hb
      rw [hok' b hb]

/-- A silent step in front of another one. -/
theorem Reports.after {m : RenderM α} {f : α → RenderM β} {nodes : List Node} (hm : Reports context s m [])
    (hf : ∀ a t, Reports context t (f a) nodes) : Reports context s (m >>= f) nodes :=
  hm.bind hf

/-- A silent step behind another one. -/
theorem Reports.before {m : RenderM α} {f : α → RenderM β} {nodes : List Node} (hm : Reports context s m nodes)
    (hf : ∀ a t, Reports context t (f a) []) : Reports context s (m >>= f) nodes := by
  have h := hm.bind hf
  rwa [List.append_nil] at h

theorem Reports.get_bind {f : Rendering → RenderM α} {nodes : List Node} (h : Reports context s (f s) nodes) :
    Reports context s (get >>= f) nodes := h

theorem Reports.set_bind {t : Rendering} {f : PUnit → RenderM α} {nodes : List Node} (ht : t.unmapped = s.unmapped)
    (h : Reports context t (f ⟨⟩) nodes) : Reports context s (set t >>= f) nodes :=
  .of_run t rfl ht h

theorem reports_modify {change : Rendering → Rendering} (h : (change s).unmapped = s.unmapped) :
    Reports context s (modify change : RenderM Unit) [] :=
  .of_silent h

/-! ## The steps of a rendering -/

theorem unmapped_told_of_ne (s : Rendering) {d : Diagnostic} (h : d.kind ≠ .unsupportedNode) :
    (s.told d).unmapped = s.unmapped := by
  simp [Rendering.unmapped, Rendering.told, h]

theorem reports_unsupported (hstrict : context.settings.errors.strict = false) (node : Node) :
    Reports context s (unsupported node.kind node.line node.column) [node] := by
  have hrun : unsupported node.kind node.line node.column context s = (.ok (), s.told node.unmapped) := by
    rw [run_unsupported, hstrict]
    rfl
  refine ⟨[node], List.prefix_rfl, ?_, fun _ _ => rfl⟩
  rw [hrun]
  simp [Rendering.unmapped, Rendering.told, Node.unmapped, Diagnostic.placed]

theorem reports_refusedEdit (what : String) (e : EditError) (line column : Nat) :
    Reports context s (refusedEdit what e line column) [] := by
  refine .of_silent ?_
  rw [refusedEdit, run_report]
  exact unmapped_told_of_ne s (by simp [Diagnostic.ofEdit, Diagnostic.placed])

theorem reports_refuses (operation : Operation) {m m' : RenderM α} {nodes : List Node} (h : Reports context s m nodes)
    (h' : Reports context s m' nodes) : Reports context s (do if ← refuses operation then m else m') nodes := by
  by_cases hr : context.refused.contains operation = true
  · exact .of_run s ((run_refuses ..).trans (if_pos hr)) rfl h
  · exact .of_run s ((run_refuses ..).trans (if_neg hr)) rfl h'

theorem reports_push (paragraph : Paragraph) (line column : Nat) :
    Reports context s (push paragraph line column) [] :=
  reports_refuses _ (reports_refusedEdit ..) (reports_modify rfl)

theorem reports_footnoteId (label : String) : Reports context s (footnoteId label) [] := by
  refine .get_bind ?_
  split
  · exact .pure _
  · exact .set_bind rfl (.pure _)

theorem reports_imageRun (format : InlineFormat) (destination alt : String) :
    Reports context s (imageRun format destination alt) [] := by
  refine .of_run s (run_imageRun context s format destination alt) rfl ?_
  unfold imageSteps
  dsimp only
  split
  · exact .get_bind (.set_bind rfl (.pure _))
  · exact .pure _

mutual

theorem reports_renderInline (hstrict : context.settings.errors.strict = false) (format : InlineFormat) :
    ∀ (node : Node) (s : Rendering), Reports context s (renderInline format node) (reported .phrase node)
  | ⟨kind, children, line, column⟩, s => by
    unfold renderInline
    cases kind with
    | text | softBreak | lineBreak | codeSpan | inlineMath =>
        rw [reported_eq_nil rfl rfl]
        exact .of_silent rfl
    | emphasis | strikethrough | link =>
        rw [reported_of_mapped rfl]
        exact reports_renderInlines hstrict _ children s
    | image =>
        rw [reported_eq_nil rfl rfl]
        exact reports_imageRun ..
    | footnoteReference label =>
        rw [reported_eq_nil rfl rfl]
        exact (reports_footnoteId label).after fun _ _ => .pure _
    | taskCheckBox =>
        rw [reported_eq_nil rfl rfl]
        exact .pure _
    | _ =>
        rw [reported_of_lacks rfl]
        exact (reports_unsupported hstrict ⟨_, children, line, column⟩).before fun _ _ => .pure _

theorem reports_renderInlines (hstrict : context.settings.errors.strict = false) (format : InlineFormat) :
    ∀ (nodes : List Node) (s : Rendering), Reports context s (renderInlines format nodes) (reportedOf .phrase nodes)
  | [], s => by
    rw [renderInlines, reportedOf]
    exact .pure _
  | node :: rest, s => by
    rw [renderInlines, reportedOf]
    refine (reports_renderInline hstrict format node s).bind fun runs t => ?_
    exact (reports_renderInlines hstrict format rest t).before fun _ _ => .pure _

end

/-! ## Blocks -/

theorem reports_renderTable (alignments : List (Option Alignment)) (children : List Node) (line column : Nat) :
    Reports context s (renderTable alignments children line column) [] := by
  unfold renderTable
  refine reports_refuses _ (reports_refusedEdit ..) (.get_bind ?_)
  cases s.doc.createTable (tableRows children).length (tableColumns alignments (tableRows children)) with
  | error e => exact reports_refusedEdit ..
  | ok created =>
      obtain ⟨doc, id⟩ := created
      refine .set_bind rfl (reports_refuses _ (reports_refusedEdit ..) ?_)
      generalize editAll doc id (tableEdits alignments (tableRows children)) = filled
      obtain ⟨doc', refusal⟩ := filled
      refine .set_bind rfl ?_
      cases refusal with
      | none => exact .pure _
      | some e => exact reports_refusedEdit ..

theorem reports_renderCode (line column : Nat) (lines : List String) (s : Rendering) :
    Reports context s (renderCode line column lines) [] := by
  induction lines generalizing s with
  | nil => exact .pure _
  | cons content rest ih => exact Reports.after (.of_silent rfl) fun _ _ => (reports_push ..).after fun _ t => ih t

theorem reports_pushHeading (level : Nat) (runs : List Run) (title : List Char) (line column : Nat) :
    Reports context s (pushHeading level runs title line column) [] := by
  refine .of_run s (run_pushHeading context s level runs title line column) rfl ?_
  unfold headingSteps
  dsimp only
  split
  · exact .get_bind (.set_bind rfl (reports_push ..))
  · exact reports_push ..

theorem reports_itemStart : Reports context s itemStart [] := by
  refine .get_bind ?_
  dsimp only
  split
  · exact .set_bind rfl (.pure _)
  · exact .pure _

theorem reports_renderNotes (hstrict : context.settings.errors.strict = false) :
    ∀ (nodes : List Node) (s : Rendering), Reports context s (renderNotes nodes) (reportedOf .note nodes)
  | [], s => by
    rw [renderNotes, reportedOf]
    exact .pure _
  | ⟨kind, children, line, column⟩ :: rest, s => by
    have hrest (runs : List Run) (t : Rendering) : Reports context t (do
        return Paragraph.ensureRun { runs } :: (← renderNotes rest)) (reportedOf .note rest) :=
      (reports_renderNotes hstrict rest t).before fun _ _ => .pure _
    unfold renderNotes
    rw [reportedOf]
    cases kind with
    | paragraph =>
        rw [reported_of_mapped rfl]
        exact (reports_renderInlines hstrict _ children s).bind hrest
    | _ =>
        rw [reported_eq_nil rfl rfl]
        exact hrest _ s

theorem reports_addFootnote (footnote : Footnote) (line column : Nat) :
    Reports context s (do
      if ← refuses .addFootnote then
        refusedEdit "footnote" Operation.addFootnote.refusal line column
      else
        let s ← get
        match s.doc.addFootnote footnote with
        | .ok doc => set { s with doc }
        | .error e => refusedEdit "footnote" e line column) [] := by
  refine reports_refuses _ (reports_refusedEdit ..) (.get_bind ?_)
  split
  · exact .of_silent rfl
  · exact reports_refusedEdit ..

theorem reports_setEntries (entries : List (List Char × List Char)) (s : Rendering) :
    Reports context s (entries.forM fun (key, value) =>
      modifyDoc (·.setMetadata (String.ofList key) (String.ofList value))) [] := by
  induction entries generalizing s with
  | nil => exact .pure _
  | cons entry entries ih => exact (reports_modify rfl).after fun _ t => ih t

mutual

theorem reports_renderBlock (hstrict : context.settings.errors.strict = false) :
    ∀ (node : Node) (s : Rendering), Reports context s (renderBlock node) (reported .block node)
  | ⟨kind, children, line, column⟩, s => by
    unfold renderBlock
    cases kind with
    | document =>
        rw [reported_of_mapped rfl]
        exact reports_renderBlocks hstrict children s
    | frontMatter raw =>
        rw [reported_eq_nil rfl rfl]
        exact reports_setEntries _ s
    | heading level =>
        rw [reported_of_mapped rfl]
        exact (reports_renderInlines hstrict _ children s).before fun _ _ => reports_pushHeading ..
    | paragraph =>
        rw [reported_of_mapped rfl]
        exact (reports_renderInlines hstrict _ children s).before fun _ _ => reports_push ..
    | list ordered start =>
        rw [reported_of_mapped rfl]
        refine (reports_modify rfl).after fun _ t => ?_
        exact (reports_renderBlocks hstrict children t).before fun _ _ => reports_modify rfl
    | listItem =>
        rw [reported_of_mapped rfl]
        refine reports_itemStart.after fun _ t => ?_
        dsimp only
        split
        · rw [reportedOf, reported_eq_nil rfl rfl, List.nil_append, reportedOf, reported_of_mapped rfl]
          refine (reports_renderInlines hstrict _ _ t).bind fun _ u => ?_
          exact (reports_push ..).after fun _ v => reports_renderBlocks hstrict _ v
        · rw [reportedOf, reported_eq_nil rfl rfl, List.nil_append]
          exact (reports_push ..).after fun _ u => reports_renderBlocks hstrict _ u
        · rw [reportedOf, reported_of_mapped rfl]
          refine (reports_renderInlines hstrict _ _ t).bind fun _ u => ?_
          exact (reports_push ..).after fun _ v => reports_renderBlocks hstrict _ v
        · exact (reports_push ..).after fun _ u => reports_renderBlocks hstrict _ u
    | blockquote | thematicBreak | taskCheckBox =>
        rw [reported_eq_nil rfl rfl]
        exact reports_push ..
    | codeBlock | fencedCodeBlock =>
        rw [reported_eq_nil rfl rfl]
        exact reports_renderCode ..
    | table =>
        rw [reported_eq_nil rfl rfl]
        exact reports_renderTable ..
    | mathBlock lines =>
        rw [reported_eq_nil rfl rfl]
        exact Reports.after (.of_silent rfl) fun _ _ => reports_push ..
    | footnoteDefinition label =>
        rw [reported_of_mapped rfl]
        refine (reports_footnoteId label).after fun _ t => ?_
        exact (reports_renderNotes hstrict children t).before fun _ _ => reports_addFootnote ..
    | text | softBreak | lineBreak | codeSpan | emphasis | strikethrough | link | image | inlineMath
    | footnoteReference =>
        exact (reports_renderInline hstrict _ _ s).before fun _ _ => reports_push ..
    | tableRow | tableCell | unsupported =>
        rw [reported_of_lacks rfl]
        exact reports_unsupported hstrict ⟨_, children, line, column⟩

theorem reports_renderBlocks (hstrict : context.settings.errors.strict = false) :
    ∀ (nodes : List Node) (s : Rendering), Reports context s (renderBlocks nodes) (reportedOf .block nodes)
  | [], s => by
    rw [renderBlocks, reportedOf]
    exact .pure _
  | node :: rest, s => by
    rw [renderBlocks, reportedOf]
    exact (reports_renderBlock hstrict node s).bind fun _ t => reports_renderBlocks hstrict rest t

end

/-! ## Whole trees -/

/-- **What is reported of a tree, and when that is everything unsupported.** Under a policy that is not strict a
rendering that comes to its end gives exactly one diagnostic for each reported node of the tree, with its place and in
document order. Only a refused edit ends it early, and none does when errors are ignored; the nodes up to there are
reported then. The outermost unsupported nodes are all among the reported ones exactly when each stands where nodes are
rendered, and not where only their text is taken. -/
theorem unsupported_reported_iff (context : RenderContext) (hstrict : context.settings.errors.strict = false)
    (tree : Node) :
    let run := renderInto context tree
    let nodes := reported .block tree
    run.2.unmapped <+: nodes.map Node.unmapped ∧
      (run.1 = .ok () → run.2.unmapped = nodes.map Node.unmapped) ∧
      (context.settings.errors.ignoreErrors = true → run.1 = .ok ()) ∧
      (∀ d, run.1 = .error d →
        d.kind = .modelMutation ∧ d ∈ (renderInto (context.under .lenient) tree).2.diagnostics) ∧
      (nodes.filter (·.kind.isUnsupported) = outermost tree ↔
        ∀ found ∈ unsupportedIn .block tree, found.1.isRendered = true) := by
  intro run nodes
  obtain ⟨met, hprefix, hsaid, hok⟩ : Reports context (.start context.settings) (renderBlock tree) nodes :=
    reports_renderBlock hstrict tree (.start context.settings)
  have hrun : run.2.unmapped = met.map Node.unmapped := hsaid
  refine ⟨?_, fun h => ?_, fun hignore => ?_, fun d hd => ?_, filter_reported_eq_iff .block tree⟩
  · rw [hrun]
    exact hprefix.map Node.unmapped
  · rw [hrun, hok () h]
  · exact renderInto_ok (by simp [ErrorPolicy.aborts, hstrict, hignore]) tree
  · exact (endsAt_of_renderInto hd).imp_left (ErrorPolicy.kind_of_endsAt hstrict)

/-- Raw markup in a heading, in a link of a list item and after the list. -/
theorem unsupported_reported_html :
    let html (line column : Nat) : Node := { kind := .unsupported "inline html", line, column }
    let item : Node := { kind := .listItem, children := [{ kind := .paragraph, children := [
      { kind := .text "see " }, { kind := .link "a.md" "", children := [html 3 8] }] }] }
    let tree : Node := { kind := .document, children := [{ kind := .heading 1, children := [html 1 3] },
      { kind := .list false 1, children := [item] }, html 5 1] }
    ({} : RenderContext).settings.errors.strict = false ∧ outermost tree = [html 1 3, html 3 8, html 5 1] ∧
      (renderInto {} tree).1 = .ok () ∧
      (renderInto {} tree).2.unmapped = [html 1 3, html 3 8, html 5 1].map Node.unmapped := by
  intro html item tree
  obtain ⟨-, hsaid, hdone, -⟩ := unsupported_reported_iff {} rfl tree
  exact ⟨rfl, rfl, hdone rfl, hsaid (hdone rfl)⟩

/-- A block quote is taken for its text, and raw markup in it is dropped without a word. -/
theorem unsupported_silent_in_quote :
    let html : Node := { kind := .unsupported "inline html", line := 1, column := 3 }
    let tree : Node := { kind := .document, children := [{ kind := .blockquote, children := [
      { kind := .paragraph, children := [html] }] }] }
    outermost tree = [html] ∧ (renderInto {} tree).1 = .ok () ∧ (renderInto {} tree).2.diagnostics = [] := by
  intro html tree
  exact ⟨rfl, rfl, rfl⟩

end Markdown
end Folio
