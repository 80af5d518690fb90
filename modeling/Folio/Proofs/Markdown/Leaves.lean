import Folio.Proofs.Markdown.ErrorPolicy
import Mathlib.Data.List.Forall2

/-!
# The leaves of a tree as the runs of a document

A tree of headings, paragraphs and lists is rendered without diagnostics. Every leaf within a line of text becomes one
run, in the order of the tree, and its run takes the formatting of all the inlines around the leaf.

* `leaves` : the leaves of a tree in order, each with what is around it;
* `Leaf.Shows` : a run stands for a leaf and is formatted as the inlines around the leaf ask for;
* `Holds` : the runs of a paragraph stand for leaves in order, but for an item's mark and an empty paragraph's run;
* `Steady` : a step succeeds without diagnostics and leaves the body alone;
* `AppendsLeaves` : a step succeeds without diagnostics and appends paragraphs that hold the leaves;
* `steady_renderInline` : the runs of an inline stand for its leaves;
* `appendsLeaves_renderBlock` : a block appends paragraphs that hold its leaves;
* `render_prose` : a tree of headings, paragraphs and lists is rendered as paragraphs that hold its leaves.
-/

namespace Folio
namespace Markdown
open RenderM

/-- What becomes a run. -/
def Kind.isLeaf : Kind → Bool
  | .text _ | .softBreak | .lineBreak | .codeSpan _ | .image _ _ | .inlineMath _ | .footnoteReference _ => true
  | _ => false

def Kind.isCodeSpan : Kind → Bool
  | .codeSpan _ => true
  | _ => false

/-- Emphasis that is shown in bold. -/
def Kind.isStrong : Kind → Bool
  | .emphasis level => decide (2 ≤ level)
  | _ => false

/-- Emphasis that is shown in italics. -/
def Kind.isLight : Kind → Bool
  | .emphasis level => decide (level ≤ 1)
  | _ => false

def Kind.isStrikethrough : Kind → Bool
  | .strikethrough => true
  | _ => false

def Kind.isLink : Kind → Bool
  | .link _ _ => true
  | _ => false

mutual

/-- An inline that holds inlines only. What stands within a leaf does not matter. -/
def Node.isPhrase : Node → Bool
  | ⟨kind, children, _, _⟩ => kind.isInline && (kind.isLeaf || arePhrases children)

def arePhrases : List Node → Bool
  | [] => true
  | node :: rest => node.isPhrase && arePhrases rest

end

mutual

/-- A tree of headings, paragraphs and lists whose headings and paragraphs hold inlines only. Between the blocks there
may be inlines as well. -/
def Node.isProse : Node → Bool
  | ⟨kind, children, line, column⟩ =>
    match kind with
    | .document | .list _ _ | .listItem => areProse children
    | .heading _ | .paragraph => arePhrases children
    | kind => Node.isPhrase ⟨kind, children, line, column⟩

def areProse : List Node → Bool
  | [] => true
  | node :: rest => node.isProse && areProse rest

end

/-- A leaf of a tree. -/
structure Leaf where
  node : Node
  /-- The kinds of the nodes around it, innermost first. -/
  around : List Kind

mutual

/-- The leaves of a node that stands within nodes of the given kinds, in order. -/
def leaves (around : List Kind) : Node → List Leaf
  | ⟨kind, children, line, column⟩ =>
    if kind.isLeaf then [{ node := ⟨kind, children, line, column⟩, around }]
    else leavesOf (kind :: around) children

def leavesOf (around : List Kind) : List Node → List Leaf
  | [] => []
  | node :: rest => leaves around node ++ leavesOf around rest

end

/-- The formatting is what the leaf and the nodes around it ask for. The colour of code wins over that of a link. -/
structure Leaf.Formats (style : StyleSettings) (leaf : Leaf) (properties : RunProperties) : Prop where
  bold : properties.isBold = leaf.around.any Kind.isStrong
  italic : properties.isItalic = leaf.around.any Kind.isLight
  strike : properties.isStrike = leaf.around.any Kind.isStrikethrough
  color : properties.fontColor =
    if leaf.node.kind.isCodeSpan then some style.codeColor
    else if leaf.around.any Kind.isLink then some style.linkColor
    else none
  font : properties.fontFamily = if leaf.node.kind.isCodeSpan then some style.codeFont else none

/-- What stands in the place of an image: what it says or, when it says nothing, where it is. -/
def imageText (settings : RenderSettings) (destination alt : String) : String :=
  let source := Media.resolve destination.toList (settings.images.basePath.map String.toList)
  "[Image: " ++ (if alt.isEmpty then String.ofList source else alt) ++ "]"

/-- The run stands for the leaf. -/
def Leaf.Shows (settings : RenderSettings) (leaf : Leaf) (run : Run) : Prop :=
  match leaf.node.kind with
  | .text content | .codeSpan content =>
    run = { text := content, properties := run.properties } ∧ leaf.Formats settings.style run.properties
  | .softBreak => run = { text := " ", properties := run.properties } ∧ leaf.Formats settings.style run.properties
  | .lineBreak => run = { text := "\n", properties := run.properties } ∧ leaf.Formats settings.style run.properties
  | .image destination _ =>
    let alt := String.ofList (textOfAll true leaf.node.children)
    run = { text := imageText settings destination alt, properties := run.properties, media := run.media } ∧
      run.media.isSome = settings.images.embed ∧ leaf.Formats settings.style run.properties
  | .inlineMath source => run = mathRun settings source
  | .footnoteReference _ => run = { text := "", footnote := run.footnote } ∧ run.footnote.isSome = true
  | _ => False

/-- The element is a paragraph whose runs stand for the leaves in order. In front of them a list item has its mark, and
a paragraph without leaves has an empty run in their place. -/
inductive Holds (settings : RenderSettings) : Element → List Leaf → Prop
  | item {properties : ParagraphProperties} {nesting : Nat} {runs : List Run} {group : List Leaf}
      (hnumbering : properties.numbering.isSome = true) (hruns : List.Forall₂ (Leaf.Shows settings) group runs) :
      Holds settings (.paragraph { properties, runs := itemMark nesting bullet :: runs }) group
  | text {properties : ParagraphProperties} {runs : List Run} {group : List Leaf}
      (hnumbering : properties.numbering = none) (hgroup : group ≠ [])
      (hruns : List.Forall₂ (Leaf.Shows settings) group runs) : Holds settings (.paragraph { properties, runs }) group
  | empty {properties : ParagraphProperties} (hnumbering : properties.numbering = none) :
      Holds settings (.paragraph { properties, runs := [{ text := "" }] }) []

/-! ## The format on the way down -/

/-- The format is what the nodes around ask for. -/
structure InlineFormat.Gathers (format : InlineFormat) (around : List Kind) : Prop where
  bold : format.bold = around.any Kind.isStrong
  italic : format.italic = around.any Kind.isLight
  strike : format.strike = around.any Kind.isStrikethrough
  link : format.link = around.any Kind.isLink
  code : format.code = false

variable {format : InlineFormat} {around : List Kind}

theorem InlineFormat.gathers_nil : ({} : InlineFormat).Gathers [] := ⟨rfl, rfl, rfl, rfl, rfl⟩

theorem InlineFormat.Gathers.emphasis (h : format.Gathers around) (level : Nat) :
    (if 2 ≤ level then { format with bold := true } else { format with italic := true } : InlineFormat).Gathers
      (.emphasis level :: around) := by
  by_cases hlevel : 2 ≤ level
  · have hstrong : Kind.isStrong (.emphasis level) = true := decide_eq_true hlevel
    have hlight : Kind.isLight (.emphasis level) = false := decide_eq_false (by omega)
    rw [if_pos hlevel]
    refine ⟨?_, ?_, h.strike, h.link, h.code⟩
    · rw [List.any_cons, hstrong, Bool.true_or]
    · rw [List.any_cons, hlight, Bool.false_or]
      exact h.italic
  · have hstrong : Kind.isStrong (.emphasis level) = false := decide_eq_false hlevel
    have hlight : Kind.isLight (.emphasis level) = true := decide_eq_true (by omega)
    rw [if_neg hlevel]
    refine ⟨?_, ?_, h.strike, h.link, h.code⟩
    · rw [List.any_cons, hstrong, Bool.false_or]
      exact h.bold
    · rw [List.any_cons, hlight, Bool.true_or]

theorem InlineFormat.Gathers.strikethrough (h : format.Gathers around) :
    ({ format with strike := true } : InlineFormat).Gathers (.strikethrough :: around) :=
  ⟨h.bold, h.italic, rfl, h.link, h.code⟩

theorem InlineFormat.Gathers.linked (h : format.Gathers around) (destination title : String) :
    ({ format with link := true } : InlineFormat).Gathers (.link destination title :: around) :=
  ⟨h.bold, h.italic, h.strike, rfl, h.code⟩

/-- Blocks ask for nothing. -/
theorem InlineFormat.Gathers.block (h : format.Gathers around) {kind : Kind} (hkind : kind.isInline = false) :
    format.Gathers (kind :: around) := by
  cases kind with
  | emphasis | strikethrough | link => cases hkind
  | _ => exact ⟨h.bold, h.italic, h.strike, h.link, h.code⟩

theorem InlineFormat.Gathers.formats (h : format.Gathers around) (style : StyleSettings) (node : Node) :
    Leaf.Formats style ⟨node, around⟩
      ({ format with code := node.kind.isCodeSpan }.properties style) where
  bold := by
    rw [← h.bold]
    cases format.bold <;> rfl
  italic := by
    rw [← h.italic]
    cases format.italic <;> rfl
  strike := by
    rw [← h.strike]
    cases format.strike <;> rfl
  color := by
    rw [← h.link]
    rfl
  font := rfl

/-- A leaf that is no code. -/
theorem InlineFormat.Gathers.formats_plain (h : format.Gathers around) (style : StyleSettings) {node : Node}
    (hcode : node.kind.isCodeSpan = false) : Leaf.Formats style ⟨node, around⟩ (format.properties style) := by
  have hformats := h.formats style node
  rwa [hcode, ← h.code] at hformats

/-! ## Quiet steps -/

variable {α β : Type}

/-- From `s` on, the step succeeds without diagnostics and leaves the body alone, and its result is as `post` says. -/
def Steady (context : RenderContext) (s : Rendering) (m : RenderM α) (post : α → Prop) : Prop :=
  ∃ a t, m context s = (.ok a, t) ∧ t.diagnostics = s.diagnostics ∧ t.doc.body = s.doc.body ∧ post a

/-- From `s` on, the step succeeds without diagnostics and appends elements that hold the leaves in order. -/
def AppendsLeaves (context : RenderContext) (s : Rendering) (m : RenderM Unit) (ls : List Leaf) : Prop :=
  ∃ t elements groups, m context s = (.ok (), t) ∧ t.diagnostics = s.diagnostics ∧
    t.doc.body = s.doc.body ++ elements ∧ List.Forall₂ (Holds context.settings) elements groups ∧ groups.flatten = ls

variable {context : RenderContext} {s : Rendering}

theorem Steady.pure {a : α} {post : α → Prop} (h : post a) : Steady context s (pure a) post :=
  ⟨a, s, rfl, rfl, rfl, h⟩

theorem Steady.bind {m : RenderM α} {f : α → RenderM β} {mid : α → Prop} {post : β → Prop}
    (hm : Steady context s m mid) (hf : ∀ a t, mid a → Steady context t (f a) post) :
    Steady context s (m >>= f) post := by
  obtain ⟨a, t, hrun, hd, hbody, hmid⟩ := hm
  obtain ⟨b, u, hrun', hd', hbody', hpost⟩ := hf a t hmid
  refine ⟨b, u, ?_, hd'.trans hd, hbody'.trans hbody, hpost⟩
  rw [run_bind, hrun]
  exact hrun'

theorem Steady.appends_nil {m : RenderM Unit} {post : Unit → Prop} (h : Steady context s m post) :
    AppendsLeaves context s m [] := by
  obtain ⟨a, t, hrun, hd, hbody, -⟩ := h
  exact ⟨t, [], [], hrun, hd, hbody.trans (List.append_nil _).symm, .nil, rfl⟩

/-- What comes first leaves the body alone. -/
theorem Steady.appends {m : RenderM α} {f : α → RenderM Unit} {post : α → Prop} {ls : List Leaf}
    (hm : Steady context s m post) (hf : ∀ a t, post a → AppendsLeaves context t (f a) ls) :
    AppendsLeaves context s (m >>= f) ls := by
  obtain ⟨a, t, hrun, hd, hbody, hpost⟩ := hm
  obtain ⟨u, elements, groups, hrun', hd', hbody', hholds, hleaves⟩ := hf a t hpost
  refine ⟨u, elements, groups, ?_, hd'.trans hd, ?_, hholds, hleaves⟩
  · rw [run_bind, hrun]
    exact hrun'
  · rw [hbody', hbody]

theorem AppendsLeaves.bind {m : RenderM Unit} {f : Unit → RenderM Unit} {ls ls' : List Leaf}
    (hm : AppendsLeaves context s m ls) (hf : ∀ t, AppendsLeaves context t (f ()) ls') :
    AppendsLeaves context s (m >>= f) (ls ++ ls') := by
  obtain ⟨t, elements, groups, hrun, hd, hbody, hholds, rfl⟩ := hm
  obtain ⟨u, elements', groups', hrun', hd', hbody', hholds', rfl⟩ := hf t
  refine ⟨u, elements ++ elements', groups ++ groups', ?_, hd'.trans hd, ?_, List.rel_append hholds hholds',
    List.flatten_append⟩
  · rw [run_bind, hrun]
    exact hrun'
  · rw [hbody', hbody, List.append_assoc]

theorem Steady.get_bind {f : Rendering → RenderM α} {post : α → Prop} (h : Steady context s (f s) post) :
    Steady context s (get >>= f) post := h

theorem Steady.set_bind {t : Rendering} {f : PUnit → RenderM α} {post : α → Prop}
    (hd : t.diagnostics = s.diagnostics) (hbody : t.doc.body = s.doc.body) (h : Steady context t (f ⟨⟩) post) :
    Steady context s (set t >>= f) post := by
  obtain ⟨a, u, hrun, hd', hbody', hpost⟩ := h
  exact ⟨a, u, hrun, hd'.trans hd, hbody'.trans hbody, hpost⟩

theorem steady_modify {change : Rendering → Rendering} (hd : (change s).diagnostics = s.diagnostics)
    (hbody : (change s).doc.body = s.doc.body) : Steady context s (modify change : RenderM Unit) fun _ => True :=
  ⟨(), change s, rfl, hd, hbody, trivial⟩

/-! ## Inlines -/

theorem leaves_of_isLeaf {kind : Kind} (h : kind.isLeaf = true) (around : List Kind) (children : List Node)
    (line column : Nat) :
    leaves around ⟨kind, children, line, column⟩ = [{ node := ⟨kind, children, line, column⟩, around }] := by
  rw [leaves, if_pos h]

theorem leaves_of_not_isLeaf {kind : Kind} (h : kind.isLeaf = false) (around : List Kind) (children : List Node)
    (line column : Nat) : leaves around ⟨kind, children, line, column⟩ = leavesOf (kind :: around) children := by
  rw [leaves, if_neg (by rw [h]; exact Bool.false_ne_true)]

theorem steady_imageRun (format : InlineFormat) (destination alt : String) :
    Steady context s (imageRun format destination alt) fun runs => ∃ media,
      runs = [{ text := imageText context.settings destination alt
                properties := format.properties context.settings.style, media }] ∧
        media.isSome = context.settings.images.embed := by
  unfold Steady
  rw [run_imageRun]
  unfold imageSteps
  dsimp only
  cases context.settings.images.embed with
  | true => exact ⟨_, _, rfl, rfl, rfl, _, rfl, rfl⟩
  | false => exact ⟨_, s, rfl, rfl, rfl, none, rfl, rfl⟩

theorem steady_footnoteId (label : String) : Steady context s (footnoteId label) fun _ => True := by
  refine .get_bind ?_
  split
  · exact .pure trivial
  · exact .set_bind rfl rfl (.pure trivial)

mutual

theorem steady_renderInline : ∀ (node : Node) (format : InlineFormat) (around : List Kind) (s : Rendering),
    node.isPhrase = true → format.Gathers around →
    Steady context s (renderInline format node) (List.Forall₂ (Leaf.Shows context.settings) (leaves around node))
  | ⟨kind, children, line, column⟩, format, around, s, hphrase, hgathers => by
    rw [Node.isPhrase] at hphrase
    unfold renderInline
    cases kind with
    | text | softBreak | lineBreak =>
        rw [leaves_of_isLeaf rfl]
        exact ⟨_, s, rfl, rfl, rfl, .cons ⟨rfl, hgathers.formats_plain _ rfl⟩ .nil⟩
    | codeSpan content =>
        rw [leaves_of_isLeaf rfl]
        exact ⟨_, s, rfl, rfl, rfl, .cons ⟨rfl, hgathers.formats _ _⟩ .nil⟩
    | emphasis level =>
        rw [leaves_of_not_isLeaf rfl]
        exact steady_renderInlines children _ _ s hphrase (hgathers.emphasis level)
    | strikethrough =>
        rw [leaves_of_not_isLeaf rfl]
        exact steady_renderInlines children _ _ s hphrase hgathers.strikethrough
    | link destination title =>
        rw [leaves_of_not_isLeaf rfl]
        exact steady_renderInlines children _ _ s hphrase (hgathers.linked destination title)
    | image destination title =>
        rw [leaves_of_isLeaf rfl]
        obtain ⟨_, t, hrun, hd, hbody, media, rfl, hembed⟩ :=
          steady_imageRun format destination (String.ofList (textOfAll true children))
        exact ⟨_, t, hrun, hd, hbody, .cons ⟨rfl, hembed, hgathers.formats_plain _ rfl⟩ .nil⟩
    | inlineMath source =>
        rw [leaves_of_isLeaf rfl]
        exact ⟨_, s, rfl, rfl, rfl, .cons rfl .nil⟩
    | footnoteReference label =>
        rw [leaves_of_isLeaf rfl]
        refine (steady_footnoteId label).bind fun id t _ => .pure ?_
        exact .cons ⟨rfl, rfl⟩ .nil
    | _ => exact absurd hphrase Bool.false_ne_true

theorem steady_renderInlines : ∀ (nodes : List Node) (format : InlineFormat) (around : List Kind) (s : Rendering),
    arePhrases nodes = true → format.Gathers around →
    Steady context s (renderInlines format nodes) (List.Forall₂ (Leaf.Shows context.settings) (leavesOf around nodes))
  | [], format, around, s, _, _ => by
    rw [renderInlines, leavesOf]
    exact .pure .nil
  | node :: rest, format, around, s, hphrases, hgathers => by
    rw [arePhrases, Bool.and_eq_true] at hphrases
    rw [renderInlines, leavesOf]
    refine (steady_renderInline node format around s hphrases.1 hgathers).bind fun runs t hruns => ?_
    refine (steady_renderInlines rest format around t hphrases.2 hgathers).bind fun more u hmore => .pure ?_
    exact List.rel_append hruns hmore

end

/-! ## Blocks -/

theorem appendsLeaves_push (hpush : context.refused.contains .pushParagraph = false) {paragraph : Paragraph}
    {group : List Leaf} (h : Holds context.settings (.paragraph paragraph.ensureRun) group) (line column : Nat) :
    AppendsLeaves context s (push paragraph line column) group :=
  ⟨_, [.paragraph paragraph.ensureRun], [group], run_push hpush paragraph line column s, rfl, rfl, .cons h .nil,
    List.flatten_singleton⟩

/-- A paragraph without runs gets the empty one. -/
theorem appendsLeaves_pushText (hpush : context.refused.contains .pushParagraph = false)
    {properties : ParagraphProperties} (hnumbering : properties.numbering = none) {runs : List Run} {group : List Leaf}
    (hruns : List.Forall₂ (Leaf.Shows context.settings) group runs) (line column : Nat) :
    AppendsLeaves context s (push { properties, runs } line column) group := by
  refine appendsLeaves_push hpush ?_ line column
  cases hruns with
  | nil => exact .empty hnumbering
  | cons hrun hruns => exact .text hnumbering (List.cons_ne_nil _ _) (.cons hrun hruns)

theorem appendsLeaves_pushItem (hpush : context.refused.contains .pushParagraph = false)
    {properties : ParagraphProperties} (hnumbering : properties.numbering.isSome = true) (nesting : Nat)
    {runs : List Run} {group : List Leaf} (hruns : List.Forall₂ (Leaf.Shows context.settings) group runs)
    (line column : Nat) :
    AppendsLeaves context s (push { properties, runs := itemMark nesting bullet :: runs } line column) group := by
  refine appendsLeaves_push hpush ?_ line column
  exact .item hnumbering hruns

theorem appendsLeaves_pushHeading (hpush : context.refused.contains .pushParagraph = false) (level : Nat)
    {runs : List Run} {group : List Leaf} (hruns : List.Forall₂ (Leaf.Shows context.settings) group runs)
    (title : List Char) (line column : Nat) :
    AppendsLeaves context s (pushHeading level runs title line column) group := by
  have hpushed (properties : ParagraphProperties) (hstyle : properties.numbering = none) (t : Rendering) :
      AppendsLeaves context t (push { properties, runs } line column) group :=
    appendsLeaves_pushText hpush hstyle hruns line column
  unfold AppendsLeaves
  rw [run_pushHeading]
  unfold headingSteps
  dsimp only
  split
  · exact hpushed _ rfl { s with slugs := _ }
  · exact hpushed _ rfl s

theorem steady_itemStart : Steady context s itemStart fun start => start.1.numbering.isSome = true := by
  refine .get_bind ?_
  dsimp only
  split
  · exact .set_bind rfl rfl (.pure rfl)
  · exact .pure rfl

mutual

theorem appendsLeaves_renderBlock (hpush : context.refused.contains .pushParagraph = false) :
    ∀ (node : Node) (around : List Kind) (s : Rendering), node.isProse = true → ({} : InlineFormat).Gathers around →
      AppendsLeaves context s (renderBlock node) (leaves around node)
  | ⟨kind, children, line, column⟩, around, s, hprose, hgathers => by
    rw [Node.isProse.eq_def] at hprose
    unfold renderBlock
    cases kind with
    | document =>
        rw [leaves_of_not_isLeaf rfl]
        exact appendsLeaves_renderBlocks hpush children _ s hprose (hgathers.block rfl)
    | heading level =>
        rw [leaves_of_not_isLeaf rfl]
        exact (steady_renderInlines children {} _ s hprose (hgathers.block rfl)).appends fun runs t hruns =>
          appendsLeaves_pushHeading hpush level hruns _ line column
    | paragraph =>
        rw [leaves_of_not_isLeaf rfl]
        exact (steady_renderInlines children {} _ s hprose (hgathers.block rfl)).appends fun runs t hruns =>
          appendsLeaves_pushText hpush rfl hruns line column
    | list ordered start =>
        rw [leaves_of_not_isLeaf rfl, ← List.append_nil (leavesOf _ _)]
        refine (steady_modify rfl rfl).appends fun _ t _ => ?_
        refine (appendsLeaves_renderBlocks hpush children _ t hprose (hgathers.block rfl)).bind fun u => ?_
        exact (steady_modify rfl rfl).appends_nil
    | listItem =>
        rw [leaves_of_not_isLeaf rfl]
        have hitem : ({} : InlineFormat).Gathers (.listItem :: around) := hgathers.block rfl
        refine steady_itemStart.appends fun start t hnumbering => ?_
        dsimp only
        split
        · exact absurd hprose Bool.false_ne_true
        · exact absurd hprose Bool.false_ne_true
        · rename_i inlines _ _ rest
          obtain ⟨hinlines, hrest⟩ := Bool.and_eq_true_iff.mp hprose
          rw [leavesOf, leaves_of_not_isLeaf rfl]
          have hparagraph : ({} : InlineFormat).Gathers (.paragraph :: .listItem :: around) := hitem.block rfl
          refine (steady_renderInlines inlines {} _ t hinlines hparagraph).appends fun runs u hruns => ?_
          exact (appendsLeaves_pushItem hpush hnumbering _ hruns line column).bind fun v =>
            appendsLeaves_renderBlocks hpush rest _ v hrest hitem
        · rw [← List.nil_append (leavesOf _ _)]
          exact (appendsLeaves_pushItem hpush hnumbering _ .nil line column).bind fun u =>
            appendsLeaves_renderBlocks hpush children _ u hprose hitem
    | text | softBreak | lineBreak | codeSpan | emphasis | strikethrough | link | image | inlineMath
    | footnoteReference =>
        exact (steady_renderInline _ {} around s hprose hgathers).appends fun runs t hruns =>
          appendsLeaves_pushText hpush rfl hruns line column
    | _ => exact absurd hprose Bool.false_ne_true

theorem appendsLeaves_renderBlocks (hpush : context.refused.contains .pushParagraph = false) :
    ∀ (nodes : List Node) (around : List Kind) (s : Rendering), areProse nodes = true →
      ({} : InlineFormat).Gathers around → AppendsLeaves context s (renderBlocks nodes) (leavesOf around nodes)
  | [], around, s, _, _ => by
    rw [renderBlocks, leavesOf]
    exact (Steady.pure trivial : Steady context s _ fun _ => True).appends_nil
  | node :: rest, around, s, hprose, hgathers => by
    rw [areProse, Bool.and_eq_true] at hprose
    rw [renderBlocks, leavesOf]
    exact (appendsLeaves_renderBlock hpush node around s hprose.1 hgathers).bind fun t =>
      appendsLeaves_renderBlocks hpush rest around t hprose.2 hgathers

end

/-! ## Whole trees -/

/-- **The leaves of a tree are the runs of its document.** Under every setting a tree of headings, paragraphs and lists
is rendered without diagnostics. The body is paragraphs that hold the leaves of the tree, each leaf once and in order,
and every leaf is formatted as the inlines around it ask for. -/
theorem render_prose (settings : RenderSettings) {tree : Node} (h : tree.isProse = true) :
    ∃ doc groups, render settings tree = (.ok doc, []) ∧ List.Forall₂ (Holds settings) doc.body groups ∧
      groups.flatten = leaves [] tree := by
  have happends : AppendsLeaves { settings } (.start settings) (renderBlock tree) (leaves [] tree) :=
    appendsLeaves_renderBlock rfl tree [] (.start settings) h InlineFormat.gathers_nil
  obtain ⟨t, elements, groups, hrun, hd, hbody, hholds, hleaves⟩ := happends
  refine ⟨t.doc, groups, ?_, ?_, hleaves⟩
  · have hinto : renderInto { settings } tree = (.ok (), t) := hrun
    rw [render, hinto]
    exact congrArg (Prod.mk (Except.ok t.doc)) hd
  · rw [hbody]
    exact hholds

/-- Code in a strong link of a nested item, and an empty paragraph behind the list. -/
theorem render_prose_nested :
    let link : Node := { kind := .link "a.md" "", children := [{ kind := .text "see " }, { kind := .codeSpan "f" }] }
    let inner : Node := { kind := .listItem, children := [{ kind := .emphasis 2, children := [link] }] }
    let outer : Node := { kind := .listItem, children := [{ kind := .paragraph, children := [{ kind := .softBreak }] },
      { kind := .list false 1, children := [inner] }] }
    let tree : Node := { kind := .document, children := [{ kind := .list true 3, children := [outer] },
      { kind := .paragraph }] }
    tree.isProse = true ∧ (leaves [] tree).map (·.node.kind) = [.softBreak, .text "see ", .codeSpan "f"] ∧
      ∃ doc groups, render {} tree = (.ok doc, []) ∧ List.Forall₂ (Holds {}) doc.body groups ∧
        groups.flatten = leaves [] tree := by
  intro link inner outer tree
  have hprose : tree.isProse = true := rfl
  exact ⟨hprose, rfl, render_prose {} hprose⟩

end Markdown
end Folio
