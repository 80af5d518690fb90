import Folio.Proofs.Markdown.Drafts

/-!
# The items of nested lists

How deep an item is and which number it starts with are read off the state of a rendering: the lists that are open, and
the first number of a list none of whose items is rendered yet. Any list that is entered overwrites that number, and
the lists are left again in the end, so the state tells where an item stands as long as lists hold items and nothing
else does.

* `ListsHold` : a node is an item exactly where its parent is a list, and no list is empty;
* `itemPlaces` : the items that the walk over the blocks comes to, each with the lists around it;
* `IsItemAt` : what a paragraph is to be to stand for the item at a place;
* `Keeps` : a step that neither opens nor closes lists and makes no paragraph of an item;
* `walks_renderBlock` : the rendering of a block makes the paragraphs of its items, and leaves the open lists as they
  were and no number behind;
* `items_renderInto` : so does the rendering of a tree, which comes to its end under a policy that does not abort.
-/

namespace Folio

namespace Document

/-- The paragraphs of list items. -/
def items (doc : Document) : List Paragraph :=
  doc.paragraphs.filter fun paragraph => paragraph.properties.style == some Style.listParagraph

theorem items_pushParagraph (doc : Document) (paragraph : Paragraph) :
    (doc.pushParagraph paragraph).items =
      doc.items ++ if paragraph.properties.style = some Style.listParagraph then [paragraph] else [] := by
  rw [items, paragraphs_pushParagraph, List.filter_append, items]
  congr 1
  by_cases h : paragraph.properties.style = some Style.listParagraph <;> simp [h]

theorem items_pushTable (doc : Document) (table : Table) :
    items { doc with body := doc.body ++ [.table table] } = doc.items := by
  rw [items, paragraphs_pushTable, items]

end Document

namespace Markdown
open RenderM

/-! ## The items of a tree -/

mutual

/-- In the node and below it a node is an item exactly where its parent is a list, and no list is empty. -/
def ListsHold (inList : Bool) : Node → Prop
  | ⟨kind, children, _, _⟩ =>
    (kind = .listItem ↔ inList = true) ∧
      match kind with
      | .list _ _ => children ≠ [] ∧ ListsHoldIn true children
      | _ => ListsHoldIn false children

def ListsHoldIn (inList : Bool) : List Node → Prop
  | [] => True
  | node :: rest => ListsHold inList node ∧ ListsHoldIn inList rest

end

/-- Where an item stands. -/
structure ItemPlace where
  /-- Whether the lists around the item are ordered, and their first numbers, innermost first. -/
  lists : List (Bool × Nat)
  /-- The item is the first of its list. -/
  first : Bool
  item : Node

mutual

/-- The items that the walk over the blocks comes to, in order; it goes below documents, lists and items. -/
def itemPlaces (lists : List (Bool × Nat)) (first : Bool) : Node → List ItemPlace
  | ⟨kind, children, line, column⟩ =>
    match kind with
    | .document => itemPlacesIn lists false children
    | .list ordered start => itemPlacesIn ((ordered, start) :: lists) true children
    | .listItem => ⟨lists, first, ⟨kind, children, line, column⟩⟩ :: itemPlacesIn lists false children
    | _ => []

def itemPlacesIn (lists : List (Bool × Nat)) (first : Bool) : List Node → List ItemPlace
  | [] => []
  | node :: rest => itemPlaces lists first node ++ itemPlacesIn lists false rest

end

/-- The first number of the innermost list, at its first item and where the list is ordered. -/
def firstNumber (lists : List (Bool × Nat)) (first : Bool) : Option Nat :=
  match lists with
  | (true, start) :: _ => if first then some start else none
  | _ => none

/-- The mark of an item: the box that it begins with, or a bullet. -/
def itemGlyphOf (item : Node) : String :=
  match item.children.head?.map Node.kind with
  | some (.taskCheckBox true) => "☑ "
  | some (.taskCheckBox false) => "☐ "
  | _ => "• "

/-- The paragraph stands for the item at the place: its level is the number of lists around its own, up to 255, and its
first run is two spaces for each of them and the mark of the item. -/
structure IsItemAt (place : ItemPlace) (paragraph : Paragraph) : Prop where
  style : paragraph.properties.style = some Style.listParagraph
  numbering : paragraph.properties.numbering = some
    { level := min (place.lists.length - 1) 255
      ordered := (place.lists.head?.map Prod.fst).getD false
      start := firstNumber place.lists place.first }
  mark : paragraph.runs.head? = some
    { text := String.ofList (List.replicate (2 * (place.lists.length - 1)) ' ') ++ itemGlyphOf place.item }

/-! ## Steps that leave the lists alone -/

/-- The lists are left alone, and no paragraph of an item comes to be. -/
structure Rendering.Aside (s t : Rendering) : Prop where
  openLists : t.openLists = s.openLists
  pendingStart : t.pendingStart = s.pendingStart
  items : t.doc.items = s.doc.items

theorem Rendering.Aside.refl (s : Rendering) : s.Aside s := ⟨rfl, rfl, rfl⟩

theorem Rendering.Aside.trans {s t u : Rendering} (h : s.Aside t) (h' : t.Aside u) : s.Aside u :=
  ⟨h'.openLists.trans h.openLists, h'.pendingStart.trans h.pendingStart, h'.items.trans h.items⟩

theorem Rendering.aside_told (s : Rendering) (d : Diagnostic) : s.Aside (s.told d) := ⟨rfl, rfl, rfl⟩

variable {α β : Type} {context : RenderContext} {s : Rendering}

/-- The step leaves the lists alone, also where it ends early. -/
def Keeps (context : RenderContext) (s : Rendering) (m : RenderM α) : Prop :=
  Yields context s m (fun _ t => s.Aside t) s.Aside

theorem Keeps.pure (a : α) : Keeps context s (Pure.pure a : RenderM α) := Yields.pure (.refl s)

theorem Keeps.bind {m : RenderM α} {f : α → RenderM β} (hm : Keeps context s m)
    (hf : ∀ a t, Keeps context t (f a)) : Keeps context s (m >>= f) :=
  Yields.bind hm fun a t h => (hf a t).mono (fun _ _ => h.trans) fun _ => h.trans

/-- A step that succeeds. -/
theorem Keeps.of_run {m : RenderM α} {a : α} {t : Rendering} (hrun : m context s = (.ok a, t)) (h : s.Aside t) :
    Keeps context s m := by
  unfold Keeps Yields
  rw [hrun]
  exact h

/-- The step comes after others that leave the lists alone. -/
theorem Keeps.after {t : Rendering} {m : RenderM α} (h : s.Aside t) (hm : Keeps context t m) :
    Yields context t m (fun _ u => s.Aside u) s.Aside :=
  hm.mono (fun _ _ => h.trans) fun _ => h.trans

theorem keeps_unsupported (kind : Kind) (line column : Nat) : Keeps context s (unsupported kind line column) :=
  yields_unsupported _ _ _ s.aside_told s.aside_told

theorem keeps_refusedEdit (what : String) (e : EditError) (line column : Nat) :
    Keeps context s (refusedEdit what e line column) :=
  yields_report _ (s.aside_told _) (s.aside_told _)

theorem keeps_footnoteId (label : String) : Keeps context s (footnoteId label) := by
  refine Yields.get_bind ?_
  split
  · exact Yields.pure (.refl s)
  · exact Yields.set_bind (Yields.pure ⟨rfl, rfl, rfl⟩)

theorem keeps_imageRun (format : InlineFormat) (destination alt : String) :
    Keeps context s (imageRun format destination alt) := by
  refine Yields.of_run s (run_imageRun ..) ?_
  unfold imageSteps
  dsimp only
  split
  · exact Yields.get_bind (Yields.set_bind (Yields.pure ⟨rfl, rfl, rfl⟩))
  · exact Yields.pure (.refl s)

mutual

theorem keeps_renderInline (format : InlineFormat) : ∀ (node : Node) (s : Rendering),
    Keeps context s (renderInline format node)
  | ⟨kind, children, line, column⟩, s => by
    unfold renderInline
    cases kind with
    | text | softBreak | lineBreak | codeSpan | inlineMath => exact .of_run rfl (.refl s)
    | emphasis | strikethrough | link => exact keeps_renderInlines _ children s
    | image => exact keeps_imageRun ..
    | footnoteReference => exact (keeps_footnoteId _).bind fun _ _ => .pure _
    | taskCheckBox => exact .pure _
    | _ => exact (keeps_unsupported ..).bind fun _ _ => .pure _

theorem keeps_renderInlines (format : InlineFormat) : ∀ (nodes : List Node) (s : Rendering),
    Keeps context s (renderInlines format nodes)
  | [], s => by
    rw [renderInlines]
    exact .pure _
  | node :: rest, s => by
    rw [renderInlines]
    exact (keeps_renderInline format node s).bind fun _ t => (keeps_renderInlines format rest t).bind fun _ _ => .pure _

end

/-- A paragraph of another style is appended or refused. -/
theorem keeps_push {paragraph : Paragraph} (h : paragraph.properties.style ≠ some Style.listParagraph)
    (line column : Nat) : Keeps context s (push paragraph line column) := by
  refine yields_refuses _ (fun _ => keeps_refusedEdit ..) fun _ => ?_
  refine Keeps.of_run rfl ⟨rfl, rfl, ?_⟩
  rw [Document.items_pushParagraph, ensureRun_properties, if_neg h, List.append_nil]

theorem quote_ne_listParagraph : some Style.quote ≠ some Style.listParagraph := by decide

theorem math_ne_listParagraph : some Style.math ≠ some Style.listParagraph := by decide

theorem code_ne_listParagraph : some Style.code ≠ some Style.listParagraph := by decide

theorem heading_ne_listParagraph (level : Nat) : some (Style.heading level) ≠ some Style.listParagraph := by
  intro h
  have hfirst := congrArg (fun style : String => style.toList.head?) (Option.some.inj h)
  simp [Style.heading, Style.listParagraph] at hfirst

theorem keeps_pushHeading (level : Nat) (runs : List Run) (title : List Char) (line column : Nat) :
    Keeps context s (pushHeading level runs title line column) := by
  refine Yields.of_run s (run_pushHeading ..) ?_
  unfold headingSteps
  dsimp only
  split
  · refine Yields.get_bind (Yields.set_bind ?_)
    exact Keeps.after ⟨rfl, rfl, rfl⟩ (keeps_push (heading_ne_listParagraph _) line column)
  · exact keeps_push (heading_ne_listParagraph _) line column

theorem keeps_renderCode (line column : Nat) (lines : List String) (s : Rendering) :
    Keeps context s (renderCode line column lines) := by
  induction lines generalizing s with
  | nil => exact .pure _
  | cons content rest ih =>
      let run : Run :=
        { text := if content.isEmpty then " " else content
          properties := { fontFamily := context.settings.style.codeFont } }
      let properties : ParagraphProperties :=
        { style := some Style.code
          indentation := some { left := some 360 }
          spacing := some { before := some 0, after := some (if rest.isEmpty then 120 else 0) } }
      refine Yields.of_run (n := do push { properties, runs := [run] } line column; renderCode line column rest) s rfl ?_
      exact Keeps.bind (keeps_push code_ne_listParagraph line column) fun _ t => ih t

theorem keeps_setEntries (entries : List (List Char × List Char)) (s : Rendering) :
    Keeps context s (entries.forM fun (key, value) =>
      modifyDoc (·.setMetadata (String.ofList key) (String.ofList value))) := by
  induction entries generalizing s with
  | nil => exact .pure _
  | cons entry entries ih => exact Keeps.bind (.of_run rfl ⟨rfl, rfl, rfl⟩) fun _ t => ih t

/-- The edits that fill the last table are no paragraphs. -/
theorem items_editAll (doc : Document) (table : Table) (edits : List Table.Edit) :
    (editAll { doc with body := doc.body ++ [.table table] } doc.body.length edits).1.items = doc.items := by
  induction edits generalizing table with
  | nil => exact doc.items_pushTable table
  | cons edit edits ih =>
      rw [editAll, editTable_last_table]
      cases (table.edit edit).2 with
      | none => exact ih _
      | some e => exact doc.items_pushTable _

theorem keeps_renderTable (alignments : List (Option Alignment)) (children : List Node) (line column : Nat) :
    Keeps context s (renderTable alignments children line column) := by
  unfold renderTable
  refine yields_refuses _ (fun _ => keeps_refusedEdit ..) fun _ => .get_bind ?_
  unfold Document.createTable
  cases hnew : Table.new (tableRows children).length (tableColumns alignments (tableRows children)) with
  | error e => exact keeps_refusedEdit ..
  | ok table =>
      have hrefused (doc : Document) (hdoc : doc.items = s.doc.items) (e : EditError) :
          Yields context { s with doc } (refusedEdit "table" e line column) (fun _ t => s.Aside t) s.Aside :=
        Keeps.after ⟨rfl, rfl, hdoc⟩ (keeps_refusedEdit ..)
      refine .set_bind (yields_refuses _ (fun _ => hrefused _ (s.doc.items_pushTable table) _) fun _ => ?_)
      have hitems := items_editAll s.doc table (tableEdits alignments (tableRows children))
      dsimp only
      rcases hall : editAll { s.doc with body := s.doc.body ++ [.table table] } s.doc.body.length
        (tableEdits alignments (tableRows children)) with ⟨doc, refusal⟩
      rw [hall] at hitems
      refine .set_bind ?_
      cases refusal with
      | none => exact .pure ⟨rfl, rfl, hitems⟩
      | some e => exact hrefused doc hitems e

theorem keeps_renderNotes : ∀ (children : List Node) (s : Rendering), Keeps context s (renderNotes children)
  | [], s => by
    rw [renderNotes]
    exact .pure _
  | ⟨kind, children, line, column⟩ :: rest, s => by
    have hrest (runs : List Run) (t : Rendering) : Keeps context t (do
        return Paragraph.ensureRun { runs } :: (← renderNotes rest)) :=
      (keeps_renderNotes rest t).bind fun _ _ => .pure _
    unfold renderNotes
    cases kind with
    | paragraph => exact (keeps_renderInlines _ children s).bind hrest
    | _ => exact hrest _ s

theorem keeps_renderDefinition (label : String) (children : List Node) (line column : Nat) (s : Rendering) :
    Keeps context s (renderBlock ⟨.footnoteDefinition label, children, line, column⟩) := by
  unfold renderBlock
  refine (keeps_footnoteId label).bind fun id t => (keeps_renderNotes children t).bind fun paragraphs u => ?_
  refine yields_refuses _ (fun _ => keeps_refusedEdit ..) fun _ => .get_bind ?_
  unfold Document.addFootnote
  cases u.doc.footnote? id with
  | some note => exact keeps_refusedEdit ..
  | none => exact Keeps.of_run rfl ⟨rfl, rfl, rfl⟩

/-- A block without blocks below it leaves the lists alone. -/
theorem keeps_renderBlock {kind : Kind} (hdocument : kind ≠ .document)
    (hlist : ∀ ordered start, kind ≠ .list ordered start) (hitem : kind ≠ .listItem) (children : List Node)
    (line column : Nat) (s : Rendering) : Keeps context s (renderBlock ⟨kind, children, line, column⟩) := by
  unfold renderBlock
  cases kind with
  | document => exact absurd rfl hdocument
  | list ordered start => exact absurd rfl (hlist ordered start)
  | listItem => exact absurd rfl hitem
  | footnoteDefinition label => exact keeps_renderDefinition label children line column s
  | frontMatter => exact keeps_setEntries _ s
  | heading => exact (keeps_renderInlines _ children s).bind fun _ _ => keeps_pushHeading ..
  | paragraph => exact (keeps_renderInlines _ children s).bind fun _ _ => keeps_push (Option.some_ne_none _).symm ..
  | blockquote => exact keeps_push quote_ne_listParagraph line column
  | taskCheckBox | thematicBreak => exact keeps_push (Option.some_ne_none _).symm line column
  | mathBlock lines =>
      let run := mathRun context.settings (String.intercalate "\n" lines)
      let properties : ParagraphProperties := { style := some Style.math, alignment := some .center }
      refine Yields.of_run (n := push { properties, runs := [run] } line column) s rfl ?_
      exact keeps_push math_ne_listParagraph line column
  | codeBlock | fencedCodeBlock => exact keeps_renderCode line column _ s
  | table => exact keeps_renderTable ..
  | tableRow | tableCell | unsupported => exact keeps_unsupported ..
  | text | softBreak | lineBreak | codeSpan | emphasis | strikethrough | link | image | inlineMath
  | footnoteReference =>
      exact (keeps_renderInline _ _ s).bind fun _ _ => keeps_push (Option.some_ne_none _).symm ..

/-! ## Steps of a walk -/

/-- The lists are open, and a number is pending where an item of them is the first. -/
structure Stands (lists : List (Bool × Nat)) (first : Bool) (s : Rendering) : Prop where
  openLists : s.openLists = lists.map Prod.fst
  pendingStart : s.pendingStart = firstNumber lists first

/-- From `s` to `t` the paragraphs of the items at the places are appended, in order, and no others of items. -/
def AddsItems (s : Rendering) (places : List ItemPlace) (t : Rendering) : Prop :=
  ∃ made, t.doc.items = s.doc.items ++ made ∧ List.Forall₂ IsItemAt places made

/-- The step makes the paragraphs of the items at the places, or of some first ones of them when it ends early, and
comes back to the lists. -/
def Walks (settings : RenderSettings) (lists : List (Bool × Nat)) (first : Bool) (s : Rendering) (m : RenderM α)
    (places : List ItemPlace) : Prop :=
  Yields { settings } s m (fun _ t => AddsItems s places t ∧ Stands lists first t)
    fun t => ∃ met, met <+: places ∧ AddsItems s met t

variable {settings : RenderSettings} {lists : List (Bool × Nat)} {first : Bool}

theorem firstNumber_false (lists : List (Bool × Nat)) : firstNumber lists false = none := by
  match lists with
  | [] | (true, _) :: _ | (false, _) :: _ => rfl

theorem Stands.of_aside {t : Rendering} (h : Stands lists first s) (hside : s.Aside t) : Stands lists first t :=
  ⟨hside.openLists.trans h.openLists, hside.pendingStart.trans h.pendingStart⟩

theorem AddsItems.of_aside {t : Rendering} (h : s.Aside t) : AddsItems s [] t :=
  ⟨[], h.items.trans (List.append_nil _).symm, .nil⟩

theorem AddsItems.trans {t u : Rendering} {places places' : List ItemPlace} (h : AddsItems s places t)
    (h' : AddsItems t places' u) : AddsItems s (places ++ places') u := by
  obtain ⟨made, hmade, hplaces⟩ := h
  obtain ⟨made', hmade', hplaces'⟩ := h'
  exact ⟨made ++ made', by rw [hmade', hmade, List.append_assoc], List.rel_append hplaces hplaces'⟩

/-- A step that leaves the lists alone comes to no item. -/
theorem Walks.of_keeps {m : RenderM α} (h : Stands lists first s) (hm : Keeps { settings } s m) :
    Walks settings lists first s m [] :=
  hm.mono (fun _ _ hside => ⟨.of_aside hside, h.of_aside hside⟩) fun _ hside => ⟨[], List.nil_prefix, .of_aside hside⟩

theorem Walks.bind {inner : List (Bool × Nat)} {inside : Bool} {m : RenderM α} {f : α → RenderM β}
    {places places' : List ItemPlace} (hm : Walks settings inner inside s m places)
    (hf : ∀ a t, Stands inner inside t → Walks settings lists first t (f a) places') :
    Walks settings lists first s (m >>= f) (places ++ places') := by
  refine Yields.bind (hm.mono (fun _ _ => id) fun t hstopped => ?_) fun a t h => ?_
  · obtain ⟨met, hprefix, hmet⟩ := hstopped
    exact ⟨met, hprefix.trans (List.prefix_append ..), hmet⟩
  · refine (hf a t h.2).mono (fun _ u h' => ⟨h.1.trans h'.1, h'.2⟩) fun u hstopped => ?_
    obtain ⟨met, hprefix, hmet⟩ := hstopped
    exact ⟨places ++ met, (List.prefix_append_right_inj places).mpr hprefix, h.1.trans hmet⟩

/-! ## Items -/

/-- The formatting of an item's paragraph. -/
def itemProperties (lists : List (Bool × Nat)) (first : Bool) : ParagraphProperties where
  style := some Style.listParagraph
  numbering := some
    { level := min (lists.length - 1) 255
      ordered := (lists.head?.map Prod.fst).getD false
      start := firstNumber lists first }
  indentation := some { left := some (720 * max lists.length 1), hanging := some 360 }

/-- An item takes the first number of its list if it is there to be taken, and none is left. -/
theorem yields_itemProperties (h : Stands lists first s) {stopped : Rendering → Prop} :
    Yields context s itemStart
      (fun start t => start = (itemProperties lists first, lists.length - 1) ∧ t.doc = s.doc ∧ Stands lists false t)
      stopped := by
  obtain ⟨hopen, hpending⟩ := h
  have hdepth : max lists.length 1 - 1 = lists.length - 1 := by omega
  have hstands (t : Rendering) (ht : t.openLists = s.openLists) (hnone : t.pendingStart = none) :
      Stands lists false t := ⟨ht.trans hopen, hnone.trans (firstNumber_false lists).symm⟩
  refine .get_bind ?_
  dsimp only
  rw [hopen, List.length_map, List.head?_map, hdepth, hpending]
  unfold itemProperties
  match lists with
  | [] => exact .pure ⟨rfl, rfl, hstands s rfl hpending⟩
  | (false, start) :: outer => exact .pure ⟨rfl, rfl, hstands s rfl hpending⟩
  | (true, start) :: outer => exact .set_bind (.pure ⟨rfl, rfl, hstands _ hopen.symm rfl⟩)

theorem itemGlyphOf_task (checked : Bool) (inner rest : List Node) (line column l c : Nat) :
    itemGlyphOf ⟨.listItem, ⟨.taskCheckBox checked, inner, l, c⟩ :: rest, line, column⟩ = checkbox checked := by
  cases checked <;> rfl

/-- The paragraph of an item is appended, and what is below the item follows. -/
theorem walks_pushItem (place : ItemPlace) {glyph : String} (hglyph : itemGlyphOf place.item = glyph)
    (runs : List Run) (line column : Nat) {m : RenderM Unit} {places : List ItemPlace}
    (h : Stands place.lists false s)
    (hm : ∀ t, Stands place.lists false t → Walks settings place.lists false t m places) :
    Walks settings place.lists false s (do
      push { properties := itemProperties place.lists place.first
             runs := itemMark (place.lists.length - 1) glyph :: runs } line column
      m) (place :: places) := by
  have hpush : Walks settings place.lists false s (push
      { properties := itemProperties place.lists place.first
        runs := itemMark (place.lists.length - 1) glyph :: runs } line column) [place] := by
    unfold Walks Yields
    rw [run_push rfl, ← hglyph]
    exact ⟨⟨[_], Document.items_pushParagraph .., .cons ⟨rfl, rfl, rfl⟩ .nil⟩, h.openLists, h.pendingStart⟩
  exact hpush.bind fun _ t => hm t

/-- The runs of the item's text are made before. -/
theorem walks_pushText (place : ItemPlace) {glyph : String} (hglyph : itemGlyphOf place.item = glyph)
    (inlines : List Node) (line column : Nat) {m : RenderM Unit} {places : List ItemPlace}
    (h : Stands place.lists false s)
    (hm : ∀ t, Stands place.lists false t → Walks settings place.lists false t m places) :
    Walks settings place.lists false s (do
      let runs ← renderInlines {} inlines
      push { properties := itemProperties place.lists place.first
             runs := itemMark (place.lists.length - 1) glyph :: runs } line column
      m) (place :: places) :=
  (Walks.of_keeps h (keeps_renderInlines {} inlines s)).bind fun runs _ ht =>
    walks_pushItem place hglyph runs line column ht hm

/-- A step behind the start of an item. -/
theorem Walks.after_itemStart {m : ParagraphProperties × Nat → RenderM α} {places : List ItemPlace}
    (h : Stands lists first s)
    (hm : ∀ t, Stands lists false t →
      Walks settings lists false t (m (itemProperties lists first, lists.length - 1)) places) :
    Walks settings lists false s (itemStart >>= m) places := by
  refine Yields.bind (yields_itemProperties h) fun start t ht => ?_
  obtain ⟨rfl, hdoc, hstands⟩ := ht
  have hitems (ps : List ItemPlace) (u : Rendering) (hu : AddsItems t ps u) : AddsItems s ps u := by
    obtain ⟨made, hmade, hplaces⟩ := hu
    exact ⟨made, hdoc ▸ hmade, hplaces⟩
  refine (hm t hstands).mono (fun _ u hu => ⟨hitems _ u hu.1, hu.2⟩) fun u hstopped => ?_
  obtain ⟨met, hprefix, hmet⟩ := hstopped
  exact ⟨met, hprefix, hitems _ u hmet⟩

theorem itemPlacesIn_task (lists : List (Bool × Nat)) (first checked : Bool) (inner rest : List Node)
    (line column : Nat) :
    itemPlacesIn lists first (⟨.taskCheckBox checked, inner, line, column⟩ :: rest) = itemPlacesIn lists false rest := by
  rw [itemPlacesIn]
  exact List.nil_append _

theorem itemPlacesIn_paragraph (lists : List (Bool × Nat)) (first : Bool) (inlines rest : List Node)
    (line column : Nat) :
    itemPlacesIn lists first (⟨.paragraph, inlines, line, column⟩ :: rest) = itemPlacesIn lists false rest := by
  rw [itemPlacesIn]
  exact List.nil_append _

/-- An item makes its paragraph, and the blocks below it that are not its text follow. -/
theorem walks_item {children : List Node} (line column : Nat) (h : Stands lists first s)
    (hblocks : ∀ rest, rest <:+ children → ∀ t, Stands lists false t →
      Walks settings lists false t (renderBlocks rest) (itemPlacesIn lists false rest)) :
    Walks settings lists false s (renderBlock ⟨.listItem, children, line, column⟩)
      (⟨lists, first, ⟨.listItem, children, line, column⟩⟩ :: itemPlacesIn lists false children) := by
  unfold renderBlock
  refine .after_itemStart h fun t ht => ?_
  let place (children : List Node) : ItemPlace := ⟨lists, first, ⟨.listItem, children, line, column⟩⟩
  -- by the shape that the item's children have, a task in front and a paragraph behind it or in its place
  cases children with
  | nil => exact walks_pushItem (place []) rfl [] line column ht (hblocks [] List.suffix_rfl)
  | cons child rest =>
      obtain ⟨kind, inner, l, c⟩ := child
      have hrest := hblocks rest (List.suffix_cons ..)
      have hbullet (hglyph : itemGlyphOf (place (⟨kind, inner, l, c⟩ :: rest)).item = bullet) :=
        walks_pushItem (place (⟨kind, inner, l, c⟩ :: rest)) hglyph [] line column ht (hblocks _ List.suffix_rfl)
      cases kind with
      | paragraph =>
          rw [itemPlacesIn_paragraph]
          exact walks_pushText (place (⟨.paragraph, inner, l, c⟩ :: rest)) rfl inner line column ht hrest
      | taskCheckBox checked =>
          have hglyph (rest : List Node) : itemGlyphOf (place (⟨.taskCheckBox checked, inner, l, c⟩ :: rest)).item =
              checkbox checked := itemGlyphOf_task ..
          rw [itemPlacesIn_task]
          cases rest with
          | nil => exact walks_pushItem (place [⟨.taskCheckBox checked, inner, l, c⟩]) (hglyph []) [] line column ht hrest
          | cons second rest =>
              obtain ⟨kind, inlines, l', c'⟩ := second
              cases kind with
              | paragraph =>
                  rw [itemPlacesIn_paragraph]
                  have hbehind := hblocks rest ((List.suffix_cons ..).trans (List.suffix_cons ..))
                  exact walks_pushText
                    (place (⟨.taskCheckBox checked, inner, l, c⟩ :: ⟨.paragraph, inlines, l', c'⟩ :: rest))
                    (hglyph _) inlines line column ht hbehind
              | _ =>
                  exact walks_pushItem (place (⟨.taskCheckBox checked, inner, l, c⟩ :: ⟨_, inlines, l', c'⟩ :: rest))
                    (hglyph _) [] line column ht hrest
      | _ => exact hbullet rfl

/-- The items of a list are rendered with the list open, and the lists around it are open again behind it. -/
theorem walks_list {ordered : Bool} {start : Nat} (line column : Nat) {children : List Node} {places : List ItemPlace}
    (h : Stands lists false s)
    (hitems : ∀ t, Stands ((ordered, start) :: lists) true t →
      Walks settings ((ordered, start) :: lists) false t (renderBlocks children) places) :
    Walks settings lists false s (renderBlock ⟨.list ordered start, children, line, column⟩) places := by
  let opened : Rendering :=
    { s with openLists := ordered :: s.openLists, pendingStart := if ordered then some start else none }
  have hopened : Stands ((ordered, start) :: lists) true opened := by
    refine ⟨congrArg (ordered :: ·) h.openLists, ?_⟩
    cases ordered <;> rfl
  have hclosed (t : Rendering) (ht : Stands ((ordered, start) :: lists) false t) :
      Walks settings lists false t (modify fun t => { t with openLists := t.openLists.tail }) [] := by
    refine ⟨⟨[], (List.append_nil _).symm, .nil⟩, congrArg List.tail ht.openLists, ?_⟩
    rw [firstNumber_false, ← firstNumber_false ((ordered, start) :: lists)]
    exact ht.pendingStart
  have hlist := (hitems opened hopened).bind fun _ t => hclosed t
  rw [List.append_nil] at hlist
  unfold renderBlock
  exact Yields.of_run opened rfl hlist

/-! ## The whole walk -/

/-- Where there is no item, none is the first of a list. -/
theorem first_eq_false {inList : Bool} {kind : Kind} (hkind : kind = .listItem ↔ inList = true)
    (hfirst : first = true → inList = true) (hother : kind ≠ .listItem) : first = false :=
  Bool.eq_false_iff.mpr fun h => hother (hkind.mpr (hfirst h))

mutual

/-- The rendering of a block makes the paragraphs of its items. -/
theorem walks_renderBlock : ∀ (node : Node) (lists : List (Bool × Nat)) (first inList : Bool) (s : Rendering),
    ListsHold inList node → (first = true → inList = true) → Stands lists first s →
    Walks settings lists false s (renderBlock node) (itemPlaces lists first node)
  | ⟨kind, children, line, column⟩, lists, first, inList, s, hhold, hfirst, h => by
    unfold ListsHold at hhold
    obtain ⟨hkind, hbelow⟩ := hhold
    -- what is no item leaves no number behind that is not pending already
    have hstands (hother : kind ≠ .listItem) : Stands lists false s := first_eq_false hkind hfirst hother ▸ h
    unfold itemPlaces
    cases kind with
    | document =>
        have hblocks := walks_renderBlocks children lists false false s hbelow id (hstands Kind.noConfusion)
        unfold renderBlock
        exact hblocks
    | list ordered start =>
        obtain ⟨hchildren, hbelow⟩ := hbelow
        refine walks_list line column (hstands Kind.noConfusion) fun t ht => ?_
        have hblocks := walks_renderBlocks children ((ordered, start) :: lists) true true t hbelow id ht
        rwa [List.isEmpty_eq_false_iff.mpr hchildren, Bool.and_false] at hblocks
    | listItem =>
        exact walks_item line column h fun rest hrest t ht => walks_suffix children lists rest t hrest hbelow ht
    | _ => exact .of_keeps (hstands Kind.noConfusion) (keeps_renderBlock Kind.noConfusion
        (fun _ _ => Kind.noConfusion) Kind.noConfusion children line column s)

theorem walks_renderBlocks : ∀ (nodes : List Node) (lists : List (Bool × Nat)) (first inList : Bool) (s : Rendering),
    ListsHoldIn inList nodes → (first = true → inList = true) → Stands lists first s →
    Walks settings lists (first && nodes.isEmpty) s (renderBlocks nodes) (itemPlacesIn lists first nodes)
  | [], lists, first, inList, s, _, _, h => by
    rw [renderBlocks, itemPlacesIn, List.isEmpty_nil, Bool.and_true]
    exact .of_keeps h (.pure _)
  | node :: rest, lists, first, inList, s, hhold, hfirst, h => by
    unfold ListsHoldIn at hhold
    rw [renderBlocks, itemPlacesIn, List.isEmpty_cons, Bool.and_false]
    refine Walks.bind (walks_renderBlock node lists first inList s hhold.1 hfirst h) fun _ t ht => ?_
    exact walks_renderBlocks rest lists false inList t hhold.2 (fun h => nomatch h) ht

theorem walks_suffix : ∀ (nodes : List Node) (lists : List (Bool × Nat)) (rest : List Node) (s : Rendering),
    rest <:+ nodes → ListsHoldIn false nodes → Stands lists false s →
    Walks settings lists false s (renderBlocks rest) (itemPlacesIn lists false rest)
  | [], lists, rest, s, hsuffix, _, h => by
    obtain rfl := List.suffix_nil.mp hsuffix
    rw [renderBlocks, itemPlacesIn]
    exact .of_keeps h (.pure _)
  | node :: nodes, lists, rest, s, hsuffix, hhold, h => by
    unfold ListsHoldIn at hhold
    rcases List.suffix_cons_iff.mp hsuffix with rfl | hsuffix
    · rw [renderBlocks, itemPlacesIn]
      refine Walks.bind (walks_renderBlock node lists false false s hhold.1 id h) fun _ t ht => ?_
      exact walks_suffix nodes lists nodes t List.suffix_rfl hhold.2 ht
    · exact walks_suffix nodes lists rest s hsuffix hhold.2 h

end

/-- **Items stand where their lists put them.** When a tree in which lists hold items and nothing else does is rendered,
each item that the walk over its blocks comes to makes one paragraph, in order, and no other paragraph has the style of
an item. Its level is the number of lists around its own, up to 255; it is ordered as its own list is, and has the first
number of that list exactly when the list is ordered and the item is its first; in front of its text stand two spaces
for each list around its own, and the box that the item begins with, or a bullet. Under a policy that does not abort the
rendering always comes to its end. One that does not has met a diagnostic of the lenient rendering that its policy ends
on, and has made the paragraphs of some first items. -/
theorem items_renderInto (settings : RenderSettings) (tree : Node) (h : ListsHold false tree) :
    let context : RenderContext := { settings }
    let run := renderInto context tree
    let places := itemPlaces [] false tree
    (settings.errors.aborts = false → run.1 = .ok ()) ∧
      (run.1 = .ok () → List.Forall₂ IsItemAt places run.2.doc.items) ∧
      ∀ d, run.1 = .error d →
        settings.errors.endsAt d = true ∧
        d ∈ (renderInto (context.under .lenient) tree).2.diagnostics ∧
        ∃ met, met <+: places ∧ List.Forall₂ IsItemAt met run.2.doc.items := by
  intro context run places
  have hwalk : Walks settings [] false (.start settings) (renderBlock tree) places :=
    walks_renderBlock tree [] false false (.start settings) h id ⟨rfl, rfl⟩
  have hmade {met : List ItemPlace} {t : Rendering} (hadds : AddsItems (.start settings) met t) :
      List.Forall₂ IsItemAt met t.doc.items := by
    obtain ⟨made, hmade, hplaces⟩ := hadds
    rwa [hmade]
  have hresult : renderBlock tree context (.start settings) = run := rfl
  unfold Walks Yields at hwalk
  rw [hresult] at hwalk
  refine ⟨fun haborts => renderInto_ok haborts tree, fun hok => ?_, fun d hd => ?_⟩
  · obtain ⟨outcome, t⟩ := run
    obtain rfl : outcome = .ok () := hok
    exact hmade hwalk.1
  · obtain ⟨hends, hlenient⟩ := endsAt_of_renderInto hd
    refine ⟨hends, hlenient, ?_⟩
    obtain ⟨outcome, t⟩ := run
    obtain rfl : outcome = .error d := hd
    obtain ⟨met, hprefix, hmet⟩ := hwalk
    exact ⟨met, hprefix, hmade hmet⟩

/-- An ordered list from 7 on with a task and, below its first item, a bullet list with an ordered one from 3 on. -/
def nestedLists : Node where
  kind := .document
  children :=
    [{ kind := .list true 7
       children :=
        [{ kind := .listItem
           children :=
            [{ kind := .paragraph, children := [{ kind := .text "a" }] },
              { kind := .list false 1
                children :=
                  [{ kind := .listItem
                     children :=
                      [{ kind := .paragraph, children := [{ kind := .text "b" }] },
                        { kind := .list true 3
                          children := [{ kind := .listItem }, { kind := .listItem }] }] }] },
              { kind := .blockquote, children := [{ kind := .text "q" }] }] },
          { kind := .listItem
            children :=
              [{ kind := .taskCheckBox true }, { kind := .paragraph, children := [{ kind := .text "c" }] }] }] },
      { kind := .thematicBreak }]

/-- All five items have their paragraphs, each behind the numbers and marks that its lists ask for. -/
theorem items_renderInto_nestedLists :
    ListsHold false nestedLists ∧
      (renderInto {} nestedLists).1 = .ok () ∧
      List.Forall₂ IsItemAt (itemPlaces [] false nestedLists) (renderInto {} nestedLists).2.doc.items ∧
      (itemPlaces [] false nestedLists).map (fun place => (place.lists, place.first)) =
        [([(true, 7)], true), ([(false, 1), (true, 7)], true), ([(true, 3), (false, 1), (true, 7)], true),
          ([(true, 3), (false, 1), (true, 7)], false), ([(true, 7)], false)] ∧
      (renderInto {} nestedLists).2.doc.items.map
          (fun paragraph => (paragraph.properties.numbering, paragraph.runs.map (·.text))) =
        [(some { level := 0, ordered := true, start := some 7 }, ["• ", "a"]),
          (some { level := 1, ordered := false, start := none }, ["  • ", "b"]),
          (some { level := 2, ordered := true, start := some 3 }, ["    • "]),
          (some { level := 2, ordered := true, start := none }, ["    • "]),
          (some { level := 0, ordered := true, start := none }, ["☑ ", "c"])] := by
  have hhold : ListsHold false nestedLists := by simp [ListsHold, ListsHoldIn, nestedLists]
  obtain ⟨hsucceeds, hitems, -⟩ := items_renderInto {} nestedLists hhold
  have hok : (renderInto {} nestedLists).1 = .ok () := hsucceeds rfl
  exact ⟨hhold, hok, hitems hok, by simp [itemPlaces, itemPlacesIn, nestedLists], by decide +kernel⟩

end Markdown
end Folio
