import Folio.Proofs.Markdown.NoteReferences
import Mathlib.Data.List.Dedup
import Mathlib.Data.List.Nodup

/-!
# The numbers of footnotes

Footnotes are numbered while a document is written, in the order in which they are first referred to; those that are
never referred to come last. The order of the numbers only ever grows at its end, so that the document is written as
if all numbers had been given out beforehand.

* `writtenReferences` : the ids that a document refers to where its runs are written;
* `numberedIds` : the ids in the order of their numbers;
* `addNotes_eq` : what becomes of an order when ids are numbered;
* `Numbers` : a step of the writing gives the numbers of a complete order;
* `notes_numbered` : the numbers of a document's references and definitions.
-/

namespace Folio.Markdown
open Text (trim)

/-- The ids of the footnotes that runs refer to. -/
def references (runs : List Run) : List String := runs.filterMap (·.footnote)

/-- The runs of a paragraph that are written run by run: code, quotes and rules are not. -/
def inlineRuns (paragraph : Paragraph) : List Run :=
  if styleOf paragraph = Style.code then []
  else if isListItem paragraph || (Style.headingLevel (styleOf paragraph)).isSome then paragraph.runs
  else if styleOf paragraph = Style.quote ∨
      (paragraph.properties.borderBottom ∧ (trim paragraph.textChars).isEmpty) then []
  else paragraph.runs

/-- The ids that an element of the body refers to where it is written. -/
def elementReferences : Element → List String
  | .paragraph paragraph => references (inlineRuns paragraph)
  | .table _ => []

/-- The ids that a document refers to where it is written, in order. -/
def writtenReferences (settings : ExportSettings) (doc : Document) : List String :=
  (writtenElements settings doc).flatMap elementReferences

/-- The ids in the order of their numbers: those that are referred to, each at its first place, and behind them those of
the other footnotes. -/
def numberedIds (settings : ExportSettings) (doc : Document) : NoteOrder :=
  (writtenReferences settings doc).eraseDups ++
    (doc.footnotes.map (·.id)).filter (!(writtenReferences settings doc).contains ·)

/-- The number of an id in a complete order. -/
def numberIn (all : NoteOrder) (id : String) : Nat := all.idxOf id + 1

/-- The number of an id in a document. -/
def numberOf (settings : ExportSettings) (doc : Document) : String → Nat := numberIn (numberedIds settings doc)

/-- The text of a run whose reference, if it is one, has the number of its id. -/
def numberedRun (settings : ExportSettings) (doc : Document) (number : String → Nat) (run : Run) : List Char :=
  match run.footnote with
  | some id => escapeInline run.text.toList ++ noteReference (number id)
  | none => (runText settings doc [] run).1

/-- The inline text of runs whose references have the numbers of their ids. -/
def numberedText (settings : ExportSettings) (doc : Document) (number : String → Nat) (runs : List Run) : List Char :=
  breakLines ((mergeRuns runs).flatMap (numberedRun settings doc number))

/-- The footnotes of a document with their numbers, in the order of the numbers. -/
def definitions (settings : ExportSettings) (doc : Document) : List (Nat × Footnote) :=
  (numberedIds settings doc).filterMap fun id => (doc.footnote? id).map fun note => (numberOf settings doc id, note)

/-- The definition of a footnote under a number. -/
def definitionText (number : Nat) (note : Footnote) : List Char :=
  noteReference number ++ ':' :: ' ' ::
    escapeInline (trim (Text.join [' '] (note.paragraphs.map Paragraph.textChars))) ++ ['\n']

/-- The block of the definitions. -/
def definitionsText (settings : ExportSettings) (doc : Document) : List Char :=
  if doc.footnotes.isEmpty then []
  else "---\n\n".toList ++ (definitions settings doc).flatMap fun entry => definitionText entry.1 entry.2

/-! ## Orders that grow -/

/-- The order after all of the ids have been numbered. -/
def addNotes (order : NoteOrder) (ids : List String) : NoteOrder :=
  ids.foldl (fun order id => (noteNumber order id).2) order

theorem addNotes_append (order : NoteOrder) (ids more : List String) :
    addNotes order (ids ++ more) = addNotes (addNotes order ids) more := List.foldl_append

theorem noteNumber_order (order : NoteOrder) (id : String) :
    (noteNumber order id).2 = if id ∈ order then order else order ++ [id] := by
  unfold noteNumber
  by_cases h : id ∈ order
  · rw [if_pos h]
    split
    next => rfl
    next hnone => exact absurd h (List.idxOf?_eq_none_iff.mp hnone)
  · rw [if_neg h, List.idxOf?_eq_none_iff.mpr h]

theorem addNotes_cons (order : NoteOrder) (id : String) (ids : List String) :
    addNotes order (id :: ids) = addNotes (if id ∈ order then order else order ++ [id]) ids := by
  rw [← noteNumber_order]
  rfl

/-- Ids that have no number yet come last, each at its first place. -/
theorem addNotes_eq (order : NoteOrder) (ids : List String) :
    addNotes order ids = order ++ (ids.filter (!order.contains ·)).eraseDups := by
  induction ids generalizing order with
  | nil => exact (List.append_nil order).symm
  | cons id ids ih =>
      rw [addNotes_cons, ih]
      by_cases h : id ∈ order
      · rw [if_pos h, List.filter_cons_of_neg (by simpa using h)]
      · rw [if_neg h, List.filter_cons_of_pos (by simpa using h), List.eraseDups_cons, List.filter_filter,
          List.append_assoc, List.singleton_append]
        have hfilter : (fun other => !(order ++ [id]).contains other) =
            fun other => (!other == id) && !order.contains other := by
          funext other
          rw [List.contains_append, Bool.not_or, Bool.and_comm, List.contains_cons, List.contains_nil, Bool.or_false]
        rw [hfilter]

theorem prefix_addNotes (order : NoteOrder) (ids : List String) : order <+: addNotes order ids := by
  rw [addNotes_eq]
  exact List.prefix_append _ _

/-- Ids that have numbers keep them. -/
theorem addNotes_of_subset {order : NoteOrder} {ids : List String} (h : ∀ id ∈ ids, id ∈ order) :
    addNotes order ids = order := by
  have hnone : ids.filter (!order.contains ·) = [] := by
    rw [List.filter_eq_nil_iff]
    intro id hid
    simpa using h id hid
  rw [addNotes_eq, hnone]
  exact List.append_nil order

theorem mem_addNotes {order : NoteOrder} {ids : List String} {id : String} (h : id ∈ ids) :
    id ∈ addNotes order ids := by
  rw [addNotes_eq, List.mem_append, List.mem_eraseDups, List.mem_filter]
  by_cases hold : id ∈ order
  · exact .inl hold
  · exact .inr ⟨h, by simpa using hold⟩

theorem nodup_addNotes {order : NoteOrder} (h : order.Nodup) (ids : List String) : (addNotes order ids).Nodup := by
  induction ids generalizing order with
  | nil => exact h
  | cons id ids ih =>
      rw [addNotes_cons]
      split
      · exact ih h
      next hid =>
        have hapart : order.Disjoint [id] := List.disjoint_singleton.mpr hid
        exact ih (h.append (List.nodup_singleton id) hapart)

/-- An id is given the number that it has in every order that goes on from the one that then knows it. -/
theorem noteNumber_eq {order all : NoteOrder} {id : String} (h : addNotes order [id] <+: all) :
    noteNumber order id = (numberIn all id, addNotes order [id]) := by
  obtain ⟨more, rfl⟩ := h
  refine Prod.ext ?_ rfl
  change (noteNumber order id).1 = numberIn (addNotes order [id] ++ more) id
  rw [numberIn, List.idxOf_append_of_mem (mem_addNotes (List.mem_singleton_self id)), addNotes_cons]
  change (noteNumber order id).1 = (if id ∈ order then order else order ++ [id]).idxOf id + 1
  unfold noteNumber
  have hindex := List.idxOf_eq_getD_idxOf? id order
  by_cases hid : id ∈ order
  · rw [if_pos hid, hindex]
    cases hfound : order.idxOf? id with
    | some i => rfl
    | none => exact absurd hid (List.idxOf?_eq_none_iff.mp hfound)
  · rw [if_neg hid, List.idxOf?_eq_none_iff.mpr hid, List.idxOf_append, if_neg hid, List.idxOf_cons_self,
      Nat.zero_add]

variable {settings : ExportSettings} {doc : Document} {order all : NoteOrder}

/-! ## Inline text -/

theorem references_cons (run : Run) (runs : List Run) :
    references (run :: runs) = run.footnote.toList ++ references runs := by
  unfold references
  rw [List.filterMap_cons]
  cases run.footnote <;> rfl

theorem references_mergeAfter (last : Run) (runs : List Run) :
    references (mergeAfter last runs) = references (last :: runs) := by
  induction runs generalizing last with
  | nil => rfl
  | cons run runs ih =>
      unfold mergeAfter
      split
      next hmerge =>
        rw [ih]
        simp only [isTextRun, Bool.and_eq_true, Option.isNone_iff_eq_none] at hmerge
        obtain ⟨⟨⟨hrun, -⟩, hlast, -⟩, -⟩ := hmerge
        rw [references_cons, references_cons, references_cons, hrun, hlast]
        rfl
      next =>
        rw [references_cons, ih, ← references_cons]

theorem references_mergeRuns (runs : List Run) : references (mergeRuns runs) = references runs := by
  cases runs with
  | nil => rfl
  | cons run runs => exact references_mergeAfter run runs

theorem runText_eq (hnotes : settings.footnotes = true) (run : Run) (h : addNotes order run.footnote.toList <+: all) :
    runText settings doc order run =
      (numberedRun settings doc (numberIn all) run, addNotes order run.footnote.toList) := by
  unfold runText numberedRun
  cases hrun : run.footnote with
  | some id =>
      rw [hrun] at h
      simp only [if_pos hnotes]
      rw [noteNumber_eq h]
      rfl
  | none =>
      simp only
      unfold runText
      rw [hrun]
      cases run.media.bind (imageLink settings doc) <;> rfl

theorem runTexts_eq (hnotes : settings.footnotes = true) (runs : List Run) (h : addNotes order (references runs) <+: all) :
    runTexts settings doc order runs =
      (runs.flatMap (numberedRun settings doc (numberIn all)), addNotes order (references runs)) := by
  induction runs generalizing order with
  | nil => rfl
  | cons run runs ih =>
      rw [references_cons, addNotes_append] at h ⊢
      have hprefix := (prefix_addNotes _ (references runs)).trans h
      have hrun : runText settings doc order run = _ := runText_eq hnotes run hprefix
      unfold runTexts
      rw [hrun]
      simp only
      rw [ih h, List.flatMap_cons]

/-- The inline text of runs gives the numbers of every order that goes on from the one behind them. -/
theorem inlineText_eq (hnotes : settings.footnotes = true) (runs : List Run)
    (h : addNotes order (references runs) <+: all) :
    inlineText settings doc order runs =
      (numberedText settings doc (numberIn all) runs, addNotes order (references runs)) := by
  have hmerged := references_mergeRuns runs
  rw [← hmerged] at h ⊢
  unfold inlineText
  rw [runTexts_eq hnotes (mergeRuns runs) h]
  rfl

theorem refers_numberedRuns (number : String → Nat) (runs : List Run) :
    Refers ((references runs).map number) (runs.flatMap (numberedRun settings doc number)) := by
  induction runs with
  | nil => exact .nil _
  | cons run runs ih =>
      rw [references_cons, List.map_append, List.flatMap_cons]
      refine Refers.append ?_ ih
      unfold numberedRun
      cases run.footnote with
      | none => exact .nil _
      | some id => exact (refers_noteReference (number id)).prepend _

theorem refers_numberedText (number : String → Nat) (runs : List Run) :
    Refers ((references runs).map number) (numberedText settings doc number runs) := by
  rw [← references_mergeRuns]
  exact (refers_numberedRuns number (mergeRuns runs)).breakLines

/-! ## Steps of the writing -/

/-- A step of the writing that refers to the ids gives them the numbers of the complete order, whether they were
numbered beforehand or not, and does nothing else to the order. -/
structure Numbers (all : NoteOrder) (ids : List String) (step : Writing → List Char × Writing) : Prop where
  agrees : ∀ (w : Writing) (order : NoteOrder), addNotes order ids <+: all →
    step { w with notes := order } =
      ((step { w with notes := all }).1, { (step { w with notes := all }).2 with notes := addNotes order ids })
  refers : (∀ id ∈ ids, id ∈ all) → ∀ w : Writing, Refers (ids.map (numberIn all)) (step { w with notes := all }).1

/-- One step and then another. -/
def andThen (first second : Writing → List Char × Writing) (w : Writing) : List Char × Writing :=
  let (before, w) := first w
  let (after, w) := second w
  (before ++ after, w)

theorem mem_of_addNotes {ids : List String} (h : addNotes order ids <+: all) : ∀ id ∈ ids, id ∈ all :=
  fun _ hid => h.subset (mem_addNotes hid)

theorem addNotes_complete {ids : List String} (h : ∀ id ∈ ids, id ∈ all) : addNotes all ids <+: all :=
  ⟨[], (List.append_nil _).trans (addNotes_of_subset h)⟩

theorem Numbers.keeps {ids : List String} {step : Writing → List Char × Writing} (h : Numbers all ids step)
    (hids : ∀ id ∈ ids, id ∈ all) (w : Writing) :
    { (step { w with notes := all }).2 with notes := all } = (step { w with notes := all }).2 := by
  have hagrees := h.agrees w all (addNotes_complete hids)
  rw [addNotes_of_subset hids] at hagrees
  exact (congrArg Prod.snd hagrees).symm

theorem Numbers.of_frame {step : Writing → List Char × Writing}
    (h : ∀ (w : Writing) (order : NoteOrder), step { w with notes := order } = ((step w).1, { (step w).2 with notes := order })) :
    Numbers all [] step where
  agrees w order _ := by
    rw [h w order, h w all]
    rfl
  refers _ w := .nil _

theorem Numbers.andThen {ids more : List String} {first second : Writing → List Char × Writing}
    (hfirst : Numbers all ids first) (hsecond : Numbers all more second) :
    Numbers all (ids ++ more) (andThen first second) where
  agrees w order h := by
    rw [addNotes_append] at h ⊢
    have hprefix := (prefix_addNotes _ more).trans h
    have hkeeps := hfirst.keeps (mem_of_addNotes hprefix) w
    unfold Markdown.andThen
    rw [hfirst.agrees w order hprefix]
    simp only
    rw [hsecond.agrees _ _ h, hkeeps]
  refers hids w := by
    have hleft : ∀ id ∈ ids, id ∈ all := fun id hid => hids id (List.mem_append_left _ hid)
    have hright : ∀ id ∈ more, id ∈ all := fun id hid => hids id (List.mem_append_right _ hid)
    have hafter := hsecond.refers hright (first { w with notes := all }).2
    rw [hfirst.keeps hleft w] at hafter
    rw [List.map_append]
    exact (hfirst.refers hleft w).append hafter

theorem numbers_closeGroup : Numbers all [] (closeGroup settings) := .of_frame fun _ _ => rfl

theorem numbers_codeLine (paragraph : Paragraph) : Numbers all [] (codeLine settings · paragraph) := by
  refine .of_frame fun w order => ?_
  obtain ⟨codeLines, inList, counter, notes⟩ := w
  unfold codeLine
  cases inList <;> cases closesCode paragraph <;> rfl

/-- Begins a list anew where the item has a start recorded. -/
def restartList (settings : ExportSettings) (paragraph : Paragraph) (w : Writing) : List Char × Writing :=
  match topLevelStart paragraph with
  | some start =>
    let (before, w) := if w.inList then closeGroup settings w else ([], w)
    (before, { w with counter := start - 1 })
  | none => ([], w)

/-- The line of an item of a list that has begun. -/
def itemLine (settings : ExportSettings) (doc : Document) (paragraph : Paragraph) (w : Writing) :
    List Char × Writing :=
  let (text, notes) := inlineText settings doc w.notes paragraph.runs
  let (task, body) := itemGlyph (oneLine text)
  let counter := if isOrdered paragraph then nextNumber w.counter else 0
  let marker := if isOrdered paragraph then counter.repr.toList ++ ['.'] else [settings.bulletMarker]
  (marker ++ ' ' :: taskBox settings task ++ escapeBlockStarts (Text.trimEnd body) ++ ['\n'],
    { w with notes, counter, inList := true })

theorem listLine_eq (paragraph : Paragraph) :
    (listLine settings doc · paragraph) = andThen (restartList settings paragraph) (itemLine settings doc paragraph) :=
  rfl

theorem numbers_restartList (paragraph : Paragraph) : Numbers all [] (restartList settings paragraph) := by
  refine .of_frame fun w order => ?_
  obtain ⟨codeLines, inList, counter, notes⟩ := w
  unfold restartList
  cases topLevelStart paragraph with
  | none => rfl
  | some start => cases inList <;> rfl

theorem numbers_itemLine (hnotes : settings.footnotes = true) (paragraph : Paragraph) :
    Numbers all (references paragraph.runs) (itemLine settings doc paragraph) where
  agrees w order h := by
    have hall := addNotes_complete (mem_of_addNotes h)
    unfold itemLine
    simp only
    rw [inlineText_eq hnotes paragraph.runs h, inlineText_eq hnotes paragraph.runs hall]
  refers hids w := by
    have hall := addNotes_complete hids
    have htext : Refers _ (numberedText settings doc (numberIn all) paragraph.runs) :=
      refers_numberedText (numberIn all) paragraph.runs
    unfold itemLine
    simp only
    rw [inlineText_eq hnotes paragraph.runs hall]
    simp only
    have hbody := htext.oneLine.itemGlyph.trimEnd.escapeBlockStarts
    exact (hbody.prepend _).append_text _

theorem numbers_listLine (hnotes : settings.footnotes = true) (paragraph : Paragraph) :
    Numbers all (references paragraph.runs) (listLine settings doc · paragraph) := by
  rw [listLine_eq]
  exact (numbers_restartList paragraph).andThen (numbers_itemLine hnotes paragraph)

theorem numbers_text {runs : List Run} (hnotes : settings.footnotes = true)
    {block : List Char → List Char} (hblock : ∀ ns text, Refers ns text → Refers ns (block text)) :
    Numbers all (references runs) fun w =>
      let (text, notes) := inlineText settings doc w.notes runs
      (block text, { w with notes }) where
  agrees w order h := by
    have hall := addNotes_complete (mem_of_addNotes h)
    simp only
    rw [inlineText_eq hnotes runs h, inlineText_eq hnotes runs hall]
  refers hids w := by
    have hall := addNotes_complete hids
    simp only
    rw [inlineText_eq hnotes runs hall]
    exact hblock _ _ (refers_numberedText (numberIn all) runs)

/-- A paragraph that is neither code nor an item. -/
theorem numbers_plainParagraph (hnotes : settings.footnotes = true) {paragraph : Paragraph}
    (hcode : styleOf paragraph ≠ Style.code) (hitem : isListItem paragraph = false) :
    Numbers all (references (inlineRuns paragraph)) (plainParagraph settings doc · paragraph) := by
  unfold inlineRuns plainParagraph
  rw [if_neg hcode, hitem, Bool.false_or]
  cases hlevel : Style.headingLevel (styleOf paragraph) with
  | some level =>
      rw [if_pos (Option.isSome_some)]
      exact numbers_text hnotes fun _ _ h => h.headingText settings level
  | none =>
      rw [Option.isSome_none, if_neg Bool.false_ne_true]
      by_cases hquote : styleOf paragraph = Style.quote
      · rw [if_pos (.inl hquote)]
        simp only [if_pos hquote]
        exact .of_frame fun _ _ => rfl
      · by_cases hrule : paragraph.properties.borderBottom ∧ (trim paragraph.textChars).isEmpty
        · rw [if_pos (.inr hrule)]
          simp only [if_neg hquote, if_pos hrule]
          exact .of_frame fun _ _ => rfl
        · rw [if_neg fun h => h.elim hquote hrule]
          simp only [if_neg hquote, if_neg hrule]
          exact numbers_text hnotes fun _ _ h => h.bodyText settings

/-- Closes an open fence, in front of an item. -/
def closeFence (settings : ExportSettings) (w : Writing) : List Char × Writing :=
  if w.codeLines.isEmpty then ([], w) else closeGroup settings w

theorem numbers_closeFence : Numbers all [] (closeFence settings) := by
  refine .of_frame fun w order => ?_
  obtain ⟨codeLines, inList, counter, notes⟩ := w
  unfold closeFence
  cases codeLines <;> rfl

theorem Numbers.restart {ids : List String} {step : Writing → List Char × Writing} (h : Numbers all ids step) :
    Numbers all ids fun w => step { w with counter := 0 } where
  agrees w order hprefix := h.agrees { w with counter := 0 } order hprefix
  refers hids w := h.refers hids { w with counter := 0 }

theorem numbers_paragraphText (hnotes : settings.footnotes = true) (paragraph : Paragraph) :
    Numbers all (references (inlineRuns paragraph)) (paragraphText settings doc · paragraph) := by
  unfold paragraphText
  by_cases hcode : styleOf paragraph = Style.code
  · have hnone : references (inlineRuns paragraph) = [] := by
      unfold inlineRuns
      rw [if_pos hcode]
      rfl
    rw [hnone]
    simp only [if_pos hcode]
    exact numbers_codeLine paragraph
  · simp only [if_neg hcode]
    cases hitem : isListItem paragraph with
    | true =>
        have hruns : inlineRuns paragraph = paragraph.runs := by
          unfold inlineRuns
          rw [if_neg hcode, hitem, Bool.true_or, if_pos rfl]
        rw [hruns]
        exact numbers_closeFence.andThen (numbers_listLine hnotes paragraph)
    | false => exact numbers_closeGroup.andThen (numbers_plainParagraph hnotes hcode hitem).restart

/-! ## A whole document -/

/-- Elements in a row are written alike whether their numbers were given out beforehand or not. -/
theorem elementsText_eq (hnotes : settings.footnotes = true) (elements : List Element) (w : Writing)
    (h : addNotes order (elements.flatMap elementReferences) <+: all) :
    elementsText settings doc { w with notes := order } elements =
      ((elementsText settings doc { w with notes := all } elements).1.map fun (texts, w) =>
          (texts, { w with notes := addNotes order (elements.flatMap elementReferences) }),
        (elementsText settings doc { w with notes := all } elements).2) := by
  induction elements generalizing w order with
  | nil => rfl
  | cons element elements ih =>
      rw [List.flatMap_cons, addNotes_append] at h ⊢
      cases element with
      | paragraph paragraph =>
          have hstep : Numbers all (references (inlineRuns paragraph)) (paragraphText settings doc · paragraph) :=
            numbers_paragraphText hnotes paragraph
          have hreferences : elementReferences (.paragraph paragraph) = references (inlineRuns paragraph) := rfl
          rw [hreferences] at h ⊢
          have hprefix := (prefix_addNotes _ (elements.flatMap elementReferences)).trans h
          have hkeeps := hstep.keeps (mem_of_addNotes hprefix) w
          unfold elementsText
          rw [hstep.agrees w order hprefix]
          simp only
          rw [ih _ h, hkeeps]
          cases (elementsText settings doc (paragraphText settings doc { w with notes := all } paragraph).2 elements).1 <;>
            rfl
      | table table =>
          -- A table leaves nothing open, so that only the order goes on behind it.
          have hreferences : elementReferences (.table table) = [] := rfl
          rw [hreferences] at h ⊢
          have hrest : elementsText settings doc { notes := order } elements = _ := ih {} h
          unfold elementsText closeGroup
          simp only
          rw [hrest]
          generalize elementsText settings doc { notes := all } elements = rest
          obtain ⟨outcome, diagnostics⟩ := rest
          split
          · cases outcome <;> rfl
          · split
            · cases outcome <;> rfl
            · split
              · rfl
              · cases outcome <;> rfl

theorem ok_of_map_append {outcome : Except Diagnostic (List Char × Writing)} {gap texts : List Char} {w : Writing}
    (h : (outcome.map fun (rest, w) => (gap ++ rest, w)) = .ok (texts, w)) :
    ∃ rest, outcome = .ok (rest, w) ∧ texts = gap ++ rest := by
  cases outcome with
  | error e => cases h
  | ok result =>
      obtain ⟨rfl, rfl⟩ := Prod.mk.inj (Except.ok.inj h)
      exact ⟨result.1, rfl, rfl⟩

/-- The elements that are written give the numbers of their references, in order. -/
theorem refers_elementsText (hnotes : settings.footnotes = true) (elements : List Element) (w : Writing)
    (hids : ∀ id ∈ elements.flatMap elementReferences, id ∈ all) {texts : List Char} {w' : Writing}
    (h : (elementsText settings doc { w with notes := all } elements).1 = .ok (texts, w')) :
    Refers ((elements.flatMap elementReferences).map (numberIn all)) texts := by
  induction elements generalizing w texts w' with
  | nil => exact .nil _
  | cons element elements ih =>
      rw [List.flatMap_cons] at hids ⊢
      have hrest : ∀ id ∈ elements.flatMap elementReferences, id ∈ all := fun id hid =>
        hids id (List.mem_append_right _ hid)
      cases element with
      | paragraph paragraph =>
          have hfirst : ∀ id ∈ references (inlineRuns paragraph), id ∈ all := fun id hid =>
            hids id (List.mem_append_left _ hid)
          have hstep : Numbers all (references (inlineRuns paragraph)) (paragraphText settings doc · paragraph) :=
            numbers_paragraphText hnotes paragraph
          unfold elementsText at h
          obtain ⟨rest, hok, rfl⟩ := ok_of_map_append h
          rw [← hstep.keeps hfirst w] at hok
          rw [List.map_append]
          exact (hstep.refers hfirst w).append (ih _ hrest hok)
      | table table =>
          have hgap : ∀ {gap},
              ((elementsText settings doc { notes := all } elements).1.map fun (rest, w) => (gap ++ rest, w)) =
                .ok (texts, w') → Refers ((elements.flatMap elementReferences).map (numberIn all)) texts := by
            intro gap h
            obtain ⟨rest, hok, rfl⟩ := ok_of_map_append h
            exact (ih {} hrest hok).prepend gap
          unfold elementsText closeGroup at h
          simp only at h
          split at h
          · exact hgap h
          · split at h
            · exact hgap h
            · split at h
              · cases h
              · exact hgap h

/-! ## The complete order -/

theorem eraseDups_of_nodup {ids : List String} (h : ids.Nodup) : ids.eraseDups = ids := by
  induction ids with
  | nil => rfl
  | cons id ids ih =>
      obtain ⟨hid, hids⟩ := List.nodup_cons.mp h
      have hfilter : ids.filter (fun other => !other == id) = ids := by
        rw [List.filter_eq_self]
        intro other hother
        have hne : other ≠ id := fun heq => hid (heq ▸ hother)
        simpa using hne
      rw [List.eraseDups_cons, hfilter, ih hids]

theorem addNotes_nil (ids : List String) : addNotes [] ids = ids.eraseDups := by
  have hall : ids.filter (!([] : NoteOrder).contains ·) = ids := List.filter_eq_self.mpr fun _ _ => rfl
  rw [addNotes_eq, List.nil_append]
  exact congrArg List.eraseDups hall

theorem allNotes_eq (doc : Document) (order : NoteOrder) :
    allNotes doc order = addNotes order (doc.footnotes.map (·.id)) := by
  unfold allNotes addNotes
  rw [List.foldl_map]

/-- The notes of a document that are not referred to are numbered behind those that are. -/
theorem numberedIds_eq (hids : (doc.footnotes.map (·.id)).Nodup) :
    numberedIds settings doc = allNotes doc (writtenReferences settings doc).eraseDups := by
  rw [allNotes_eq, addNotes_eq, eraseDups_of_nodup (hids.filter _)]
  unfold numberedIds
  congr 2
  funext id
  rw [Bool.eq_iff_iff]
  simp [List.mem_eraseDups]

theorem nodup_numberedIds (hids : (doc.footnotes.map (·.id)).Nodup) : (numberedIds settings doc).Nodup := by
  rw [numberedIds_eq hids, allNotes_eq, ← addNotes_nil]
  exact nodup_addNotes (nodup_addNotes List.nodup_nil _) _

theorem mem_numberedIds_of_mem {id : String} (h : id ∈ writtenReferences settings doc) :
    id ∈ numberedIds settings doc :=
  List.mem_append_left _ (List.mem_eraseDups.mpr h)

theorem numberIn_getElem (h : all.Nodup) {i : Nat} (hi : i < all.length) : numberIn all all[i] = i + 1 := by
  unfold numberIn
  rw [h.idxOf_getElem]

theorem map_numberIn (h : all.Nodup) : all.map (numberIn all) = List.range' 1 all.length := by
  apply List.ext_getElem
  · rw [List.length_map, List.length_range']
  · intro i hi hi'
    rw [List.getElem_map, List.getElem_range', numberIn_getElem h]
    omega

theorem numberIn_inj {id id' : String} (hid : id ∈ all) (h : numberIn all id = numberIn all id') : id = id' :=
  (List.idxOf_inj hid).mp (Nat.succ.inj h)

/-! ## Definitions -/

theorem footnote?_eq_some_iff (hids : (doc.footnotes.map (·.id)).Nodup) {id : String} {note : Footnote} :
    doc.footnote? id = some note ↔ note ∈ doc.footnotes ∧ note.id = id := by
  have hfound : ∀ {id found}, doc.footnote? id = some found → found ∈ doc.footnotes ∧ found.id = id := by
    intro id found h
    exact ⟨List.mem_of_find?_eq_some h, by simpa using List.find?_some h⟩
  constructor
  · exact hfound
  · rintro ⟨hmem, rfl⟩
    cases h : doc.footnote? note.id with
    | none =>
        have hnone := List.find?_eq_none.mp h note hmem
        exact absurd (beq_self_eq_true note.id) hnone
    | some found =>
        obtain ⟨hmem', hsame⟩ := hfound h
        rw [List.inj_on_of_nodup_map hids hmem' hmem hsame]

theorem flatten_noteText (number : String → Nat) (ids : List String) :
    (ids.map fun id => noteText doc (number id) id).flatten =
      (ids.filterMap fun id => (doc.footnote? id).map fun note => (number id + 1, note)).flatMap
        fun entry => definitionText entry.1 entry.2 := by
  induction ids with
  | nil => rfl
  | cons id ids ih =>
      rw [List.map_cons, List.flatten_cons, ih, List.filterMap_cons]
      unfold noteText
      cases doc.footnote? id <;> rfl

theorem notesText_eq (hnotes : settings.footnotes = true) (hids : (doc.footnotes.map (·.id)).Nodup) :
    notesText settings doc (writtenReferences settings doc).eraseDups = definitionsText settings doc := by
  have hindex : (numberedIds settings doc).mapIdx (noteText doc) =
      (numberedIds settings doc).map fun id => noteText doc ((numberedIds settings doc).idxOf id) id := by
    apply List.ext_getElem
    · rw [List.length_mapIdx, List.length_map]
    · intro i hi hi'
      rw [List.getElem_mapIdx, List.getElem_map, (nodup_numberedIds hids).idxOf_getElem]
  unfold notesText
  rw [hnotes, Bool.not_true, Bool.false_or, ← numberedIds_eq hids, hindex, flatten_noteText]
  rfl

theorem mem_definitions (hids : (doc.footnotes.map (·.id)).Nodup) {entry : Nat × Footnote} :
    entry ∈ definitions settings doc ↔
      entry.2 ∈ doc.footnotes ∧ entry.1 = numberOf settings doc entry.2.id := by
  unfold definitions
  rw [List.mem_filterMap]
  constructor
  · rintro ⟨id, -, hentry⟩
    obtain ⟨note, hnote, rfl⟩ := Option.map_eq_some_iff.mp hentry
    obtain ⟨hmem, rfl⟩ := (footnote?_eq_some_iff hids).mp hnote
    exact ⟨hmem, rfl⟩
  · rintro ⟨hmem, hnumber⟩
    have hid : entry.2.id ∈ numberedIds settings doc := by
      rw [numberedIds_eq hids, allNotes_eq]
      exact mem_addNotes (List.mem_map_of_mem hmem)
    refine ⟨entry.2.id, hid, ?_⟩
    rw [(footnote?_eq_some_iff hids).mpr ⟨hmem, rfl⟩, ← hnumber]
    rfl

theorem pairwise_definitions (hids : (doc.footnotes.map (·.id)).Nodup) :
    ((definitions settings doc).map (·.1)).Pairwise (· < ·) := by
  have hsub : ((definitions settings doc).map (·.1)).Sublist
      ((numberedIds settings doc).map (numberOf settings doc)) := by
    unfold definitions
    generalize numberOf settings doc = number
    induction numberedIds settings doc with
    | nil => exact List.Sublist.slnil
    | cons id ids ih =>
        rw [List.filterMap_cons, List.map_cons]
        cases doc.footnote? id with
        | none => exact ih.cons _
        | some note => exact ih.cons_cons _
  rw [numberOf, map_numberIn (nodup_numberedIds hids)] at hsub
  exact List.Pairwise.sublist hsub List.pairwise_lt_range'

theorem perm_definitions (hids : (doc.footnotes.map (·.id)).Nodup) :
    ((definitions settings doc).map (·.2)).Perm doc.footnotes := by
  have hnodup : ((definitions settings doc).map (·.2)).Nodup := by
    have hnumbers : ((definitions settings doc).map (·.1)).Nodup :=
      (pairwise_definitions hids).imp fun h => Nat.ne_of_lt h
    refine List.Nodup.map_on ?_ hnumbers.of_map
    intro entry hentry entry' hentry' hsame
    have h := ((mem_definitions hids).mp hentry).2
    have h' := ((mem_definitions hids).mp hentry').2
    exact Prod.ext (by rw [h, h', hsame]) hsame
  refine (List.perm_ext_iff_of_nodup hnodup hids.of_map).mpr fun note => ?_
  rw [List.mem_map]
  constructor
  · rintro ⟨entry, hentry, rfl⟩
    exact ((mem_definitions hids).mp hentry).1
  · intro hmem
    exact ⟨(numberOf settings doc note.id, note), (mem_definitions hids).mpr ⟨hmem, rfl⟩, rfl⟩

/-- References and definitions are numbered in the order in which a document first refers to its footnotes. The document
is written as if the numbers had been given out beforehand, every reference with the number of its id, and the
definitions of all its footnotes follow in the order of their numbers. -/
theorem notes_numbered (hnotes : settings.footnotes = true) (hids : (doc.footnotes.map (·.id)).Nodup) :
    (numberedIds settings doc).map (numberOf settings doc) = List.range' 1 (numberedIds settings doc).length ∧
    (∀ id ∈ numberedIds settings doc, ∀ id' ∈ numberedIds settings doc,
      numberOf settings doc id = numberOf settings doc id' → id = id') ∧
    (∀ runs, (∀ id ∈ references runs, id ∈ numberedIds settings doc) →
      inlineText settings doc (numberedIds settings doc) runs =
        (numberedText settings doc (numberOf settings doc) runs, numberedIds settings doc)) ∧
    (∃ outcome diagnostics,
      elementsText settings doc { notes := numberedIds settings doc } (writtenElements settings doc) =
        (outcome, diagnostics) ∧
      (∀ texts w, outcome = .ok (texts, w) →
        Refers ((writtenReferences settings doc).map (numberOf settings doc)) texts) ∧
      write settings doc =
        (outcome.map fun (texts, w) => String.ofList (frontMatterText settings doc.metadata ++ texts ++
          (closeGroup settings w).1 ++ definitionsText settings doc), diagnostics)) ∧
    ((definitions settings doc).map (·.2)).Perm doc.footnotes ∧
    ((definitions settings doc).map (·.1)).Pairwise (· < ·) ∧
    (∀ entry ∈ definitions settings doc, entry.1 = numberOf settings doc entry.2.id) ∧
    (∀ id ∈ writtenReferences settings doc, doc.footnote? id = none →
      numberOf settings doc id ∉ (definitions settings doc).map (·.1)) := by
  have hnodup : (numberedIds settings doc).Nodup := nodup_numberedIds hids
  have hreferences : ∀ id ∈ writtenReferences settings doc, id ∈ numberedIds settings doc := fun _ =>
    mem_numberedIds_of_mem
  refine ⟨map_numberIn hnodup, fun id hid id' _ => numberIn_inj hid, fun runs hruns => ?_, ?_, perm_definitions hids,
    pairwise_definitions hids, fun entry hentry => ((mem_definitions hids).mp hentry).2, ?_⟩
  · rw [inlineText_eq hnotes runs (addNotes_complete hruns), addNotes_of_subset hruns]
    rfl
  · refine ⟨_, _, rfl, fun texts w hok => refers_elementsText hnotes _ {} hreferences hok, ?_⟩
    have hprefix : addNotes [] (writtenReferences settings doc) <+: numberedIds settings doc := by
      rw [addNotes_nil]
      exact List.prefix_append _ _
    have helements : elementsText settings doc {} (writtenElements settings doc) = _ :=
      elementsText_eq hnotes (writtenElements settings doc) {} hprefix
    have hnotesText := notesText_eq hnotes hids
    rw [← addNotes_nil] at hnotesText
    unfold write
    rw [helements]
    generalize elementsText settings doc _ (writtenElements settings doc) = written
    obtain ⟨outcome, diagnostics⟩ := written
    cases outcome with
    | error e => rfl
    | ok result =>
        rw [← hnotesText]
        rfl
  · intro id hid hnone hmem
    obtain ⟨entry, hentry, hsame⟩ := List.mem_map.mp hmem
    obtain ⟨hnote, hnumber⟩ := (mem_definitions hids).mp hentry
    have heq : id = entry.2.id := numberIn_inj (hreferences id hid) (hsame.symm.trans hnumber)
    rw [(footnote?_eq_some_iff hids).mpr ⟨hnote, heq.symm⟩] at hnone
    cases hnone

/-- A run that refers to a footnote. -/
def referringRun (text id : String) : Run := { text, footnote := some id }

/-- A document that refers to a footnote twice and to one that it does not have, and in a quote to a third one. -/
def sampleDocument : Document where
  body := [
    .paragraph ((Paragraph.styled "Heading 1").push (referringRun "t" "b")),
    .paragraph ((Paragraph.styled Style.quote).push (referringRun "q" "c")),
    .paragraph { runs := [referringRun "x" "z", referringRun "y" "b", referringRun "" "a"] }]
  footnotes := ["c", "a", "b"].map fun id => ⟨id, [{ runs := [{ text := id }] }]⟩

theorem notes_numbered_sample :
    let settings : ExportSettings := {}
    settings.footnotes = true ∧ (sampleDocument.footnotes.map (·.id)).Nodup ∧
      numberedIds settings sampleDocument = ["b", "z", "a", "c"] ∧
      (definitions settings sampleDocument).map (·.1) = [1, 3, 4] ∧
      (numberedIds settings sampleDocument).map (numberOf settings sampleDocument) = [1, 2, 3, 4] ∧
      ((write settings sampleDocument).1.toOption =
        some "# t[^1]\n\n> q\n\nx[^2]y[^1][^3]\n\n---\n\n[^1]: b\n[^3]: a\n[^4]: c\n") := by
  intro settings
  have hids : (sampleDocument.footnotes.map (·.id)).Nodup := by decide
  have hnumbered := @notes_numbered settings sampleDocument rfl hids
  have hall : numberedIds settings sampleDocument = ["b", "z", "a", "c"] := by decide +kernel
  have hmap := hnumbered.1
  rw [hall] at hmap
  refine ⟨rfl, hids, hall, ?_, hall ▸ hmap, ?_⟩
  · decide +kernel
  · decide +kernel

end Folio.Markdown
