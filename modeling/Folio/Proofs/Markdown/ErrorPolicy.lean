import Folio.Markdown.Rendering
import Mathlib.Data.List.TakeWhile

/-!
# Rendering under different error policies

An error policy decides when a rendering ends and nothing else. The lenient rendering of a tree never ends early, and
every other policy follows it step by step, up to the first of its diagnostics that ends a rendering under the policy.

* `Rendering.Within s t` : what `s` has built is kept and only extended in `t`;
* `Lockstep context s m` : from `s` on, the step `m` succeeds under the lenient policy, and under any other it either
  does the same or ends at the first of the new diagnostics on which the policy ends;
* `Lockstep.bind` : steps in a row are in lockstep when each of them is;
* `lockstep_renderBlock` : so is the rendering of every block;
* `renderInto_follows` : every policy follows the lenient rendering of a tree;
* `endsAt_of_renderInto`, `renderInto_ok` : what a rendering ends early with, and that it does not under a policy that
  does not abort;
* `renderInto_under` : where a rendering ends under a policy, and what it has given and built by then.
-/

namespace Folio

/-- The policy under which no diagnostic ends a rendering. -/
def ErrorPolicy.lenient : ErrorPolicy := { strict := false, ignoreErrors := true }

/-- The diagnostics that end a rendering: all of them under a strict policy, and refused edits under a policy that does
not ignore errors. -/
def ErrorPolicy.endsAt (policy : ErrorPolicy) (d : Diagnostic) : Bool :=
  policy.strict || (!policy.ignoreErrors && decide (d.kind = .modelMutation))

theorem ErrorPolicy.endsAt_of_modelMutation (policy : ErrorPolicy) {d : Diagnostic} (h : d.kind = .modelMutation) :
    policy.endsAt d = policy.aborts := by
  simp [endsAt, aborts, h]

theorem ErrorPolicy.endsAt_of_not_aborts {policy : ErrorPolicy} (h : policy.aborts = false) (d : Diagnostic) :
    policy.endsAt d = false := by
  rw [aborts, Bool.or_eq_false_iff] at h
  rw [endsAt, h.1, h.2, Bool.false_or, Bool.false_and]

/-- A policy that is not strict ends on nothing but refused edits. -/
theorem ErrorPolicy.kind_of_endsAt {policy : ErrorPolicy} (h : policy.strict = false) {d : Diagnostic}
    (hends : policy.endsAt d = true) : d.kind = .modelMutation := by
  rw [endsAt, h, Bool.false_or, Bool.and_eq_true] at hends
  exact of_decide_eq_true hends.2

namespace Markdown
open RenderM

/-- The same rendering under another error policy. -/
def RenderContext.under (context : RenderContext) (policy : ErrorPolicy) : RenderContext :=
  { context with settings := { context.settings with errors := policy } }

/-- What has been built in `s` stays in `t`, which may have built more. -/
structure Rendering.Within (s t : Rendering) : Prop where
  body : s.doc.body <+: t.doc.body
  footnotes : s.doc.footnotes <+: t.doc.footnotes
  media : s.doc.media <+: t.doc.media

theorem Rendering.Within.refl (s : Rendering) : s.Within s :=
  ⟨List.prefix_rfl, List.prefix_rfl, List.prefix_rfl⟩

theorem Rendering.Within.trans {s t u : Rendering} (h : s.Within t) (h' : t.Within u) : s.Within u :=
  ⟨h.body.trans h'.body, h.footnotes.trans h'.footnotes, h.media.trans h'.media⟩

/-- A change that leaves the three lists alone. -/
theorem Rendering.Within.of_eq {s t : Rendering} (hb : t.doc.body = s.doc.body)
    (hf : t.doc.footnotes = s.doc.footnotes) (hm : t.doc.media = s.doc.media) : s.Within t :=
  ⟨hb ▸ List.prefix_rfl, hf ▸ List.prefix_rfl, hm ▸ List.prefix_rfl⟩

variable {α β : Type}

/-! ## Steps, run from a state -/

theorem run_bind (m : RenderM α) (f : α → RenderM β) (context : RenderContext) (s : Rendering) :
    (m >>= f) context s =
      match m context s with
      | (.ok a, t) => f a context t
      | (.error d, t) => (.error d, t) := by
  change (match m context s with | (r, t) => ExceptT.bindCont (fun a => f a context) r t) = _
  rcases m context s with ⟨d | a, t⟩ <;> rfl

/-- The state with one more diagnostic. -/
def Rendering.told (s : Rendering) (d : Diagnostic) : Rendering := { s with diagnostics := s.diagnostics ++ [d] }

theorem run_report (d : Diagnostic) (context : RenderContext) (s : Rendering) :
    report d context s = (if context.settings.errors.aborts then .error d else .ok (), s.told d) := by
  have h : report d context s =
      (if context.settings.errors.aborts then throw d else pure () : RenderM Unit) context (s.told d) := rfl
  rw [h]
  split <;> rfl

theorem run_unsupported (kind : Kind) (line column : Nat) (context : RenderContext) (s : Rendering) :
    let d := Diagnostic.placed { kind := .unsupportedNode, message := kind.describe } line column
    unsupported kind line column context s =
      (if context.settings.errors.strict then .error d else .ok (), s.told d) := by
  intro d
  have h : unsupported kind line column context s =
      (if context.settings.errors.strict then report d else notify d : RenderM Unit) context s := rfl
  rw [h]
  cases hs : context.settings.errors.strict with
  | true => simp [run_report, ErrorPolicy.aborts, hs]
  | false => rfl

theorem run_set_bind (t : Rendering) (f : PUnit → RenderM α) (context : RenderContext) (s : Rendering) :
    (set t >>= f) context s = f ⟨⟩ context t := rfl

theorem run_refuses (operation : Operation) (m m' : RenderM α) (context : RenderContext) (s : Rendering) :
    (do if ← refuses operation then m else m' : RenderM α) context s =
      if context.refused.contains operation then m context s else m' context s := by
  change (if context.refused.contains operation then m else m') context s = _
  split <;> rfl

theorem run_push {context : RenderContext} (hpush : context.refused.contains .pushParagraph = false)
    (paragraph : Paragraph) (line column : Nat) (s : Rendering) :
    push paragraph line column context s = (.ok (), { s with doc := s.doc.pushParagraph paragraph.ensureRun }) := by
  refine (run_refuses ..).trans ?_
  rw [hpush]
  rfl

/-! ## Lockstep -/

/-- What `run` has to be under the policy when the lenient step from `s` ends with `a` in `t` and has given the
diagnostics `ds`. -/
def Follows (policy : ErrorPolicy) (s : Rendering) (ds : List Diagnostic) (a : α) (t : Rendering)
    (run : Except Diagnostic α × Rendering) : Prop :=
  match ds.find? policy.endsAt with
  | none => run = (.ok a, t)
  | some d =>
    run.1 = .error d ∧
    run.2.diagnostics = s.diagnostics ++ (ds.takeWhile (fun d => !policy.endsAt d) ++ [d]) ∧
    run.2.Within t

/-- The step succeeds under the lenient policy and only adds to what is there; every policy follows it. -/
def Lockstep (context : RenderContext) (s : Rendering) (m : RenderM α) : Prop :=
  ∃ a t ds, m (context.under .lenient) s = (.ok a, t) ∧ t.diagnostics = s.diagnostics ++ ds ∧ s.Within t ∧
    ∀ policy, Follows policy s ds a t (m (context.under policy) s)

variable {context : RenderContext} {s : Rendering}

/-- A step that does the same under every policy and gives no diagnostic. -/
theorem Lockstep.of_quiet {m : RenderM α} {a : α} {t : Rendering}
    (h : ∀ policy, m (context.under policy) s = (.ok a, t)) (hd : t.diagnostics = s.diagnostics)
    (hw : s.Within t) : Lockstep context s m :=
  ⟨a, t, [], h _, by simpa using hd, hw, fun policy => by simpa [Follows] using h policy⟩

/-- A step that comes down to another one after a quiet change of the state, whatever the policy. -/
theorem Lockstep.of_run {m n : RenderM α} (u : Rendering)
    (h : ∀ policy, m (context.under policy) s = n (context.under policy) u) (hd : u.diagnostics = s.diagnostics)
    (hw : s.Within u) (h' : Lockstep context u n) : Lockstep context s m := by
  obtain ⟨a, t, ds, hm, hds, hw', hf⟩ := h'
  refine ⟨a, t, ds, (h _).trans hm, by rw [hds, hd], hw.trans hw', fun policy => ?_⟩
  have := hf policy
  rw [h]
  unfold Follows at this ⊢
  rwa [hd] at this

theorem Lockstep.of_eq {m n : RenderM α} (h : ∀ policy, m (context.under policy) s = n (context.under policy) s)
    (h' : Lockstep context s n) : Lockstep context s m :=
  .of_run s h rfl (.refl s) h'

/-- A quiet change of the state and then one diagnostic, on which exactly the policies that say so end. -/
theorem Lockstep.of_told {m : RenderM Unit} {u : Rendering} {d : Diagnostic}
    (h : ∀ policy, m (context.under policy) s = (if policy.endsAt d then .error d else .ok (), u.told d))
    (hd : u.diagnostics = s.diagnostics) (hw : s.Within u) : Lockstep context s m := by
  have hut : s.Within (u.told d) := hw.trans (.of_eq rfl rfl rfl)
  refine ⟨(), u.told d, [d], ?_, by simp [Rendering.told, hd], hut, fun policy => ?_⟩
  · rw [h]
    simp [ErrorPolicy.endsAt, ErrorPolicy.lenient]
  · rw [h]
    cases he : policy.endsAt d with
    | true => simp [Follows, he, Rendering.told, hd, Rendering.Within.refl]
    | false => simp [Follows, he]

theorem Lockstep.pure (a : α) : Lockstep context s (pure a : RenderM α) :=
  .of_quiet (fun _ => rfl) rfl (.refl s)

theorem Lockstep.bind {m : RenderM α} {f : α → RenderM β} (hm : Lockstep context s m)
    (hf : ∀ a t, Lockstep context t (f a)) : Lockstep context s (m >>= f) := by
  obtain ⟨a, t, ds, hrun, hd, hw, hfollow⟩ := hm
  obtain ⟨b, u, es, hrun', hd', hw', hfollow'⟩ := hf a t
  refine ⟨b, u, ds ++ es, ?_, by rw [hd', hd, List.append_assoc], hw.trans hw', fun policy => ?_⟩
  · rw [run_bind, hrun]
    exact hrun'
  · have h := hfollow policy
    have h' := hfollow' policy
    unfold Follows at h h' ⊢
    rw [run_bind, List.find?_append]
    cases hfind : ds.find? policy.endsAt with
    | some d =>
        -- the first step has ended already, in a state within the lenient one after it
        rw [hfind] at h
        obtain ⟨he, hds, hwt⟩ := h
        rcases hr : m (context.under policy) s with ⟨r, v⟩
        rw [hr] at he hds hwt
        obtain rfl : r = .error d := he
        have hshort : (ds.takeWhile fun d => !policy.endsAt d).length ≠ ds.length := by
          intro hlen
          have hall := List.takeWhile_eq_self_iff.1 ((List.takeWhile_prefix _).eq_of_length hlen)
          have := hall d (List.mem_of_find?_eq_some hfind)
          simp [List.find?_some hfind] at this
        rw [Option.some_or, List.takeWhile_append, if_neg hshort]
        exact ⟨rfl, hds, hwt.trans hw'⟩
    | none =>
        rw [hfind] at h
        have hall : ∀ d ∈ ds, (!policy.endsAt d) = true := by
          intro d hmem
          simpa using List.find?_eq_none.1 hfind d hmem
        rw [h, Option.none_or, List.takeWhile_append_of_pos hall]
        cases hfind' : es.find? policy.endsAt with
        | none =>
            rw [hfind'] at h'
            exact h'
        | some d =>
            rw [hfind'] at h'
            obtain ⟨he, hds, hwt⟩ := h'
            exact ⟨he, by rw [hds, hd, List.append_assoc, List.append_assoc], hwt⟩

/-! ## The steps of a rendering -/

theorem Lockstep.get_bind {f : Rendering → RenderM α} (h : Lockstep context s (f s)) :
    Lockstep context s (get >>= f) :=
  .of_eq (fun _ => rfl) h

theorem Lockstep.set_bind {t : Rendering} {f : PUnit → RenderM α} (hd : t.diagnostics = s.diagnostics)
    (hw : s.Within t) (h : Lockstep context t (f ⟨⟩)) : Lockstep context s (set t >>= f) :=
  .of_run t (fun _ => rfl) hd hw h

theorem lockstep_modify {change : Rendering → Rendering} (hd : (change s).diagnostics = s.diagnostics)
    (hw : s.Within (change s)) : Lockstep context s (modify change : RenderM Unit) :=
  .of_quiet (fun _ => rfl) hd hw

theorem lockstep_unsupported (kind : Kind) (line column : Nat) :
    Lockstep context s (unsupported kind line column) := by
  let d := Diagnostic.placed { kind := .unsupportedNode, message := kind.describe } line column
  refine .of_told (u := s) (d := d) (fun policy => ?_) rfl (.refl s)
  have hd : policy.endsAt d = policy.strict := by simp [ErrorPolicy.endsAt, d, Diagnostic.placed]
  rw [run_unsupported, hd]
  rfl

theorem lockstep_refusedEdit (what : String) (e : EditError) (line column : Nat) :
    Lockstep context s (refusedEdit what e line column) := by
  let d := (Diagnostic.ofEdit what e).placed line column
  refine .of_told (u := s) (d := d) (fun policy => ?_) rfl (.refl s)
  rw [refusedEdit, run_report, policy.endsAt_of_modelMutation rfl]
  rfl

/-- What a document refuses does not depend on the policy. -/
theorem lockstep_refuses (operation : Operation) {m m' : RenderM α} (h : Lockstep context s m)
    (h' : Lockstep context s m') : Lockstep context s (do if ← refuses operation then m else m') := by
  by_cases hr : context.refused.contains operation = true
  · exact .of_eq (fun policy => (run_refuses ..).trans (if_pos hr)) h
  · exact .of_eq (fun policy => (run_refuses ..).trans (if_neg hr)) h'

theorem lockstep_push (paragraph : Paragraph) (line column : Nat) :
    Lockstep context s (push paragraph line column) := by
  refine lockstep_refuses _ (lockstep_refusedEdit ..) (lockstep_modify rfl ?_)
  exact ⟨List.prefix_append .., List.prefix_rfl, List.prefix_rfl⟩

theorem lockstep_footnoteId (label : String) : Lockstep context s (footnoteId label) := by
  refine .get_bind ?_
  split
  · exact .pure _
  · exact .set_bind rfl (.of_eq rfl rfl rfl) (.pure _)

theorem lockstep_textRun (format : InlineFormat) (text : String) : Lockstep context s (textRun format text) :=
  .of_eq (n := pure [{ text, properties := format.properties context.settings.style }]) (fun _ => rfl) (.pure _)

/-- The run of an image with the settings at hand. -/
def imageSteps (settings : RenderSettings) (format : InlineFormat) (destination alt : String) : RenderM (List Run) :=
  let source := String.ofList (Media.resolve destination.toList (settings.images.basePath.map String.toList))
  let run : Run :=
    { text := "[Image: " ++ (if alt.isEmpty then source else alt) ++ "]"
      properties := format.properties settings.style }
  if settings.images.embed then do
    let s ← get
    set { s with doc := (s.doc.addMedia { source, alt }).1 }
    return [{ run with media := some (s.doc.addMedia { source, alt }).2 }]
  else return [run]

theorem run_imageRun (context : RenderContext) (s : Rendering) (format : InlineFormat) (destination alt : String) :
    imageRun format destination alt context s = imageSteps context.settings format destination alt context s := rfl

theorem lockstep_imageRun (format : InlineFormat) (destination alt : String) :
    Lockstep context s (imageRun format destination alt) := by
  refine .of_eq (n := imageSteps context.settings format destination alt) (fun _ => run_imageRun ..) ?_
  unfold imageSteps
  dsimp only
  split
  · refine .get_bind (.set_bind rfl ?_ (.pure _))
    exact ⟨List.prefix_rfl, List.prefix_rfl, List.prefix_append ..⟩
  · exact .pure _

mutual

theorem lockstep_renderInline (format : InlineFormat) :
    ∀ (node : Node) (s : Rendering), Lockstep context s (renderInline format node)
  | ⟨kind, children, line, column⟩, s => by
    unfold renderInline
    cases kind with
    | text | softBreak | lineBreak | codeSpan => exact lockstep_textRun ..
    | inlineMath source => exact .of_eq (n := pure [mathRun context.settings source]) (fun _ => rfl) (.pure _)
    | emphasis | strikethrough | link => exact lockstep_renderInlines _ children s
    | image => exact lockstep_imageRun ..
    | footnoteReference => exact .bind (lockstep_footnoteId _) fun _ _ => .pure _
    | taskCheckBox => exact .pure _
    | _ => exact .bind (lockstep_unsupported ..) fun _ _ => .pure _

theorem lockstep_renderInlines (format : InlineFormat) :
    ∀ (nodes : List Node) (s : Rendering), Lockstep context s (renderInlines format nodes)
  | [], s => by
    rw [renderInlines]
    exact .pure _
  | node :: rest, s => by
    rw [renderInlines]
    exact .bind (lockstep_renderInline format node s) fun _ t =>
      .bind (lockstep_renderInlines format rest t) fun _ _ => .pure _

end

/-! ## Tables -/

/-- An edit of the last element of a body leaves the rest of the document alone. -/
theorem editTable_last (doc : Document) (elements : List Element) (element : Element) (edit : Table.Edit) :
    ∃ element', (Document.editTable { doc with body := elements ++ [element] } elements.length edit).1 =
      { doc with body := elements ++ [element'] } := by
  unfold Document.editTable
  split
  · exact ⟨element, rfl⟩
  · rename_i table _
    exact ⟨.table (table.edit edit).1, by simp [Document.setTable]⟩

theorem editAll_last (doc : Document) (elements : List Element) (element : Element) (edits : List Table.Edit) :
    ∃ element', (editAll { doc with body := elements ++ [element] } elements.length edits).1 =
      { doc with body := elements ++ [element'] } := by
  induction edits generalizing element with
  | nil => exact ⟨element, rfl⟩
  | cons edit edits ih =>
      obtain ⟨element', h⟩ := editTable_last doc elements element edit
      unfold editAll
      split
      · rename_i doc' heq
        obtain rfl : doc' = _ := (congrArg Prod.fst heq).symm.trans h
        exact ih element'
      · rename_i doc' e heq
        exact ⟨element', (congrArg Prod.fst heq).symm.trans h⟩

theorem createTable_eq_ok {doc doc' : Document} {rows cols id : Nat} (h : doc.createTable rows cols = .ok (doc', id)) :
    id = doc.body.length ∧ ∃ element, doc' = { doc with body := doc.body ++ [element] } := by
  unfold Document.createTable at h
  cases hn : Table.new rows cols with
  | error e => rw [hn] at h; cases h
  | ok table =>
      rw [hn] at h
      cases h
      exact ⟨rfl, .table table, rfl⟩

/-- The table appears, whole or in part, before anything is reported about it. -/
theorem lockstep_renderTable (alignments : List (Option Alignment)) (children : List Node) (line column : Nat) :
    Lockstep context s (renderTable alignments children line column) := by
  unfold renderTable
  refine lockstep_refuses _ (lockstep_refusedEdit ..) (.get_bind ?_)
  cases hc : s.doc.createTable (tableRows children).length (tableColumns alignments (tableRows children)) with
  | error e => exact lockstep_refusedEdit ..
  | ok created =>
      obtain ⟨doc, id⟩ := created
      obtain ⟨rfl, element, rfl⟩ := createTable_eq_ok hc
      let added (element : Element) : Document := { s.doc with body := s.doc.body ++ [element] }
      have hadded : ∀ element, s.Within { s with doc := added element } :=
        fun _ => ⟨List.prefix_append .., List.prefix_rfl, List.prefix_rfl⟩
      by_cases hr : context.refused.contains .editTable = true
      · refine .of_run { s with doc := added element } (fun policy => ?_) rfl (hadded _)
          (lockstep_refusedEdit "table" Operation.editTable.refusal line column)
        exact (run_set_bind ..).trans ((run_refuses ..).trans (if_pos hr))
      · obtain ⟨filled, refusal, hfilled⟩ : ∃ filled refusal, editAll { s.doc with body := s.doc.body ++ [element] }
            s.doc.body.length (tableEdits alignments (tableRows children)) = (filled, refusal) := ⟨_, _, rfl⟩
        obtain ⟨element', he⟩ : ∃ element', filled = added element' := by
          have last := editAll_last s.doc s.doc.body element (tableEdits alignments (tableRows children))
          rwa [hfilled] at last
        let ends : RenderM Unit := refusal.elim (Pure.pure ()) fun e => refusedEdit "table" e line column
        refine .of_run { s with doc := filled } (n := ends) (fun policy => ?_) rfl ?_ ?_
        · refine (run_set_bind ..).trans ((run_refuses ..).trans ((if_neg hr).trans ?_))
          rw [hfilled]
          cases refusal <;> rfl
        · rw [he]
          exact hadded _
        · cases refusal with
          | none => exact .pure _
          | some e => exact lockstep_refusedEdit ..

/-! ## Blocks -/

theorem lockstep_renderCode (line column : Nat) (lines : List String) (s : Rendering) :
    Lockstep context s (renderCode line column lines) := by
  induction lines generalizing s with
  | nil => exact .pure _
  | cons content rest ih =>
      let run : Run :=
        { text := if content.isEmpty then " " else content
          properties := { fontFamily := context.settings.style.codeFont } }
      let properties : ParagraphProperties :=
        { style := some Style.code
          indentation := some { left := some 360 }
          spacing := some { before := some 0, after := some (if rest.isEmpty then 120 else 0) } }
      exact .of_eq (n := do push { properties, runs := [run] } line column; renderCode line column rest)
        (fun _ => rfl) (.bind (lockstep_push ..) fun _ t => ih t)

/-- A heading with the settings at hand, which takes a bookmark if it is to be listed. -/
def headingSteps (settings : RenderSettings) (level : Nat) (runs : List Run) (title : List Char) (line column : Nat) :
    RenderM Unit :=
  let level := max 1 (min level 6)
  let heading (bookmark : Option String) : Paragraph :=
    { properties := { style := some (Style.heading level), bookmark }, runs }
  if settings.toc.enabled && level ≤ settings.toc.maxLevel then do
    let s ← get
    set { s with slugs := (s.slugs.unique (String.ofList title)).2 }
    push (heading (some ("_Toc_" ++ (s.slugs.unique (String.ofList title)).1))) line column
  else push (heading none) line column

theorem run_pushHeading (context : RenderContext) (s : Rendering) (level : Nat) (runs : List Run) (title : List Char)
    (line column : Nat) :
    pushHeading level runs title line column context s =
      headingSteps context.settings level runs title line column context s := rfl

theorem lockstep_pushHeading (level : Nat) (runs : List Run) (title : List Char) (line column : Nat) :
    Lockstep context s (pushHeading level runs title line column) := by
  refine .of_eq (n := headingSteps context.settings level runs title line column) (fun _ => run_pushHeading ..) ?_
  unfold headingSteps
  dsimp only
  split
  · exact .get_bind (.set_bind rfl (.of_eq rfl rfl rfl) (lockstep_push ..))
  · exact lockstep_push ..

theorem lockstep_itemStart : Lockstep context s itemStart := by
  refine .get_bind ?_
  dsimp only
  split
  · exact .set_bind rfl (.of_eq rfl rfl rfl) (.pure _)
  · exact .pure _

theorem lockstep_renderNotes : ∀ (nodes : List Node) (s : Rendering), Lockstep context s (renderNotes nodes)
  | [], s => by
    rw [renderNotes]
    exact .pure _
  | ⟨kind, children, line, column⟩ :: rest, s => by
    have hrest (runs : List Run) (t : Rendering) : Lockstep context t (do
        return Paragraph.ensureRun { runs } :: (← renderNotes rest)) :=
      .bind (lockstep_renderNotes rest t) fun _ _ => .pure _
    unfold renderNotes
    cases kind with
    | paragraph => exact .bind (lockstep_renderInlines _ children s) hrest
    | _ => exact hrest _ s

theorem lockstep_addFootnote (footnote : Footnote) (line column : Nat) :
    Lockstep context s (do
      if ← refuses .addFootnote then
        refusedEdit "footnote" Operation.addFootnote.refusal line column
      else
        let s ← get
        match s.doc.addFootnote footnote with
        | .ok doc => set { s with doc }
        | .error e => refusedEdit "footnote" e line column) := by
  refine lockstep_refuses _ (lockstep_refusedEdit ..) (.get_bind ?_)
  unfold Document.addFootnote
  split
  · rename_i doc h
    split at h
    · cases h
    · cases h
      exact .of_quiet (fun _ => rfl) rfl ⟨List.prefix_rfl, List.prefix_append .., List.prefix_rfl⟩
  · exact lockstep_refusedEdit ..

theorem lockstep_setEntries (entries : List (List Char × List Char)) (s : Rendering) :
    Lockstep context s (entries.forM fun (key, value) =>
      modifyDoc (·.setMetadata (String.ofList key) (String.ofList value))) := by
  induction entries generalizing s with
  | nil => exact .pure _
  | cons entry entries ih => exact .bind (lockstep_modify rfl (.of_eq rfl rfl rfl)) fun _ t => ih t

mutual

theorem lockstep_renderBlock : ∀ (node : Node) (s : Rendering), Lockstep context s (renderBlock node)
  | ⟨kind, children, line, column⟩, s => by
    unfold renderBlock
    cases kind with
    | document => exact lockstep_renderBlocks children s
    | frontMatter raw => exact lockstep_setEntries _ s
    | heading level =>
        exact .bind (lockstep_renderInlines _ children s) fun _ _ => lockstep_pushHeading ..
    | paragraph => exact .bind (lockstep_renderInlines _ children s) fun _ _ => lockstep_push ..
    | list ordered start =>
        refine .bind (lockstep_modify rfl (.of_eq rfl rfl rfl)) fun _ t => ?_
        exact .bind (lockstep_renderBlocks children t) fun _ _ => lockstep_modify rfl (.of_eq rfl rfl rfl)
    | listItem =>
        refine .bind lockstep_itemStart fun _ t => ?_
        dsimp only
        split
        · exact .bind (lockstep_renderInlines _ _ t) fun _ _ =>
            .bind (lockstep_push ..) fun _ u => lockstep_renderBlocks _ u
        · exact .bind (lockstep_push ..) fun _ u => lockstep_renderBlocks _ u
        · exact .bind (lockstep_renderInlines _ _ t) fun _ _ =>
            .bind (lockstep_push ..) fun _ u => lockstep_renderBlocks _ u
        · exact .bind (lockstep_push ..) fun _ u => lockstep_renderBlocks _ u
    | blockquote | thematicBreak | taskCheckBox => exact lockstep_push ..
    | codeBlock | fencedCodeBlock => exact lockstep_renderCode ..
    | table => exact lockstep_renderTable ..
    | mathBlock lines =>
        let run := mathRun context.settings (String.intercalate "\n" lines)
        let properties : ParagraphProperties := { style := some Style.math, alignment := some .center }
        exact .of_eq (n := push { properties, runs := [run] } line column) (fun _ => rfl) (lockstep_push ..)
    | footnoteDefinition label =>
        exact .bind (lockstep_footnoteId label) fun _ t =>
          .bind (lockstep_renderNotes children t) fun _ _ => lockstep_addFootnote ..
    | text | softBreak | lineBreak | codeSpan | emphasis | strikethrough | link | image | inlineMath
    | footnoteReference => exact .bind (lockstep_renderInline _ _ s) fun _ _ => lockstep_push ..
    | tableRow | tableCell | unsupported => exact lockstep_unsupported ..

theorem lockstep_renderBlocks : ∀ (nodes : List Node) (s : Rendering), Lockstep context s (renderBlocks nodes)
  | [], s => by
    rw [renderBlocks]
    exact .pure _
  | node :: rest, s => by
    rw [renderBlocks]
    exact .bind (lockstep_renderBlock node s) fun _ t => lockstep_renderBlocks rest t

end

/-! ## Whole trees -/

/-- An empty document, to be rendered into. -/
def Rendering.start (settings : RenderSettings) : Rendering where
  doc := { defaults := { fontFamily := some settings.style.fontFamily, fontSize := some settings.style.fontSize } }

/-- The lenient rendering of a tree succeeds, and every policy follows it. -/
theorem renderInto_follows (context : RenderContext) (tree : Node) :
    ∃ t, renderInto (context.under .lenient) tree = (.ok (), t) ∧
      ∀ policy, Follows policy (.start context.settings) t.diagnostics () t (renderInto (context.under policy) tree) := by
  obtain ⟨⟨⟩, t, ds, hrun, hd, -, hfollow⟩ := @lockstep_renderBlock context tree (.start context.settings)
  obtain rfl : t.diagnostics = ds := hd
  exact ⟨t, hrun, hfollow⟩

/-- A rendering ends early with a diagnostic that ends it under its policy, one of the lenient rendering. -/
theorem endsAt_of_renderInto {context : RenderContext} {tree : Node} {d : Diagnostic}
    (h : (renderInto context tree).1 = .error d) :
    context.settings.errors.endsAt d = true ∧ d ∈ (renderInto (context.under .lenient) tree).2.diagnostics := by
  obtain ⟨t, hlenient, hfollow⟩ := renderInto_follows context tree
  have hrun : Follows context.settings.errors (.start context.settings) t.diagnostics () t (renderInto context tree) :=
    hfollow context.settings.errors
  unfold Follows at hrun
  rw [hlenient]
  cases hfind : t.diagnostics.find? context.settings.errors.endsAt with
  | none =>
      rw [hfind] at hrun
      rw [hrun] at h
      cases h
  | some first =>
      rw [hfind] at hrun
      obtain rfl : d = first := Except.error.inj (h.symm.trans hrun.1)
      exact ⟨List.find?_some hfind, List.mem_of_find?_eq_some hfind⟩

/-- Under a policy that does not abort a rendering succeeds. -/
theorem renderInto_ok {context : RenderContext} (h : context.settings.errors.aborts = false) (tree : Node) :
    (renderInto context tree).1 = .ok () := by
  cases hrun : (renderInto context tree).1 with
  | ok done => rfl
  | error d => exact absurd (endsAt_of_renderInto hrun).1 (by simp [ErrorPolicy.endsAt_of_not_aborts h d])

/-- **A policy only decides where a rendering ends.** The lenient rendering of a tree succeeds. Under another policy,
whatever the document refuses, the rendering ends at the first of the lenient diagnostics that ends it under that
policy, with the diagnostics up to there and a part of the lenient document; without one it is the lenient rendering. -/
theorem renderInto_under (context : RenderContext) (policy : ErrorPolicy) (tree : Node) :
    let lenient := renderInto (context.under .lenient) tree
    let run := renderInto (context.under policy) tree
    lenient.1 = .ok () ∧
      match lenient.2.diagnostics.find? policy.endsAt with
      | none => run = lenient
      | some d =>
        run.1 = .error d ∧
        run.2.diagnostics = lenient.2.diagnostics.takeWhile (fun d => !policy.endsAt d) ++ [d] ∧
        run.2.Within lenient.2 := by
  intro lenient run
  obtain ⟨t, hlenient, hfollow⟩ := renderInto_follows context tree
  have hlenient : lenient = (.ok (), t) := hlenient
  have h : Follows policy (.start context.settings) t.diagnostics () t run := hfollow policy
  rw [hlenient]
  refine ⟨rfl, ?_⟩
  unfold Follows at h
  split <;> rename_i hfind <;> rw [hfind] at h <;> exact h

end Markdown
end Folio
