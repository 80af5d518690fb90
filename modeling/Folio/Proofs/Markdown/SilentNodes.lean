import Folio.Markdown.Node
import Mathlib.Tactic.Common

/-!
# Nodes without text

A check box and a reference to a note have no text of their own. A reference stands inside a line, so the text around it
is the same without it. A check box counts as a block: a line feed stands between it and the next block, and goes when
the box goes. Taking nodes without text out of a tree keeps the text of the tree exactly when each row that loses a
check box has no other block in it, or its text is not looked at.

* `Thinning` : the nodes that are taken out of a row of trees, at any depth;
* `Thinning.Alone`, `Thinning.Quiet` : no line feed goes with a check box, in the row itself and further down;
* `length_textOfAll` : the length of a text is the letters of its nodes and the line feeds between its blocks;
* `Thinning.textOfAll_sublist`, `Thinning.letters_eq_iff` : nothing is added, and letters are lost below a row exactly
  where a line feed goes;
* `Thinning.quiet_of_isInline` : none goes with a reference;
* `textContent_thinned_iff` : the text stays the same exactly when no line feed goes.
-/

namespace Folio.Markdown

/-- The kinds that have no text and no text below them. -/
def Kind.isSilent : Kind → Bool
  | .taskCheckBox _ | .footnoteReference _ => true
  | _ => false

/-- The number of blocks in a row of nodes. -/
def blockCount (nodes : List Node) : Nat := nodes.countP (!·.isInline)

/-- The number of characters that the nodes of a row have as their text, each by itself. -/
def letters (nodes : List Node) : Nat := (nodes.flatMap Node.textChars).length

theorem letters_cons (node : Node) (rest : List Node) :
    letters (node :: rest) = node.textChars.length + letters rest := by
  rw [letters, List.flatMap_cons, List.length_append, letters]

/-- What is taken out of the trees `before`, so that `after` is left: nodes without text and without children. -/
inductive Thinning : List Node → List Node → Type where
  | nil : Thinning [] []
  | keep (kind : Kind) (line column : Nat) {children fewer rest more : List Node} (below : Thinning children fewer)
      (behind : Thinning rest more) :
      Thinning (⟨kind, children, line, column⟩ :: rest) (⟨kind, fewer, line, column⟩ :: more)
  | drop (kind : Kind) (line column : Nat) {rest more : List Node} (silent : kind.isSilent = true)
      (behind : Thinning rest more) : Thinning (⟨kind, [], line, column⟩ :: rest) more

namespace Thinning

variable {before after : List Node}

/-- The number of blocks taken out of the row itself. -/
def boxes {before after : List Node} : Thinning before after → Nat
  | .nil => 0
  | .keep _ _ _ _ behind => behind.boxes
  | .drop kind _ _ _ behind => (if kind.isInline then 0 else 1) + behind.boxes

/-- The kinds of the nodes that are taken out, from the whole of the trees. -/
def dropped {before after : List Node} : Thinning before after → List Kind
  | .nil => []
  | .keep _ _ _ below behind => below.dropped ++ behind.dropped
  | .drop kind _ _ _ behind => kind :: behind.dropped

/-- The row loses no block, or it has no more than one: there is no line feed to lose. -/
def Alone (t : Thinning before after) : Prop := t.boxes = 0 ∨ blockCount before ≤ 1

/-- No line feed is lost below the row, as far as the text there is looked at. -/
def Quiet {before after : List Node} : Thinning before after → Prop
  | .nil => True
  | .keep kind _ _ below behind => (kind.ownText = none → below.Alone ∧ below.Quiet) ∧ behind.Quiet
  | .drop _ _ _ _ behind => behind.Quiet

end Thinning

/-! ## Letters and line feeds -/

section Length
variable {kind : Kind} {children : List Node} {line column : Nat}

theorem textChars_of_ownText_none (h : kind.ownText = none) :
    (⟨kind, children, line, column⟩ : Node).textChars = textOfAll true children := by
  rw [Node.textChars, h]

theorem textChars_of_ownText_some {own : List Char} (h : kind.ownText = some own) :
    (⟨kind, children, line, column⟩ : Node).textChars = own := by
  rw [Node.textChars, h]

theorem textChars_of_isSilent (h : kind.isSilent = true) :
    (⟨kind, children, line, column⟩ : Node).textChars = [] := by
  apply textChars_of_ownText_some
  cases kind <;> first | rfl | cases h

theorem textChars_sublist (kind : Kind) (line column : Nat) {children fewer : List Node}
    (h : (textOfAll true fewer).Sublist (textOfAll true children)) :
    (⟨kind, fewer, line, column⟩ : Node).textChars.Sublist (⟨kind, children, line, column⟩ : Node).textChars := by
  cases hown : kind.ownText with
  | some own =>
      have hsame : (⟨kind, fewer, line, column⟩ : Node).textChars = (⟨kind, children, line, column⟩ : Node).textChars :=
        (textChars_of_ownText_some hown).trans (textChars_of_ownText_some hown).symm
      exact hsame ▸ List.Sublist.refl _
  | none =>
      rw [textChars_of_ownText_none hown, textChars_of_ownText_none hown]
      exact h

/-- A text is made of the letters of its nodes and of a line feed in front of every block but the first. -/
theorem length_textOfAll (first : Bool) (nodes : List Node) :
    (textOfAll first nodes).length = letters nodes + (blockCount nodes - if first then 1 else 0) := by
  induction nodes generalizing first with
  | nil => simp [textOfAll, letters, blockCount]
  | cons node rest ih =>
      rw [textOfAll, letters_cons]
      cases hinline : node.kind.isInline with
      | true =>
          have hcount : blockCount (node :: rest) = blockCount rest :=
            List.countP_cons_of_neg (by simp [Node.isInline, hinline])
          rw [if_pos rfl, List.length_append, ih, hcount]
          omega
      | false =>
          have hcount : blockCount (node :: rest) = blockCount rest + 1 :=
            List.countP_cons_of_pos (by simp [Node.isInline, hinline])
          rw [if_neg Bool.false_ne_true, List.length_append, List.length_append, ih false, hcount]
          cases first with
          | true => simp only [if_true, if_false, List.length_nil, Bool.false_eq_true]; omega
          | false => simp only [if_false, List.length_singleton, Bool.false_eq_true]; omega

end Length

namespace Thinning

/-! ## Rows without some of their nodes -/

variable {before after : List Node}

/-- The blocks of a row are those that stay and those that are taken out. -/
theorem blockCount_eq (t : Thinning before after) : blockCount before = blockCount after + t.boxes := by
  induction t with
  | nil => rfl
  | keep kind line column below behind _ ih =>
      simp only [blockCount, List.countP_cons, Node.isInline, boxes] at ih ⊢
      omega
  | drop kind line column silent behind ih =>
      simp only [blockCount, List.countP_cons, Node.isInline, boxes] at ih ⊢
      cases kind.isInline <;> simp only [Bool.not_true, Bool.not_false, if_true, if_false, Bool.false_eq_true] <;> omega

/-- What is left of a text stands in the text in its order. -/
theorem textOfAll_sublist (t : Thinning before after) {first first' : Bool} (h : first = true → first' = true) :
    (textOfAll first' after).Sublist (textOfAll first before) := by
  induction t generalizing first first' with
  | nil => exact List.Sublist.refl _
  | keep kind line column below behind ihBelow ih =>
      have hnode := textChars_sublist kind line column (ihBelow id)
      rw [textOfAll, textOfAll]
      cases kind.isInline with
      | true => exact hnode.append (ih h)
      | false =>
          refine (List.Sublist.append ?_ hnode).append (ih id)
          cases first' with
          | true => exact List.nil_sublist _
          | false =>
              obtain rfl : first = false := Bool.eq_false_iff.mpr fun hfirst => Bool.false_ne_true (h hfirst)
              exact List.Sublist.refl _
  | drop kind line column silent behind ih =>
      rw [textOfAll, textChars_of_isSilent silent]
      cases kind.isInline with
      | true => exact ih h
      | false => exact (ih fun hfirst => absurd hfirst Bool.false_ne_true).trans (List.sublist_append_right _ _)

/-! ## Letters that go with a line feed -/

/-- A node keeps the length of its text exactly when it does not look below, or no line feed is lost there. -/
theorem length_kept (kind : Kind) (line column : Nat) (below : Thinning before after)
    (hle : letters after ≤ letters before) (heq : letters after = letters before ↔ below.Quiet) :
    (⟨kind, after, line, column⟩ : Node).textChars.length ≤ (⟨kind, before, line, column⟩ : Node).textChars.length ∧
      ((⟨kind, after, line, column⟩ : Node).textChars.length =
          (⟨kind, before, line, column⟩ : Node).textChars.length ↔
        (kind.ownText = none → below.Alone ∧ below.Quiet)) := by
  cases hown : kind.ownText with
  | some own => simp [textChars_of_ownText_some hown]
  | none =>
      have hblocks := below.blockCount_eq
      rw [textChars_of_ownText_none hown, textChars_of_ownText_none hown, length_textOfAll, length_textOfAll, if_pos rfl,
        ← heq, Alone, forall_prop_of_true rfl]
      omega

/-- A row has no more letters than before, and as many exactly when no line feed is lost below it. -/
theorem letters_eq_iff (t : Thinning before after) :
    letters after ≤ letters before ∧ (letters after = letters before ↔ t.Quiet) := by
  induction t with
  | nil => exact ⟨Nat.le_refl _, iff_of_true rfl trivial⟩
  | keep kind line column below behind ihBelow ih =>
      obtain ⟨hnode, hnodeEq⟩ := length_kept kind line column below ihBelow.1 ihBelow.2
      obtain ⟨hrest, hrestEq⟩ := ih
      rw [Quiet, ← hnodeEq, ← hrestEq, letters_cons, letters_cons]
      omega
  | drop kind line column silent behind ih =>
      rw [letters_cons, textChars_of_isSilent silent, List.length_nil, Nat.zero_add]
      exact ih

/-- A reference is no block, so no line feed is lost with references alone. -/
theorem quiet_of_isInline (t : Thinning before after) (h : ∀ kind ∈ t.dropped, kind.isInline = true) :
    t.boxes = 0 ∧ t.Quiet := by
  induction t with
  | nil => exact ⟨rfl, trivial⟩
  | keep kind line column below behind ihBelow ih =>
      obtain ⟨hbelow, hbehind⟩ := List.forall_mem_append.mp h
      obtain ⟨hboxes, hquiet⟩ := ihBelow hbelow
      exact ⟨(ih hbehind).1, fun _ => ⟨.inl hboxes, hquiet⟩, (ih hbehind).2⟩
  | drop kind line column silent behind ih =>
      obtain ⟨hkind, hbehind⟩ := List.forall_mem_cons.mp h
      refine ⟨?_, (ih hbehind).2⟩
      rw [boxes, if_pos hkind, (ih hbehind).1]

end Thinning

/-! ## Texts without nodes that have none -/

section Content
variable {before after : List Node} (kind : Kind) (line column : Nat) (t : Thinning before after)
include t

theorem textContent_eq_iff_length :
    (⟨kind, after, line, column⟩ : Node).textContent = (⟨kind, before, line, column⟩ : Node).textContent ↔
      (⟨kind, after, line, column⟩ : Node).textChars.length =
        (⟨kind, before, line, column⟩ : Node).textChars.length := by
  rw [Node.textContent, Node.textContent, String.ofList_inj]
  exact ⟨congrArg List.length, (textChars_sublist kind line column (t.textOfAll_sublist id)).eq_of_length⟩

/-- The text of a node stays the same without some nodes that have no text, exactly when the node has a text of its own,
or no line feed is lost in the row of its children and below. It always stays the same without references to notes. -/
theorem textContent_thinned_iff :
    ((⟨kind, after, line, column⟩ : Node).textContent = (⟨kind, before, line, column⟩ : Node).textContent ↔
      (kind.ownText = none → t.Alone ∧ t.Quiet)) ∧
    ((∀ kind ∈ t.dropped, kind.isInline = true) →
      (⟨kind, after, line, column⟩ : Node).textContent = (⟨kind, before, line, column⟩ : Node).textContent) := by
  have hiff : (⟨kind, after, line, column⟩ : Node).textContent = (⟨kind, before, line, column⟩ : Node).textContent ↔
      (kind.ownText = none → t.Alone ∧ t.Quiet) := by
    obtain ⟨hle, heq⟩ := t.letters_eq_iff
    rw [textContent_eq_iff_length kind line column t, (Thinning.length_kept kind line column t hle heq).2]
  refine ⟨hiff, fun h => hiff.mpr fun _ => ?_⟩
  obtain ⟨hboxes, hquiet⟩ := t.quiet_of_isInline h
  exact ⟨.inl hboxes, hquiet⟩

end Content

/-- A task in a quote: the box is taken out of its item, and the line feed in front of the paragraph goes with it. -/
theorem textContent_thinned_task :
    let text : Node := ⟨.paragraph, [⟨.text "a", [], 1, 9⟩], 1, 9⟩
    let list (children : List Node) : Node := ⟨.list false 1, [⟨.listItem, children, 1, 3⟩], 1, 3⟩
    Nonempty (Thinning [list [⟨.taskCheckBox true, [], 1, 3⟩, text]] [list [text]]) ∧
      (⟨.blockquote, [list [⟨.taskCheckBox true, [], 1, 3⟩, text]], 1, 1⟩ : Node).textContent = "\na" ∧
      (⟨.blockquote, [list [text]], 1, 1⟩ : Node).textContent = "a" :=
  ⟨⟨.keep _ _ _ (.keep _ _ _ (.drop _ _ _ rfl (.keep _ _ _ (.keep _ _ _ .nil .nil) .nil)) .nil) .nil⟩, by decide,
    by decide⟩

end Folio.Markdown
