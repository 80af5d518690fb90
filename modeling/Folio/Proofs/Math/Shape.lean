import Folio.Proofs.Math.Constructs
import Mathlib.Logic.Relation

/-!
# The shape of parsed formulas

* `Formula.Path` : the ways from a formula down to one that has none below it;
* `Formula.Bounded levels` : no way down meets more than `levels` fractions, roots and scripts;
* `Formula.Collapsed` : below a formula no group stands in a group and none has a single part;
* `parseNodes_fits` : what a source is parsed to is bounded by the levels that are left, and collapsed.
-/

namespace Folio.Math

/-! ## Formulas below a formula -/

/-- The formulas directly below a formula. -/
def Formula.children : Formula → List Formula
  | .run _ => []
  | .group parts => parts
  | .frac num den => [num, den]
  | .sqrt radicand => [radicand]
  | .root degree radicand => [degree, radicand]
  | .sup _ exponent => [exponent]
  | .sub _ subscript => [subscript]
  | .subsup _ subscript exponent => [subscript, exponent]

/-- The formula is a group. -/
def Formula.isGroup : Formula → Bool
  | .group _ => true
  | _ => false

/-- The formula is a fraction, a root or a character with scripts. -/
def Formula.isConstruct : Formula → Bool
  | .run _ | .group _ => false
  | _ => true

/-- The list goes down from a formula to one that has none below it. -/
inductive Formula.Path : Formula → List Formula → Prop where
  | leaf {formula : Formula} (h : formula.children = []) : Path formula [formula]
  | step {formula child : Formula} {path : List Formula} (h : child ∈ formula.children) (below : Path child path) :
    Path formula (formula :: path)

/-- The formulas below a formula at any depth, itself included. -/
def Formula.Within : Formula → Formula → Prop := Relation.ReflTransGen fun formula child => child ∈ formula.children

/-- No way down from the formula meets more than `levels` fractions, roots and scripts. -/
def Formula.Bounded (levels : Nat) (formula : Formula) : Prop :=
  ∀ path, formula.Path path → path.countP Formula.isConstruct ≤ levels

/-- The formula can stand below `outer`: a group stands in no group and has not just one part. -/
def Formula.CanStandBelow (formula outer : Formula) : Prop :=
  formula.isGroup = true → outer.isGroup = false ∧ formula.children.length ≠ 1

/-- All formulas below the formula stand where they can. -/
def Formula.Collapsed (formula : Formula) : Prop :=
  ∀ outer inner, formula.Within outer → inner ∈ outer.children → inner.CanStandBelow outer

/-! ## From the children to the formula -/

section Children
variable {formula : Formula} {levels : Nat}

/-- A formula that is no construct adds no level to what its children are bounded by. -/
theorem Formula.Bounded.of_children (h : ∀ child ∈ formula.children, child.Bounded levels)
    (hf : formula.isConstruct = false) : formula.Bounded levels := by
  intro path hp
  cases hp with
  | leaf => simp [hf]
  | step hc below =>
      rw [List.countP_cons_of_neg (by simp [hf])]
      exact h _ hc _ below

/-- A construct adds one level. -/
theorem Formula.Bounded.succ_of_children (h : ∀ child ∈ formula.children, child.Bounded levels) :
    formula.Bounded (levels + 1) := by
  intro path hp
  cases hp with
  | leaf => exact Nat.le_trans List.countP_le_length (Nat.le_add_left 1 levels)
  | step hc below =>
      have := h _ hc _ below
      rw [List.countP_cons]
      split_ifs <;> omega

theorem Formula.Bounded.mono {levels' : Nat} (h : formula.Bounded levels) (hl : levels ≤ levels') :
    formula.Bounded levels' := fun path hp => Nat.le_trans (h path hp) hl

theorem Formula.Collapsed.of_children (h : ∀ child ∈ formula.children, child.Collapsed)
    (hf : ∀ child ∈ formula.children, child.CanStandBelow formula) : formula.Collapsed := by
  intro outer inner hw hi
  rcases hw.cases_head with rfl | ⟨child, hc, below⟩
  · exact hf inner hi
  · exact h child hc outer inner below hi

end Children

/-! ## Items and sources -/

/-- The formula can stand below a construct, with no more than `levels` levels from it on. -/
structure Fits (levels : Nat) (formula : Formula) : Prop where
  bounded : formula.Bounded levels
  collapsed : formula.Collapsed
  parts : formula.isGroup = true → formula.children.length ≠ 1

theorem fits_run (levels : Nat) (text : String) : Fits levels (.run text) where
  bounded := .of_children (fun _ h => absurd h List.not_mem_nil) rfl
  collapsed := .of_children (fun _ h => absurd h List.not_mem_nil) fun _ h => absurd h List.not_mem_nil
  parts h := absurd h Bool.false_ne_true

/-- The formulas of a row fit below `levels` levels, and none is a group. -/
def RowFits (levels : Nat) (row : List Formula) : Prop := ∀ formula ∈ row, formula.isGroup = false ∧ Fits levels formula

section Rows
variable {levels depth : Nat} {row : List Formula}

theorem RowFits.bounded (h : RowFits levels row) : (Formula.group row).Bounded levels :=
  .of_children (fun _ hc => (h _ hc).2.bounded) rfl

theorem RowFits.collapsed (h : RowFits levels row) : (Formula.group row).Collapsed :=
  .of_children (fun _ hc => (h _ hc).2.collapsed) fun _ hc hg =>
    absurd ((h _ hc).1.symm.trans hg) Bool.false_ne_true

/-- A row becomes one formula that fits as well. -/
theorem RowFits.ofParts (h : RowFits levels row) : Fits levels (.ofParts row) := by
  match row with
  | [] => exact ⟨h.bounded, h.collapsed, fun _ => by decide⟩
  | [part] => exact (h part List.mem_cons_self).2
  | _ :: _ :: _ => exact ⟨h.bounded, h.collapsed, fun _ => by simp [Formula.ofParts, Formula.children]⟩

theorem parseArgument_fits {argument : Argument} (h : ∀ part ∈ argument.parts, RowFits levels (parsePart depth part)) :
    Fits levels (parseArgument depth argument) := by
  cases argument with
  | part source =>
      rw [parseArgument]
      exact (h source (List.mem_singleton.mpr rfl)).ofParts
  | text text =>
      rw [parseArgument]
      exact fits_run levels _

/-- A formula that is no group adds at most one level to its children. -/
theorem rowFits_singleton {formula : Formula} (hf : formula.isGroup = false)
    (h : ∀ child ∈ formula.children, Fits levels child) : RowFits (levels + 1) [formula] := by
  intro f hm
  rw [List.mem_singleton.mp hm]
  exact ⟨hf, .succ_of_children fun child hc => (h child hc).bounded,
    .of_children (fun child hc => (h child hc).collapsed) fun child hc hg => ⟨hf, (h child hc).parts hg⟩,
    fun hg => absurd (hf.symm.trans hg) Bool.false_ne_true⟩

/-- Over parts that fit below `levels` levels an item stands for formulas that fit below one level more. -/
theorem Item.nodes_fits {item : Item} (h : ∀ part ∈ item.parts, RowFits levels (parsePart depth part)) :
    RowFits (levels + 1) (item.nodes depth) := by
  cases item with
  | run text => exact rowFits_singleton rfl fun _ hm => absurd hm List.not_mem_nil
  | group part =>
      intro formula hm
      obtain ⟨hg, fits⟩ := h part (List.mem_singleton.mpr rfl) formula hm
      exact ⟨hg, fits.bounded.mono (Nat.le_succ levels), fits.collapsed, fits.parts⟩
  | frac num den =>
      simp only [parts, List.mem_cons, List.not_mem_nil, or_false, forall_eq_or_imp, forall_eq] at h
      exact rowFits_singleton rfl (List.forall_mem_cons.mpr
        ⟨h.1.ofParts, List.forall_mem_singleton.mpr h.2.ofParts⟩)
  | sqrt radicand =>
      exact rowFits_singleton rfl (List.forall_mem_singleton.mpr (h radicand (List.mem_singleton.mpr rfl)).ofParts)
  | root degree radicand =>
      simp only [parts, List.mem_cons, List.not_mem_nil, or_false, forall_eq_or_imp, forall_eq] at h
      exact rowFits_singleton rfl (List.forall_mem_cons.mpr
        ⟨h.1.ofParts, List.forall_mem_singleton.mpr h.2.ofParts⟩)
  | sup base exponent => exact rowFits_singleton rfl (List.forall_mem_singleton.mpr (parseArgument_fits h))
  | sub base subscript => exact rowFits_singleton rfl (List.forall_mem_singleton.mpr (parseArgument_fits h))
  | subsup base subscript exponent =>
      simp only [parts, List.mem_append] at h
      exact rowFits_singleton rfl (List.forall_mem_cons.mpr
        ⟨parseArgument_fits fun part hp => h part (.inl hp),
          List.forall_mem_singleton.mpr (parseArgument_fits fun part hp => h part (.inr hp))⟩)

end Rows

/-- What a source is parsed to fits below the levels that are left at its depth and one more. -/
theorem parseNodes_fits (depth : Nat) (cs : List Char) : RowFits (maxDepth - depth + 1) (parseNodes depth cs) := by
  induction depth, cs using sourceInduction with
  | nil depth =>
      rw [parseNodes]
      exact fun _ hm => absurd hm List.not_mem_nil
  | cons depth c cs inside behind =>
      rw [parseNodes_cons]
      have first : RowFits (maxDepth - depth + 1) ((readItem c cs).1.nodes depth) := by
        refine Item.nodes_fits fun part hp => ?_
        rw [parsePart]
        split_ifs with hd
        · intro formula hm
          rw [List.mem_singleton.mp hm]
          exact ⟨rfl, fits_run _ _⟩
        · have := inside part hp
          rwa [show maxDepth - (depth + 1) + 1 = maxDepth - depth by omega] at this
      intro formula hm
      rcases List.mem_append.mp hm with hm | hm
      · exact first formula hm
      · exact behind formula hm

end Folio.Math
