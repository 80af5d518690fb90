import Folio.Math.Source
import Mathlib.Tactic.Common

/-!
# Brackets in the source of a formula

A backslash hides the character after it; what is left of a source, `shown`, is what its brackets are counted in.

* `balancedFrom opening closing depth cs` : reading `cs` closes the `depth` open brackets and all that it opens;
* `NestsWithin limit cs` : no place of `cs` lies inside more than `limit` pairs of braces and square brackets;
* `readBalanced_append` : in front of balanced text the scan for a closing bracket stops at the first one after it;
* `balancedFrom_of_readBalanced` : what the scan reads over up to the bracket is balanced.
-/

namespace Folio.Math
open Unicode (isAlphanumeric isBlank)

/-! ## Counting brackets -/

/-- Every bracket closes one that is open, `depth` of them in front of the text; none is left open at the end, and no
backslash stands last. A backslash hides the character after it. -/
def balancedFrom (opening closing : Char) : Nat → List Char → Bool
  | depth, [] => depth = 0
  | _, ['\\'] => false
  | depth, '\\' :: _ :: cs => balancedFrom opening closing depth cs
  | depth, c :: cs =>
    if c = opening then balancedFrom opening closing (depth + 1) cs
    else if c = closing then decide (0 < depth) && balancedFrom opening closing (depth - 1) cs
    else balancedFrom opening closing depth cs

/-- The brackets of the text close in pairs. -/
def Balanced (opening closing : Char) (text : String) : Prop := balancedFrom opening closing 0 text.toList = true

instance (opening closing : Char) (text : String) : Decidable (Balanced opening closing text) :=
  inferInstanceAs (Decidable (_ = true))

/-- The text without its backslashes and the characters that they hide. -/
def shown : List Char → List Char
  | [] => []
  | ['\\'] => []
  | '\\' :: _ :: cs => shown cs
  | c :: cs => c :: shown cs

/-- How many brackets are open after the text, with `count` of them open in front of it. -/
def leftOpen (opening closing : Char) (count : Nat) : List Char → Nat
  | [] => count
  | c :: cs =>
    if c = opening then leftOpen opening closing (count + 1) cs
    else if c = closing then leftOpen opening closing (count - 1) cs
    else leftOpen opening closing count cs

/-- How many brackets the text closes beyond those it opens and the `count` open in front of it. -/
def closedBeyond (opening closing : Char) (count : Nat) : List Char → Nat
  | [] => 0
  | c :: cs =>
    if c = opening then closedBeyond opening closing (count + 1) cs
    else if c = closing then
      if count = 0 then closedBeyond opening closing 0 cs + 1 else closedBeyond opening closing (count - 1) cs
    else closedBeyond opening closing count cs

/-- How many pairs of brackets open in `before` and close in `after`. -/
def pairsAround (opening closing : Char) (before after : List Char) : Nat :=
  min (leftOpen opening closing 0 before) (closedBeyond opening closing 0 after)

/-- No place of the text lies inside more than `limit` pairs of braces and square brackets. -/
def NestsWithin (limit : Nat) (text : String) : Prop :=
  ∀ before after, shown text.toList = before ++ after →
    pairsAround '\x7b' '\x7d' before after + pairsAround '[' ']' before after ≤ limit

section Counts
variable (opening closing : Char)

theorem leftOpen_append (count : Nat) (xs ys : List Char) :
    leftOpen opening closing count (xs ++ ys) = leftOpen opening closing (leftOpen opening closing count xs) ys := by
  induction xs generalizing count with
  | nil => rfl
  | cons x xs ih =>
      simp only [List.cons_append, leftOpen]
      split_ifs <;> exact ih _

theorem closedBeyond_append (count : Nat) (xs ys : List Char) :
    closedBeyond opening closing count (xs ++ ys) =
      closedBeyond opening closing count xs + closedBeyond opening closing (leftOpen opening closing count xs) ys := by
  induction xs generalizing count with
  | nil => simp [leftOpen, closedBeyond]
  | cons x xs ih =>
      simp only [List.cons_append, leftOpen, closedBeyond]
      split_ifs with ho hc hz
      · exact ih _
      · rw [ih, hz, Nat.zero_sub]
        omega
      · exact ih _
      · exact ih _

/-- More open brackets in front of a text stay open as far as the text does not close them. -/
theorem leftOpen_add (count more : Nat) (xs : List Char) :
    leftOpen opening closing (count + more) xs =
      leftOpen opening closing count xs + (more - closedBeyond opening closing count xs) := by
  induction xs generalizing count more with
  | nil => simp [leftOpen, closedBeyond]
  | cons x xs ih =>
      simp only [leftOpen, closedBeyond]
      split_ifs with ho hc hz
      · rw [← ih, Nat.add_right_comm]
      · subst hz
        have := ih 0 (more - 1)
        simp only [Nat.zero_add, Nat.zero_sub] at this ⊢
        rw [this]
        omega
      · rw [← ih, Nat.sub_add_comm (Nat.one_le_iff_ne_zero.2 hz)]
      · exact ih _ _

theorem leftOpen_le_append (xs ys : List Char) :
    leftOpen opening closing 0 ys ≤ leftOpen opening closing 0 (xs ++ ys) := by
  have h := leftOpen_add opening closing 0 (leftOpen opening closing 0 xs) ys
  rw [leftOpen_append]
  rw [Nat.zero_add] at h
  omega

theorem closedBeyond_le_append (xs ys : List Char) :
    closedBeyond opening closing 0 xs ≤ closedBeyond opening closing 0 (xs ++ ys) := by
  rw [closedBeyond_append]
  exact Nat.le_add_right ..

/-- Text around a place only adds to the pairs that it lies in. -/
theorem pairsAround_le_append (xs before after ys : List Char) :
    pairsAround opening closing before after ≤ pairsAround opening closing (xs ++ before) (after ++ ys) := by
  have h := leftOpen_le_append opening closing xs before
  have h' := closedBeyond_le_append opening closing after ys
  simp only [pairsAround]
  omega

end Counts

/-! ## Balanced text and the scan for a closing bracket -/

/-- Induction over a text token by token, where a backslash and the character that it hides are one token. -/
@[elab_as_elim]
theorem tokenInduction {motive : List Char → Prop} (nil : motive []) (last : motive ['\\'])
    (hidden : ∀ c cs, motive cs → motive ('\\' :: c :: cs))
    (plain : ∀ c cs, c ≠ '\\' → motive cs → motive (c :: cs)) (cs : List Char) : motive cs := by
  induction cs using shown.induct with
  | case1 => exact nil
  | case2 => exact last
  | case3 c cs ih => exact hidden c cs ih
  | case4 c cs h h' ih =>
      refine plain c cs (fun hc => ?_) ih
      cases cs with
      | nil => exact h hc rfl
      | cons d ds => exact h' d ds hc rfl

theorem shown_cons {c : Char} (h : c ≠ '\\') (cs : List Char) : shown (c :: cs) = c :: shown cs := by
  rw [shown] <;> simp [h]

section Scan
variable {opening closing : Char}

theorem balancedFrom_cons {c : Char} (h : c ≠ '\\') (depth : Nat) (cs : List Char) :
    balancedFrom opening closing depth (c :: cs) =
      if c = opening then balancedFrom opening closing (depth + 1) cs
      else if c = closing then decide (0 < depth) && balancedFrom opening closing (depth - 1) cs
      else balancedFrom opening closing depth cs := by
  rw [balancedFrom] <;> simp [h]

/-- A character in front of what the scan finds. -/
def prepend (c : Char) (found : List Char × Bool × List Char) : List Char × Bool × List Char :=
  (c :: found.1, found.2)

theorem eq_of_prepend {c : Char} {found : List Char × Bool × List Char} {inner rest : List Char} {closed : Bool}
    (h : prepend c found = (inner, closed, rest)) : ∃ inner', inner = c :: inner' ∧ found = (inner', closed, rest) := by
  obtain ⟨inner', closed', rest'⟩ := found
  cases h
  exact ⟨inner', rfl, rfl⟩

theorem readBalanced_hidden (depth : Nat) (c : Char) (cs : List Char) :
    readBalanced opening closing depth ('\\' :: c :: cs) =
      prepend '\\' (prepend c (readBalanced opening closing depth cs)) := by
  rw [readBalanced]
  rfl

theorem readBalanced_cons {c : Char} (h : c ≠ '\\') (depth : Nat) (cs : List Char) :
    readBalanced opening closing depth (c :: cs) =
      if c = opening then prepend c (readBalanced opening closing (depth + 1) cs)
      else if c = closing then
        if depth ≤ 1 then ([], true, cs) else prepend c (readBalanced opening closing (depth - 1) cs)
      else prepend c (readBalanced opening closing depth cs) := by
  rw [readBalanced] <;> simp [h, prepend]

/-- A balanced text hides nothing of what follows it. -/
theorem shown_append_of_balancedFrom {depth : Nat} {xs : List Char} (h : balancedFrom opening closing depth xs = true)
    (ys : List Char) : shown (xs ++ ys) = shown xs ++ shown ys := by
  induction xs using tokenInduction generalizing depth with
  | nil => rfl
  | last => simp [balancedFrom] at h
  | hidden c cs ih =>
      rw [balancedFrom] at h
      exact ih h
  | plain c cs hc ih =>
      rw [balancedFrom_cons hc] at h
      rw [List.cons_append, shown_cons hc, shown_cons hc, List.cons_append]
      congr 1
      split_ifs at h
      · exact ih h
      · exact ih (Bool.and_eq_true _ _ ▸ h).2
      · exact ih h

/-- A balanced text closes the brackets that are open in front of it, and no others. -/
theorem counts_of_balancedFrom {depth : Nat} {xs : List Char} (h : balancedFrom opening closing depth xs = true) :
    leftOpen opening closing depth (shown xs) = 0 ∧ closedBeyond opening closing depth (shown xs) = 0 := by
  induction xs using tokenInduction generalizing depth with
  | nil => simpa [balancedFrom, shown, leftOpen, closedBeyond] using h
  | last => simp [balancedFrom] at h
  | hidden c cs ih =>
      rw [balancedFrom] at h
      exact ih h
  | plain c cs hc ih =>
      rw [balancedFrom_cons hc] at h
      rw [shown_cons hc]
      simp only [leftOpen, closedBeyond]
      split_ifs at h ⊢ with ho hcl hz
      · exact ih h
      · simp [hz] at h
      · exact ih (Bool.and_eq_true _ _ ▸ h).2
      · exact ih h

/-- In front of a balanced text the scan stops at the bracket right after it. -/
theorem readBalanced_append (ho : opening ≠ closing) (hc : closing ≠ '\\') {depth : Nat} {xs : List Char}
    (h : balancedFrom opening closing depth xs = true) (rest : List Char) :
    readBalanced opening closing (depth + 1) (xs ++ closing :: rest) = (xs, true, rest) := by
  induction xs using tokenInduction generalizing depth with
  | nil =>
      obtain rfl : depth = 0 := by simpa [balancedFrom] using h
      rw [List.nil_append, readBalanced_cons hc, if_neg (Ne.symm ho), if_pos rfl, if_pos (Nat.le_refl 1)]
  | last => simp [balancedFrom] at h
  | hidden c cs ih =>
      rw [balancedFrom] at h
      rw [List.cons_append, List.cons_append, readBalanced_hidden, ih h]
      rfl
  | plain c cs hc' ih =>
      rw [balancedFrom_cons hc'] at h
      rw [List.cons_append, readBalanced_cons hc']
      split_ifs at h ⊢ with h1 h2 h3
      · rw [ih h]
        rfl
      · simp [show depth = 0 by omega] at h
      · obtain ⟨h4, h5⟩ := (Bool.and_eq_true _ _).mp h
        have := ih h5
        rw [Nat.sub_add_cancel (of_decide_eq_true h4)] at this
        rw [Nat.add_sub_cancel, this]
        rfl
      · rw [ih h]
        rfl

/-- What the scan reads over is balanced when it finds the bracket. -/
theorem balancedFrom_of_readBalanced {depth : Nat} {cs inner rest : List Char}
    (h : readBalanced opening closing (depth + 1) cs = (inner, true, rest)) :
    cs = inner ++ closing :: rest ∧ balancedFrom opening closing depth inner = true := by
  induction cs using tokenInduction generalizing depth inner with
  | nil => simp [readBalanced] at h
  | last => simp [readBalanced] at h
  | hidden c cs ih =>
      rw [readBalanced_hidden] at h
      obtain ⟨inner₁, rfl, h₁⟩ := eq_of_prepend h
      obtain ⟨inner₂, rfl, h₂⟩ := eq_of_prepend h₁
      obtain ⟨rfl, hb⟩ := ih h₂
      exact ⟨rfl, by rw [balancedFrom]; exact hb⟩
  | plain c cs hc ih =>
      rw [readBalanced_cons hc] at h
      by_cases h1 : c = opening
      · rw [if_pos h1] at h
        obtain ⟨inner', rfl, h'⟩ := eq_of_prepend h
        obtain ⟨rfl, hb⟩ := ih h'
        exact ⟨rfl, by rw [balancedFrom_cons hc, if_pos h1]; exact hb⟩
      rw [if_neg h1] at h
      by_cases h2 : c = closing
      · rw [if_pos h2] at h
        cases depth with
        | zero =>
            rw [if_pos (Nat.le_refl 1)] at h
            cases h
            exact ⟨by rw [h2]; rfl, by rw [balancedFrom]; rfl⟩
        | succ depth =>
            rw [if_neg (by omega), Nat.add_sub_cancel] at h
            obtain ⟨inner', rfl, h'⟩ := eq_of_prepend h
            obtain ⟨rfl, hb⟩ := ih h'
            refine ⟨rfl, ?_⟩
            rw [balancedFrom_cons hc, if_neg h1, if_pos h2, Nat.add_sub_cancel, hb, Bool.and_true]
            exact decide_eq_true (Nat.succ_pos depth)
      · rw [if_neg h2] at h
        obtain ⟨inner', rfl, h'⟩ := eq_of_prepend h
        obtain ⟨rfl, hb⟩ := ih h'
        exact ⟨rfl, by rw [balancedFrom_cons hc, if_neg h1, if_neg h2]; exact hb⟩

/-- Without the bracket the scan reads over the whole text, which never closes all that is open. -/
theorem closedBeyond_of_readBalanced {depth : Nat} {cs inner rest : List Char}
    (h : readBalanced opening closing (depth + 1) cs = (inner, false, rest)) :
    inner = cs ∧ rest = [] ∧ closedBeyond opening closing depth (shown cs) = 0 := by
  induction cs using tokenInduction generalizing depth inner with
  | nil =>
      simp only [readBalanced, Prod.mk.injEq, true_and] at h
      exact ⟨h.1.symm, h.2.symm, rfl⟩
  | last =>
      simp only [readBalanced, Prod.mk.injEq, true_and] at h
      exact ⟨h.1.symm, h.2.symm, rfl⟩
  | hidden c cs ih =>
      rw [readBalanced_hidden] at h
      obtain ⟨inner₁, rfl, h₁⟩ := eq_of_prepend h
      obtain ⟨inner₂, rfl, h₂⟩ := eq_of_prepend h₁
      obtain ⟨rfl, rfl, hb⟩ := ih h₂
      exact ⟨rfl, rfl, hb⟩
  | plain c cs hc ih =>
      rw [readBalanced_cons hc] at h
      rw [shown_cons hc, closedBeyond]
      by_cases h1 : c = opening
      · rw [if_pos h1] at h ⊢
        obtain ⟨inner', rfl, h'⟩ := eq_of_prepend h
        obtain ⟨rfl, rfl, hb⟩ := ih h'
        exact ⟨rfl, rfl, hb⟩
      rw [if_neg h1] at h ⊢
      by_cases h2 : c = closing
      · rw [if_pos h2] at h ⊢
        cases depth with
        | zero =>
            rw [if_pos (Nat.le_refl 1)] at h
            cases h
        | succ depth =>
            rw [if_neg (by omega), Nat.add_sub_cancel] at h
            rw [if_neg (Nat.succ_ne_zero depth), Nat.add_sub_cancel]
            obtain ⟨inner', rfl, h'⟩ := eq_of_prepend h
            obtain ⟨rfl, rfl, hb⟩ := ih h'
            exact ⟨rfl, rfl, hb⟩
      · rw [if_neg h2] at h ⊢
        obtain ⟨inner', rfl, h'⟩ := eq_of_prepend h
        obtain ⟨rfl, rfl, hb⟩ := ih h'
        exact ⟨rfl, rfl, hb⟩

end Scan

/-! ## Short texts -/

theorem length_shown (cs : List Char) : (shown cs).length ≤ cs.length := by
  induction cs using tokenInduction with
  | nil => exact Nat.le_refl 0
  | last => exact Nat.zero_le 1
  | hidden c cs ih =>
      rw [shown, List.length_cons, List.length_cons]
      omega
  | plain c cs hc ih =>
      rw [shown_cons hc, List.length_cons, List.length_cons]
      omega

/-- A character opens one bracket of one kind at most. -/
theorem leftOpen_le_length (count count' : Nat) (cs : List Char) :
    leftOpen '\x7b' '\x7d' count cs + leftOpen '[' ']' count' cs ≤ count + count' + cs.length := by
  induction cs generalizing count count' with
  | nil => exact Nat.le_refl _
  | cons c cs ih =>
      simp only [leftOpen, List.length_cons]
      by_cases hb : c = '\x7b'
      · have := ih (count + 1) count'
        rw [if_pos hb, if_neg (by rw [hb]; decide), if_neg (by rw [hb]; decide)]
        omega
      · have := ih count (count' + 1)
        have := ih count (count' - 1)
        have := ih (count - 1) (count' + 1)
        have := ih (count - 1) (count' - 1)
        have := ih count count'
        have := ih (count - 1) count'
        split_ifs <;> omega

/-- A text nests no deeper than it is long. -/
theorem nestsWithin_length (text : String) : NestsWithin text.length text := by
  intro before after hs
  have h1 := leftOpen_le_length 0 0 before
  have h2 := length_shown text.toList
  rw [hs, List.length_append, String.length_toList] at h2
  simp only [pairsAround]
  omega

theorem NestsWithin.mono {limit limit' : Nat} {text : String} (h : NestsWithin limit text) (hl : limit ≤ limit') :
    NestsWithin limit' text := fun before after hs => Nat.le_trans (h before after hs) hl

end Folio.Math
