import Mathlib.Data.List.TakeWhile
import Mathlib.Tactic.Common

/-!
# Paired backslashes

A backslash belongs to the character behind it, which may be another backslash. The backslashes that a text ends with
are paired, or the last of them still waits for the character that it belongs to.

* `Paired` : no backslash at the end of the text waits;
* `Paired.append_iff` : behind paired backslashes a text is read from its own beginning.
-/

namespace Folio.Text

/-- The length of the row of backslashes that the text ends with. -/
def slashesAtEnd (cs : List Char) : Nat := (cs.reverse.takeWhile (· == '\\')).length

/-- The backslashes that the text ends with are paired. -/
def Paired (cs : List Char) : Prop := 2 ∣ slashesAtEnd cs

instance (cs : List Char) : Decidable (Paired cs) := inferInstanceAs (Decidable (2 ∣ _))

theorem slashesAtEnd_append_of_all {row : List Char} (h : ∀ c ∈ row, c = '\\') (cs : List Char) :
    slashesAtEnd (cs ++ row) = row.length + slashesAtEnd cs := by
  have hrow : ∀ c ∈ row.reverse, (c == '\\') = true := fun c hc => beq_iff_eq.mpr (h c (List.mem_reverse.mp hc))
  unfold slashesAtEnd
  rw [List.reverse_append, List.takeWhile_append_of_pos hrow, List.length_append, List.length_reverse]

/-- A text that is not all backslashes ends with the same row whatever stands before it. -/
theorem slashesAtEnd_append_of_not_all {cs : List Char} (h : ¬ ∀ c ∈ cs, c = '\\') (front : List Char) :
    slashesAtEnd (front ++ cs) = slashesAtEnd cs := by
  have hstop : (cs.reverse.takeWhile (· == '\\')).length ≠ cs.reverse.length := by
    intro heq
    have htake := (List.takeWhile_prefix (l := cs.reverse) (· == '\\')).eq_of_length heq
    rw [List.takeWhile_eq_self_iff] at htake
    exact h fun c hc => beq_iff_eq.mp (htake c (List.mem_reverse.mpr hc))
  unfold slashesAtEnd
  rw [List.reverse_append, List.takeWhile_append, if_neg hstop]

theorem slashesAtEnd_map {f : Char → Char} (h : ∀ c, f c = '\\' ↔ c = '\\') (cs : List Char) :
    slashesAtEnd (cs.map f) = slashesAtEnd cs := by
  have hsame : (fun c => c == '\\') ∘ f = fun c => c == '\\' := by
    funext c
    rw [Function.comp_apply, Bool.eq_iff_iff, beq_iff_eq, beq_iff_eq]
    exact h c
  unfold slashesAtEnd
  rw [← List.map_reverse, List.takeWhile_map, List.length_map, hsame]

theorem paired_map_iff {f : Char → Char} (h : ∀ c, f c = '\\' ↔ c = '\\') (cs : List Char) :
    Paired (cs.map f) ↔ Paired cs := by
  rw [Paired, slashesAtEnd_map h, ← Paired]

theorem paired_nil : Paired [] := ⟨0, rfl⟩

theorem Paired.append_iff {front : List Char} (h : Paired front) (cs : List Char) :
    Paired (front ++ cs) ↔ Paired cs := by
  by_cases hall : ∀ c ∈ cs, c = '\\'
  · have hrow : slashesAtEnd cs = cs.length := slashesAtEnd_append_of_all hall []
    unfold Paired at h ⊢
    rw [slashesAtEnd_append_of_all hall, hrow]
    exact (Nat.dvd_add_iff_left h).symm
  · unfold Paired
    rw [slashesAtEnd_append_of_not_all hall]

/-- No backslash waits behind another character. -/
theorem paired_concat {c : Char} (hc : c ≠ '\\') (cs : List Char) : Paired (cs ++ [c]) := by
  have hnot : ¬ ∀ d ∈ [c], d = '\\' := fun h => hc (h c (List.mem_singleton_self c))
  have hnone : slashesAtEnd [c] = 0 := by
    unfold slashesAtEnd
    simp [hc]
  unfold Paired
  rw [slashesAtEnd_append_of_not_all hnot, hnone]
  exact Nat.dvd_zero 2

theorem paired_singleton {c : Char} (hc : c ≠ '\\') : Paired [c] := paired_concat hc []

theorem paired_replicate {c : Char} (hc : c ≠ '\\') (k : Nat) : Paired (List.replicate k c) := by
  cases k with
  | zero => exact paired_nil
  | succ k =>
      rw [List.replicate_succ']
      exact paired_concat hc _

/-- A backslash and the character that belongs to it. -/
theorem paired_escape (c : Char) : Paired ['\\', c] := by
  by_cases hc : c = '\\'
  · rw [hc]
    decide
  · exact paired_concat hc ['\\']

theorem paired_of_getLast? {cs : List Char} (h : cs.getLast? ≠ some '\\') : Paired cs := by
  rcases List.eq_nil_or_concat cs with rfl | ⟨front, c, rfl⟩
  · exact paired_nil
  · rw [List.concat_eq_append] at h ⊢
    refine paired_concat ?_ front
    rintro rfl
    exact h List.getLast?_concat

end Folio.Text
