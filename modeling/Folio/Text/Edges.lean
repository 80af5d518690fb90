import Folio.Unicode.Blank

/-!
# The blank edges of a text

A text is its leading white space, a core that neither begins nor ends blank, and its trailing
white space; a text of white space alone is all lead.

* `Edges.ofText_append`: the three parts in a row are the text.
* `Edges.all_head?`, `Edges.all_getLast?`: when a text begins or ends blank.
-/

namespace Folio.Text
open Unicode (isBlank)

/-- The text without the characters of a class at its end. -/
def dropWhileEnd (p : Char → Bool) (cs : List Char) : List Char :=
  (cs.reverse.dropWhile p).reverse

/-- The text without its leading white space. -/
def trimStart (cs : List Char) : List Char := cs.dropWhile isBlank

/-- The text without its trailing white space. -/
def trimEnd (cs : List Char) : List Char := dropWhileEnd isBlank cs

/-- The text without the white space at its two ends. -/
def trim (cs : List Char) : List Char := trimEnd (trimStart cs)

/-- A text cut at its blank edges. -/
structure Edges where
  lead : List Char
  core : List Char
  trail : List Char
  deriving DecidableEq, Repr

/-- The blank edges of a text and what is between them. -/
def Edges.ofText (cs : List Char) : Edges where
  lead := cs.takeWhile isBlank
  core := trim cs
  trail := (trimStart cs).drop (trim cs).length

theorem dropWhileEnd_isPrefixOf (p : Char → Bool) (cs : List Char) : dropWhileEnd p cs <+: cs := by
  have h := List.dropWhile_suffix (l := cs.reverse) p
  have := List.reverse_prefix.2 h
  simpa [dropWhileEnd] using this

theorem dropWhileEnd_append_of_all {p : Char → Bool} {cs last : List Char} (h : ∀ c ∈ last, p c = true) :
    dropWhileEnd p (cs ++ last) = dropWhileEnd p cs := by
  unfold dropWhileEnd
  rw [List.reverse_append, List.dropWhile_append_of_pos fun c hc => h c (List.mem_reverse.mp hc)]

/-- What is cut off the end of a text is of the class that is cut off. -/
theorem eq_dropWhileEnd_append (p : Char → Bool) (cs : List Char) :
    ∃ last, cs = dropWhileEnd p cs ++ last ∧ ∀ c ∈ last, p c = true := by
  refine ⟨(cs.reverse.takeWhile p).reverse, ?_, fun c hc => ?_⟩
  · unfold dropWhileEnd
    rw [← List.reverse_append, List.takeWhile_append_dropWhile, List.reverse_reverse]
  · exact List.all_eq_true.mp List.all_takeWhile c (List.mem_reverse.mp hc)

/-- What is left of a text does not end in the class that is cut off. -/
theorem getLast?_dropWhileEnd {p : Char → Bool} {cs : List Char} {c : Char}
    (h : (dropWhileEnd p cs).getLast? = some c) : p c = false := by
  have hhead := List.head?_dropWhile_not p cs.reverse
  unfold dropWhileEnd at h
  rw [List.getLast?_reverse] at h
  rw [h] at hhead
  exact hhead

theorem Edges.ofText_append (cs : List Char) :
    (Edges.ofText cs).lead ++ (Edges.ofText cs).core ++ (Edges.ofText cs).trail = cs := by
  have hcore : trim cs ++ (trimStart cs).drop (trim cs).length = trimStart cs :=
    List.prefix_iff_eq_append.1 (dropWhileEnd_isPrefixOf isBlank (trimStart cs))
  simp only [Edges.ofText, List.append_assoc]
  rw [hcore]
  exact List.takeWhile_append_dropWhile

theorem Edges.blank_lead {cs : List Char} : ∀ c ∈ (ofText cs).lead, isBlank c = true :=
  List.all_eq_true.mp List.all_takeWhile

theorem Edges.blank_trail {cs : List Char} : ∀ c ∈ (ofText cs).trail, isBlank c = true := by
  obtain ⟨last, hlast, hblank⟩ := eq_dropWhileEnd_append isBlank (trimStart cs)
  have htrail : (trimStart cs).drop (dropWhileEnd isBlank (trimStart cs)).length = last :=
    (congrArg (List.drop _) hlast).trans List.drop_left
  intro c hc
  change c ∈ (trimStart cs).drop (dropWhileEnd isBlank (trimStart cs)).length at hc
  rw [htrail] at hc
  exact hblank c hc

/-- Nothing is between the edges of a text only when it is blank. -/
theorem Edges.blank_of_core_eq_nil {cs : List Char} (h : (ofText cs).core = []) : ∀ c ∈ cs, isBlank c = true := by
  intro c hc
  rw [← ofText_append cs, h, List.append_nil, List.mem_append] at hc
  exact hc.elim (blank_lead c) (blank_trail c)

/-- A text begins blank, if it is not empty, when nothing but its edges is there or the first of them is. -/
theorem Edges.all_head? (cs : List Char) :
    cs.head?.all isBlank = ((ofText cs).core.isEmpty || !(ofText cs).lead.isEmpty) := by
  cases cs with
  | nil => rfl
  | cons c rest =>
      by_cases hc : isBlank c = true
      · have hlead : (ofText (c :: rest)).lead = c :: rest.takeWhile isBlank := List.takeWhile_cons_of_pos hc
        rw [hlead, List.head?_cons, Option.all_some, hc, List.isEmpty_cons, Bool.not_false, Bool.or_true]
      · have hlead : (ofText (c :: rest)).lead = [] := List.takeWhile_cons_of_neg hc
        have hcore : (ofText (c :: rest)).core ≠ [] := fun h => hc (blank_of_core_eq_nil h c List.mem_cons_self)
        rw [hlead, List.head?_cons, Option.all_some, List.isEmpty_eq_false_iff.mpr hcore]
        exact eq_false_of_ne_true hc

/-- A text ends blank, if it is not empty, when nothing but its edges is there or the last of them is. -/
theorem Edges.all_getLast? (cs : List Char) :
    cs.getLast?.all isBlank = ((ofText cs).core.isEmpty || !(ofText cs).trail.isEmpty) := by
  have hsplit := ofText_append cs
  have hlead : ∀ c ∈ (ofText cs).lead, isBlank c = true := blank_lead
  have htrail : ∀ c ∈ (ofText cs).trail, isBlank c = true := blank_trail
  have hlast := fun c (h : (ofText cs).core.getLast? = some c) => getLast?_dropWhileEnd h
  generalize (ofText cs).lead = lead, (ofText cs).core = core, (ofText cs).trail = trail at hsplit hlead htrail hlast ⊢
  rw [← hsplit, List.getLast?_append, List.getLast?_append]
  cases htrailing : trail.getLast? with
  | some c =>
      have hmem := List.mem_of_getLast? htrailing
      rw [Option.some_or, Option.all_some, htrail c hmem, List.isEmpty_eq_false_iff.mpr (List.ne_nil_of_mem hmem),
        Bool.not_false, Bool.or_true]
  | none =>
      obtain rfl := List.getLast?_eq_none_iff.mp htrailing
      rw [Option.none_or, List.isEmpty_nil, Bool.not_true, Bool.or_false]
      cases hend : core.getLast? with
      | some c =>
          rw [Option.some_or, Option.all_some, hlast c hend]
          exact (List.isEmpty_eq_false_iff.mpr (List.ne_nil_of_mem (List.mem_of_getLast? hend))).symm
      | none =>
          obtain rfl := List.getLast?_eq_none_iff.mp hend
          rw [Option.none_or, List.isEmpty_nil, Option.all_eq_true]
          exact fun c hc => hlead c (List.mem_of_getLast? hc)

end Folio.Text
