import Folio.Proofs.Math.Constructs

/-!
# The characters that a formula keeps of its source

The leaves of a formula are the characters of its texts and the bases of its scripts. Parsing may leave out the
characters that only build structure: brackets, script markers, white space and the names of the commands that take
arguments. All others are leaves as often as they stand in the source, however unbalanced, cut off or deep it is.

* `Keeps source kept` : `kept` has the characters of `source` less some that build structure;
* `readItem_keeps` : an item, as it is written, and the rest behind it are kept of the source;
* `parseNodes_keeps`, `leaves_count` : so are the leaves of what is parsed.
-/

namespace Folio.Math
open Unicode (isAlphanumeric isBlank)

/-! ## Leaves -/

mutual

/-- The characters of the texts of a formula and the bases of its scripts. -/
def Formula.leaves : Formula → List Char
  | .run text => text.toList
  | .group parts => rowLeaves parts
  | .frac num den => num.leaves ++ den.leaves
  | .sqrt radicand => radicand.leaves
  | .root degree radicand => degree.leaves ++ radicand.leaves
  | .sup base exponent => base :: exponent.leaves
  | .sub base subscript => base :: subscript.leaves
  | .subsup base subscript exponent => base :: (subscript.leaves ++ exponent.leaves)

/-- The leaves of several formulas in a row. -/
def rowLeaves : List Formula → List Char
  | [] => []
  | part :: parts => part.leaves ++ rowLeaves parts

end

theorem rowLeaves_append (xs ys : List Formula) : rowLeaves (xs ++ ys) = rowLeaves xs ++ rowLeaves ys := by
  induction xs with
  | nil => rfl
  | cons x xs ih => rw [List.cons_append, rowLeaves, rowLeaves, ih, List.append_assoc]

theorem rowLeaves_singleton (part : Formula) : rowLeaves [part] = part.leaves := List.append_nil _

/-- Whether several formulas become a group or one stands for itself, their leaves are the same. -/
theorem leaves_ofParts (parts : List Formula) : (Formula.ofParts parts).leaves = rowLeaves parts := by
  match parts with
  | [] => rfl
  | [part] => exact (rowLeaves_singleton part).symm
  | _ :: _ :: _ => rfl

/-! ## Characters that build structure -/

/-- A character that can build structure: a brace, a square bracket, a script marker, white space, or a character of
the name of a command with arguments. -/
def isStructural (c : Char) : Bool :=
  c ∈ "\x7b\x7d[]^_".toList || isBlank c || c ∈ "\\frac\\dfrac\\tfrac\\sqrt".toList

/-- The text has the characters of `source`, less some that build structure, in any order. -/
structure Keeps (source kept : List Char) : Prop where
  count_le : ∀ c, kept.count c ≤ source.count c
  count_eq : ∀ c, isStructural c = false → kept.count c = source.count c

section Keeps
variable {xs ys zs ws : List Char}

theorem Keeps.of_perm (h : xs.Perm ys) : Keeps xs ys :=
  ⟨fun c => Nat.le_of_eq (h.count_eq c).symm, fun c _ => (h.count_eq c).symm⟩

theorem Keeps.refl (xs : List Char) : Keeps xs xs := .of_perm (.refl xs)

theorem Keeps.trans (h : Keeps xs ys) (h' : Keeps ys zs) : Keeps xs zs :=
  ⟨fun c => Nat.le_trans (h'.count_le c) (h.count_le c), fun c hc => (h'.count_eq c hc).trans (h.count_eq c hc)⟩

theorem Keeps.append (h : Keeps xs ys) (h' : Keeps zs ws) : Keeps (xs ++ zs) (ys ++ ws) where
  count_le c := by
    rw [List.count_append, List.count_append]
    exact Nat.add_le_add (h.count_le c) (h'.count_le c)
  count_eq c hc := by rw [List.count_append, List.count_append, h.count_eq c hc, h'.count_eq c hc]

theorem Keeps.append_left (zs : List Char) (h : Keeps xs ys) : Keeps (zs ++ xs) (zs ++ ys) := (Keeps.refl zs).append h

theorem Keeps.append_right (h : Keeps xs ys) (zs : List Char) : Keeps (xs ++ zs) (ys ++ zs) := h.append (.refl zs)

/-- Characters that build structure can be left out. -/
theorem Keeps.nil (h : ∀ c ∈ xs, isStructural c = true) : Keeps xs [] where
  count_le c := Nat.zero_le _
  count_eq c hc := by
    refine (List.count_eq_zero.mpr fun hm => ?_).symm
    rw [h c hm] at hc
    exact Bool.noConfusion hc

theorem Keeps.drop (h : ∀ c ∈ xs, isStructural c = true) (ys : List Char) : Keeps (xs ++ ys) ys :=
  (Keeps.nil h).append_right ys

theorem Keeps.cons {c : Char} (hc : isStructural c = true) (cs : List Char) : Keeps (c :: cs) cs :=
  (Keeps.nil fun _ hd => List.mem_singleton.mp hd ▸ hc : Keeps [c] []).append_right cs

end Keeps

theorem isStructural_of_isScriptMarker {c : Char} (h : isScriptMarker c = true) : isStructural c = true := by
  rcases (Bool.or_eq_true _ _).mp h with h | h <;> rw [of_decide_eq_true h] <;> decide

theorem skipBlank_keeps (cs : List Char) : Keeps cs (skipBlank cs) := by
  have dropped : ∀ c ∈ cs.takeWhile isBlank, isStructural c = true := fun c hc => by
    rw [isStructural, List.all_eq_true.mp List.all_takeWhile c hc, Bool.or_true, Bool.true_or]
  have h := Keeps.drop dropped (skipBlank cs)
  rwa [skipBlank, List.takeWhile_append_dropWhile] at h

/-! ## What the readers keep -/

/-- The argument of a script as it is written. -/
def Argument.written : Argument → List Char
  | .part source => source.literal
  | .text chars => chars

/-- The texts, parts and bases of an item as they are written. -/
def Item.written : Item → List Char
  | .run text => text
  | .group part => part.literal
  | .frac num den => num.literal ++ den.literal
  | .sqrt radicand => radicand.literal
  | .root degree radicand => degree.literal ++ radicand.literal
  | .sup base exponent => base :: exponent.written
  | .sub base subscript => base :: subscript.written
  | .subsup base subscript exponent => base :: (subscript.written ++ exponent.written)

/-- A part stands in the source as it is written, between the brackets that were looked for. -/
theorem readPart_literal {opening closing : Char} {cs : List Char} {part : Part} {rest : List Char}
    (h : readPart opening closing cs = some (part, rest)) :
    cs = part.literal ++ rest ∧ part.opening = opening ∧ ∀ c ∈ part.closing, c = closing := by
  have first : part.opening = opening := by
    cases cs with
    | nil => cases h
    | cons c cs =>
        rw [readPart] at h
        split at h
        · cases h
          rfl
        · cases h
  rcases readPart_cases h with ⟨rfl, hc, -⟩ | ⟨rfl, rfl, hc, -⟩
  · refine ⟨?_, first, fun c hm => ?_⟩
    · rw [Part.literal, first, hc]
      simp
    · rw [hc] at hm
      exact (Option.mem_some.mp hm).symm
  · refine ⟨?_, first, fun c hm => ?_⟩
    · rw [Part.literal, first, hc]
      simp
    · rw [hc] at hm
      cases hm

theorem readGroup_literal {cs : List Char} {part : Part} {rest : List Char} (h : readGroup cs = some (part, rest)) :
    cs = part.literal ++ rest := (readPart_literal h).1

/-- The brackets around a part can be left out. -/
theorem Holds.keeps {cs : List Char} {part : Part} (h : Holds cs part) : Keeps part.literal part.inner := by
  have brackets : isStructural part.opening = true ∧ ∀ c ∈ part.closing.toList, isStructural c = true := by
    obtain ⟨source, rest, -, hp | ⟨hp, -⟩⟩ := h
    all_goals
      obtain ⟨-, ho, hc⟩ := readPart_literal hp
      refine ⟨by rw [ho]; decide, fun c hm => ?_⟩
      rw [hc c (Option.mem_toList.mp hm)]
      decide
  have behind := (Keeps.nil brackets.2).append_left part.inner
  rw [List.append_nil] at behind
  exact (Keeps.cons brackets.1 _).trans behind

theorem readArgument_keeps {cs : List Char} {argument : Argument} {rest : List Char}
    (h : readArgument cs = some (argument, rest)) : cs = argument.written ++ rest := by
  rcases readArgument_cases h with ⟨part, rfl, hg⟩ | ⟨ds, rfl, rfl, rfl⟩ | ⟨c, -, rfl, rfl⟩
  · exact readGroup_literal hg
  · exact (readCommand_append '\\' ds).symm
  · rfl

theorem readFraction_keeps {cs : List Char} {item : Item} {rest : List Char}
    (h : readFraction cs = some (item, rest)) : Keeps cs (item.written ++ rest) := by
  obtain ⟨num, behind, den, rfl, hn, hd⟩ := readFraction_eq_some h
  have first := skipBlank_keeps cs
  have second := (skipBlank_keeps behind).append_left num.literal
  rw [readGroup_literal hn] at first
  rw [readGroup_literal hd, ← List.append_assoc] at second
  exact first.trans second

theorem readRadical_keeps {cs : List Char} {item : Item} {rest : List Char}
    (h : readRadical cs = some (item, rest)) : Keeps cs (item.written ++ rest) := by
  have first := skipBlank_keeps cs
  rcases readRadical_cases h with ⟨radicand, rfl, hr⟩ | ⟨degree, behind, radicand, rfl, hd, hr⟩
  · rwa [readGroup_literal hr] at first
  · have second := (skipBlank_keeps behind).append_left degree.literal
    rw [(readPart_literal hd).1] at first
    rw [readGroup_literal hr, ← List.append_assoc] at second
    exact first.trans second

/-- A command that takes arguments leaves out its name. -/
theorem readCommandItem_keeps (c : Char) (cs : List Char) :
    Keeps (c :: cs) ((readCommandItem c cs).1.written ++ (readCommandItem c cs).2) := by
  have text := readCommand_append c cs
  have named : ∀ name : List Char, (readCommand c cs).1 = name → name.all isStructural = true →
      Keeps (c :: cs) (readCommand c cs).2 := fun name hname h => by
    rw [← text, hname]
    exact .drop (List.all_eq_true.mp h) _
  rcases readCommandItem_cases c cs with h | ⟨hname, h⟩ | ⟨hname, h⟩
  · rw [h]
    exact text ▸ .refl _
  · refine (named _ rfl ?_).trans (readFraction_keeps h)
    simp only [List.mem_cons, List.not_mem_nil, or_false] at hname
    rcases hname with hname | hname | hname <;> rw [hname] <;> decide
  · exact (named _ hname (by decide)).trans (readRadical_keeps h)

/-- The marker in front of an argument can be left out. -/
theorem readArgument_keeps_marked {marker : Char} (hm : isScriptMarker marker = true) {cs : List Char}
    {argument : Argument} {rest : List Char} (h : readArgument cs = some (argument, rest)) :
    Keeps (marker :: cs) (argument.written ++ rest) :=
  readArgument_keeps h ▸ .cons (isStructural_of_isScriptMarker hm) cs

theorem readScripted_keeps {base : Char} {cs : List Char} {item : Item} {rest : List Char}
    (h : readScripted base cs = some (item, rest)) : Keeps (base :: cs) (item.written ++ rest) := by
  obtain ⟨marker, ds, first, behind, hm, rfl, hf, hs⟩ := readScripted_cases h
  have one : Keeps (base :: marker :: ds) ([base] ++ (first.written ++ behind)) :=
    (readArgument_keeps_marked hm hf).append_left [base]
  rcases hs with ⟨rfl, rfl⟩ | ⟨other, es, second, ho, -, rfl, hs, rfl⟩
  · split_ifs <;> exact one
  · have two := one.trans (((readArgument_keeps_marked ho hs).append_left first.written).append_left [base])
    split_ifs
    · simpa [Item.written] using two
    · -- a superscript that comes first stands behind the subscript in the item
      refine two.trans (.of_perm (.cons base ?_))
      rw [← List.append_assoc]
      exact List.perm_append_comm.append_right rest

theorem readPlain_append (cs : List Char) : (readPlain cs).1 ++ (readPlain cs).2 = cs := by
  fun_induction readPlain cs with
  | case1 => rfl
  | case2 c cs h text rest hr ih =>
      rw [hr] at ih
      exact congrArg (c :: ·) ih
  | case3 c cs h => rfl

theorem readText_written (c : Char) (cs : List Char) : (readText c cs).1.written ++ (readText c cs).2 = c :: cs := by
  have text := readPlain_append (c :: cs)
  unfold readText
  split
  · rfl
  · rename_i h
    rwa [h] at text

/-- An item, as it is written, and the rest behind it are kept of the source. -/
theorem readItem_keeps (c : Char) (cs : List Char) :
    Keeps (c :: cs) ((readItem c cs).1.written ++ (readItem c cs).2) := by
  rcases readItem_cases c cs with ⟨-, h⟩ | ⟨-, h⟩ | ⟨part, hi, h⟩ | ⟨-, h⟩
  · exact readScripted_keeps h
  · rw [h]
    exact readCommandItem_keeps c cs
  · rw [readGroup_literal h, hi]
    exact .refl _
  · rw [h, readText_written]
    exact .refl _

/-! ## What the parser keeps -/

/-- An item whose parts keep their characters keeps its own. -/
theorem Item.nodes_keeps {depth : Nat} {item : Item}
    (h : ∀ part ∈ item.parts, Keeps part.literal (rowLeaves (parsePart depth part))) :
    Keeps item.written (rowLeaves (item.nodes depth)) := by
  have argument : ∀ a : Argument, (∀ part ∈ a.parts, Keeps part.literal (rowLeaves (parsePart depth part))) →
      Keeps a.written (parseArgument depth a).leaves := by
    intro a ha
    cases a with
    | part source =>
        rw [parseArgument, leaves_ofParts]
        exact ha source (List.mem_singleton.mpr rfl)
    | text text =>
        rw [parseArgument, Formula.leaves, String.toList_ofList]
        exact .refl text
  cases item with
  | run text =>
      rw [nodes, rowLeaves_singleton, Formula.leaves, String.toList_ofList]
      exact .refl text
  | group part => exact h part (List.mem_singleton.mpr rfl)
  | frac num den =>
      simp only [parts, List.mem_cons, List.not_mem_nil, or_false, forall_eq_or_imp, forall_eq] at h
      rw [nodes, rowLeaves_singleton, Formula.leaves, leaves_ofParts, leaves_ofParts]
      exact h.1.append h.2
  | sqrt radicand =>
      rw [nodes, rowLeaves_singleton, Formula.leaves, leaves_ofParts]
      exact h radicand (List.mem_singleton.mpr rfl)
  | root degree radicand =>
      simp only [parts, List.mem_cons, List.not_mem_nil, or_false, forall_eq_or_imp, forall_eq] at h
      rw [nodes, rowLeaves_singleton, Formula.leaves, leaves_ofParts, leaves_ofParts]
      exact h.1.append h.2
  | sup base exponent =>
      rw [nodes, rowLeaves_singleton, Formula.leaves]
      exact (argument exponent h).append_left [base]
  | sub base subscript =>
      rw [nodes, rowLeaves_singleton, Formula.leaves]
      exact (argument subscript h).append_left [base]
  | subsup base subscript exponent =>
      simp only [parts, List.mem_append] at h
      rw [nodes, rowLeaves_singleton, Formula.leaves]
      exact ((argument subscript fun part hp => h part (.inl hp)).append
        (argument exponent fun part hp => h part (.inr hp))).append_left [base]

/-- The leaves of what a source is parsed to are kept of the source. -/
theorem parseNodes_keeps (depth : Nat) (cs : List Char) : Keeps cs (rowLeaves (parseNodes depth cs)) := by
  induction depth, cs using sourceInduction with
  | nil depth =>
      rw [parseNodes]
      exact .refl []
  | cons depth c cs inside behind =>
      rw [parseNodes_cons, rowLeaves_append]
      refine (readItem_keeps c cs).trans ((Item.nodes_keeps fun part hp => ?_).append behind)
      rw [parsePart]
      split_ifs
      · -- too deep for structure: the part stays as it is written
        rw [rowLeaves_singleton, Formula.leaves, String.toList_ofList]
        exact .refl _
      · exact ((readItem_takes c cs).holds part hp).keeps.trans (inside part hp)

/-- **Parsing loses and repeats nothing.** No character is a leaf of the formula more often than it stands in the source,
and all but the brackets, script markers, blanks and characters of `\frac`, `\dfrac`, `\tfrac` and `\sqrt` are leaves just
as often. -/
theorem leaves_count (source : String) (c : Char) :
    (parse source).leaves.count c ≤ source.toList.count c ∧
      (isStructural c = false → (parse source).leaves.count c = source.toList.count c) := by
  have kept := parseNodes_keeps 0 source.toList
  exact ⟨kept.count_le c, kept.count_eq c⟩

/-- A digit behind a fraction without its second part, in a group that is not closed. -/
theorem leaves_count_unclosed :
    isStructural '2' = false ∧ (parse "x_\x7b2\\frac\x7b2\x7d").leaves.count '2' = 2 :=
  ⟨by decide, (leaves_count "x_\x7b2\\frac\x7b2\x7d" '2').2 (by decide)⟩

end Folio.Math
