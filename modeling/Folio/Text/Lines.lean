/-!
# Pieces of a text

A text is cut at separator characters. The pieces of a cut keep their order and may be empty, so
a text has one piece more than it has separators; the *fields* are the pieces that are not empty.
A text's lines are its pieces at line feeds.

* `join_splitOn`: joining the pieces with the separator gives the text back;
* `not_mem_of_mem_splitOn`: no piece holds the separator;
* `splitWhen_append`, `pieceInduction`: a separator ends a piece, and a text is gone through by its pieces;
* `splitWhen_append_cons`: a text is cut apart at each of its separators;
* `splitWhen_join`, `mem_join_iff`: a text that is put together from pieces is cut into them, and has their characters;
* `lines_append`, `lines_unlines`: the lines of a text are those that it was put together from;
* `splitText_eq`, `replace_eq_join`: a text is cut at the first mark, and replaced where it is cut.
-/

namespace Folio.Text

/-- The pieces of a text between the characters that satisfy `sep`. -/
def splitWhen (sep : Char → Bool) : List Char → List (List Char)
  | [] => [[]]
  | c :: cs =>
    if sep c then [] :: splitWhen sep cs
    else
      match splitWhen sep cs with
      | piece :: pieces => (c :: piece) :: pieces
      | [] => [[c]]

/-- The pieces of a text between the occurrences of `sep`. -/
def splitOn (sep : Char) (cs : List Char) : List (List Char) :=
  splitWhen (· == sep) cs

/-- The pieces between separators that are not empty. -/
def fields (sep : Char → Bool) (cs : List Char) : List (List Char) :=
  (splitWhen sep cs).filter (!·.isEmpty)

/-- The pieces in a row, with `sep` between neighbours. -/
def join (sep : List Char) (pieces : List (List Char)) : List Char :=
  (pieces.intersperse sep).flatten

/-- The lines of a text: its pieces between line feeds. -/
def lines (cs : List Char) : List (List Char) := splitOn '\n' cs

/-- The lines in a row, with a line feed between neighbours. -/
def unlines (pieces : List (List Char)) : List Char := join ['\n'] pieces

/-- Every occurrence of `old` is replaced by `new`, from left to right and without overlap; the
first argument counts the characters that belong to the occurrence just replaced. -/
def replaceFrom (old new : List Char) : Nat → List Char → List Char
  | _, [] => []
  | skip + 1, _ :: cs => replaceFrom old new skip cs
  | 0, c :: cs =>
    if old.isPrefixOf (c :: cs) then new ++ replaceFrom old new (old.length - 1) cs
    else c :: replaceFrom old new 0 cs

/-- Every occurrence of the non-empty text `old` is replaced by `new`. -/
def replace (old new cs : List Char) : List Char := replaceFrom old new 0 cs

/-- The pieces between the occurrences of `mark`, found from left to right and without overlap; the
first argument counts the characters that belong to the occurrence just found. -/
def splitTextFrom (mark : List Char) : Nat → List Char → List (List Char)
  | _, [] => [[]]
  | skip + 1, _ :: cs => splitTextFrom mark skip cs
  | 0, c :: cs =>
    if mark.isPrefixOf (c :: cs) then [] :: splitTextFrom mark (mark.length - 1) cs
    else
      match splitTextFrom mark 0 cs with
      | piece :: pieces => (c :: piece) :: pieces
      | [] => [[c]]

/-- The pieces between the occurrences of the non-empty text `mark`. -/
def splitText (mark cs : List Char) : List (List Char) := splitTextFrom mark 0 cs

/-- The text occurs in the other one. -/
def occursIn (part : List Char) (cs : List Char) : Bool :=
  part.isPrefixOf cs ||
    match cs with
    | [] => false
    | _ :: rest => occursIn part rest

theorem splitWhen_ne_nil (sep : Char → Bool) (cs : List Char) : splitWhen sep cs ≠ [] := by
  cases cs with
  | nil => simp [splitWhen]
  | cons c cs =>
      unfold splitWhen
      split
      · simp
      · split <;> simp

theorem join_cons_cons (sep a b : List Char) (rest : List (List Char)) :
    join sep (a :: b :: rest) = a ++ sep ++ join sep (b :: rest) := by
  simp [join]

/-- Pieces in a row, and others behind them. -/
theorem join_append (sep : List Char) {first rest : List (List Char)} (hfirst : first ≠ []) (hrest : rest ≠ []) :
    join sep (first ++ rest) = join sep first ++ sep ++ join sep rest := by
  induction first with
  | nil => exact absurd rfl hfirst
  | cons piece first ih =>
      cases first with
      | nil =>
          obtain ⟨next, rest, rfl⟩ := List.exists_cons_of_ne_nil hrest
          rw [List.singleton_append, join_cons_cons]
          simp [join]
      | cons next first =>
          rw [List.cons_append, List.cons_append, join_cons_cons, join_cons_cons, ← List.cons_append,
            ih (List.cons_ne_nil _ _)]
          simp only [List.append_assoc]

theorem join_splitOn (sep : Char) (cs : List Char) : join [sep] (splitOn sep cs) = cs := by
  induction cs with
  | nil => rfl
  | cons c cs ih =>
      unfold splitOn at ih ⊢
      unfold splitWhen
      have hne := splitWhen_ne_nil (· == sep) cs
      split
      · rename_i hc
        cases hs : splitWhen (· == sep) cs with
        | nil => exact absurd hs hne
        | cons p ps =>
            rw [join_cons_cons, ← hs, ih]
            simp at hc
            simp [hc]
      · cases hs : splitWhen (· == sep) cs with
        | nil => exact absurd hs hne
        | cons p ps =>
            rw [hs] at ih
            cases ps with
            | nil => simpa [join] using congrArg (c :: ·) ih
            | cons q qs =>
                rw [join_cons_cons] at ih ⊢
                simpa using congrArg (c :: ·) ih

theorem not_mem_of_mem_splitOn {sep : Char} {cs piece : List Char}
    (h : piece ∈ splitOn sep cs) : sep ∉ piece := by
  induction cs generalizing piece with
  | nil => simp [splitOn, splitWhen] at h; simp [h]
  | cons c cs ih =>
      unfold splitOn at ih h
      unfold splitWhen at h
      split at h
      · rcases List.mem_cons.1 h with rfl | h
        · simp
        · exact ih h
      · rename_i hc
        split at h
        · rename_i p ps hs
          rcases List.mem_cons.1 h with rfl | h
          · have := @ih p (by rw [hs]; simp)
            simp at hc
            simp [this, Ne.symm hc]
          · exact ih (by rw [hs]; exact List.mem_cons_of_mem _ h)
        · rename_i hs
          exact absurd hs (splitWhen_ne_nil _ _)

/-- A text without a separator is one piece. -/
theorem splitWhen_of_forall {sep : Char → Bool} {piece : List Char} (h : ∀ c ∈ piece, sep c = false) :
    splitWhen sep piece = [piece] := by
  induction piece with
  | nil => rfl
  | cons c piece ih =>
      obtain ⟨hc, hpiece⟩ := List.forall_mem_cons.mp h
      rw [splitWhen, ih hpiece, hc]
      rfl

/-- A separator ends the first piece of a text. -/
theorem splitWhen_append {sep : Char → Bool} {piece : List Char} (h : ∀ c ∈ piece, sep c = false) {c : Char}
    (hc : sep c = true) (rest : List Char) : splitWhen sep (piece ++ c :: rest) = piece :: splitWhen sep rest := by
  induction piece with
  | nil =>
      rw [List.nil_append, splitWhen, hc]
      rfl
  | cons d piece ih =>
      obtain ⟨hd, hpiece⟩ := List.forall_mem_cons.mp h
      rw [List.cons_append, splitWhen, ih hpiece, hd]
      rfl

/-- What stands before a separator and what stands behind it are cut apart. -/
theorem splitWhen_append_cons {sep : Char → Bool} {c : Char} (hc : sep c = true) (before behind : List Char) :
    splitWhen sep (before ++ c :: behind) = splitWhen sep before ++ splitWhen sep behind := by
  induction before with
  | nil =>
      rw [List.nil_append, splitWhen.eq_2, hc]
      rfl
  | cons d before ih =>
      obtain ⟨piece, pieces, hbefore⟩ := List.exists_cons_of_ne_nil (splitWhen_ne_nil sep before)
      rw [List.cons_append, splitWhen.eq_2, splitWhen.eq_2, ih, hbefore]
      cases sep d <;> rfl

/-- What holds of a single piece, and of a piece and a separator in front of a text for which it holds, holds of every
text. -/
theorem pieceInduction (sep : Char → Bool) {P : List Char → Prop}
    (last : ∀ piece, (∀ c ∈ piece, sep c = false) → P piece)
    (more : ∀ piece c rest, (∀ d ∈ piece, sep d = false) → sep c = true → P rest → P (piece ++ c :: rest))
    (cs : List Char) : P cs := by
  have hpiece : ∀ c ∈ cs.takeWhile (!sep ·), sep c = false := fun c hc => by
    simpa using List.all_eq_true.mp List.all_takeWhile c hc
  have hcs : cs.takeWhile (!sep ·) ++ cs.dropWhile (!sep ·) = cs := List.takeWhile_append_dropWhile
  cases hrest : cs.dropWhile (!sep ·) with
  | nil =>
      rw [hrest, List.append_nil] at hcs
      rw [← hcs]
      exact last _ hpiece
  | cons c rest =>
      have hhead := List.head?_dropWhile_not (!sep ·) cs
      rw [hrest] at hhead
      have hc : sep c = true := by simpa using hhead
      have hshorter : rest.length < cs.length := by
        have h := congrArg List.length hcs
        rw [hrest, List.length_append, List.length_cons] at h
        omega
      rw [← hcs, hrest]
      exact more _ c rest hpiece hc (pieceInduction sep last more rest)
termination_by cs.length

/-- The pieces of a text are made of its characters. -/
theorem mem_of_mem_piece {sep : Char → Bool} {c : Char} {piece cs : List Char} (hc : c ∈ piece)
    (hpiece : piece ∈ splitWhen sep cs) : c ∈ cs := by
  induction cs using pieceInduction sep with
  | last other hother =>
      rw [splitWhen_of_forall hother, List.mem_singleton] at hpiece
      exact hpiece ▸ hc
  | more other d rest hother hd ih =>
      rw [splitWhen_append hother hd, List.mem_cons] at hpiece
      rcases hpiece with rfl | hpiece
      · exact List.mem_append_left _ hc
      · exact List.mem_append_right _ (List.mem_cons_of_mem _ (ih hpiece))

/-- A text that is put together with a separator is cut into the pieces that it was put together from. -/
theorem splitWhen_join {sep : Char → Bool} {c : Char} (hc : sep c = true) {pieces : List (List Char)} (hne : pieces ≠ [])
    (h : ∀ piece ∈ pieces, ∀ d ∈ piece, sep d = false) : splitWhen sep (join [c] pieces) = pieces := by
  induction pieces with
  | nil => exact absurd rfl hne
  | cons piece pieces ih =>
      obtain ⟨hpiece, hpieces⟩ := List.forall_mem_cons.mp h
      cases pieces with
      | nil => simpa [join] using splitWhen_of_forall hpiece
      | cons next others =>
          rw [join_cons_cons, List.append_assoc, List.singleton_append, splitWhen_append hpiece hc]
          exact congrArg (piece :: ·) (ih (List.cons_ne_nil _ _) hpieces)

/-- Pieces put together have their own characters, and those between them when there are two of them. -/
theorem mem_join_iff {sep : List Char} {c : Char} (pieces : List (List Char)) :
    c ∈ join sep pieces ↔ (∃ piece ∈ pieces, c ∈ piece) ∨ c ∈ sep ∧ 2 ≤ pieces.length := by
  induction pieces with
  | nil => simp [join]
  | cons piece pieces ih =>
      cases pieces with
      | nil => simp [join]
      | cons next pieces =>
          have htwo : 2 ≤ (piece :: next :: pieces).length := Nat.le_add_left 2 pieces.length
          have hfirst : (∃ other ∈ piece :: next :: pieces, c ∈ other) ↔
              c ∈ piece ∨ ∃ other ∈ next :: pieces, c ∈ other := by simp
          rw [join_cons_cons, List.mem_append, List.mem_append, ih, hfirst, and_iff_left htwo]
          constructor
          · rintro ((hpiece | hsep) | hrest | ⟨hsep, -⟩)
            · exact .inl (.inl hpiece)
            · exact .inr hsep
            · exact .inl (.inr hrest)
            · exact .inr hsep
          · rintro ((hpiece | hrest) | hsep)
            · exact .inl (.inl hpiece)
            · exact .inr (.inl hrest)
            · exact .inl (.inr hsep)

/-! ## Lines -/

theorem unlines_lines (cs : List Char) : unlines (lines cs) = cs := join_splitOn '\n' cs

theorem beq_eq_false_of_not_mem {sep : Char} {piece : List Char} (h : sep ∉ piece) :
    ∀ c ∈ piece, (c == sep) = false := by
  intro c hc
  rw [beq_eq_false_iff_ne]
  rintro rfl
  exact h hc

/-- A text without a line feed is one line. -/
theorem lines_of_not_mem {piece : List Char} (h : '\n' ∉ piece) : lines piece = [piece] :=
  splitWhen_of_forall (beq_eq_false_of_not_mem h)

/-- A line break ends the first line of a text. -/
theorem lines_append {piece : List Char} (h : '\n' ∉ piece) (rest : List Char) :
    lines (piece ++ '\n' :: rest) = piece :: lines rest :=
  splitWhen_append (beq_eq_false_of_not_mem h) BEq.rfl rest

/-- What holds of a single line, and of a line in front of a text for which it holds, holds of every text. -/
theorem lineInduction {P : List Char → Prop} (last : ∀ piece, '\n' ∉ piece → P piece)
    (more : ∀ piece rest, '\n' ∉ piece → P rest → P (piece ++ '\n' :: rest)) (cs : List Char) : P cs := by
  have hnot : ∀ piece : List Char, (∀ c ∈ piece, (c == '\n') = false) → '\n' ∉ piece := fun piece h hmem =>
    Bool.noConfusion (h '\n' hmem)
  induction cs using pieceInduction (· == '\n') with
  | last piece h => exact last piece (hnot piece h)
  | more piece c rest h hc ih =>
      obtain rfl := beq_iff_eq.mp hc
      exact more piece rest (hnot piece h) ih

/-- Lines in a row are the lines of the text that they make. -/
theorem lines_unlines {pieces : List (List Char)} (hne : pieces ≠ []) (h : ∀ piece ∈ pieces, '\n' ∉ piece) :
    lines (unlines pieces) = pieces :=
  @splitWhen_join (· == '\n') '\n' BEq.rfl pieces hne fun piece hpiece => beq_eq_false_of_not_mem (h piece hpiece)

/-! ## Marks -/

theorem splitTextFrom_eq_drop (mark : List Char) (skip : Nat) (cs : List Char) :
    splitTextFrom mark skip cs = splitText mark (cs.drop skip) := by
  induction skip generalizing cs with
  | zero => rfl
  | succ skip ih =>
      cases cs with
      | nil => rfl
      | cons c cs => exact ih cs

/-- A text has no mark in it, or it is cut at the first mark. -/
theorem splitText_eq {mark : List Char} (hmark : mark ≠ []) (cs : List Char) :
    splitText mark cs = [cs] ∨
      ∃ piece rest, cs = piece ++ mark ++ rest ∧ splitText mark cs = piece :: splitText mark rest := by
  induction cs with
  | nil => exact .inl rfl
  | cons c cs ih =>
      cases hprefix : mark.isPrefixOf (c :: cs) with
      | true =>
          obtain ⟨rest, hrest⟩ := List.isPrefixOf_iff_prefix.mp hprefix
          obtain ⟨d, ds, rfl⟩ := List.exists_cons_of_ne_nil hmark
          obtain ⟨-, htail⟩ := List.cons.inj hrest
          refine .inr ⟨[], rest, by rw [List.nil_append, hrest], ?_⟩
          rw [splitText, splitTextFrom, if_pos hprefix, splitTextFrom_eq_drop, List.length_cons, Nat.add_sub_cancel,
            ← htail]
          exact congrArg (fun after => [] :: splitText (d :: ds) after) List.drop_left
      | false =>
          have hstep : ∀ piece pieces, splitText mark cs = piece :: pieces →
              splitText mark (c :: cs) = (c :: piece) :: pieces := by
            intro piece pieces h
            rw [splitText, splitTextFrom, hprefix, if_neg Bool.false_ne_true]
            rw [splitText] at h
            rw [h]
          rcases ih with h | ⟨piece, rest, hcs, h⟩
          · exact .inl (hstep _ _ h)
          · exact .inr ⟨c :: piece, rest, by rw [hcs]; rfl, hstep _ _ h⟩

theorem splitTextFrom_ne_nil (mark : List Char) (skip : Nat) (cs : List Char) : splitTextFrom mark skip cs ≠ [] := by
  induction cs generalizing skip with
  | nil => cases skip <;> exact List.cons_ne_nil _ _
  | cons c cs ih =>
      cases skip with
      | succ skip => exact ih skip
      | zero =>
          unfold splitTextFrom
          split
          · exact List.cons_ne_nil _ _
          · split <;> exact List.cons_ne_nil _ _

theorem replaceFrom_eq_join (old new : List Char) (skip : Nat) (cs : List Char) :
    replaceFrom old new skip cs = join new (splitTextFrom old skip cs) := by
  induction cs generalizing skip with
  | nil => cases skip <;> rfl
  | cons c cs ih =>
      cases skip with
      | succ skip => exact ih skip
      | zero =>
          rw [replaceFrom, splitTextFrom]
          split
          · rw [ih]
            obtain ⟨piece, pieces, h⟩ := List.exists_cons_of_ne_nil (splitTextFrom_ne_nil old (old.length - 1) cs)
            rw [h, join_cons_cons]
            rfl
          · rw [ih]
            obtain ⟨piece, pieces, h⟩ := List.exists_cons_of_ne_nil (splitTextFrom_ne_nil old 0 cs)
            rw [h]
            cases pieces with
            | nil => rfl
            | cons next rest => simp only [join_cons_cons, List.cons_append]

/-- A text is replaced where it is cut. -/
theorem replace_eq_join (old new cs : List Char) : replace old new cs = join new (splitText old cs) :=
  replaceFrom_eq_join old new 0 cs

end Folio.Text
