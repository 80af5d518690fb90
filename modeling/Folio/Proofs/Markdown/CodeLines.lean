import Folio.Proofs.Markdown.CodeContents
import Folio.Proofs.Markdown.DashLines
import Folio.Proofs.Markdown.LineStarts

/-!
# Lines that begin in code

The pass over the beginnings of lines does not look for code: a line that begins in code gets a backslash like any
other, and there the backslash is part of the code. What the pass does to a line is settled before the first backtick in
it, so the code that goes on in a line is escaped in the same way whatever follows it.

* `escapeLater`, `escapeCode` : the lines of a text behind the first, and the lines that begin in code;
* `escapeLineStart_tick`, `escapeLater_tick` : a line is the same for the pass up to each backtick;
* `codesIn_escapeLater` : the code in a text whose lines are escaped.
-/

namespace Folio.Markdown
open Text (lines unlines lines_append lines_of_not_mem lineInduction)
open Unicode (isAsciiMark isBlank)

/-- The text with the block marks of its lines behind the first escaped. -/
def escapeLater (cs : List Char) : List Char :=
  match lines cs with
  | [] => []
  | first :: rest => unlines (first :: rest.map escapeLineStart)

/-- Code with the block marks of the lines escaped that begin in it. The last of them goes on with a backtick. -/
def escapeCode (code : List Char) : List Char := (escapeLater (code ++ ['`'])).dropLast

/-! ## The beginning of a line in front of a backtick -/

theorem blankOrEnd_tick (cs rest : List Char) : blankOrEnd (cs ++ '`' :: rest) = cs.head?.any isSpaceOrTab := by
  cases cs <;> rfl

theorem drop_takeWhile_tick (p : Char → Bool) (cs rest : List Char) :
    (cs ++ '`' :: rest).drop (cs.takeWhile p).length = cs.drop (cs.takeWhile p).length ++ '`' :: rest :=
  List.drop_append_of_le_length (List.takeWhile_prefix p).length_le

theorem startsWithMarker_cons {c : Char} (hc : c ≠ '#') (rest : List Char) :
    startsWithMarker (c :: rest) = (decide (c = '>') || decide (c ∈ ['-', '+', '*']) && blankOrEnd rest) := by
  unfold startsWithMarker
  split <;> simp_all

theorem startsWithMarker_tick (cs rest : List Char) :
    startsWithMarker (cs ++ '`' :: rest) = startsWithMarker (cs ++ ['`']) := by
  cases cs with
  | nil => rfl
  | cons c cs =>
      by_cases hc : c = '#'
      · subst hc
        have hmarker : ∀ after, startsWithMarker ('#' :: cs ++ '`' :: after) =
            (decide ((('#' :: cs).takeWhile (· == '#')).length ≤ 6) &&
              (('#' :: cs).drop (('#' :: cs).takeWhile (· == '#')).length).head?.any isSpaceOrTab) := by
          intro after
          have hrow : ('#' :: cs ++ '`' :: after).takeWhile (· == '#') = ('#' :: cs).takeWhile (· == '#') :=
            takeWhile_stop (by decide) _ _
          rw [← blankOrEnd_tick _ after, ← drop_takeWhile_tick, ← hrow]
          rfl
        rw [hmarker, hmarker]
      · rw [List.cons_append, List.cons_append, startsWithMarker_cons hc, startsWithMarker_cons hc, blankOrEnd_tick,
          blankOrEnd_tick]

theorem isUnderline_tick (cs rest : List Char) : isUnderline (cs ++ '`' :: rest) = false := by
  by_contra h
  rw [Bool.not_eq_false] at h
  obtain ⟨c, after, hcs⟩ := List.exists_cons_of_ne_nil
    (List.append_ne_nil_of_right_ne_nil cs (List.cons_ne_nil '`' rest))
  rw [hcs, isUnderline, Bool.and_eq_true, Bool.or_eq_true, decide_eq_true_eq, decide_eq_true_eq, all_trimEnd_iff,
    ← hcs] at h
  obtain ⟨hc, hblank⟩ := h
  have hstop : ('`' == c) = false := by rcases hc with rfl | rfl <;> decide
  rw [dropWhile_stop (p := (· == c)) hstop] at hblank
  exact absurd (hblank '`' (by simp)) (by decide)

theorem orderedMarker?_tick (cs : List Char) :
    ∃ found : Option (List Char × List Char), ∀ rest,
      orderedMarker? (cs ++ '`' :: rest) = found.map fun number => (number.1, number.2 ++ '`' :: rest) := by
  cases hbehind : cs.drop (cs.takeWhile Char.isDigit).length with
  | nil =>
      refine ⟨none, fun rest => ?_⟩
      unfold orderedMarker?
      dsimp only
      rw [takeWhile_stop (by decide), drop_takeWhile_tick, hbehind]
      split <;> rfl
  | cons mark after =>
      refine ⟨if (1 ≤ (cs.takeWhile Char.isDigit).length ∧ (cs.takeWhile Char.isDigit).length ≤ 9) ∧
          (mark = '.' ∨ mark = ')') ∧ after.head?.any isSpaceOrTab = true then
        some (cs.takeWhile Char.isDigit, mark :: after) else none, fun rest => ?_⟩
      unfold orderedMarker?
      dsimp only
      rw [takeWhile_stop (by decide), drop_takeWhile_tick, hbehind, List.cons_append]
      by_cases hdot : mark = '.'
      · subst hdot
        simp only [blankOrEnd_tick]
        split <;> split <;> simp_all
      · by_cases hparen : mark = ')'
        · subst hparen
          simp only [blankOrEnd_tick]
          split <;> split <;> simp_all
        · simp [hdot, hparen]

/-- What is done at the beginning of a line is settled before the first backtick in it. -/
theorem escapeLineStart_tick (cs : List Char) :
    ∃ written, ∀ rest, escapeLineStart (cs ++ '`' :: rest) = written ++ '`' :: rest := by
  obtain ⟨found, hfound⟩ := orderedMarker?_tick (cs.dropWhile isSpaceOrTab)
  have hline : ∀ rest, escapeLineStart (cs ++ '`' :: rest) =
      if startsWithMarker (cs.dropWhile isSpaceOrTab ++ ['`']) = true then
        '\\' :: (cs.dropWhile isSpaceOrTab ++ '`' :: rest)
      else found.elim (cs.dropWhile isSpaceOrTab ++ '`' :: rest) fun number =>
        number.1 ++ '\\' :: (number.2 ++ '`' :: rest) := by
    intro rest
    unfold escapeLineStart
    dsimp only
    rw [dropWhile_stop (by decide), isUnderline_tick, Bool.or_false, startsWithMarker_tick, hfound]
    cases found with
    | none => rfl
    | some number => rfl
  by_cases hmarker : startsWithMarker (cs.dropWhile isSpaceOrTab ++ ['`']) = true
  · refine ⟨'\\' :: cs.dropWhile isSpaceOrTab, fun rest => ?_⟩
    rw [hline, if_pos hmarker, List.cons_append]
  · cases found with
    | none =>
        refine ⟨cs.dropWhile isSpaceOrTab, fun rest => ?_⟩
        rw [hline, if_neg hmarker]
        rfl
    | some number =>
        refine ⟨number.1 ++ '\\' :: number.2, fun rest => ?_⟩
        rw [hline, if_neg hmarker, List.append_assoc, List.cons_append]
        rfl

/-! ## Lines behind the first -/

theorem escapeLater_of_not_mem {cs : List Char} (h : '\n' ∉ cs) : escapeLater cs = cs := by
  unfold escapeLater
  rw [lines_of_not_mem h]
  exact List.append_nil cs

theorem unlines_cons {rest : List (List Char)} (h : rest ≠ []) (first : List Char) :
    unlines (first :: rest) = first ++ '\n' :: unlines rest := by
  obtain ⟨next, rest, rfl⟩ := List.exists_cons_of_ne_nil h
  rw [unlines, Text.join_cons_cons, List.append_assoc, List.singleton_append, unlines]

theorem escapeLater_append {piece : List Char} (h : '\n' ∉ piece) (rest : List Char) :
    escapeLater (piece ++ '\n' :: rest) = piece ++ '\n' :: escapeBlockStarts rest := by
  have hne : (lines rest).map escapeLineStart ≠ [] := fun hnil =>
    Text.splitWhen_ne_nil _ _ (List.map_eq_nil_iff.mp hnil)
  unfold escapeLater
  rw [lines_append h]
  exact unlines_cons hne piece

theorem escapeBlockStarts_append {piece : List Char} (h : '\n' ∉ piece) (rest : List Char) :
    escapeBlockStarts (piece ++ '\n' :: rest) = escapeLineStart piece ++ '\n' :: escapeBlockStarts rest := by
  have hne : (lines rest).map escapeLineStart ≠ [] := fun hnil =>
    Text.splitWhen_ne_nil _ _ (List.map_eq_nil_iff.mp hnil)
  unfold escapeBlockStarts
  rw [lines_append h, List.map_cons]
  exact unlines_cons hne _

theorem escapeLater_prepend {piece : List Char} (h : '\n' ∉ piece) (cs : List Char) :
    escapeLater (piece ++ cs) = piece ++ escapeLater cs := by
  have hjoin : ∀ more : List Char, '\n' ∉ more → '\n' ∉ piece ++ more := fun more hmore hmem =>
    (List.mem_append.mp hmem).elim h hmore
  induction cs using lineInduction with
  | last more hmore => rw [escapeLater_of_not_mem (hjoin more hmore), escapeLater_of_not_mem hmore]
  | more more rest hmore _ =>
      rw [← List.append_assoc, escapeLater_append (hjoin more hmore), escapeLater_append hmore, List.append_assoc]

theorem escapeLater_cons {c : Char} (hc : c ≠ '\n') (cs : List Char) : escapeLater (c :: cs) = c :: escapeLater cs :=
  escapeLater_prepend (fun hmem : '\n' ∈ [c] => hc (List.mem_singleton.mp hmem).symm) cs

theorem escapeLater_feed (cs : List Char) : escapeLater ('\n' :: cs) = '\n' :: escapeBlockStarts cs :=
  escapeLater_append List.not_mem_nil cs

theorem escapeLater_row (k : Nat) (cs : List Char) :
    escapeLater (List.replicate k '`' ++ cs) = List.replicate k '`' ++ escapeLater cs :=
  escapeLater_prepend (fun hmem => absurd (List.eq_of_mem_replicate hmem) (by decide)) cs

theorem head?_escapeLater (cs : List Char) : (escapeLater cs).head? = cs.head? := by
  cases cs with
  | nil => rfl
  | cons c cs =>
      by_cases hc : c = '\n'
      · rw [hc, escapeLater_feed, List.head?_cons, List.head?_cons]
      · rw [escapeLater_cons hc, List.head?_cons, List.head?_cons]

/-- What is done to the lines of a text is settled before the first backtick behind it. -/
theorem exists_escapeBlockStarts_tick (code : List Char) :
    ∃ written, ∀ rest, escapeBlockStarts (code ++ '`' :: rest) = written ++ '`' :: escapeLater rest := by
  induction code using lineInduction with
  | last piece hpiece =>
      obtain ⟨written, hwritten⟩ := escapeLineStart_tick piece
      have hline : ∀ more, '\n' ∉ more → '\n' ∉ piece ++ '`' :: more := by
        intro more hmore
        rw [List.mem_append, List.mem_cons]
        rintro (h | h | h)
        · exact hpiece h
        · exact absurd h (by decide)
        · exact hmore h
      refine ⟨written, fun rest => ?_⟩
      induction rest using lineInduction with
      | last more hmore =>
          rw [escapeBlockStarts_of_not_mem (hline more hmore), hwritten, escapeLater_of_not_mem hmore]
      | more more others hmore _ =>
          rw [← List.cons_append, ← List.append_assoc, escapeBlockStarts_append (hline more hmore), hwritten,
            escapeLater_append hmore, List.append_assoc, List.cons_append]
  | more piece others hpiece ih =>
      obtain ⟨written, hwritten⟩ := ih
      refine ⟨escapeLineStart piece ++ '\n' :: written, fun rest => ?_⟩
      rw [List.append_assoc, List.cons_append, escapeBlockStarts_append hpiece, hwritten, List.append_assoc,
        List.cons_append]

theorem exists_escapeLater_tick (code : List Char) :
    ∃ written, ∀ rest, escapeLater (code ++ '`' :: rest) = written ++ '`' :: escapeLater rest := by
  induction code using lineInduction with
  | last piece hpiece =>
      refine ⟨piece, fun rest => ?_⟩
      rw [escapeLater_prepend hpiece, escapeLater_cons (by decide)]
  | more piece others hpiece _ =>
      obtain ⟨written, hwritten⟩ := exists_escapeBlockStarts_tick others
      refine ⟨piece ++ '\n' :: written, fun rest => ?_⟩
      rw [List.append_assoc, List.cons_append, escapeLater_append hpiece, hwritten, List.append_assoc, List.cons_append]

/-- The code is escaped in the same way whatever follows it. -/
theorem escapeLater_tick (code rest : List Char) :
    escapeLater (code ++ '`' :: rest) = escapeCode code ++ '`' :: escapeLater rest := by
  obtain ⟨written, hwritten⟩ := exists_escapeLater_tick code
  have hcode : escapeCode code = written := by
    unfold escapeCode
    rw [hwritten []]
    exact List.dropLast_concat
  rw [hwritten, hcode]

/-! ## Code behind the beginnings of lines -/

theorem tickRows_append_cons {c : Char} (hc : c ≠ '`') (run : Nat) (cs rest : List Char) :
    tickRows run (cs ++ c :: rest) = tickRows run cs ++ tickRows 0 rest := by
  induction cs generalizing run with
  | nil => exact if_neg hc
  | cons d cs ih =>
      rw [List.cons_append, tickRows, tickRows]
      split
      · exact ih _
      · rw [ih, List.append_assoc]

theorem tickRows_prepend {front : List Char} (h : '`' ∉ front) (cs : List Char) :
    tickRows 0 (front ++ cs) = tickRows 0 cs := by
  induction front with
  | nil => rfl
  | cons c front ih =>
      obtain ⟨hc, hfront⟩ := not_or.mp (mt List.mem_cons.mpr h)
      rw [List.cons_append, tickRows_cons (Ne.symm hc), ih hfront]

/-- What a line loses or gets at its beginning is neither a backtick nor a backslash that is read. -/
theorem plain_of_blanks {c : Char} {line : List Char} (h : c ∈ line.takeWhile isSpaceOrTab) : c ≠ '`' ∧ c ≠ '\\' := by
  have hblank : isSpaceOrTab c = true := List.mem_takeWhile_imp h
  constructor <;> (rintro rfl; exact absurd hblank (by decide))

theorem plain_of_digit {c : Char} (h : c.isDigit = true) : c ≠ '`' ∧ c ≠ '\\' := by
  constructor <;> (rintro rfl; exact absurd h (by decide))

theorem tickRows_escapeLineStart (line : List Char) : tickRows 0 (escapeLineStart line) = tickRows 0 line := by
  have hblanks : '`' ∉ line.takeWhile isSpaceOrTab := fun hmem => (plain_of_blanks hmem).1 rfl
  have hline := tickRows_prepend hblanks (line.dropWhile isSpaceOrTab)
  rw [List.takeWhile_append_dropWhile] at hline
  have hstart := startEscape line
  rw [hline]
  generalize line.dropWhile isSpaceOrTab = start at hstart
  generalize escapeLineStart line = written at hstart ⊢
  cases hstart with
  | marked => exact tickRows_cons (by decide) _
  | numbered number =>
      obtain ⟨rfl, hdigits, -⟩ := orderedMarker?_eq_some number
      have hplain := fun hmem => (plain_of_digit (hdigits '`' hmem)).1 rfl
      rw [tickRows_prepend hplain, tickRows_prepend hplain, tickRows_cons (by decide)]
  | kept => rfl

theorem tickRows_escapeBlockStarts (cs : List Char) : tickRows 0 (escapeBlockStarts cs) = tickRows 0 cs := by
  induction cs using lineInduction with
  | last piece h => rw [escapeBlockStarts_of_not_mem h, tickRows_escapeLineStart]
  | more piece rest h ih =>
      rw [escapeBlockStarts_append h, tickRows_append_cons (by decide), tickRows_append_cons (by decide), ih,
        tickRows_escapeLineStart]

theorem tickRows_escapeLater (cs : List Char) : tickRows 0 (escapeLater cs) = tickRows 0 cs := by
  induction cs using lineInduction with
  | last piece h => rw [escapeLater_of_not_mem h]
  | more piece rest h _ =>
      rw [escapeLater_append h, tickRows_append_cons (by decide), tickRows_append_cons (by decide),
        tickRows_escapeBlockStarts]

theorem codesIn_escapeLineStart (line rest : List Char) :
    codesIn (escapeLineStart line ++ rest) = codesIn (line ++ rest) := by
  have hline : codesIn (line ++ rest) = codesIn (line.dropWhile isSpaceOrTab ++ rest) := by
    conv_lhs => rw [← List.takeWhile_append_dropWhile (p := isSpaceOrTab) (l := line), List.append_assoc]
    exact codesIn_plain_append (fun c hc => plain_of_blanks hc) _
  have hstart := startEscape line
  rw [hline]
  generalize line.dropWhile isSpaceOrTab = start at hstart
  generalize escapeLineStart line = written at hstart ⊢
  cases hstart with
  | marked begins =>
      obtain ⟨c, after, rfl, hc⟩ := mark_of_begins begins
      have hmark : isAsciiMark c = true ∧ c ≠ '`' ∧ c ≠ '\\' := by
        simp only [List.mem_cons, List.not_mem_nil, or_false] at hc
        rcases hc with rfl | rfl | rfl | rfl | rfl | rfl <;> decide
      rw [List.cons_append, List.cons_append, codesIn_escaped hmark.1, codesIn_text hmark.2.1 hmark.2.2]
  | numbered number =>
      obtain ⟨rfl, hdigits, -, mark, after, rfl, hmark⟩ := orderedMarker?_eq_some number
      have hplain := fun c hc => plain_of_digit (hdigits c hc)
      have hdot : isAsciiMark mark = true ∧ mark ≠ '`' ∧ mark ≠ '\\' := by
        rcases hmark with rfl | rfl <;> decide
      rw [List.append_assoc, List.append_assoc, codesIn_plain_append hplain, codesIn_plain_append hplain,
        List.cons_append, List.cons_append, codesIn_escaped hdot.1, codesIn_text hdot.2.1 hdot.2.2]
  | kept => rfl

/-- The first line of a text begins outside code. -/
theorem codesIn_escapeBlockStarts_eq (cs : List Char) : codesIn (escapeBlockStarts cs) = codesIn (escapeLater cs) := by
  induction cs using lineInduction with
  | last piece h =>
      have hline := codesIn_escapeLineStart piece []
      rw [List.append_nil, List.append_nil] at hline
      rw [escapeBlockStarts_of_not_mem h, escapeLater_of_not_mem h, hline]
  | more piece rest h _ => rw [escapeBlockStarts_append h, escapeLater_append h, codesIn_escapeLineStart]

theorem exists_getLast?_tickRows (cs : List Char) (run : Nat) :
    ∃ n, 2 ≤ n ∧ (tickRows run (cs ++ ['`', '`'])).getLast? = some n := by
  induction cs generalizing run with
  | nil => exact ⟨run + 1 + 1, by omega, rfl⟩
  | cons c cs ih =>
      rw [List.cons_append, tickRows]
      split
      · exact ih _
      · obtain ⟨n, hn, hlast⟩ := ih 0
        refine ⟨n, hn, ?_⟩
        rw [List.getLast?_append, hlast, Option.some_or]

theorem Enclosed.escapeCode {n : Nat} {content : List Char} (h : Enclosed n content) :
    Enclosed n (escapeCode content) := by
  have htick : escapeLater (content ++ ['`']) = Markdown.escapeCode content ++ ['`'] := escapeLater_tick content []
  have hhead : (Markdown.escapeCode content ++ ['`']).head? = content.head? := by
    rw [← htick, head?_escapeLater, head?_append_left h.nonempty]
  have hrows : tickRows 0 (Markdown.escapeCode content ++ ['`']) = tickRows 0 content ++ [1] := by
    rw [← htick, tickRows_escapeLater, tickRows_append h.last fun _ => rfl]
    rfl
  have hne : Markdown.escapeCode content ≠ [] := by
    intro hnil
    rw [hnil] at hhead
    exact h.head hhead.symm
  -- the backtick behind the code is a row of its own, so none stands before it
  have hlast : (Markdown.escapeCode content).getLast? ≠ some '`' := by
    intro heq
    obtain ⟨front, hfront⟩ := List.getLast?_eq_some_iff.mp heq
    obtain ⟨n, hn, hrow⟩ := exists_getLast?_tickRows front 0
    rw [hfront, List.append_assoc, List.singleton_append] at hrows
    rw [hrows, List.getLast?_concat] at hrow
    have hone := Option.some.inj hrow
    omega
  refine ⟨hne, ?_, hlast, ?_⟩
  · rw [← head?_append_left hne ['`'], hhead]
    exact h.head
  · rw [tickRows_append hlast fun _ => rfl] at hrows
    rw [List.append_cancel_right hrows]
    exact h.rows

/-- Code in a text whose lines behind the first are escaped. -/
theorem codesIn_escapeLater (cs : List Char) : codesIn (escapeLater cs) = (codesIn cs).map escapeCode := by
  suffices h : ∀ contents, Codes cs contents → codesIn (escapeLater cs) = contents.map escapeCode
    from h _ (codes_codesIn cs)
  intro contents hcodes
  induction hcodes with
  | nil => rfl
  | @text c cs _ tick slash _ ih =>
      by_cases hc : c = '\n'
      · rw [hc, escapeLater_feed, codesIn_text (by decide) (by decide), codesIn_escapeBlockStarts_eq, ih]
      · rw [escapeLater_cons hc, codesIn_text tick slash, ih]
  | @escaped c cs _ mark _ ih =>
      have hc : c ≠ '\n' := by
        rintro rfl
        exact absurd mark (by decide)
      rw [escapeLater_cons (by decide), escapeLater_cons hc, codesIn_escaped mark, ih]
  | slash next _ ih =>
      rw [escapeLater_cons (by decide), codesIn_slash, ih]
      rw [head?_escapeLater]
      exact next
  | row head rows _ ih =>
      rw [escapeLater_row, codesIn_row, ih]
      · rwa [head?_escapeLater]
      · rwa [tickRows_escapeLater]
  | @code k content cs _ enclosed head _ ih =>
      have hclose : escapeLater (content ++ (List.replicate (k + 1) '`' ++ cs)) =
          escapeCode content ++ (List.replicate (k + 1) '`' ++ escapeLater cs) := by
        rw [List.replicate_succ, List.cons_append, List.cons_append, escapeLater_tick, escapeLater_row]
      have hhead : (escapeLater cs).head? ≠ some '`' := by rwa [head?_escapeLater]
      rw [escapeLater_row, hclose, codesIn_code enclosed.escapeCode hhead, ih, List.map_cons]

end Folio.Markdown
