import Folio.Proofs.Markdown.CodeContents
import Folio.Proofs.Markdown.RunCuts
import Folio.Proofs.Text.WrappedLines

/-!
# White space in code

Setting the words of a text in lines does not look for code: it collapses the white space in code as well. But it moves
no backtick to another row, so the text has as much code as before.

* `codesIn_collapseBlank`, `codesIn_words` : what becomes of code when the white space of a text is collapsed;
* `EvenlySpaced` : white space that consists of single spaces is not changed;
* `shownCode` : code as it is read, with spaces for line ends;
* `shownCode_wrap` : with spaces for its line ends, a wrapped line is evenly spaced.
-/

namespace Folio.Markdown
open Text (unlines pieceInduction words lineOf lineOf_cons_cons lineOf_singleton IsWord)
open Unicode (isAsciiMark isBlank)

/-- The white space in the text consists of single spaces. -/
structure EvenlySpaced (cs : List Char) : Prop where
  spaces : ∀ c ∈ cs, isBlank c = true → c = ' '
  apart : cs.IsChain fun c d => ¬ (isBlank c = true ∧ isBlank d = true)

/-- Code as it is read: its line ends are spaces. -/
def shownCode (code : List Char) : List Char := code.map fun c => if c = '\n' then ' ' else c

/-! ## Collapsed white space -/

theorem not_isBlank_tick : isBlank '`' = false := by decide

theorem collapseBlank_cons {c : Char} (hc : isBlank c = false) (behind : Bool) (cs : List Char) :
    collapseBlank behind (c :: cs) = c :: collapseBlank false cs := by
  rw [collapseBlank, hc, if_neg Bool.false_ne_true]

theorem collapseBlank_blank {c : Char} (hc : isBlank c = true) (behind : Bool) (cs : List Char) :
    collapseBlank behind (c :: cs) = (if behind then [] else [' ']) ++ collapseBlank true cs := by
  rw [collapseBlank, if_pos hc]
  cases behind <;> rfl

theorem head?_collapseBlank (cs : List Char) :
    (collapseBlank false cs).head? = cs.head?.map fun c => if isBlank c = true then ' ' else c := by
  cases cs with
  | nil => rfl
  | cons c cs =>
      rw [List.head?_cons, Option.map_some]
      split
      next hc => rw [collapseBlank_blank hc, if_neg Bool.false_ne_true, List.singleton_append, List.head?_cons]
      next hc => rw [collapseBlank_cons (eq_false_of_ne_true hc), List.head?_cons]

theorem head?_collapseBlank_ne {cs : List Char} (h : cs.head? ≠ some '`') :
    (collapseBlank false cs).head? ≠ some '`' := by
  rw [head?_collapseBlank]
  cases cs with
  | nil => exact nofun
  | cons c cs =>
      rw [List.head?_cons, Option.map_some]
      split
      · exact fun heq => absurd (Option.some.inj heq) (by decide)
      · exact h

theorem getLast?_collapseBlank_ne {cs : List Char} (h : cs.getLast? ≠ some '`') (behind : Bool) :
    (collapseBlank behind cs).getLast? ≠ some '`' := by
  induction cs generalizing behind with
  | nil => exact nofun
  | cons c cs ih =>
      have hrest : cs.getLast? ≠ some '`' := fun heq => by
        rw [List.getLast?_cons, heq] at h
        exact h rfl
      have hlast : ∀ d b, (collapseBlank b cs = [] → d ≠ '`') → (d :: collapseBlank b cs).getLast? ≠ some '`' := by
        intro d b hd
        rw [List.getLast?_cons]
        cases hcs : (collapseBlank b cs).getLast? with
        | none => exact fun heq => hd (List.getLast?_eq_none_iff.mp hcs) (Option.some.inj heq)
        | some e => exact hcs ▸ ih hrest b
      by_cases hc : isBlank c = true
      · rw [collapseBlank_blank hc]
        cases behind with
        | true => exact ih hrest true
        | false => exact hlast ' ' true fun _ => by decide
      · rw [collapseBlank_cons (eq_false_of_ne_true hc)]
        refine hlast c false fun hnil => ?_
        have hhead := head?_collapseBlank cs
        rw [hnil, List.head?_nil, eq_comm, Option.map_eq_none_iff, List.head?_eq_none_iff] at hhead
        rintro rfl
        rw [hhead] at h
        exact h rfl

/-- The rows of backticks do not depend on white space. -/
theorem tickRows_collapseBlank {behind : Bool} {run : Nat} (cs : List Char) (h : behind = true → run = 0) :
    tickRows run (collapseBlank behind cs) = tickRows run cs := by
  induction cs generalizing behind run with
  | nil => rfl
  | cons c cs ih =>
      by_cases hc : isBlank c = true
      · have htick : c ≠ '`' := by
          rintro rfl
          exact absurd hc (by decide)
        have hsame : tickRows 0 (collapseBlank true cs) = tickRows 0 cs := ih fun _ => rfl
        rw [collapseBlank_blank hc]
        cases behind with
        | true =>
            obtain rfl := h rfl
            rw [if_pos rfl, List.nil_append, tickRows_cons htick, hsame]
        | false =>
            rw [if_neg Bool.false_ne_true, List.singleton_append, tickRows, tickRows, if_neg (by decide), if_neg htick,
              hsame]
      · have hsame : ∀ run, tickRows run (collapseBlank false cs) = tickRows run cs := fun run =>
          ih fun h => Bool.noConfusion h
        rw [collapseBlank_cons (eq_false_of_ne_true hc), tickRows, tickRows, hsame, hsame]

theorem collapseBlank_tick (cs ds : List Char) (behind : Bool) :
    collapseBlank behind (cs ++ '`' :: ds) = collapseBlank behind cs ++ '`' :: collapseBlank false ds := by
  induction cs generalizing behind with
  | nil => exact collapseBlank_cons not_isBlank_tick behind ds
  | cons c cs ih =>
      by_cases hc : isBlank c = true
      · rw [List.cons_append, collapseBlank_blank hc, collapseBlank_blank hc, ih, List.append_assoc]
      · rw [List.cons_append, collapseBlank_cons (eq_false_of_ne_true hc), collapseBlank_cons (eq_false_of_ne_true hc),
          ih, List.cons_append]

theorem collapseBlank_row (k : Nat) (behind : Bool) (cs : List Char) :
    collapseBlank behind (List.replicate (k + 1) '`' ++ cs) = List.replicate (k + 1) '`' ++ collapseBlank false cs := by
  induction k generalizing behind with
  | zero => exact collapseBlank_cons not_isBlank_tick behind cs
  | succ k ih =>
      rw [List.replicate_succ, List.cons_append, collapseBlank_cons not_isBlank_tick, ih, List.cons_append]

theorem Enclosed.collapseBlank {n : Nat} {content : List Char} (h : Enclosed n content) :
    Enclosed n (collapseBlank false content) where
  nonempty := by
    obtain ⟨c, rest, rfl⟩ := List.exists_cons_of_ne_nil h.nonempty
    have hhead := head?_collapseBlank (c :: rest)
    intro hnil
    rw [hnil] at hhead
    cases hhead
  head := head?_collapseBlank_ne h.head
  last := getLast?_collapseBlank_ne h.last false
  rows := by
    rw [tickRows_collapseBlank content fun h => Bool.noConfusion h]
    exact h.rows

/-- Code in a text with collapsed white space. -/
theorem codesIn_collapseBlank (cs : List Char) (behind : Bool) :
    codesIn (collapseBlank behind cs) = (codesIn cs).map (collapseBlank false) := by
  suffices h : ∀ contents, Codes cs contents → codesIn (collapseBlank behind cs) = contents.map (collapseBlank false)
    from h _ (codes_codesIn cs)
  intro contents hcodes
  induction hcodes generalizing behind with
  | nil => rfl
  | @text c cs _ tick slash _ ih =>
      by_cases hc : isBlank c = true
      · rw [collapseBlank_blank hc, codesIn_plain_append, ih]
        cases behind with
        | true => exact nofun
        | false => exact List.forall_mem_singleton.mpr ⟨by decide, by decide⟩
      · rw [collapseBlank_cons (eq_false_of_ne_true hc), codesIn_text tick slash, ih]
  | escaped mark _ ih =>
      rw [collapseBlank_cons (by decide), collapseBlank_cons (not_isBlank_of_isAsciiMark mark), codesIn_escaped mark,
        ih]
  | @slash cs _ next _ ih =>
      rw [collapseBlank_cons (by decide), codesIn_slash, ih]
      rw [head?_collapseBlank]
      cases cs with
      | nil => exact nofun
      | cons c cs =>
          have hc : isAsciiMark c = false := next c rfl
          rw [List.head?_cons, Option.map_some]
          intro d hd
          obtain rfl := Option.some.inj hd
          split
          · decide
          · exact hc
  | @row k cs _ head rows _ ih =>
      rw [collapseBlank_row, codesIn_row (head?_collapseBlank_ne head), ih]
      rwa [tickRows_collapseBlank cs fun h => Bool.noConfusion h]
  | @code k content cs _ enclosed head _ ih =>
      have hsplit : List.replicate (k + 1) '`' ++ cs = '`' :: (List.replicate k '`' ++ cs) := by
        rw [List.replicate_succ, List.cons_append]
      have hclose : collapseBlank false (content ++ (List.replicate (k + 1) '`' ++ cs)) =
          collapseBlank false content ++ (List.replicate (k + 1) '`' ++ collapseBlank false cs) := by
        rw [← collapseBlank_row k false cs, hsplit, collapseBlank_tick, collapseBlank_cons not_isBlank_tick]
      rw [collapseBlank_row, hclose, codesIn_code enclosed.collapseBlank (head?_collapseBlank_ne head), ih,
        List.map_cons]

theorem collapseBlank_word {word : List Char} (h : IsWord word) (behind : Bool) (cs : List Char) :
    collapseBlank behind (word ++ cs) = word ++ collapseBlank false cs := by
  obtain ⟨hne, hword⟩ := h
  induction word generalizing behind with
  | nil => exact absurd rfl hne
  | cons c word ih =>
      obtain ⟨hc, hword⟩ := List.forall_mem_cons.mp hword
      rw [List.cons_append, collapseBlank_cons hc, List.cons_append]
      cases word with
      | nil => rfl
      | cons d word => rw [ih false (List.cons_ne_nil _ _) hword]

/-- The words of a text with single spaces between them are the text with its white space collapsed, but for the
edges. -/
theorem collapseBlank_words (cs : List Char) :
    ∃ back, collapseBlank true cs = lineOf (words cs) ++ back ∧ ∀ c ∈ back, c = ' ' := by
  have hword : ∀ {piece : List Char}, IsWord piece → words piece = [piece] := by
    intro piece h
    have hpiece := Text.words_lineOf (List.forall_mem_singleton.mpr h)
    rwa [lineOf_singleton] at hpiece
  induction cs using pieceInduction isBlank with
  | last piece hkept =>
      by_cases hne : piece = []
      · subst hne
        exact ⟨[], rfl, nofun⟩
      · have hsame := collapseBlank_word ⟨hne, hkept⟩ true []
        rw [List.append_nil] at hsame
        refine ⟨[], ?_, nofun⟩
        rw [hsame, hword ⟨hne, hkept⟩, lineOf_singleton]
        rfl
  | more piece c rest hkept hc ih =>
      obtain ⟨back, hrest, hback⟩ := ih
      rw [Text.words_append_cons hc]
      by_cases hne : piece = []
      · subst hne
        refine ⟨back, ?_, hback⟩
        rw [List.nil_append, collapseBlank_blank hc, if_pos rfl, List.nil_append, hrest]
        rfl
      · rw [hword ⟨hne, hkept⟩, List.singleton_append, collapseBlank_word ⟨hne, hkept⟩, collapseBlank_blank hc,
          if_neg Bool.false_ne_true, List.singleton_append, hrest]
        cases words rest with
        | nil => exact ⟨' ' :: back, by rw [lineOf_singleton]; rfl, List.forall_mem_cons.mpr ⟨rfl, hback⟩⟩
        | cons next others => exact ⟨back, by rw [lineOf_cons_cons, List.append_assoc, List.cons_append], hback⟩

/-- **Code among the words of a text** is the code of the text with its white space collapsed. -/
theorem codesIn_words (cs : List Char) : codesIn (lineOf (words cs)) = (codesIn cs).map (collapseBlank false) := by
  obtain ⟨back, hsame, hback⟩ := collapseBlank_words cs
  have hplain : ∀ c ∈ back, isAsciiMark c = false := fun c hc => hback c hc ▸ (by decide)
  rw [← codesIn_collapseBlank cs true, hsame, codesIn_append_plain hplain]

/-! ## Even spacing -/

namespace EvenlySpaced
variable {cs : List Char}

theorem of_isInfix {part : List Char} (h : EvenlySpaced cs) (hpart : part <:+: cs) : EvenlySpaced part where
  spaces := fun c hc => h.spaces c (hpart.subset hc)
  apart := List.IsChain.infix h.apart hpart

theorem cons {c : Char} (h : EvenlySpaced cs) (hc : isBlank c = false) : EvenlySpaced (c :: cs) where
  spaces := List.forall_mem_cons.mpr ⟨fun hblank => Bool.noConfusion (hblank.symm.trans hc), h.spaces⟩
  apart := List.isChain_cons.mpr ⟨fun _ _ hboth => Bool.noConfusion (hboth.1.symm.trans hc), h.apart⟩

theorem cons_space (h : EvenlySpaced cs) (hhead : ∀ c ∈ cs.head?, isBlank c = false) : EvenlySpaced (' ' :: cs) where
  spaces := List.forall_mem_cons.mpr ⟨fun _ => rfl, h.spaces⟩
  apart := List.isChain_cons.mpr ⟨fun d hd hboth => Bool.noConfusion (hboth.2.symm.trans (hhead d hd)), h.apart⟩

theorem concat {c : Char} (h : EvenlySpaced cs) (hc : isBlank c = false) : EvenlySpaced (cs ++ [c]) where
  spaces := by
    intro d hd hblank
    rcases List.mem_append.mp hd with hd | hd
    · exact h.spaces d hd hblank
    · rw [List.mem_singleton.mp hd, hc] at hblank
      cases hblank
  apart := by
    refine List.isChain_append.mpr ⟨h.apart, List.isChain_singleton c, fun _ _ d hd hboth => ?_⟩
    obtain rfl := Option.some.inj hd
    exact Bool.noConfusion (hboth.2.symm.trans hc)

theorem append_word {word : List Char} (h : EvenlySpaced cs) (hword : ∀ c ∈ word, isBlank c = false) :
    EvenlySpaced (word ++ cs) := by
  induction word with
  | nil => exact h
  | cons c word ih =>
      obtain ⟨hc, hword⟩ := List.forall_mem_cons.mp hword
      exact (ih hword).cons hc

/-- Collapsing white space leaves the text as it is. -/
theorem collapseBlank_eq (h : EvenlySpaced cs) {behind : Bool}
    (hhead : behind = true → ∀ c ∈ cs.head?, isBlank c = false) : collapseBlank behind cs = cs := by
  induction cs generalizing behind with
  | nil => rfl
  | cons c cs ih =>
      have hrest : EvenlySpaced cs := h.of_isInfix (List.suffix_cons c cs).isInfix
      by_cases hc : isBlank c = true
      · have hnext : ∀ d ∈ cs.head?, isBlank d = false := fun d hd => by
          have hapart := (List.isChain_cons.mp h.apart).1 d hd
          exact eq_false_of_ne_true fun hblank => hapart ⟨hc, hblank⟩
        obtain rfl := h.spaces c List.mem_cons_self hc
        cases behind with
        | true =>
            rw [hhead rfl ' ' rfl] at hc
            cases hc
        | false =>
            rw [collapseBlank_blank hc, if_neg Bool.false_ne_true, List.singleton_append, ih hrest fun _ => hnext]
      · rw [collapseBlank_cons (eq_false_of_ne_true hc), ih hrest fun h => Bool.noConfusion h]

end EvenlySpaced

theorem evenlySpaced_nil : EvenlySpaced [] := ⟨nofun, List.isChain_nil⟩

theorem evenlySpaced_lineOf {row : List (List Char)} (hrow : ∀ word ∈ row, IsWord word) :
    EvenlySpaced (lineOf row) := by
  induction row with
  | nil => exact evenlySpaced_nil
  | cons first rest ih =>
      obtain ⟨hfirst, hrest⟩ := List.forall_mem_cons.mp hrow
      cases rest with
      | nil =>
          have hword := evenlySpaced_nil.append_word hfirst.2
          rwa [List.append_nil, ← lineOf_singleton first] at hword
      | cons next rest =>
          rw [lineOf_cons_cons]
          exact ((ih hrest).cons_space (Text.head?_lineOf hrest)).append_word hfirst.2

/-! ## Code as it is read -/

theorem shownCode_of_not_mem {code : List Char} (h : '\n' ∉ code) : shownCode code = code := by
  unfold shownCode
  conv_rhs => rw [← List.map_id code]
  exact List.map_congr_left fun c hc => if_neg (ne_of_mem_of_not_mem hc h)

theorem shownCode_append (code more : List Char) : shownCode (code ++ more) = shownCode code ++ shownCode more :=
  List.map_append

theorem shownCode_feed (code : List Char) : shownCode ('\n' :: code) = ' ' :: shownCode code := rfl

theorem shownCode_cons {c : Char} (hc : c ≠ '\n') (code : List Char) : shownCode (c :: code) = c :: shownCode code :=
  congrArg (· :: shownCode code) (if_neg hc)

theorem collapseBlank_shownCode (code : List Char) (behind : Bool) :
    collapseBlank behind (shownCode code) = collapseBlank behind code := by
  induction code generalizing behind with
  | nil => rfl
  | cons c code ih =>
      by_cases hc : c = '\n'
      · subst hc
        rw [shownCode_feed, collapseBlank_blank (by decide), collapseBlank_blank (by decide), ih]
      · rw [shownCode_cons hc, collapseBlank, collapseBlank, ih, ih]

/-- The lines of full rows, with their ends as spaces. -/
theorem shownCode_unlines {rows : List (List (List Char))} (filled : [] ∉ rows)
    (hwords : ∀ row ∈ rows, ∀ word ∈ row, IsWord word) :
    shownCode (unlines (rows.map lineOf)) = lineOf rows.flatten := by
  induction rows with
  | nil => rfl
  | cons row rows ih =>
      obtain ⟨hrow, hrows⟩ := List.forall_mem_cons.mp hwords
      obtain ⟨hne, filled⟩ := not_or.mp (mt List.mem_cons.mpr filled)
      have hfirst : shownCode (lineOf row) = lineOf row := shownCode_of_not_mem (Text.not_mem_lineOf hrow)
      cases rows with
      | nil => simpa [unlines, Text.join] using hfirst
      | cons next rows =>
          have hflat : (next :: rows).flatten ≠ [] := by
            rw [List.flatten_cons]
            refine List.append_ne_nil_of_left_ne_nil ?_ _
            rintro rfl
            exact filled List.mem_cons_self
          calc shownCode (unlines ((row :: next :: rows).map lineOf))
              = shownCode (lineOf row ++ ['\n'] ++ unlines ((next :: rows).map lineOf)) :=
                congrArg shownCode (Text.join_cons_cons _ _ _ _)
            _ = lineOf row ++ [' '] ++ lineOf (next :: rows).flatten := by
                rw [shownCode_append, shownCode_append, hfirst, ih filled hrows]
                rfl
            _ = lineOf (row :: next :: rows).flatten := (Text.join_append [' '] (Ne.symm hne) hflat).symm

/-- A line that is wrapped is its words with single spaces between them, when its ends of lines are spaces. -/
theorem shownCode_wrap {cs : List Char} (hfeed : '\n' ∉ cs) {width : Nat} (hwidth : 1 ≤ width) :
    shownCode (Text.wrap cs width) = lineOf (words cs) := by
  obtain ⟨rows, hfills, hwrap⟩ := Text.exists_fills_wrap hfeed hwidth
  rw [hwrap, ← hfills.words]
  by_cases hfilled : [] ∈ rows
  · rw [hfills.filled hfilled]
    rfl
  · exact shownCode_unlines hfilled hfills.isWord

end Folio.Markdown
