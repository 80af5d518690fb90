import Folio.Text.Wrap
import Mathlib.Data.List.Chain
import Mathlib.Data.List.Forall2

/-!
# Greedily filled lines

The words of a line are set in rows. The rows are determined by the width alone: each takes words as long as they fit,
and a word that fits nowhere has a row to itself. Rows that are full in this sense are full for a second pass as well.

* `lineOf` : the words of a row as a line;
* `Fills` : rows that carry given words, fit within the width as far as words can, and are as full as they can be;
* `Fills.unique` : no other rows do;
* `exists_fills` : the words of a line are set in such rows;
* `wrap_fills` : a wrapped text is made of such rows, line by line, and is wrapped already.
-/

namespace Folio.Text
open Unicode (isBlank)

/-- The words of a row as a line, with a space between neighbours. -/
def lineOf (row : List (List Char)) : List Char := join [' '] row

/-- The line of the row is not longer than the width, unless it is a single word. -/
def FitsIn (width : Nat) (row : List (List Char)) : Prop := width < (lineOf row).length → ∃ word, row = [word]

/-- The row has no room for the word that the next one begins with. -/
def LeavesNoRoom (width : Nat) (row next : List (List Char)) : Prop :=
  ∀ word ∈ next.head?, width < (lineOf (row ++ [word])).length

/-- The rows carry the words in order. There is at least one, and only a lone row may be empty. Each fits in the width
as far as words can, and has no room for more. -/
structure Fills (width : Nat) (ws : List (List Char)) (rows : List (List (List Char))) : Prop where
  words : rows.flatten = ws
  some : rows ≠ []
  filled : [] ∈ rows → rows = [[]]
  fits : ∀ row ∈ rows, FitsIn width row
  full : rows.IsChain (LeavesNoRoom width)

/-! ## Rows as lines -/

theorem lineOf_cons_cons (first next : List Char) (rest : List (List Char)) :
    lineOf (first :: next :: rest) = first ++ ' ' :: lineOf (next :: rest) := by
  rw [lineOf, join_cons_cons, List.append_assoc, List.singleton_append, lineOf]

theorem lineOf_singleton (word : List Char) : lineOf [word] = word := List.append_nil word

theorem lineOf_concat {row : List (List Char)} (h : row ≠ []) (word : List Char) :
    lineOf (row ++ [word]) = lineOf row ++ ' ' :: word := by
  induction row with
  | nil => exact absurd rfl h
  | cons first rest ih =>
      cases rest with
      | nil => rw [List.singleton_append, lineOf_cons_cons, lineOf_singleton, lineOf_singleton]
      | cons next rest =>
          have hrest := ih (List.cons_ne_nil _ _)
          rw [List.cons_append, List.cons_append, lineOf_cons_cons, ← List.cons_append, hrest, lineOf_cons_cons,
            List.append_assoc, List.cons_append]

theorem length_lineOf_concat {row : List (List Char)} (h : row ≠ []) (word : List Char) :
    (lineOf (row ++ [word])).length = (lineOf row).length + 1 + word.length := by
  rw [lineOf_concat h, List.length_append, List.length_cons]
  omega

theorem length_lineOf_le_append (row more : List (List Char)) :
    (lineOf row).length ≤ (lineOf (row ++ more)).length := by
  induction more generalizing row with
  | nil => rw [List.append_nil]
  | cons word more ih =>
      have hfirst : (lineOf row).length ≤ (lineOf (row ++ [word])).length := by
        by_cases hrow : row = []
        · rw [hrow]
          exact Nat.zero_le _
        · rw [length_lineOf_concat hrow]
          omega
      have hmore := ih (row ++ [word])
      rw [List.append_assoc, List.singleton_append] at hmore
      exact Nat.le_trans hfirst hmore

/-- A text that is neither empty nor blank anywhere. -/
def IsWord (word : List Char) : Prop := word ≠ [] ∧ ∀ c ∈ word, isBlank c = false

theorem isWord_of_mem_words {word cs : List Char} (h : word ∈ words cs) : IsWord word := by
  obtain ⟨hpiece, hne⟩ := List.mem_filter.mp h
  refine ⟨fun hnil => ?_, ?_⟩
  · rw [hnil] at hne
    cases hne
  · induction cs using pieceInduction isBlank with
    | last piece hkept =>
        rw [splitWhen_of_forall hkept, List.mem_singleton] at hpiece
        rw [hpiece]
        exact hkept
    | more piece c rest hkept hc ih =>
        rw [splitWhen_append hkept hc, List.mem_cons] at hpiece
        rcases hpiece with rfl | hpiece
        · exact hkept
        · exact ih (List.mem_filter.mpr ⟨hpiece, hne⟩) hpiece

theorem length_lineOf_pos {row : List (List Char)} (hne : row ≠ []) (hrow : ∀ word ∈ row, IsWord word) :
    0 < (lineOf row).length := by
  obtain ⟨first, rest, rfl⟩ := List.exists_cons_of_ne_nil hne
  have hfirst := List.length_pos_of_ne_nil (hrow first List.mem_cons_self).1
  have hle := length_lineOf_le_append [first] rest
  rw [lineOf_singleton] at hle
  exact Nat.lt_of_lt_of_le hfirst hle

/-- A line of words begins with no blank. -/
theorem head?_lineOf {row : List (List Char)} (hrow : ∀ word ∈ row, IsWord word) :
    ∀ c ∈ (lineOf row).head?, isBlank c = false := by
  cases row with
  | nil => exact nofun
  | cons first rest =>
      obtain ⟨⟨hne, hfirst⟩, -⟩ := List.forall_mem_cons.mp hrow
      obtain ⟨c, first, rfl⟩ := List.exists_cons_of_ne_nil hne
      have hhead : (lineOf ((c :: first) :: rest)).head? = some c := by
        cases rest with
        | nil => rw [lineOf_singleton, List.head?_cons]
        | cons next rest => rw [lineOf_cons_cons, List.cons_append, List.head?_cons]
      rw [hhead]
      intro d hd
      obtain rfl := Option.some.inj hd
      exact hfirst _ List.mem_cons_self

theorem not_mem_lineOf {row : List (List Char)} (hrow : ∀ word ∈ row, IsWord word) : '\n' ∉ lineOf row := by
  have hword : ∀ {word : List Char}, IsWord word → '\n' ∉ word := fun h hmem => absurd (h.2 _ hmem) (by decide)
  induction row with
  | nil => exact List.not_mem_nil
  | cons first rest ih =>
      obtain ⟨hfirst, hrest⟩ := List.forall_mem_cons.mp hrow
      cases rest with
      | nil =>
          rw [lineOf_singleton]
          exact hword hfirst
      | cons next rest =>
          rw [lineOf_cons_cons, List.mem_append, List.mem_cons]
          rintro (h | h | h)
          · exact hword hfirst h
          · exact absurd h (by decide)
          · exact ih hrest h

/-- The words of a row are read back from its line. -/
theorem words_lineOf {row : List (List Char)} (hrow : ∀ word ∈ row, IsWord word) : words (lineOf row) = row := by
  have hblank : isBlank ' ' = true := by decide
  induction row with
  | nil => rfl
  | cons first rest ih =>
      obtain ⟨⟨hne, hfirst⟩, hrest⟩ := List.forall_mem_cons.mp hrow
      have hkept : ∀ pieces, (first :: pieces).filter (!·.isEmpty) = first :: pieces.filter (!·.isEmpty) :=
        fun pieces => List.filter_cons_of_pos (by simpa using hne)
      cases rest with
      | nil => rw [words, fields, lineOf_singleton, splitWhen_of_forall hfirst, hkept, List.filter_nil]
      | cons next rest =>
          rw [words, fields, lineOf_cons_cons, splitWhen_append hfirst hblank, hkept]
          exact congrArg (first :: ·) (ih hrest)

/-- The words of a text before a blank, and those behind it. -/
theorem words_append_cons {c : Char} (hc : isBlank c = true) (before behind : List Char) :
    words (before ++ c :: behind) = words before ++ words behind := by
  rw [words, fields, splitWhen_append_cons hc, List.filter_append, words, words, fields, fields]

theorem words_unlines (pieces : List (List Char)) : words (unlines pieces) = pieces.flatMap words := by
  induction pieces with
  | nil => rfl
  | cons piece pieces ih =>
      cases pieces with
      | nil => simp [unlines, join]
      | cons next pieces =>
          rw [unlines, join_cons_cons, List.append_assoc, List.singleton_append, words_append_cons (by decide),
            ← unlines, ih]
          rfl

/-! ## The rows are determined -/

theorem eq_nil_of_flatten {rows : List (List (List Char))} (filled : [] ∉ rows) (h : rows.flatten = []) :
    rows = [] := by
  cases rows with
  | nil => rfl
  | cons row rows =>
      rw [List.flatten_cons, List.append_eq_nil_iff] at h
      exact absurd (h.1 ▸ List.mem_cons_self) filled

/-- A full row does not end early: where another one goes on with the same words, the row behind it would begin with a
word for which it has room. -/
theorem not_shorter {width : Nat} {row next more behind : List (List Char)} {rows : List (List (List Char))}
    (hrow : row ≠ []) (hnext : next = row ++ more) (hmore : more ≠ []) (hbehind : rows.flatten = more ++ behind)
    (filled : [] ∉ rows) (fits : FitsIn width next) (full : (row :: rows).IsChain (LeavesNoRoom width)) : False := by
  obtain ⟨word, more, rfl⟩ := List.exists_cons_of_ne_nil hmore
  cases rows with
  | nil => cases hbehind
  | cons other rows =>
      obtain ⟨first, rest, rfl⟩ := List.exists_cons_of_ne_nil (fun h => filled (h ▸ List.mem_cons_self) : other ≠ [])
      rw [List.flatten_cons, List.cons_append, List.cons_append] at hbehind
      obtain ⟨rfl, -⟩ := List.cons.inj hbehind
      have hlong := (List.isChain_cons_cons.mp full).1 first rfl
      have hle := length_lineOf_le_append (row ++ [first]) more
      rw [List.append_assoc, List.singleton_append, ← hnext] at hle
      obtain ⟨single, hsingle⟩ := fits (Nat.lt_of_lt_of_le hlong hle)
      have hcount := congrArg List.length (hsingle.symm.trans hnext)
      have hpos := List.length_pos_of_ne_nil hrow
      simp only [List.length_append, List.length_cons, List.length_nil] at hcount
      omega

theorem eq_of_flatten {width : Nat} {rows rows' : List (List (List Char))} (h : rows.flatten = rows'.flatten)
    (filled : [] ∉ rows) (filled' : [] ∉ rows') (fits : ∀ row ∈ rows, FitsIn width row)
    (fits' : ∀ row ∈ rows', FitsIn width row) (full : rows.IsChain (LeavesNoRoom width))
    (full' : rows'.IsChain (LeavesNoRoom width)) : rows = rows' := by
  induction rows generalizing rows' with
  | nil => exact (eq_nil_of_flatten filled' h.symm).symm
  | cons row rows ih =>
      cases rows' with
      | nil => exact eq_nil_of_flatten filled h
      | cons row' rows' =>
          rw [List.mem_cons, not_or] at filled filled'
          rw [List.forall_mem_cons] at fits fits'
          rw [List.flatten_cons, List.flatten_cons] at h
          obtain rfl : row = row' := by
            rcases List.append_eq_append_iff.mp h with ⟨more, hrow', hrows⟩ | ⟨more, hrow, hrows'⟩
            · by_cases hmore : more = []
              · rw [hrow', hmore, List.append_nil]
              · exact (not_shorter (Ne.symm filled.1) hrow' hmore hrows filled.2 fits'.1 full).elim
            · by_cases hmore : more = []
              · rw [hrow, hmore, List.append_nil]
              · exact (not_shorter (Ne.symm filled'.1) hrow hmore hrows' filled'.2 fits.1 full').elim
          rw [ih (List.append_cancel_left h) filled.2 filled'.2 fits.2 fits'.2 full.tail full'.tail]

/-- **The rows that words fill are determined** by the words and the width. -/
theorem Fills.unique {width : Nat} {ws : List (List Char)} {rows rows' : List (List (List Char))}
    (h : Fills width ws rows) (h' : Fills width ws rows') : rows = rows' := by
  have hempty : ∀ {others : List (List (List Char))}, Fills width ws others → [] ∈ others → ws = [] := by
    intro others hothers hmem
    rw [← hothers.words, hothers.filled hmem]
    rfl
  have hlone : ∀ {others : List (List (List Char))}, Fills width ws others → ws = [] → others = [[]] := by
    intro others hothers hws
    obtain ⟨row, others, rfl⟩ := List.exists_cons_of_ne_nil hothers.some
    have hflat := hothers.words
    rw [hws, List.flatten_cons, List.append_eq_nil_iff] at hflat
    exact hothers.filled (hflat.1 ▸ List.mem_cons_self)
  by_cases hws : ws = []
  · rw [hlone h hws, hlone h' hws]
  · exact eq_of_flatten (h.words.trans h'.words.symm) (mt (hempty h) hws) (mt (hempty h') hws) h.fits h'.fits
      h.full h'.full

/-! ## Filling -/

/-- A line without words is one empty row, and any other row that fits is full on its own. -/
theorem fills_row {width : Nat} {row : List (List Char)} (fits : FitsIn width row) : Fills width row [row] where
  words := List.flatten_singleton
  some := List.cons_ne_nil _ _
  filled := fun hmem => by rw [← List.mem_singleton.mp hmem]
  fits := List.forall_mem_singleton.mpr fits
  full := List.isChain_singleton _

/-- Behind a row that is begun the words are set in rows, the first of which goes on with it. The line feeds stand
between the rows. -/
theorem exists_fills_behind {width : Nat} {row ws : List (List Char)} (hne : row ≠ [])
    (hrow : ∀ word ∈ row, IsWord word) (hws : ∀ word ∈ ws, IsWord word) (fits : FitsIn width row) :
    ∃ more others, Fills width (row ++ ws) ((row ++ more) :: others) ∧
      lineOf row ++ fill width (lineOf row).length ws = unlines (((row ++ more) :: others).map lineOf) := by
  induction ws generalizing row with
  | nil =>
      refine ⟨[], [], ?_, ?_⟩
      · rw [List.append_nil]
        exact fills_row fits
      · simp [fill, unlines, join]
  | cons word ws ih =>
      obtain ⟨hword, hws⟩ := List.forall_mem_cons.mp hws
      have hpos := length_lineOf_pos hne hrow
      rw [fill]
      by_cases hlong : (lineOf row).length > 0 ∧ (lineOf row).length + 1 + word.length > width
      · -- the word begins a row of its own
        obtain ⟨more, others, hfills, htext⟩ :=
          ih (List.cons_ne_nil word []) (List.forall_mem_singleton.mpr hword) hws fun _ => ⟨word, rfl⟩
        rw [lineOf_singleton, List.singleton_append] at htext
        rw [List.singleton_append, List.singleton_append] at hfills
        have hfilled : [] ∉ (word :: more) :: others := fun hmem => by
          obtain ⟨h, -⟩ := List.cons.inj (hfills.filled hmem)
          cases h
        refine ⟨[], (word :: more) :: others, ?_, ?_⟩
        · rw [List.append_nil]
          refine ⟨?_, List.cons_ne_nil _ _, fun hmem => ?_, List.forall_mem_cons.mpr ⟨fits, hfills.fits⟩, ?_⟩
          · rw [List.flatten_cons, hfills.words]
          · rcases List.mem_cons.mp hmem with hnil | hmem
            · exact absurd hnil.symm hne
            · exact absurd hmem hfilled
          · refine List.isChain_cons_cons.mpr ⟨fun first hfirst => ?_, hfills.full⟩
            obtain rfl := Option.some.inj hfirst
            rw [length_lineOf_concat hne]
            exact hlong.2
        · rw [if_pos hlong, List.append_nil, List.map_cons, List.map_cons, unlines, join_cons_cons, ← List.map_cons,
            ← unlines, ← htext, List.append_assoc, List.singleton_append, List.cons_append]
      · -- the word goes on the row
        rw [if_neg hlong, if_pos hpos]
        have hlength := length_lineOf_concat hne word
        have hfits : FitsIn width (row ++ [word]) := by
          rw [FitsIn, hlength]
          omega
        obtain ⟨more, others, hfills, htext⟩ := ih (List.append_ne_nil_of_right_ne_nil _ (List.cons_ne_nil _ _))
          (List.forall_mem_append.mpr ⟨hrow, List.forall_mem_singleton.mpr hword⟩) hws hfits
        refine ⟨word :: more, others, ?_, ?_⟩
        · rw [List.append_assoc, List.singleton_append, List.append_assoc, List.singleton_append] at hfills
          exact hfills
        · rw [hlength, lineOf_concat hne, List.append_assoc, List.append_assoc, List.singleton_append] at htext
          exact htext

/-- The words of a line are set in full rows, with line feeds between them. -/
theorem exists_fills (width : Nat) {ws : List (List Char)} (hws : ∀ word ∈ ws, IsWord word) :
    ∃ rows, Fills width ws rows ∧ fill width 0 ws = unlines (rows.map lineOf) := by
  cases ws with
  | nil => exact ⟨[[]], fills_row fun h => absurd h (Nat.not_lt_zero _), rfl⟩
  | cons word ws =>
      obtain ⟨hword, hws⟩ := List.forall_mem_cons.mp hws
      obtain ⟨more, others, hfills, htext⟩ := @exists_fills_behind width [word] ws (List.cons_ne_nil _ _)
        (List.forall_mem_singleton.mpr hword) hws fun _ => ⟨word, rfl⟩
      have hfill : fill width 0 (word :: ws) = word ++ fill width word.length ws := by simp [fill]
      rw [lineOf_singleton, ← hfill] at htext
      exact ⟨_, hfills, htext⟩

theorem Fills.isWord {width : Nat} {cs : List Char} {rows : List (List (List Char))}
    (h : Fills width (Text.words cs) rows) : ∀ row ∈ rows, ∀ word ∈ row, IsWord word := by
  intro row hrow word hword
  have hmem := List.mem_flatten.mpr ⟨row, hrow, hword⟩
  rw [h.words] at hmem
  exact isWord_of_mem_words hmem

/-! ## Whole texts -/

/-- Groups of lines in a row. -/
theorem unlines_map_unlines {groups : List (List (List Char))} (h : ∀ group ∈ groups, group ≠ []) :
    unlines (groups.map unlines) = unlines groups.flatten := by
  induction groups with
  | nil => rfl
  | cons group groups ih =>
      obtain ⟨hgroup, hgroups⟩ := List.forall_mem_cons.mp h
      cases groups with
      | nil => simp [unlines, join]
      | cons next groups =>
          have hflat : (next :: groups).flatten ≠ [] := by
            rw [List.flatten_cons]
            exact List.append_ne_nil_of_left_ne_nil (hgroups next List.mem_cons_self) _
          calc unlines ((group :: next :: groups).map unlines)
              = unlines group ++ ['\n'] ++ unlines ((next :: groups).map unlines) := join_cons_cons _ _ _ _
            _ = unlines group ++ ['\n'] ++ unlines (next :: groups).flatten := by rw [ih hgroups]
            _ = unlines (group :: next :: groups).flatten := (join_append ['\n'] hgroup hflat).symm

/-- Wrapping keeps the words of a text. -/
theorem words_wrap (cs : List Char) (width : Nat) : words (wrap cs width) = words cs := by
  have hfill : ∀ line, words (fill width 0 (words line)) = words line := by
    intro line
    obtain ⟨rows, hfills, htext⟩ := exists_fills width fun word (h : word ∈ words line) => isWord_of_mem_words h
    have hrows : ∀ row ∈ rows, words (lineOf row) = row := fun row hrow => words_lineOf (hfills.isWord row hrow)
    rw [htext, words_unlines, List.flatMap_map, List.flatMap_def, List.map_congr_left hrows, List.map_id', hfills.words]
  unfold wrap
  split
  · rfl
  · rw [words_unlines, List.flatMap_map, List.flatMap_def, List.map_congr_left fun line _ => hfill line,
      ← List.flatMap_def, ← words_unlines, unlines_lines]

/-- A single line is wrapped as the rows of its words. -/
theorem exists_fills_wrap {cs : List Char} (hfeed : '\n' ∉ cs) {width : Nat} (hwidth : 1 ≤ width) :
    ∃ rows, Fills width (words cs) rows ∧ wrap cs width = unlines (rows.map lineOf) := by
  obtain ⟨rows, hfills, htext⟩ := exists_fills width fun word (h : word ∈ words cs) => isWord_of_mem_words h
  refine ⟨rows, hfills, ?_⟩
  rw [wrap, if_neg (by omega), lines_of_not_mem hfeed, List.map_singleton, htext]
  exact List.append_nil _

/-- A row that is full is filled as it is. -/
theorem fill_row {width : Nat} {row : List (List Char)} (hrow : ∀ word ∈ row, IsWord word) (fits : FitsIn width row) :
    fill width 0 row = lineOf row := by
  obtain ⟨rows, hfills, htext⟩ := exists_fills width hrow
  rw [htext, hfills.unique (fills_row fits)]
  exact List.append_nil _

/-- **Wrapped lines are filled greedily.** Each line of a text becomes one line or more, an empty one if it has no
words. They carry the words of the line in order with single spaces between them; a line that is longer than the width
is a single word, and no line had room for the first word of the next. Wrapping a wrapped text changes nothing. -/
theorem wrap_fills {width : Nat} (hwidth : 1 ≤ width) (cs : List Char) :
    (∃ groups, List.Forall₂ (fun line rows => Fills width (words line) rows) (lines cs) groups ∧
      lines (wrap cs width) = groups.flatMap (·.map lineOf)) ∧
    wrap (wrap cs width) width = wrap cs width := by
  have hwrap : ∀ text, wrap text width = unlines ((lines text).map fun line => fill width 0 (words line)) :=
    fun text => if_neg (by omega)
  have hexists : ∀ line, ∃ rows, Fills width (words line) rows ∧
      fill width 0 (words line) = unlines (rows.map lineOf) := fun line =>
    exists_fills width fun word => isWord_of_mem_words
  choose rowsOf hfills htext using hexists
  have hwords : ∀ line, ∀ row ∈ rowsOf line, ∀ word ∈ row, IsWord word := fun line => (hfills line).isWord
  have hlines : lines (wrap cs width) = ((lines cs).map rowsOf).flatMap (·.map lineOf) := by
    have hgroups : ∀ group ∈ (lines cs).map fun line => (rowsOf line).map lineOf, group ≠ [] := by
      refine List.forall_mem_map.mpr fun line _ => ?_
      exact List.map_eq_nil_iff.not.mpr (hfills line).some
    have hunlines : wrap cs width = unlines ((lines cs).flatMap fun line => (rowsOf line).map lineOf) := by
      rw [hwrap, List.flatMap_def, ← unlines_map_unlines hgroups, List.map_map]
      exact congrArg unlines (List.map_congr_left fun line _ => htext line)
    rw [hunlines, List.flatMap_map]
    apply lines_unlines
    · obtain ⟨line, others, hcs⟩ := List.exists_cons_of_ne_nil (splitWhen_ne_nil (· == '\n') cs)
      rw [lines, splitOn, hcs, List.flatMap_cons]
      exact List.append_ne_nil_of_left_ne_nil (List.map_eq_nil_iff.not.mpr (hfills line).some) _
    · intro piece hpiece
      obtain ⟨line, -, hpiece⟩ := List.mem_flatMap.mp hpiece
      obtain ⟨row, hrow, rfl⟩ := List.mem_map.mp hpiece
      exact not_mem_lineOf (hwords line row hrow)
  refine ⟨⟨(lines cs).map rowsOf, ?_, hlines⟩, ?_⟩
  · rw [List.forall₂_map_right_iff, List.forall₂_same]
    exact fun line _ => hfills line
  · have hsame : ∀ line ∈ lines (wrap cs width), fill width 0 (words line) = line := by
      intro line hline
      rw [hlines, List.flatMap_map] at hline
      obtain ⟨source, -, hline⟩ := List.mem_flatMap.mp hline
      obtain ⟨row, hrow, rfl⟩ := List.mem_map.mp hline
      rw [words_lineOf (hwords source row hrow), fill_row (hwords source row hrow) ((hfills source).fits row hrow)]
    rw [hwrap, List.map_congr_left hsame, List.map_id', unlines_lines]

/-- A word that is longer than the width, an empty line, and white space of several kinds. -/
theorem wrap_fills_long :
    let cs := "a  unbreakable b\u3000c\n\n d ".toList
    1 ≤ 3 ∧ wrap cs 3 = "a\nunbreakable\nb c\n\nd".toList ∧
      (∃ groups, List.Forall₂ (fun line rows => Fills 3 (words line) rows) (lines cs) groups ∧
        lines (wrap cs 3) = groups.flatMap (·.map lineOf)) ∧
      wrap (wrap cs 3) 3 = wrap cs 3 := by
  intro cs
  exact ⟨by decide, by decide, wrap_fills (by decide) cs⟩

end Folio.Text
