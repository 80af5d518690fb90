import Folio.Proofs.Markdown.BlankLines
import Folio.Proofs.Markdown.CodeLines
import Folio.Proofs.Markdown.CodeSpacing

/-!
# Wrapped code

A paragraph is wrapped when its Markdown is finished, and the beginnings of its lines are escaped after that. Neither
pass looks for code, so a wrapped paragraph is not always read as it was.

* `IsKept`, `EvenlySpaced` : code that neither pass changes;
* `codesIn_wrap_iff` : a wrapped line has the code that it had exactly when its code is such;
* `forall_not_fence_iff` : a wrapped line opens a fence where one of its lines is a fence already;
* `paragraph_wrapped_code_iff` : both together, for what is written for a paragraph;
* `wrapped_code_changed` : code that is changed by each pass, and code that opens a fence.
-/

namespace Folio.Markdown
open Text (lines lines_append lines_of_not_mem lineInduction words lineOf trim)
open Unicode (isAsciiMark isBlank)

/-- The run is text in a plain font or a code font, without line breaks. -/
def isPlainText (run : Run) : Bool :=
  isTextRun run && !run.properties.isBold && !run.properties.isItalic && !run.properties.isStrike &&
    !run.text.toList.contains '\n'

/-- No line that begins in the code is escaped. The last of them goes on with a backtick. -/
def IsKept (code : List Char) : Prop := ∀ line ∈ (lines (code ++ ['`'])).tail, escapeLineStart line = line

/-! ## Lines that are kept -/

theorem isTabOrSpace_of_not_isBlank {c : Char} (h : isBlank c = false) : isTabOrSpace c = false :=
  eq_false_of_ne_true fun htab => Bool.noConfusion ((isBlank_of_isTabOrSpace htab).symm.trans h)

/-- A line that begins with no blank has no indentation. -/
theorem startEscape_of_head {line : List Char} (h : ∀ c ∈ line.head?, isBlank c = false) :
    StartEscape line (escapeLineStart line) := by
  have hsame : line.dropWhile isSpaceOrTab = line := by
    cases line with
    | nil => rfl
    | cons c rest =>
        have hc : isSpaceOrTab c = false := isTabOrSpace_of_not_isBlank (h c rfl)
        refine List.dropWhile_cons_of_neg ?_
        rw [hc]
        exact Bool.false_ne_true
  have hstart := startEscape line
  rwa [hsame] at hstart

/-- A line that begins with no blank is kept, or it gets a backslash. -/
theorem escapeLineStart_eq_or {line : List Char} (h : ∀ c ∈ line.head?, isBlank c = false) :
    escapeLineStart line = line ∨ line.count '\\' < (escapeLineStart line).count '\\' := by
  have hstart := startEscape_of_head h
  generalize escapeLineStart line = written at hstart ⊢
  cases hstart with
  | marked =>
      right
      rw [List.count_cons_self]
      exact Nat.lt_succ_self _
  | numbered number =>
      obtain ⟨rfl, -⟩ := orderedMarker?_eq_some number
      right
      rw [List.count_append, List.count_append, List.count_cons_self]
      omega
  | kept => exact .inl rfl

/-- A line that ends in a text with even spacing is followed by no blank. -/
theorem EvenlySpaced.behind_feed {piece rest : List Char} (h : EvenlySpaced (shownCode (piece ++ '\n' :: rest))) :
    EvenlySpaced (shownCode rest) ∧ ∀ c ∈ rest.head?, isBlank c = false := by
  rw [shownCode_append, shownCode_feed] at h
  have hbehind : EvenlySpaced (' ' :: shownCode rest) := h.of_isInfix (List.suffix_append _ _).isInfix
  refine ⟨hbehind.of_isInfix (List.suffix_cons _ _).isInfix, fun c hc => ?_⟩
  obtain ⟨after, rfl⟩ := List.head?_eq_some_iff.mp hc
  have hapart := (List.isChain_cons.mp hbehind.apart).1 _ rfl
  refine eq_false_of_ne_true fun hblank => hapart ⟨by decide, ?_⟩
  dsimp only
  split
  · decide
  · exact hblank

theorem escapeBlockStarts_eq_or {cs : List Char} (h : EvenlySpaced (shownCode cs))
    (hhead : ∀ c ∈ cs.head?, isBlank c = false) :
    escapeBlockStarts cs = cs ∨ cs.count '\\' < (escapeBlockStarts cs).count '\\' := by
  induction cs using lineInduction with
  | last piece hpiece =>
      rw [escapeBlockStarts_of_not_mem hpiece]
      exact escapeLineStart_eq_or hhead
  | more piece rest hpiece ih =>
      have hfirst : ∀ c ∈ piece.head?, isBlank c = false := fun c hc => hhead c (by
        rw [List.head?_append, Option.mem_def.mp hc, Option.some_or]
        rfl)
      obtain ⟨hrest, hnext⟩ := h.behind_feed
      rw [escapeBlockStarts_append hpiece, List.count_append, List.count_append, List.count_cons_of_ne (by decide),
        List.count_cons_of_ne (by decide)]
      rcases escapeLineStart_eq_or hfirst with hline | hline <;> rcases ih hrest hnext with hlines | hlines
      · rw [hline, hlines]
        exact .inl rfl
      · rw [hline]
        exact .inr (by omega)
      · rw [hlines]
        exact .inr (by omega)
      · exact .inr (by omega)

theorem escapeLater_eq_or {cs : List Char} (h : EvenlySpaced (shownCode cs)) :
    escapeLater cs = cs ∨ cs.count '\\' < (escapeLater cs).count '\\' := by
  induction cs using lineInduction with
  | last piece hpiece => exact .inl (escapeLater_of_not_mem hpiece)
  | more piece rest hpiece _ =>
      obtain ⟨hrest, hnext⟩ := h.behind_feed
      rw [escapeLater_append hpiece, List.count_append, List.count_append, List.count_cons_of_ne (by decide),
        List.count_cons_of_ne (by decide)]
      rcases escapeBlockStarts_eq_or hrest hnext with hlines | hlines
      · rw [hlines]
        exact .inl rfl
      · exact .inr (by omega)

/-- Code is kept, or it gets a backslash. -/
theorem escapeCode_eq_or {code : List Char} (h : EvenlySpaced (shownCode code)) :
    escapeCode code = code ∨ code.count '\\' < (escapeCode code).count '\\' := by
  have htick : escapeLater (code ++ ['`']) = escapeCode code ++ ['`'] := escapeLater_tick code []
  have hspaced : EvenlySpaced (shownCode (code ++ ['`'])) := by
    rw [shownCode_append]
    exact h.concat not_isBlank_tick
  have hlater := escapeLater_eq_or hspaced
  rw [htick, List.count_append, List.count_append] at hlater
  rcases hlater with hsame | hmore
  · exact .inl (List.append_cancel_right hsame)
  · exact .inr (by omega)

theorem escapeLater_eq_iff (cs : List Char) :
    escapeLater cs = cs ↔ ∀ line ∈ (lines cs).tail, escapeLineStart line = line := by
  induction cs using lineInduction with
  | last piece h =>
      rw [escapeLater_of_not_mem h, lines_of_not_mem h]
      exact iff_of_true rfl nofun
  | more piece rest h _ =>
      have hlines : escapeBlockStarts rest = rest ↔ (lines rest).map escapeLineStart = (lines rest).map id := by
        rw [List.map_id, ← lines_escapeBlockStarts]
        refine ⟨congrArg lines, fun heq => ?_⟩
        rw [← Text.unlines_lines (escapeBlockStarts rest), heq, Text.unlines_lines]
      rw [escapeLater_append h, lines_append h, List.tail_cons, List.append_cancel_left_eq, List.cons_inj_right, hlines,
        List.map_inj_left]
      rfl

theorem isKept_iff (code : List Char) : IsKept code ↔ escapeCode code = code := by
  have htick : escapeLater (code ++ ['`']) = escapeCode code ++ ['`'] := escapeLater_tick code []
  rw [IsKept, ← escapeLater_eq_iff, htick, List.append_cancel_right_eq]

/-! ## Wrapped code -/

theorem count_shownCode (code : List Char) : (shownCode code).count '\\' = code.count '\\' := by
  induction code with
  | nil => rfl
  | cons c code ih =>
      by_cases hc : c = '\n'
      · subst hc
        rw [shownCode_feed, List.count_cons_of_ne (by decide), List.count_cons_of_ne (by decide), ih]
      · rw [shownCode_cons hc, List.count_cons, List.count_cons, ih]

theorem count_collapseBlank (code : List Char) (behind : Bool) :
    (collapseBlank behind code).count '\\' = code.count '\\' := by
  induction code generalizing behind with
  | nil => rfl
  | cons c code ih =>
      by_cases hc : isBlank c = true
      · have hslash : c ≠ '\\' := by
          rintro rfl
          exact absurd hc (by decide)
        rw [collapseBlank_blank hc, List.count_append, ih, List.count_cons_of_ne hslash]
        cases behind
        · exact Nat.zero_add _
        · exact Nat.zero_add _
      · rw [collapseBlank_cons (eq_false_of_ne_true hc), List.count_cons, List.count_cons, ih]

/-- Code that is the same up to white space is read as it was exactly when its white space was even and it is kept. -/
theorem shownCode_escapeCode_iff {written code : List Char} (hspaced : EvenlySpaced (shownCode written))
    (hsame : collapseBlank false written = collapseBlank false code) :
    shownCode (escapeCode written) = code ↔ EvenlySpaced code ∧ IsKept written := by
  have hshown : shownCode written = collapseBlank false code := by
    rw [← hsame, ← collapseBlank_shownCode, hspaced.collapseBlank_eq fun h => Bool.noConfusion h]
  rw [isKept_iff]
  constructor
  · intro heq
    have hkept : escapeCode written = written := by
      have hcount := count_shownCode (escapeCode written)
      rw [heq, ← count_collapseBlank code false, ← hshown, count_shownCode] at hcount
      exact (escapeCode_eq_or hspaced).resolve_right (by omega)
    rw [hkept] at heq
    exact ⟨heq ▸ hspaced, hkept⟩
  · rintro ⟨heven, hkept⟩
    rw [hkept, hshown, heven.collapseBlank_eq fun h => Bool.noConfusion h]

theorem map_shownCode_escapeCode_iff {written codes : List (List Char)}
    (hspaced : ∀ code ∈ written, EvenlySpaced (shownCode code))
    (hsame : written.map (collapseBlank false) = codes.map (collapseBlank false)) :
    (written.map escapeCode).map shownCode = codes ↔
      (∀ code ∈ codes, EvenlySpaced code) ∧ ∀ code ∈ written, IsKept code := by
  induction written generalizing codes with
  | nil =>
      obtain rfl := List.map_eq_nil_iff.mp hsame.symm
      simp
  | cons first written ih =>
      cases codes with
      | nil => cases hsame
      | cons code codes =>
          obtain ⟨hfirst, hspaced⟩ := List.forall_mem_cons.mp hspaced
          obtain ⟨hcode, hsame⟩ := List.cons.inj hsame
          rw [List.map_cons, List.map_cons, List.cons.injEq, shownCode_escapeCode_iff hfirst hcode, ih hspaced hsame,
            List.forall_mem_cons, List.forall_mem_cons]
          exact and_and_and_comm

/-- Wrapping changes nothing but the white space in code. -/
theorem map_collapseBlank_codesIn_wrap (cs : List Char) (width : Nat) :
    (codesIn (Text.wrap cs width)).map (collapseBlank false) = (codesIn cs).map (collapseBlank false) := by
  rw [← codesIn_words, Text.words_wrap, codesIn_words]

/-- A wrapped line, with the beginnings of its lines escaped, is read with the same code as the line itself exactly when
white space in the code consists of single spaces, and no line that begins in code is escaped. -/
theorem codesIn_wrap_iff {cs : List Char} (hfeed : '\n' ∉ cs) {width : Nat} (hwidth : 1 ≤ width) :
    (codesIn (escapeBlockStarts (Text.wrap cs width))).map shownCode =
        (codesIn (escapeBlockStarts cs)).map shownCode ↔
      (∀ code ∈ codesIn cs, EvenlySpaced code) ∧ ∀ code ∈ codesIn (Text.wrap cs width), IsKept code := by
  have hline : (codesIn (escapeBlockStarts cs)).map shownCode = codesIn cs := by
    rw [codesIn_escapeBlockStarts_eq, escapeLater_of_not_mem hfeed]
    conv_rhs => rw [← List.map_id (codesIn cs)]
    refine List.map_congr_left fun code hcode => shownCode_of_not_mem fun hmem => hfeed ?_
    exact ((codes_codesIn cs).isInfix code hcode).subset hmem
  have hspaced : ∀ code ∈ codesIn (Text.wrap cs width), EvenlySpaced (shownCode code) := by
    intro code hcode
    have hwords : EvenlySpaced (lineOf (words cs)) := evenlySpaced_lineOf fun word => Text.isWord_of_mem_words
    rw [← shownCode_wrap hfeed hwidth] at hwords
    exact hwords.of_isInfix (((codes_codesIn _).isInfix code hcode).map _)
  rw [codesIn_escapeBlockStarts_eq, codesIn_escapeLater, hline]
  exact map_shownCode_escapeCode_iff hspaced (map_collapseBlank_codesIn_wrap cs width)

/-! ## Fences -/

instance decidableFence : DecidablePred LineKind.fence.Holds := fun chars =>
  inferInstanceAs (Decidable (if codeIndent ≤ ({ rest := chars } : Line).indent then
      LineKind.fence = .indentedCode ∧ ({ rest := chars } : Line).isBlank = false
    else (Fence.ofLine? ({ rest := chars } : Line).text).isSome = true))

theorem mark_of_fence {c : Char} {rest : List Char} (h : LineKind.fence.Marks (c :: rest)) : c = '`' ∨ c = '~' := by
  change (Fence.ofLine? (c :: rest)).isSome = true at h
  unfold Fence.ofLine? at h
  dsimp only at h
  split at h
  next hfence => exact hfence.1
  next => cases h

/-- The pass over the beginnings of lines neither makes a fence nor takes one away. -/
theorem holds_fence_escapeLineStart {line : List Char} (hhead : ∀ c ∈ line.head?, isBlank c = false) :
    LineKind.fence.Holds (escapeLineStart line) ↔ LineKind.fence.Holds line := by
  have hstart := startEscape_of_head hhead
  have hmarks : LineKind.fence.Holds line ↔ LineKind.fence.Marks line := by
    cases line with
    | nil => exact Iff.rfl
    | cons c rest => exact LineKind.holds_cons (isTabOrSpace_of_not_isBlank (hhead c rfl)) _
  rw [holds_escapeLineStart, hmarks]
  generalize escapeLineStart line = written at hstart ⊢
  cases hstart with
  | marked begins =>
      obtain ⟨c, rest, rfl, hc⟩ := mark_of_begins begins
      refine iff_of_false (fun h => ?_) fun h => ?_
      · rcases mark_of_fence h with h | h <;> exact absurd h (by decide)
      · rcases mark_of_fence h with rfl | rfl <;> exact absurd hc (by decide)
  | numbered number =>
      obtain ⟨rfl, hdigits, hlength, -⟩ := orderedMarker?_eq_some number
      obtain ⟨c, digits, rfl⟩ := List.exists_cons_of_length_pos hlength.1
      have hc := (List.forall_mem_cons.mp hdigits).1
      refine iff_of_false (fun h => ?_) fun h => ?_
      · rcases mark_of_fence h with rfl | rfl <;> exact absurd hc (by decide)
      · rcases mark_of_fence h with rfl | rfl <;> exact absurd hc (by decide)
  | kept => exact Iff.rfl

theorem lines_wrap_head {cs : List Char} (hfeed : '\n' ∉ cs) {width : Nat} (hwidth : 1 ≤ width) :
    ∀ line ∈ lines (Text.wrap cs width), ∀ c ∈ line.head?, isBlank c = false := by
  obtain ⟨rows, hfills, hwrap⟩ := Text.exists_fills_wrap hfeed hwidth
  have hlines : lines (Text.wrap cs width) = rows.map lineOf := by
    rw [hwrap]
    refine Text.lines_unlines (List.map_eq_nil_iff.not.mpr hfills.some) (List.forall_mem_map.mpr fun row hrow => ?_)
    exact Text.not_mem_lineOf (hfills.isWord row hrow)
  rw [hlines]
  exact List.forall_mem_map.mpr fun row hrow => Text.head?_lineOf (hfills.isWord row hrow)

/-- A wrapped line opens a fence where it did before the beginnings of its lines were escaped. -/
theorem forall_not_fence_iff {cs : List Char} (hfeed : '\n' ∉ cs) {width : Nat} (hwidth : 1 ≤ width) :
    (∀ line ∈ lines (escapeBlockStarts (Text.wrap cs width)), ¬ LineKind.fence.Holds line) ↔
      ∀ line ∈ lines (Text.wrap cs width), ¬ LineKind.fence.Holds line := by
  rw [lines_escapeBlockStarts, List.forall_mem_map]
  refine forall₂_congr fun line hline => not_congr ?_
  exact holds_fence_escapeLineStart (lines_wrap_head hfeed hwidth line hline)

/-! ## Paragraphs -/

section Paragraph
variable {settings : ExportSettings}

theorem isPlainText_iff (run : Run) : isPlainText run = true ↔
    isTextRun run = true ∧ (run.properties.isBold = false ∧ run.properties.isItalic = false ∧
      run.properties.isStrike = false) ∧ '\n' ∉ run.text.toList := by
  simp [isPlainText, and_assoc]

/-- Runs without line breaks are written without line breaks. -/
theorem newline_not_mem_flatMap_formatRun {runs : List Run} (hruns : ∀ run ∈ runs, isPlainText run = true) :
    '\n' ∉ (mergeRuns runs).flatMap (formatRun settings) := by
  have hplain : ∀ run ∈ mergeRuns runs, run.properties.isBold = false ∧ run.properties.isItalic = false :=
    forall_mergeRuns (fun _ _ hrun => hrun) fun run hrun =>
      ⟨((isPlainText_iff run).mp (hruns run hrun)).2.1.1, ((isPlainText_iff run).mp (hruns run hrun)).2.1.2.1⟩
  intro hmem
  rcases mem_flatMap_formatRun hmem with hmem | ⟨⟨run, hrun, hsome⟩, -⟩ | hmem
  · obtain ⟨run, hrun, hmem⟩ := List.mem_flatMap.mp hmem
    exact ((isPlainText_iff run).mp (hruns run hrun)).2.2 hmem
  · obtain ⟨hbold, hitalic⟩ := hplain run hrun
    exact hsome (by simp [emphasisLength, hbold, hitalic])
  · exact absurd hmem (by decide)

theorem inlineText_of_isPlainText {runs : List Run} (hruns : ∀ run ∈ runs, isPlainText run = true) (doc : Document)
    (order : NoteOrder) : (inlineText settings doc order runs).1 = (mergeRuns runs).flatMap (formatRun settings) := by
  have htext : ∀ run ∈ mergeRuns runs, isTextRun run = true :=
    isTextRun_mergeRuns fun run hrun => ((isPlainText_iff run).mp (hruns run hrun)).1
  change breakLines (runTexts settings doc order (mergeRuns runs)).1 = _
  rw [runTexts_of_text settings doc order htext, breakLines_of_not_mem (newline_not_mem_flatMap_formatRun hruns)]

/-- Runs of white space are written as they are. -/
theorem flatMap_formatRun_of_blank {runs : List Run} (hblank : ∀ c ∈ charsOf runs, isBlank c = true) :
    (mergeRuns runs).flatMap (formatRun settings) = charsOf runs := by
  rw [← charsOf_mergeRuns, charsOf, List.flatMap_def, List.flatMap_def]
  refine congrArg List.flatten (List.map_congr_left fun run hrun => ?_)
  have hrunBlank : ∀ c ∈ run.text.toList, isBlank c = true := by
    intro c hc
    refine hblank c ?_
    rw [← charsOf_mergeRuns]
    exact List.mem_flatMap.mpr ⟨run, hrun, hc⟩
  have hcore : (Text.Edges.ofText run.text.toList).core = [] := trim_eq_nil_iff.mpr hrunBlank
  unfold formatRun
  dsimp only
  rw [hcore]
  rfl

/-- A text without hard breaks is wrapped as a whole. -/
theorem wrapSegments_of_not_mem {cs : List Char} (hfeed : '\n' ∉ cs) (width : Nat) :
    wrapSegments width cs = Text.wrap cs width := by
  have hsplit : Text.splitText hardBreak cs = [cs] := by
    refine (Text.splitText_eq (List.cons_ne_nil _ _) cs).resolve_right ?_
    rintro ⟨piece, rest, rfl, -⟩
    exact hfeed (List.mem_append_left _ (List.mem_append_right _ (by decide)))
  rw [wrapSegments, hsplit, List.map_singleton]
  exact List.append_nil _

/-- Blank text has no code, and is wrapped as an empty line. -/
theorem wrap_blank {cs : List Char} (hfeed : '\n' ∉ cs) (hblank : ∀ c ∈ cs, isBlank c = true) {width : Nat}
    (hwidth : 1 ≤ width) : codesIn cs = [] ∧ Text.wrap cs width = [] := by
  have hwords : words cs = [] := by
    refine List.eq_nil_iff_forall_not_mem.mpr fun word hword => ?_
    obtain ⟨hne, hword'⟩ := Text.isWord_of_mem_words hword
    obtain ⟨c, word, rfl⟩ := List.exists_cons_of_ne_nil hne
    have hc := hblank c (Text.mem_of_mem_piece List.mem_cons_self (List.mem_of_mem_filter hword))
    rw [hword' c List.mem_cons_self] at hc
    cases hc
  have hshown := shownCode_wrap hfeed hwidth
  rw [hwords] at hshown
  refine ⟨codesIn_of_plain fun c hc => ?_, List.map_eq_nil_iff.mp hshown⟩
  constructor <;> (rintro rfl; exact absurd (hblank _ hc) (by decide))

/-- Body text is written as a rule or as its inline text. -/
theorem paragraphText_of_isBody (settings : ExportSettings) (doc : Document) (w : Writing) {paragraph : Paragraph}
    (hbody : isBody paragraph = true) :
    (paragraphText settings doc w paragraph).1 = (closeGroup settings w).1 ++
      if paragraph.properties.borderBottom = true ∧ (trim paragraph.textChars).isEmpty = true then "---\n\n".toList
      else bodyText settings (inlineText settings doc (closeGroup settings w).2.notes paragraph.runs).1 := by
  simp only [isBody, Bool.and_eq_true, bne_iff_ne, Bool.not_eq_true', Option.isNone_iff_eq_none] at hbody
  obtain ⟨⟨⟨hcode, hlist⟩, hheading⟩, hquote⟩ := hbody
  have hplain : (plainParagraph settings doc { (closeGroup settings w).2 with counter := 0 } paragraph).1 =
      if paragraph.properties.borderBottom = true ∧ (trim paragraph.textChars).isEmpty = true then "---\n\n".toList
      else bodyText settings (inlineText settings doc (closeGroup settings w).2.notes paragraph.runs).1 := by
    unfold plainParagraph
    rw [hheading]
    dsimp only
    rw [if_neg hquote]
    split <;> rfl
  unfold paragraphText
  rw [if_neg hcode, hlist, if_neg Bool.false_ne_true]
  exact congrArg ((closeGroup settings w).1 ++ ·) hplain

/-- A rule is no fence. -/
theorem not_fence_rule : ∀ line ∈ lines "---\n\n".toList, ¬ LineKind.fence.Holds line := by decide

/-- Wrapped text, written as a paragraph. -/
theorem bodyText_wrapped_iff {text : List Char} (hfeed : '\n' ∉ text) (hfilled : (trim text).isEmpty = false)
    {width : Nat} (hwidth : 1 ≤ width) (hwrap : settings.wrapWidth = some width) :
    ((codesIn (bodyText settings text)).map shownCode =
          (codesIn (bodyText { settings with wrapWidth := none } text)).map shownCode ∧
        ∀ line ∈ lines (bodyText settings text), ¬ LineKind.fence.Holds line) ↔
      (∀ code ∈ codesIn text, EvenlySpaced code) ∧ (∀ code ∈ codesIn (Text.wrap text width), IsKept code) ∧
        ∀ line ∈ lines (Text.wrap text width), ¬ LineKind.fence.Holds line := by
  have hwrapped : bodyText settings text = escapeBlockStarts (Text.wrap text width) ++ ['\n', '\n'] := by
    unfold bodyText
    rw [hfilled, if_neg Bool.false_ne_true, hwrap]
    dsimp only
    rw [wrapSegments_of_not_mem hfeed]
  have hplain : bodyText { settings with wrapWidth := none } text = escapeBlockStarts text ++ ['\n', '\n'] := by
    unfold bodyText
    rw [hfilled]
    rfl
  have hcodes : ∀ cs, codesIn (cs ++ ['\n', '\n']) = codesIn cs :=
    codesIn_append_plain (List.forall_mem_cons.mpr ⟨by decide, List.forall_mem_singleton.mpr (by decide)⟩)
  have hfences : (∀ line ∈ lines (escapeBlockStarts (Text.wrap text width) ++ ['\n', '\n']),
      ¬ LineKind.fence.Holds line) ↔ ∀ line ∈ lines (Text.wrap text width), ¬ LineKind.fence.Holds line := by
    have hends : ∀ line ∈ lines ['\n'], ¬ LineKind.fence.Holds line := by decide
    rw [lines_feed, List.forall_mem_append, and_iff_left hends, forall_not_fence_iff hfeed hwidth]
  rw [hwrapped, hplain, hcodes, hcodes, codesIn_wrap_iff hfeed hwidth, hfences, and_assoc]

/-- **Wrapping a paragraph of plain text and code** leaves its code as it is read and opens no fence exactly when the
white space in its code consists of single spaces, no line of the wrapped text that begins in code is escaped, and none
of its lines is a fence. -/
theorem paragraph_wrapped_code_iff (doc : Document) (w : Writing) {paragraph : Paragraph}
    (hbody : isBody paragraph = true) (hruns : ∀ run ∈ paragraph.runs, isPlainText run = true) {width : Nat}
    (hwidth : 1 ≤ width) (hwrap : settings.wrapWidth = some width) :
    let text := (inlineText settings doc (closeGroup settings w).2.notes paragraph.runs).1
    ∃ wrapped plain, (paragraphText settings doc w paragraph).1 = (closeGroup settings w).1 ++ wrapped ∧
      (paragraphText { settings with wrapWidth := none } doc w paragraph).1 = (closeGroup settings w).1 ++ plain ∧
      (((codesIn wrapped).map shownCode = (codesIn plain).map shownCode ∧
          ∀ line ∈ lines wrapped, ¬ LineKind.fence.Holds line) ↔
        (∀ code ∈ codesIn text, EvenlySpaced code) ∧ (∀ code ∈ codesIn (Text.wrap text width), IsKept code) ∧
          ∀ line ∈ lines (Text.wrap text width), ¬ LineKind.fence.Holds line) := by
  intro text
  have htext : text = (mergeRuns paragraph.runs).flatMap (formatRun settings) := inlineText_of_isPlainText hruns doc _
  have hsame : (inlineText { settings with wrapWidth := none } doc (closeGroup settings w).2.notes paragraph.runs).1 =
      text := (inlineText_of_isPlainText hruns doc _).trans htext.symm
  have hfeed : '\n' ∉ text := by
    rw [htext]
    exact newline_not_mem_flatMap_formatRun hruns
  have hwritten : (paragraphText settings doc w paragraph).1 = (closeGroup settings w).1 ++
      if paragraph.properties.borderBottom = true ∧ (trim paragraph.textChars).isEmpty = true then "---\n\n".toList
      else bodyText settings text := paragraphText_of_isBody settings doc w hbody
  have hplain : (paragraphText { settings with wrapWidth := none } doc w paragraph).1 = (closeGroup settings w).1 ++
      if paragraph.properties.borderBottom = true ∧ (trim paragraph.textChars).isEmpty = true then "---\n\n".toList
      else bodyText { settings with wrapWidth := none } text := by
    rw [← hsame]
    exact paragraphText_of_isBody { settings with wrapWidth := none } doc w hbody
  refine ⟨_, _, hwritten, hplain, ?_⟩
  by_cases hfilled : (trim text).isEmpty = true
  · -- nothing but a rule can be written
    have hblank := trim_eq_nil_iff.mp (List.isEmpty_iff.mp hfilled)
    obtain ⟨hcode, hwrapped⟩ := wrap_blank hfeed hblank hwidth
    have hnothing : ∀ settings, bodyText settings text = [] := fun settings => if_pos hfilled
    rw [hcode, hwrapped, hnothing, hnothing]
    refine iff_of_true ⟨rfl, ?_⟩ ⟨nofun, nofun, ?_⟩
    · split
      · exact not_fence_rule
      · decide
    · decide
  · have hrule : ¬ (paragraph.properties.borderBottom = true ∧ (trim paragraph.textChars).isEmpty = true) := by
      rintro ⟨-, hempty⟩
      have hblank : ∀ c ∈ charsOf paragraph.runs, isBlank c = true :=
        trim_eq_nil_iff.mp (List.isEmpty_iff.mp hempty)
      refine hfilled (List.isEmpty_iff.mpr (trim_eq_nil_iff.mpr ?_))
      rw [htext, flatMap_formatRun_of_blank hblank]
      exact hblank
    rw [if_neg hrule, if_neg hrule]
    exact bodyText_wrapped_iff hfeed (eq_false_of_ne_true hfilled) hwidth hwrap

/-- Code among words, with a dash behind it. -/
theorem paragraph_wrapped_code_iff_words :
    let settings : ExportSettings := { wrapWidth := some 4 }
    let paragraph : Paragraph := { runs := [{ text := "see " },
      { text := "let x", properties := { fontFamily := some "Consolas" } }, { text := " - y" }] }
    let text := "see `let x` - y".toList
    (isBody paragraph = true ∧ (∀ run ∈ paragraph.runs, isPlainText run = true) ∧ 1 ≤ 4) ∧
      (paragraphText settings {} {} paragraph).1 = "see\n`let\nx` -\ny\n\n".toList ∧
      (inlineText settings {} [] paragraph.runs).1 = text ∧
      (∀ code ∈ codesIn text, EvenlySpaced code) ∧ (∀ code ∈ codesIn (Text.wrap text 4), IsKept code) ∧
        ∀ line ∈ lines (Text.wrap text 4), ¬ LineKind.fence.Holds line := by
  intro settings paragraph text
  have hbody : isBody paragraph = true := by decide
  have hruns : ∀ run ∈ paragraph.runs, isPlainText run = true := by decide
  have hwritten : (paragraphText settings {} {} paragraph).1 = "see\n`let\nx` -\ny\n\n".toList := by decide +kernel
  have hplain : (paragraphText { settings with wrapWidth := none } {} {} paragraph).1 =
      "see `let x` - y\n\n".toList := by decide +kernel
  have htext : (inlineText settings {} [] paragraph.runs).1 = text := by decide +kernel
  obtain ⟨wrapped, plain, hwrapped, hunwrapped, hiff⟩ :=
    paragraph_wrapped_code_iff {} {} hbody hruns (show 1 ≤ 4 by decide) (show settings.wrapWidth = some 4 from rfl)
  obtain rfl : _ = wrapped := hwritten.symm.trans hwrapped
  obtain rfl : _ = plain := hplain.symm.trans hunwrapped
  change _ ↔ (∀ code ∈ codesIn (inlineText settings {} [] paragraph.runs).1, EvenlySpaced code) ∧ _ at hiff
  rw [htext] at hiff
  exact ⟨⟨hbody, hruns, by decide⟩, hwritten, htext, hiff.mp ⟨by decide +kernel, by decide +kernel⟩⟩

/-- Two spaces in code become one, a dash at the beginning of a line gets a backslash that is read as code, and the row
of backticks before code opens a fence. -/
theorem wrapped_code_changed :
    let paragraph (text : String) : Paragraph := { runs := [{ text, properties := { fontFamily := some "Consolas" } }] }
    let written (wrapWidth : Option Nat) (text : String) := (paragraphText { wrapWidth } {} {} (paragraph text)).1
    let codes (wrapWidth : Option Nat) (text : String) := (codesIn (written wrapWidth text)).map shownCode
    (∀ text ∈ ["a  b", "a - b", "``x"], isBody (paragraph text) = true ∧
        ∀ run ∈ (paragraph text).runs, isPlainText run = true) ∧
      (codes none "a  b" = ["a  b".toList] ∧ codes (some 80) "a  b" = ["a b".toList]) ∧
      (codes none "a - b" = ["a - b".toList] ∧ codes (some 2) "a - b" = ["a \\- b".toList]) ∧
      ∃ line ∈ lines (written (some 3) "``x"), LineKind.fence.Holds line := by
  decide +kernel

end Paragraph

end Folio.Markdown
