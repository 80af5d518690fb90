import Folio.Proofs.Markdown.CodeContents
import Folio.Proofs.Markdown.DashBlocks
import Folio.Proofs.Markdown.RunCuts
import Folio.Proofs.Text.Backslashes

/-!
# The line of a heading, read back

A heading stands on one line behind number signs, and number signs at the end of such a line close it, unless a
backslash keeps them. The backslash stands in text that has been escaped before: it is read as what it is only where no
other backslash waits in front of it and no code is open.

* `scan_append_paired` : behind paired backslashes a text without backticks is read from its own beginning;
* `EndsPaired` : no backslash waits in front of number signs and blanks at the end of a text, as in all that is written;
* `headingOfLine?` : the heading that a line is by itself, and `headingOfLine?_begins`, that a reader of blocks takes it
  for one;
* `heading_read_back` : what is written for a heading is one line, read back as the title on its level.
-/

namespace Folio.Markdown
open Unicode (isAsciiMark isBlank)
open Text (Edges Paired paired_nil paired_singleton paired_replicate paired_escape paired_of_getLast? paired_map_iff
  trim dropWhileEnd)

/-! ## Text behind paired backslashes -/

/-- What follows a text closes no code and does not go on with a row of marks. -/
structure Separate (back : List Char) : Prop where
  tick : '`' ∉ back
  row : ∀ c ∈ back.head?, c ∉ rowMarks

theorem separate_nil : Separate [] := ⟨List.not_mem_nil, nofun⟩

/-- A row that a text ends with does not go on behind it. -/
theorem Separate.head?_ne {back : List Char} (h : Separate back) {mark : Char} (hmark : mark ∈ rowMarks)
    {rest : List Char} (hrest : rest.head? ≠ some mark) : (rest ++ back).head? ≠ some mark := by
  cases rest with
  | nil => exact fun hhead => h.row mark hhead hmark
  | cons c rest => exact hrest

/-- A backslash and the character that belongs to it are read as they are. -/
theorem exists_scan_escape (c : Char) : ∃ tokens, ∀ cs, scan 0 ('\\' :: c :: cs) = tokens ++ scan 0 cs := by
  by_cases hmark : isAsciiMark c = true
  · exact ⟨[.text c], fun cs => scan_escaped hmark cs⟩
  · have hslash : c ≠ '\\' := by
      rintro rfl
      exact hmark (by decide)
    have hrow : c ∉ rowMarks := fun hmem => hmark (isAsciiMark_of_live (.inr (live_of_rowMark hmem [])))
    refine ⟨[.text '\\', .text c], fun cs => ?_⟩
    rw [scan_slash, scan_text hslash hrow]
    · rfl
    · rintro _ ⟨⟩
      exact Bool.eq_false_iff.mpr hmark

/-- A row of backticks, or the code that it opens, is read whatever follows behind the text. -/
theorem exists_scan_ticks {cs : List Char} (h : cs.head? = some '`') :
    ∃ passed rest tokens, cs = passed ++ rest ∧ passed.getLast? = some '`' ∧
      ∀ back, Separate back → scan 0 (cs ++ back) = tokens ++ scan 0 (rest ++ back) := by
  obtain ⟨k, after, rfl, hafter⟩ := exists_row h
  have hends (content : List Char) : (content ++ List.replicate (k + 1) '`').getLast? = some '`' := by
    rw [getLast?_append_right (by simp), List.getLast?_replicate, if_neg (Nat.succ_ne_zero k)]
  by_cases hclosed : k + 1 ∈ tickRows 0 after
  · obtain ⟨content, behind, rfl, hlast, hrows, hbehind⟩ := exists_closing (Nat.succ_ne_zero k) hclosed
    have hne : content ≠ [] := by
      rintro rfl
      exact hafter rfl
    have henclosed : Enclosed (k + 1) content := ⟨hne, head?_append_left hne _ ▸ hafter, hlast, hrows⟩
    refine ⟨List.replicate (k + 1) '`' ++ content ++ List.replicate (k + 1) '`', behind, [.code (k + 1) content], ?_,
      hends _, fun back hback => ?_⟩
    · simp only [List.append_assoc]
    · rw [List.append_assoc, List.append_assoc, List.append_assoc,
        scan_enclosed henclosed (hback.head?_ne (by decide) hbehind)]
      rfl
  · refine ⟨List.replicate (k + 1) '`', after, [.row '`' (k + 1)], rfl, hends [], fun back hback => ?_⟩
    rw [List.append_assoc, scan_unclosed (hback.head?_ne (by decide) hafter)]
    · rfl
    · rwa [tickRows_append_plain hback.tick]

/-- What a text with paired backslashes begins with is read whatever follows behind the text. -/
theorem exists_scan_paired {c : Char} {cs : List Char} (h : Paired (c :: cs)) :
    ∃ passed rest tokens, c :: cs = passed ++ rest ∧ passed ≠ [] ∧ Paired passed ∧
      ∀ back, Separate back → scan 0 (c :: cs ++ back) = tokens ++ scan 0 (rest ++ back) := by
  by_cases hslash : c = '\\'
  · subst hslash
    cases cs with
    | nil => exact absurd h (by decide)
    | cons d rest =>
        obtain ⟨tokens, htokens⟩ := exists_scan_escape d
        exact ⟨['\\', d], rest, tokens, rfl, List.cons_ne_nil _ _, paired_escape d, fun back _ => htokens _⟩
  · by_cases hrow : c ∈ rowMarks
    · by_cases htick : c = '`'
      · subst htick
        obtain ⟨passed, rest, tokens, heq, hlast, htokens⟩ :=
          exists_scan_ticks (show ('`' :: cs).head? = some '`' from rfl)
        refine ⟨passed, rest, tokens, heq, ?_, paired_of_getLast? ?_, htokens⟩
        · rintro rfl
          cases hlast
        · rw [hlast]
          exact fun hsome => absurd (Option.some.inj hsome) (by decide)
      · obtain ⟨k, after, heq, hafter⟩ := exists_row (show (c :: cs).head? = some c from rfl)
        refine ⟨List.replicate (k + 1) c, after, [.row c (k + 1)], heq, by simp, paired_replicate hslash _,
          fun back hback => ?_⟩
        rw [heq, List.append_assoc, scan_row hrow htick k (hback.head?_ne hrow hafter)]
        rfl
    · exact ⟨[c], cs, [.text c], rfl, List.cons_ne_nil _ _, paired_singleton hslash,
        fun back _ => scan_text hslash hrow _⟩

/-- A text whose backslashes are paired is read as it is whatever follows, if that closes no code and does not go on
with a row of marks. -/
theorem scan_append_paired {front back : List Char} (h : Paired front) (hback : Separate back) :
    scan 0 (front ++ back) = scan 0 front ++ scan 0 back := by
  induction hlen : front.length using Nat.strongRecOn generalizing front with
  | ind size ih =>
      subst hlen
      cases front with
      | nil => rfl
      | cons c cs =>
          obtain ⟨passed, rest, tokens, heq, hne, hpassed, htokens⟩ := exists_scan_paired h
          have hlt : rest.length < (c :: cs).length := by
            have := List.length_pos_iff.mpr hne
            rw [heq, List.length_append]
            omega
          -- paired backslashes have been taken off the front, so those that are left are paired
          have hrest : Paired rest := (hpassed.append_iff rest).mp (heq ▸ h)
          have halone := htokens [] separate_nil
          rw [List.append_nil, List.append_nil] at halone
          rw [htokens back hback, ih rest.length hlt hrest rfl, halone, List.append_assoc]

/-- The title with its hashes kept. -/
theorem keepHashes_eq (title : List Char) :
    ∃ k, title = dropWhileEnd (· == '#') title ++ List.replicate k '#' ∧
      keepHashes title = dropWhileEnd (· == '#') title ++ (if k = 0 then [] else '\\' :: List.replicate k '#') := by
  obtain ⟨last, heq, hlast⟩ := Text.eq_dropWhileEnd_append (· == '#') title
  have hrow : last = List.replicate last.length '#' :=
    List.eq_replicate_iff.mpr ⟨rfl, fun c hc => beq_iff_eq.mp (hlast c hc)⟩
  refine ⟨last.length, heq.trans (by rw [← hrow]), ?_⟩
  have hlen : title.length = (dropWhileEnd (· == '#') title).length + last.length :=
    (congrArg List.length heq).trans List.length_append
  unfold keepHashes
  dsimp only
  by_cases hk : last.length = 0
  · rw [if_neg (by omega), if_pos hk, List.append_nil]
    rw [List.length_eq_zero_iff.mp hk, List.append_nil] at heq
    exact heq
  · rw [if_pos (by omega), if_neg hk, ← hrow]
    have hdrop : title.drop (dropWhileEnd (· == '#') title).length = last :=
      (congrArg (List.drop _) heq).trans List.drop_left
    rw [hdrop]

/-- The backslash that keeps the hashes is not read, and changes nothing else. -/
theorem scan_keepHashes {title : List Char} (h : Paired (dropWhileEnd (· == '#') title)) :
    scan 0 (keepHashes title) = scan 0 title := by
  obtain ⟨k, htitle, hkept⟩ := keepHashes_eq title
  have hplain : ∀ k, '`' ∉ List.replicate k '#' := fun k hmem => absurd (List.eq_of_mem_replicate hmem) (by decide)
  cases k with
  | zero =>
      rw [hkept, if_pos rfl]
      exact congrArg (scan 0) htitle.symm
  | succ k =>
      rw [hkept, if_neg (Nat.succ_ne_zero k)]
      conv => rhs; rw [htitle]
      have hbare : Separate (List.replicate (k + 1) '#') := by
        refine ⟨hplain _, ?_⟩
        rintro _ ⟨⟩
        decide
      have hescaped : Separate ('\\' :: List.replicate (k + 1) '#') := by
        refine ⟨fun hmem => (List.mem_cons.mp hmem).elim (by decide) (hplain _), ?_⟩
        rintro _ ⟨⟩
        decide
      rw [scan_append_paired h hescaped, scan_append_paired h hbare, List.replicate_succ, scan_escaped (by decide),
        scan_text (by decide) (by decide)]

/-! ## Backslashes in written text -/

/-- No backslash waits in front of number signs and blanks that the text ends with, however many are cut off. -/
def EndsPaired (cs : List Char) : Prop :=
  ∀ front back, cs = front ++ back → (∀ c ∈ back, c = '#' ∨ isBlank c = true) → Paired front

theorem EndsPaired.paired {cs : List Char} (h : EndsPaired cs) : Paired cs :=
  h cs [] (List.append_nil cs).symm fun _ hc => absurd hc List.not_mem_nil

theorem EndsPaired.append {cs more : List Char} (hcs : EndsPaired cs) (hmore : EndsPaired more) :
    EndsPaired (cs ++ more) := by
  intro front back heq hback
  rcases List.append_eq_append_iff.mp heq with ⟨rest, rfl, hrest⟩ | ⟨rest, rfl, rfl⟩
  · exact (hcs.paired.append_iff rest).mpr (hmore rest back hrest hback)
  · exact hcs front rest rfl fun c hc => hback c (List.mem_append_left _ hc)

theorem endsPaired_nil : EndsPaired [] := by
  intro front back heq _
  rw [(List.append_eq_nil_iff.mp heq.symm).1]
  exact paired_nil

theorem endsPaired_of_not_mem {cs : List Char} (h : '\\' ∉ cs) : EndsPaired cs := by
  rintro front back rfl -
  apply paired_of_getLast?
  exact fun hlast => h (List.mem_append_left _ (List.mem_of_getLast? hlast))

/-- Nothing is cut off a text that ends otherwise. -/
theorem endsPaired_of_getLast? {cs : List Char} (h : Paired cs) {c : Char} (hlast : cs.getLast? = some c)
    (hhash : c ≠ '#') (hblank : isBlank c = false) : EndsPaired cs := by
  rintro front back rfl hback
  rcases List.eq_nil_or_concat back with rfl | ⟨back, d, rfl⟩
  · rwa [List.append_nil] at h
  · rw [List.concat_eq_append] at hlast hback
    rw [← List.append_assoc, List.getLast?_concat] at hlast
    obtain rfl := Option.some.inj hlast
    rcases hback d (List.mem_append_right _ (List.mem_singleton_self d)) with hd | hd
    · exact absurd hd hhash
    · rw [hblank] at hd
      exact absurd hd Bool.false_ne_true

theorem endsPaired_escape {c : Char} (hmark : isAsciiMark c = true) (hhash : c ≠ '#') : EndsPaired ['\\', c] :=
  endsPaired_of_getLast? (paired_escape c) rfl hhash (not_isBlank_of_isAsciiMark hmark)

theorem endsPaired_escapeInline (cs : List Char) : EndsPaired (escapeInline cs) := by
  induction cs with
  | nil => exact endsPaired_nil
  | cons c cs ih =>
      by_cases h : c = '\\' ∨ Live c cs
      · have hhash : c ≠ '#' := by
          rintro rfl
          exact absurd (mem_marks_of_live h) (by decide)
        rw [escapeInline_live h]
        exact (endsPaired_escape (isAsciiMark_of_live h) hhash).append ih
      · obtain ⟨hslash, hdead⟩ := not_or.mp h
        rw [escapeInline_dead hslash hdead]
        exact (endsPaired_of_not_mem fun hmem => hslash (List.mem_singleton.mp hmem).symm).append ih

theorem endsPaired_codeSpan (code : List Char) : EndsPaired (codeSpan code) := by
  have hlast : (codeSpan code).getLast? = some '`' := by
    rw [codeSpan_eq, wrap, getLast?_append_right (by simp), List.getLast?_replicate, if_neg (Nat.succ_ne_zero _)]
  refine endsPaired_of_getLast? (paired_of_getLast? ?_) hlast (by decide) (by decide)
  rw [hlast]
  exact fun heq => absurd (Option.some.inj heq) (by decide)

theorem EndsPaired.wrap {mark : Char} (hmark : mark ≠ '\\') {inner : List Char} (h : EndsPaired inner) (k : Nat) :
    EndsPaired (wrap mark k inner) := by
  have hrow : EndsPaired (List.replicate k mark) :=
    endsPaired_of_not_mem fun hmem => hmark (List.eq_of_mem_replicate hmem).symm
  exact (hrow.append h).append hrow

theorem endsPaired_of_blank {cs : List Char} (h : ∀ c ∈ cs, isBlank c = true) : EndsPaired cs :=
  endsPaired_of_not_mem fun hmem => (plain_of_isBlank (h _ hmem)).1 rfl

theorem endsPaired_formatRun {settings : ExportSettings} (hmarker : settings.emphasisMarker ≠ '\\') (run : Run) :
    EndsPaired (formatRun settings run) := by
  by_cases hcore : (Edges.ofText run.text.toList).core = []
  · have hsame : formatRun settings run = run.text.toList := by
      unfold formatRun
      dsimp only
      rw [hcore]
      rfl
    rw [hsame]
    exact endsPaired_of_blank (Edges.blank_of_core_eq_nil hcore)
  · have hinner : EndsPaired (if isCode settings run.properties then codeSpan (Edges.ofText run.text.toList).core
        else escapeInline (Edges.ofText run.text.toList).core) := by
      split
      · exact endsPaired_codeSpan _
      · exact endsPaired_escapeInline _
    have htext : EndsPaired (coreText settings run.properties (Edges.ofText run.text.toList).core) :=
      (hinner.wrap hmarker _).wrap (by decide) _
    rw [formatRun_eq hcore]
    exact ((endsPaired_of_blank Edges.blank_lead).append htext).append (endsPaired_of_blank Edges.blank_trail)

theorem endsPaired_flatMap {α : Type} {f : α → List Char} (h : ∀ item, EndsPaired (f item)) (items : List α) :
    EndsPaired (items.flatMap f) := by
  induction items with
  | nil => exact endsPaired_nil
  | cons item items ih =>
      rw [List.flatMap_cons]
      exact (h item).append ih

/-! ## Titles -/

/-- The text of runs on one line: a blank stands for each line feed. -/
def lineText (settings : ExportSettings) (runs : List Run) : List Char :=
  ((mergeRuns runs).flatMap (formatRun settings)).map fun c => if c = '\n' then ' ' else c

theorem oneLine_inlineText (settings : ExportSettings) (doc : Document) (order : NoteOrder) {runs : List Run}
    (hruns : ∀ run ∈ runs, isTextRun run = true) :
    oneLine (inlineText settings doc order runs).1 = lineText settings runs := by
  change oneLine (breakLines (runTexts settings doc order (mergeRuns runs)).1) = _
  rw [oneLine_breakLines, runTexts_of_text settings doc order (isTextRun_mergeRuns hruns)]
  rfl

/-- A line has no line feed, and but for blanks only what its runs are written with. -/
theorem mem_lineText {settings : ExportSettings} {runs : List Run} {c : Char} (h : c ∈ lineText settings runs)
    (hblank : c ≠ ' ') : c ≠ '\n' ∧ c ∈ (mergeRuns runs).flatMap (formatRun settings) := by
  obtain ⟨d, hd, rfl⟩ := List.mem_map.mp h
  split at hblank
  next => exact absurd rfl hblank
  next hfeed =>
    rw [if_neg hfeed]
    exact ⟨hfeed, hd⟩

/-- Blanks for line feeds do not change where backslashes wait. -/
theorem EndsPaired.lineFeeds {cs : List Char} (h : EndsPaired cs) :
    EndsPaired (cs.map fun c => if c = '\n' then ' ' else c) := by
  have hslash : ∀ c : Char, (if c = '\n' then ' ' else c) = '\\' ↔ c = '\\' := by
    intro c
    split
    next hc => exact iff_of_false (by decide) (by rw [hc]; decide)
    next => exact Iff.rfl
  have hend : ∀ c : Char, (if c = '\n' then ' ' else c) = '#' ∨ isBlank (if c = '\n' then ' ' else c) = true →
      c = '#' ∨ isBlank c = true := by
    intro c hc
    split at hc
    next hfeed => exact .inr (by rw [hfeed]; decide)
    next => exact hc
  intro front back heq hback
  obtain ⟨front, back, rfl, rfl, rfl⟩ := List.map_eq_append_iff.mp heq
  rw [paired_map_iff hslash]
  exact h front back rfl fun c hc => hend c (hback _ (List.mem_map_of_mem hc))

/-- No backslash of a title waits in front of the hashes at its end. -/
theorem EndsPaired.paired_trim {cs : List Char} (h : EndsPaired cs) :
    Paired (dropWhileEnd (· == '#') (trim cs)) := by
  obtain ⟨last, heq, hlast⟩ := Text.eq_dropWhileEnd_append (· == '#') (trim cs)
  have hparts :
      cs = (Edges.ofText cs).lead ++ dropWhileEnd (· == '#') (trim cs) ++ (last ++ (Edges.ofText cs).trail) := by
    conv => lhs; rw [← Edges.ofText_append cs]
    change (Edges.ofText cs).lead ++ trim cs ++ (Edges.ofText cs).trail = _
    conv => lhs; rw [heq]
    simp only [List.append_assoc]
  have hlead : Paired (Edges.ofText cs).lead := (endsPaired_of_blank Edges.blank_lead).paired
  refine (hlead.append_iff _).mp (h _ _ hparts fun c hc => ?_)
  rcases List.mem_append.mp hc with hc | hc
  · exact .inl (beq_iff_eq.mp (hlast c hc))
  · exact .inr (Edges.blank_trail c hc)

/-! ## The heading that a line is -/

/-- The level and the text of the heading that a line is by itself, without the blanks around the text and the number
signs that close it. -/
def headingOfLine? (line : List Char) : Option (Nat × List Char) := do
  let level ← headingLevel? line
  return (level, (dropClosingHashes (line.drop level)).dropWhile isTabOrSpace)

theorem rest_skip (line : Line) (n : Nat) : (line.skip n).rest = line.rest.drop n := by
  induction n generalizing line with
  | zero => rfl
  | succ n ih =>
      obtain ⟨rest, offset, column, inTab⟩ := line
      cases rest with
      | nil => rfl
      | cons c rest => exact ih _

theorem rest_skipBlanks (line : Line) : line.skipBlanks.rest = line.rest.dropWhile isTabOrSpace := by
  rw [Line.skipBlanks, rest_skip]
  conv => lhs; arg 2; rw [← List.takeWhile_append_dropWhile (p := isTabOrSpace) (l := line.rest)]
  exact List.drop_left

/-- A reader of blocks takes the line for a heading of the level and the text, whatever blocks are open. -/
def BeginsHeading (line : List Char) (level : Nat) (content : List Char) : Prop :=
  ∀ features depth container afterParagraph number spine,
    BlockStart.ofLine? features depth container afterParagraph { rest := line } = some (.heading level) ∧
      ∃ offset, BlockStart.apply (.heading level) number spine { rest := line } =
        .nothing (spine.addBlock (.text (.heading level) number 1 ⟨content, [offset]⟩))

/-- Where a line is a heading by itself, a reader of blocks begins a heading of this level and text. -/
theorem headingOfLine?_begins {chars content : List Char} {level : Nat}
    (h : headingOfLine? chars = some (level, content)) : BeginsHeading chars level content := by
  intro features depth container afterParagraph number spine
  unfold headingOfLine? at h
  obtain ⟨found, hlevel, hcontent⟩ := Option.bind_eq_some_iff.mp h
  obtain ⟨rfl, rfl⟩ := Prod.mk.inj (Option.some.inj hcontent)
  obtain ⟨rest, rfl⟩ : ∃ rest, chars = '#' :: rest := by
    have hrow : 1 ≤ countLeading '#' chars := by
      unfold headingLevel? at hlevel
      dsimp only at hlevel
      split at hlevel
      next hbounds => exact hbounds.1
      next => cases hlevel
    cases chars with
    | nil => exact absurd hrow (by decide)
    | cons c rest =>
        by_cases hc : c = '#'
        · exact ⟨rest, by rw [hc]⟩
        · have hhead : (c :: rest).head? ≠ some '#' := fun hhead => hc (Option.some.inj hhead)
          have hnone : countLeading '#' (c :: rest) = 0 := countLeading_row hhead 0
          omega
  have htext : Line.text { rest := '#' :: rest } = '#' :: rest := rfl
  refine ⟨?_, ?_⟩
  · unfold BlockStart.ofLine?
    dsimp only
    rw [htext, hlevel]
    rfl
  · let mark := Line.skip { rest := '#' :: rest } found
    let content := Line.skipBlanks { mark with rest := dropClosingHashes mark.rest }
    have hrest : content.rest = (dropClosingHashes (('#' :: rest).drop found)).dropWhile isTabOrSpace := by
      rw [rest_skipBlanks]
      dsimp only
      rw [rest_skip]
    refine ⟨content.offset, ?_⟩
    rw [← hrest]
    rfl

/-- A title with its hashes kept neither begins nor ends blank. -/
theorem trimmed_keepHashes {title : List Char} (h : Trimmed title) : Trimmed (keepHashes title) := by
  obtain ⟨k, htitle, hkept⟩ := keepHashes_eq title
  by_cases hk : k = 0
  · rw [hk, List.replicate_zero, List.append_nil] at htitle
    rwa [hkept, if_pos hk, List.append_nil, ← htitle]
  · rw [hkept, if_neg hk]
    refine ⟨fun c hc => ?_, fun c hc => ?_⟩
    · cases hcut : dropWhileEnd (· == '#') title with
      | nil =>
          rw [hcut] at hc
          obtain rfl := Option.some.inj hc
          decide
      | cons d cut =>
          rw [hcut] at htitle hc
          exact h.head c (by rw [htitle]; exact hc)
    · rw [getLast?_append_right (List.cons_ne_nil _ _), List.getLast?_cons, List.getLast?_replicate, if_neg hk] at hc
      obtain rfl := Option.some.inj hc
      decide

/-- What stands in front of the hashes that are kept does not end blank. -/
theorem getLast?_dropWhileEnd_keepHashes {title : List Char} (hne : title ≠ []) (h : Trimmed title) :
    ∃ c, (dropWhileEnd (· == '#') (keepHashes title)).getLast? = some c ∧ isBlank c = false := by
  obtain ⟨k, htitle, hkept⟩ := keepHashes_eq title
  by_cases hk : k = 0
  · rw [hk, List.replicate_zero, List.append_nil] at htitle
    rw [hkept, if_pos hk, List.append_nil, ← htitle, ← htitle]
    exact ⟨title.getLast hne, List.getLast?_eq_some_getLast hne, h.last _ (List.getLast?_eq_some_getLast hne)⟩
  · have hhash : ∀ c ∈ List.replicate k '#', (c == '#') = true := fun c hc =>
      beq_iff_eq.mpr (List.eq_of_mem_replicate hc)
    have hslash : dropWhileEnd (· == '#') (dropWhileEnd (· == '#') title ++ ['\\']) =
        dropWhileEnd (· == '#') title ++ ['\\'] := List.rdropWhile_concat_neg _ _ _ (by decide)
    rw [hkept, if_neg hk, List.append_cons, Text.dropWhileEnd_append_of_all hhash, hslash]
    exact ⟨'\\', List.getLast?_concat, by decide⟩

/-- No number sign is taken off a title with its hashes kept. -/
theorem dropClosingHashes_keepHashes {title : List Char} (hne : title ≠ []) (h : Trimmed title) :
    dropClosingHashes (' ' :: keepHashes title) = ' ' :: keepHashes title := by
  obtain ⟨c, hlast, hblank⟩ := getLast?_dropWhileEnd_keepHashes hne h
  have hspace : trimSpaceEnd (' ' :: keepHashes title) = ' ' :: keepHashes title := by
    have hkept : keepHashes title ≠ [] := by
      intro hnil
      rw [hnil] at hlast
      cases hlast
    refine List.rdropWhile_eq_self_iff.mpr fun hcons hwhite => ?_
    have hend := (getLast?_append_right hkept [' ']).symm.trans (List.getLast?_eq_some_getLast hcons)
    exact Bool.false_ne_true (((trimmed_keepHashes h).last _ hend).symm.trans (Unicode.isBlank_of_isWhitespace hwhite))
  have hfront : dropWhileEnd (· == '#') (' ' :: keepHashes title) =
      ' ' :: dropWhileEnd (· == '#') (keepHashes title) := by
    obtain ⟨hashes, heq, hhashes⟩ := Text.eq_dropWhileEnd_append (· == '#') (keepHashes title)
    obtain ⟨front, hconcat⟩ := List.getLast?_eq_some_iff.mp hlast
    conv => lhs; rw [heq, hconcat]
    rw [← List.cons_append, Text.dropWhileEnd_append_of_all hhashes, ← List.cons_append, hconcat]
    exact List.rdropWhile_concat_neg _ _ _ (by rw [Text.getLast?_dropWhileEnd hlast]; exact Bool.false_ne_true)
  unfold dropClosingHashes
  dsimp only
  rw [hspace, hfront, if_neg]
  rintro ⟨-, hany⟩
  rw [List.getLast?_cons, hlast] at hany
  exact Bool.false_ne_true (hblank.symm.trans (isBlank_of_isTabOrSpace hany))

/-- Behind number signs and a blank a title with its hashes kept is read as it is. -/
theorem headingOfLine?_keepHashes {level : Nat} (hone : 1 ≤ level) (hsix : level ≤ 6) {title : List Char}
    (hne : title ≠ []) (h : Trimmed title) :
    headingOfLine? (List.replicate level '#' ++ ' ' :: keepHashes title) = some (level, keepHashes title) := by
  have hblank : (' ' :: keepHashes title).head? ≠ some '#' := fun hhead => absurd (Option.some.inj hhead) (by decide)
  have hcount := countLeading_row hblank level
  have hdrop : (List.replicate level '#' ++ ' ' :: keepHashes title).drop level = ' ' :: keepHashes title :=
    List.drop_left' List.length_replicate
  have hlevel : headingLevel? (List.replicate level '#' ++ ' ' :: keepHashes title) = some level := by
    unfold headingLevel?
    dsimp only
    rw [hcount, hdrop]
    exact if_pos ⟨hone, hsix, rfl⟩
  have hkept : (keepHashes title).dropWhile isTabOrSpace = keepHashes title := by
    cases hcons : keepHashes title with
    | nil => rfl
    | cons c rest =>
        have hhead := (trimmed_keepHashes h).head c (by rw [hcons]; rfl)
        exact List.dropWhile_cons_of_neg fun hspace =>
          Bool.false_ne_true (hhead.symm.trans (isBlank_of_isTabOrSpace hspace))
  unfold headingOfLine?
  rw [hlevel, Option.bind_eq_bind, Option.bind_some, hdrop, dropClosingHashes_keepHashes hne h,
    List.dropWhile_cons_of_pos (by decide), hkept]
  rfl

/-! ## What is written for a heading -/

/-- **Headings are read back.** What is written for a heading is one line and a blank line, behind the end of the code
or list before it. The line is a heading by itself, on the level of the paragraph but at most the sixth, and a reader of
blocks begins this heading. Its text is read as the title: no number sign at its end is lost, and the backslash that
keeps them meets no other and no code. -/
theorem heading_read_back (settings : ExportSettings) (doc : Document) (w : Writing) {paragraph : Paragraph}
    {level : Nat} (hkind : blockKind paragraph = .heading level) (hsetext : settings.setextHeadings = false)
    (hruns : ∀ run ∈ paragraph.runs, isTextRun run = true) (hreturn : ∀ run ∈ paragraph.runs, '\r' ∉ run.text.toList)
    (hmarker : settings.emphasisMarker ≠ '\\' ∧ settings.emphasisMarker ≠ '\r')
    (hne : trim (lineText settings paragraph.runs) ≠ []) :
    ∃ line content, (paragraphText settings doc w paragraph).1 =
        (closeGroup settings w).1 ++ (line ++ ['\n', '\n']) ∧
      '\n' ∉ line ∧ '\r' ∉ line ∧ headingOfLine? line = some (min level 6, content) ∧
      BeginsHeading line (min level 6) content ∧
      scan 0 content = scan 0 (trim (lineText settings paragraph.runs)) := by
  have hpaired : Paired (dropWhileEnd (· == '#') (trim (lineText settings paragraph.runs))) :=
    (endsPaired_flatMap (endsPaired_formatRun hmarker.1) (mergeRuns paragraph.runs)).lineFeeds.paired_trim
  -- the line has no characters but hashes, a blank, a backslash and those of the title
  have hline : ∀ c, c ≠ '#' → c ≠ ' ' → c ≠ '\\' →
      c ∈ List.replicate (min level 6) '#' ++ ' ' :: keepHashes (trim (lineText settings paragraph.runs)) →
      c ∈ lineText settings paragraph.runs := by
    intro c hhash hblank hslash hmem
    rcases List.mem_append.mp hmem with hmem | hmem
    · exact absurd (List.eq_of_mem_replicate hmem) hhash
    · rcases List.mem_cons.mp hmem with hmem | hmem
      · exact absurd hmem hblank
      · exact mem_of_mem_trim ((mem_keepHashes hmem).resolve_left hslash)
  have hlevel : 1 ≤ min level 6 := le_min (one_le_of_blockKind hkind) (by decide)
  have hheading := headingOfLine?_keepHashes hlevel (min_le_right level 6) hne (trimmed_trim _)
  refine ⟨List.replicate (min level 6) '#' ++ ' ' :: keepHashes (trim (lineText settings paragraph.runs)), _, ?_, ?_,
    ?_, hheading, headingOfLine?_begins hheading, scan_keepHashes hpaired⟩
  · obtain ⟨notes, htext⟩ := paragraphText_plain settings doc w (by rw [hkind]; nofun) (by rw [hkind]; nofun)
    rw [htext, hkind, blockText, headingText, oneLine_inlineText settings doc _ hruns]
    dsimp only
    rw [List.isEmpty_eq_false_iff.mpr hne, if_neg Bool.false_ne_true, if_neg]
    exact fun h => Bool.false_ne_true (hsetext.symm.trans h.1)
  · intro hmem
    have hfeed := hline '\n' (by decide) (by decide) (by decide) hmem
    exact (mem_lineText hfeed (by decide)).1 rfl
  · intro hmem
    have hreturns := hline '\r' (by decide) (by decide) (by decide) hmem
    rcases mem_flatMap_formatRun (mem_lineText hreturns (by decide)).2 with hchars | ⟨-, heq⟩ | hmark
    · obtain ⟨run, hrun, hchars⟩ := List.mem_flatMap.mp hchars
      exact hreturn run hrun hchars
    · exact hmarker.2 heq.symm
    · exact absurd hmark (by decide)

/-- Hashes behind a backslash and a line feed. -/
theorem heading_read_back_hashes :
    let paragraph : Paragraph :=
      { properties := { style := some "Heading9" }, runs := [{ text := "C\\\n" }, { text := "##" }] }
    (blockKind paragraph = .heading 9 ∧ (paragraphText {} {} {} paragraph).1 = "###### C\\\\ \\##\n\n".toList) ∧
      ∃ line content, (paragraphText {} {} {} paragraph).1 = (closeGroup {} {}).1 ++ (line ++ ['\n', '\n']) ∧
        '\n' ∉ line ∧ '\r' ∉ line ∧ headingOfLine? line = some (min 9 6, content) ∧
        BeginsHeading line (min 9 6) content ∧ scan 0 content = scan 0 (trim (lineText {} paragraph.runs)) := by
  intro paragraph
  have hkind : blockKind paragraph = .heading 9 := by decide
  exact ⟨⟨hkind, by decide⟩,
    heading_read_back {} {} {} hkind rfl (by decide) (by decide) (by decide) (by decide)⟩

end Folio.Markdown
