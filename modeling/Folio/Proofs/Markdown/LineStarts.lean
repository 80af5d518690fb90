import Folio.Markdown.Grammar.BlockStart
import Folio.Proofs.Markdown.Escaping

/-!
# Escaped lines begin no block

A line of Markdown is the text of a paragraph unless it begins a block, is indented as code, underlines the line
before it or defines a link or a footnote. The lines of an escaped text are text, with one exception.

* `LineKind`, `LineKind.Holds` : what a line can be besides text, on its own or below a line of a paragraph;
* `SpacedDashes` : a row of dashes with blanks in it that is neither a bullet nor an underline;
* `escaped_line_kinds` : escaped lines are text, but for thematic breaks, and none of those is there exactly when no
  line of the text is dashes spaced so.
-/

namespace Folio.Markdown
open Unicode (isAsciiMark isBlank)
open Text (lines trimEnd dropWhileEnd_append_of_all eq_dropWhileEnd_append)

/-- What a line of Markdown can be besides the text of a paragraph. -/
inductive LineKind where
  | heading
  | quote
  /-- An item of a list, with a bullet or a number. -/
  | item
  /-- What makes a heading of the line before. -/
  | underline
  | thematicBreak
  | fence
  | indentedCode
  | html
  /-- The definition of what a label refers to. -/
  | definition
  | footnote
  deriving DecidableEq, Repr

/-- The text of a line, from its first character that is no blank on, is marked as one of the kind. -/
def LineKind.Marks (text : List Char) : LineKind → Prop
  | .heading => (headingLevel? text).isSome = true
  | .quote => text.head? = some '>'
  | .item => (ItemMark.ofLine? false text).isSome = true
  | .underline => (underlineLevel? text).isSome = true
  | .thematicBreak => isThematicBreak text = true
  | .fence => (Fence.ofLine? text).isSome = true
  | .indentedCode => False
  | .html => (Html.blockEnd? false text).isSome = true
  | .definition => ∃ label rest, label? text = some (label, ':' :: rest)
  | .footnote => (footnoteMark? text).isSome = true

/-- The line is of the kind, on its own or below a line of a paragraph. Less than a tab stop of indentation takes no
kind away. -/
def LineKind.Holds (kind : LineKind) (chars : List Char) : Prop :=
  let line : Line := { rest := chars }
  if codeIndent ≤ line.indent then kind = .indentedCode ∧ line.isBlank = false else kind.Marks line.text

/-- Two dashes, then dashes and blanks, and a blank before the last dash: three dashes at least with a blank between
two of them, but none behind the first. -/
def SpacedDashes (line : List Char) : Prop :=
  ['-', '-'] <+: line ∧ (∀ c ∈ line, c = '-' ∨ isTabOrSpace c = true) ∧ '-' ∈ line.dropWhile (· == '-')

/-! ## Rows of one mark -/

/-- A text is a row of one mark up to its trailing white space exactly when white space is all that follows the row it
begins with. -/
theorem all_trimEnd_iff {mark : Char} (cs : List Char) :
    (trimEnd cs).all (· == mark) = true ↔ ∀ c ∈ cs.dropWhile (· == mark), isBlank c = true := by
  constructor
  · intro h c hc
    obtain ⟨last, hcs, hlast⟩ := eq_dropWhileEnd_append isBlank cs
    rw [hcs] at hc
    change c ∈ List.dropWhile _ (trimEnd cs ++ last) at hc
    rw [List.dropWhile_append_of_pos (List.all_eq_true.mp h)] at hc
    exact hlast c ((List.dropWhile_sublist _).mem hc)
  · intro h
    have hcs : cs = cs.takeWhile (· == mark) ++ cs.dropWhile (· == mark) := List.takeWhile_append_dropWhile.symm
    rw [hcs, trimEnd, dropWhileEnd_append_of_all h, List.all_eq_true]
    intro c hc
    have hrow := List.mem_takeWhile_imp ((Text.dropWhileEnd_isPrefixOf _ _).subset hc)
    exact hrow

theorem isBlank_of_isTabOrSpace {c : Char} (h : isTabOrSpace c = true) : isBlank c = true := by
  simp only [isTabOrSpace, Bool.or_eq_true, decide_eq_true_eq] at h
  rcases h with rfl | rfl <;> decide

/-! ## The beginning of a line -/

/-- No escaped text begins with a label and a colon. -/
theorem Escapes.labelText?_ne_colon {text written label rest : List Char} (h : Escapes text written) :
    labelText? written ≠ some (label, ':' :: rest) := by
  induction h generalizing label with
  | nil => exact fun h => by cases h
  | @plain c text written other dead _ ih =>
      intro hlabel
      unfold labelText? at hlabel
      split at hlabel
      next after heq =>
        obtain ⟨rfl, rfl⟩ := List.cons.inj heq
        obtain ⟨-, rfl⟩ := Prod.mk.inj (Option.some.inj hlabel)
        exact dead (.inr (.inr (.inl ⟨rfl, ':', by decide, rfl⟩)))
      next => cases hlabel
      next d after heq => exact other (List.cons.inj heq).1
      next d after _ _ _ heq =>
        obtain ⟨rfl, rfl⟩ := List.cons.inj heq
        obtain ⟨⟨label', rest'⟩, hfound, hpair⟩ := Option.map_eq_some_iff.mp hlabel
        obtain ⟨-, rfl⟩ := Prod.mk.inj hpair
        exact ih hfound
      next heq => cases heq
  | @escaped c text written mark _ ih =>
      intro hlabel
      rw [labelText?, if_pos mark] at hlabel
      obtain ⟨⟨label', rest'⟩, hfound, hpair⟩ := Option.map_eq_some_iff.mp hlabel
      obtain ⟨-, rfl⟩ := Prod.mk.inj hpair
      exact ih hfound

/-- A line that begins neither with a mark nor with a digit is text, and with a digit it can only be an item. -/
theorem marks_cons {c : Char} (hc : c ∉ ['#', '>', '*', '-', '+', '=', '_', '`', '~', '<', '[']) {kind : LineKind}
    {rest : List Char} (h : kind.Marks (c :: rest)) : kind = .item ∧ c.isDigit = true := by
  simp only [List.mem_cons, List.not_mem_nil, or_false, not_or] at hc
  obtain ⟨h1, h2, h3, h4, h5, h6, h7, h8, h9, h10, h11⟩ := hc
  cases kind with
  | heading => simp [LineKind.Marks, headingLevel?, countLeading, h1] at h
  | quote => simp [LineKind.Marks, h2] at h
  | item =>
      refine ⟨rfl, ?_⟩
      by_contra hdigit
      simp [LineKind.Marks, ItemMark.ofLine?, h3, h4, h5, hdigit] at h
  | underline => simp [LineKind.Marks, underlineLevel?, h4, h6] at h
  | thematicBreak => simp [LineKind.Marks, isThematicBreak, h3, h4, h7] at h
  | fence => simp [LineKind.Marks, Fence.ofLine?, h8, h9] at h
  | indentedCode => exact absurd h id
  | html => simp [LineKind.Marks, Html.blockEnd?, h10] at h
  | definition => simp [LineKind.Marks, label?, h11] at h
  | footnote => simp [LineKind.Marks, footnoteMark?, h11] at h

/-- Up to nine digits and a mark with a blank behind it, or the end of the line, begin an item. -/
theorem item_of_digit {c : Char} {line : List Char} (hdigit : c.isDigit = true)
    (h : LineKind.item.Marks (c :: line)) :
    ∃ digits mark after, c :: line = digits ++ mark :: after ∧ (∀ d ∈ digits, d.isDigit = true) ∧
      (1 ≤ digits.length ∧ digits.length ≤ 9) ∧ (mark = '.' ∨ mark = ')') ∧ blankNext after = true := by
  have hbullet : ¬ (c = '*' ∨ c = '-' ∨ c = '+') := by
    rintro (rfl | rfl | rfl) <;> exact absurd hdigit (by decide)
  change (ItemMark.ofLine? false (c :: line)).isSome = true at h
  unfold ItemMark.ofLine? at h
  dsimp only at h
  rw [if_neg hbullet] at h
  have hprefix : ((c :: line).take 9).takeWhile Char.isDigit <+: c :: line :=
    (List.takeWhile_prefix _).trans (List.take_prefix _ _)
  have hall : ∀ d ∈ ((c :: line).take 9).takeWhile Char.isDigit, d.isDigit = true := fun d hd =>
    List.mem_takeWhile_imp hd
  have hlength : (((c :: line).take 9).takeWhile Char.isDigit).length ≤ 9 :=
    ((List.takeWhile_prefix _).length_le).trans (List.length_take_le _ _)
  generalize ((c :: line).take 9).takeWhile Char.isDigit = digits at h hprefix hall hlength
  have hline : digits ++ (c :: line).drop digits.length = c :: line := List.prefix_iff_eq_append.mp hprefix
  split at h
  next first more mark after hafter =>
    rw [hafter] at hline
    by_cases hmark : mark = '.' ∨ mark = ')'
    · rw [if_pos ⟨hmark, fun h => by cases h⟩] at h
      refine ⟨_, mark, after, hline.symm, hall, ⟨Nat.succ_pos _, hlength⟩, hmark, ?_⟩
      by_contra hblank
      simp [hblank] at h
    · rw [if_neg fun hboth => hmark hboth.1] at h
      cases h
  next => cases h

/-- The row of digits at the beginning of a line ends where its first other character stands. -/
theorem takeWhile_digits {digits rest : List Char} {c : Char} (hall : ∀ d ∈ digits, d.isDigit = true)
    (hc : c.isDigit = false) : (digits ++ c :: rest).takeWhile Char.isDigit = digits := by
  rw [List.takeWhile_append_of_pos hall, List.takeWhile_cons, hc]
  simp

/-- A number with its mark escaped begins nothing. -/
theorem not_marks_numbered {digits rest : List Char} (hall : ∀ d ∈ digits, d.isDigit = true)
    (hlength : 1 ≤ digits.length) (kind : LineKind) : ¬ kind.Marks (digits ++ '\\' :: rest) := by
  intro h
  obtain ⟨c, more, rfl⟩ := List.exists_cons_of_length_pos hlength
  obtain ⟨hdigit, -⟩ := List.forall_mem_cons.mp hall
  have hc : c ∉ ['#', '>', '*', '-', '+', '=', '_', '`', '~', '<', '['] := by
    intro hmem
    simp only [List.mem_cons, List.not_mem_nil, or_false] at hmem
    rcases hmem with rfl | rfl | rfl | rfl | rfl | rfl | rfl | rfl | rfl | rfl | rfl <;> exact absurd hdigit (by decide)
  rw [List.cons_append] at h
  obtain ⟨rfl, -⟩ := marks_cons hc h
  obtain ⟨digits', mark, after, hline, hall', -, hmark, -⟩ := item_of_digit hdigit h
  have hother : mark.isDigit = false := by rcases hmark with rfl | rfl <;> decide
  rw [← List.cons_append] at hline
  have hsame : c :: more = digits' := by
    have htake := congrArg (List.takeWhile Char.isDigit) hline
    rwa [takeWhile_digits hall (by decide), takeWhile_digits hall' hother] at htake
  rw [← hsame] at hline
  obtain ⟨rfl, -⟩ := List.cons.inj (List.append_cancel_left hline)
  exact absurd hmark (by decide)

/-- A line that begins an item with a number has the number's mark escaped. -/
theorem orderedMarker?_of_item {digits after : List Char} {mark : Char} (hall : ∀ d ∈ digits, d.isDigit = true)
    (hlength : 1 ≤ digits.length ∧ digits.length ≤ 9) (hmark : mark = '.' ∨ mark = ')') (hblank : blankNext after = true) :
    orderedMarker? (digits ++ mark :: after) = some (digits, mark :: after) := by
  have hother : mark.isDigit = false := by rcases hmark with rfl | rfl <;> decide
  have hnext : blankOrEnd after = true := hblank
  unfold orderedMarker?
  dsimp only
  rw [takeWhile_digits hall hother, List.drop_left, if_pos hlength]
  rcases hmark with rfl | rfl
  · exact if_pos hnext
  · exact if_pos hnext

/-! ## Lines that the pass leaves as they are -/

section Kept
variable {text line : List Char}

theorem not_heading_of_kept (hmarker : startsWithMarker line = false) : ¬ LineKind.heading.Marks line := by
  intro hmarks
  cases line with
  | nil => cases hmarks
  | cons c rest =>
      change (headingLevel? (c :: rest)).isSome = true at hmarks
      unfold headingLevel? at hmarks
      dsimp only at hmarks
      split at hmarks
      next hlevel =>
        have hc : c = '#' := by
          by_contra hne
          simp [countLeading, hne] at hlevel
        subst hc
        have hstarts : startsWithMarker ('#' :: rest) = true := by
          rw [startsWithMarker, Bool.and_eq_true, decide_eq_true_eq]
          exact ⟨hlevel.2.1, hlevel.2.2⟩
        rw [hstarts] at hmarker
        cases hmarker
      next => cases hmarks

theorem not_item_of_kept (hmarker : startsWithMarker line = false) (hnumber : orderedMarker? line = none) :
    ¬ LineKind.item.Marks line := by
  intro hmarks
  cases line with
  | nil => cases hmarks
  | cons c rest =>
      by_cases hdigit : c.isDigit = true
      · obtain ⟨digits, mark, after, hline, hall, hlength, hmark, hblank⟩ := item_of_digit hdigit hmarks
        rw [hline, orderedMarker?_of_item hall hlength hmark hblank] at hnumber
        cases hnumber
      · by_cases hbullet : c = '*' ∨ c = '-' ∨ c = '+'
        · have hblank : blankOrEnd rest = true := by
            by_contra hne
            have hnext : blankNext rest = false := eq_false_of_ne_true hne
            simp [LineKind.Marks, ItemMark.ofLine?, hbullet, hnext] at hmarks
          have hstarts : startsWithMarker (c :: rest) = true := by
            rcases hbullet with rfl | rfl | rfl <;> exact hblank
          rw [hstarts] at hmarker
          cases hmarker
        · simp [LineKind.Marks, ItemMark.ofLine?, hbullet, hdigit] at hmarks

/-- An underline is a row of one mark with blanks behind it. -/
theorem exists_underline (hmarks : LineKind.underline.Marks line) :
    ∃ c rest, line = c :: rest ∧ (c = '-' ∨ c = '=') ∧ (line.dropWhile (· == c)).all isTabOrSpace = true := by
  change (underlineLevel? line).isSome = true at hmarks
  unfold underlineLevel? at hmarks
  split at hmarks
  next rest =>
    split at hmarks
    next hall => exact ⟨'=', rest, rfl, .inr rfl, hall⟩
    next => cases hmarks
  next rest =>
    split at hmarks
    next hall => exact ⟨'-', rest, rfl, .inl rfl, hall⟩
    next => cases hmarks
  next => cases hmarks

theorem not_underline_of_kept (hunderline : isUnderline line = false) : ¬ LineKind.underline.Marks line := by
  intro hmarks
  obtain ⟨c, rest, rfl, hc, hall⟩ := exists_underline hmarks
  have hunder : isUnderline (c :: rest) = true := by
    rw [isUnderline, Bool.and_eq_true, Bool.or_eq_true, decide_eq_true_eq, decide_eq_true_eq]
    refine ⟨hc, (all_trimEnd_iff _).mpr fun d hd => ?_⟩
    exact isBlank_of_isTabOrSpace (List.all_eq_true.mp hall d hd)
  rw [hunder] at hunderline
  cases hunderline

theorem spacedDashes_of_kept (h : Escapes text line) (hmarker : startsWithMarker line = false)
    (hunderline : isUnderline line = false) (hmarks : LineKind.thematicBreak.Marks line) : SpacedDashes line := by
  cases line with
  | nil => cases hmarks
  | cons c rest =>
      simp only [LineKind.Marks, isThematicBreak, Bool.and_eq_true, decide_eq_true_eq, List.all_eq_true,
        Bool.or_eq_true] at hmarks
      obtain ⟨⟨hc, hcount⟩, hall⟩ := hmarks
      have hdash : c = '-' := by
        simp only [List.mem_cons, List.not_mem_nil, or_false] at hc
        rcases hc with rfl | rfl | rfl
        · exact absurd (Live.of_mem (by decide) rest) h.head_not_live
        · rfl
        · exact absurd (Live.of_mem (by decide) rest) h.head_not_live
      subst hdash
      have hnext : blankOrEnd rest = false := hmarker
      obtain ⟨d, more, rfl, hd⟩ : ∃ d more, rest = d :: more ∧ isTabOrSpace d = false := by
        cases rest with
        | nil => cases hnext
        | cons d more => exact ⟨d, more, rfl, hnext⟩
      have hsecond : d = '-' := by simpa [hd] using hall d (by simp)
      subst hsecond
      refine ⟨⟨more, rfl⟩, hall, ?_⟩
      by_contra hlast
      have hunder : isUnderline ('-' :: '-' :: more) = true := by
        rw [isUnderline, Bool.and_eq_true]
        refine ⟨by decide, (all_trimEnd_iff _).mpr fun d hd => ?_⟩
        rcases hall d ((List.dropWhile_sublist _).mem hd) with rfl | hblank
        · exact absurd hd hlast
        · exact isBlank_of_isTabOrSpace hblank
      rw [hunder] at hunderline
      cases hunderline

theorem not_fence_of_escapes (h : Escapes text line) : ¬ LineKind.fence.Marks line := by
  intro hmarks
  change (Fence.ofLine? line).isSome = true at hmarks
  unfold Fence.ofLine? at hmarks
  split at hmarks
  next c rest =>
    dsimp only at hmarks
    split at hmarks
    next hfence =>
      have hlive : Live c rest := by
        rcases hfence.1 with rfl | rfl
        · exact .of_mem (by decide) rest
        · exact .of_mem (by decide) rest
      exact h.head_not_live hlive
    next => cases hmarks
  next => cases hmarks

theorem not_html_of_escapes (h : Escapes text line) : ¬ LineKind.html.Marks line := by
  intro hmarks
  change (Html.blockEnd? false line).isSome = true at hmarks
  unfold Html.blockEnd? at hmarks
  split at hmarks
  next rest => exact h.head_not_live (.of_mem (by decide) _)
  next => cases hmarks

theorem not_footnote_of_escapes (h : Escapes text line) : ¬ LineKind.footnote.Marks line := by
  intro hmarks
  change (footnoteMark? line).isSome = true at hmarks
  unfold footnoteMark? at hmarks
  split at hmarks
  next rest => exact h.head_not_live (.inr (.inl ⟨rfl, rfl⟩))
  next => cases hmarks

theorem not_definition_of_escapes (h : Escapes text line) : ¬ LineKind.definition.Marks line := by
  rintro ⟨label, rest, hlabel⟩
  unfold label? at hlabel
  split at hlabel
  next after =>
    cases h with
    | plain other dead behind =>
        split at hlabel
        next label' rest' hfound =>
          split at hlabel
          next =>
            obtain ⟨-, rfl⟩ := Prod.mk.inj (Option.some.inj hlabel)
            exact behind.labelText?_ne_colon hfound
          next => cases hlabel
        next => cases hlabel
  next => cases hlabel

/-- A line that needs no mark escaped is text or a thematic break. -/
theorem marks_kept (h : Escapes text line) (hmarker : startsWithMarker line = false)
    (hunderline : isUnderline line = false) (hnumber : orderedMarker? line = none) {kind : LineKind}
    (hmarks : kind.Marks line) : kind = .thematicBreak ∧ SpacedDashes line := by
  cases kind with
  | heading => exact absurd hmarks (not_heading_of_kept hmarker)
  | quote =>
      obtain ⟨rest, rfl⟩ := List.head?_eq_some_iff.mp hmarks
      cases hmarker
  | item => exact absurd hmarks (not_item_of_kept hmarker hnumber)
  | underline => exact absurd hmarks (not_underline_of_kept hunderline)
  | thematicBreak => exact ⟨rfl, spacedDashes_of_kept h hmarker hunderline hmarks⟩
  | fence => exact absurd hmarks (not_fence_of_escapes h)
  | indentedCode => exact absurd hmarks id
  | html => exact absurd hmarks (not_html_of_escapes h)
  | definition => exact absurd hmarks (not_definition_of_escapes h)
  | footnote => exact absurd hmarks (not_footnote_of_escapes h)

end Kept

/-! ## Lines that are written -/

/-- A line without indentation is of the kinds that it is marked as. -/
theorem LineKind.holds_cons {c : Char} {rest : List Char} (hc : isTabOrSpace c = false) (kind : LineKind) :
    kind.Holds (c :: rest) ↔ kind.Marks (c :: rest) := by
  have hblank : ¬ (c = ' ' ∨ c = '\t') := by
    unfold isTabOrSpace at hc
    simpa using hc
  have hindent : ({ rest := c :: rest } : Line).indent = 0 := by
    unfold Line.indent Line.blankWidth
    rw [if_neg fun h => hblank (.inl h), if_neg fun h => hblank (.inr h)]
  have htext : ({ rest := c :: rest } : Line).text = c :: rest := by
    unfold Line.text
    rw [List.dropWhile_cons, hc]
    rfl
  unfold LineKind.Holds
  dsimp only
  rw [hindent, htext, if_neg (by decide)]

theorem isTabOrSpace_of_isAsciiMark {c : Char} (h : isAsciiMark c = true) : isTabOrSpace c = false :=
  not_isSpaceOrTab_of_isAsciiMark h

/-- A line is written without its indentation. -/
theorem holds_escapeLineStart (line : List Char) (kind : LineKind) :
    kind.Holds (escapeLineStart line) ↔ kind.Marks (escapeLineStart line) := by
  have hstart := startEscape line
  have hhead : ∀ c rest, line.dropWhile isSpaceOrTab = c :: rest → isTabOrSpace c = false := by
    intro c rest h
    have hfirst := List.head?_dropWhile_not isSpaceOrTab line
    rw [h] at hfirst
    exact hfirst
  generalize line.dropWhile isSpaceOrTab = start at hstart hhead
  generalize escapeLineStart line = written at hstart ⊢
  cases hstart with
  | marked => exact LineKind.holds_cons (by decide) kind
  | numbered number =>
      obtain ⟨rfl, hdigits, hlength, -⟩ := orderedMarker?_eq_some number
      obtain ⟨c, digits, rfl⟩ := List.exists_cons_of_length_pos hlength.1
      exact LineKind.holds_cons (hhead _ _ rfl) kind
  | kept =>
      cases start with
      | nil => exact Iff.rfl
      | cons c rest => exact LineKind.holds_cons (hhead _ _ rfl) kind

theorem Escapes.eq_of_not_mem {text written : List Char} (h : Escapes text written) (hslash : '\\' ∉ written) :
    text = written := by
  induction h with
  | nil => rfl
  | plain other dead rest ih => rw [ih fun hmem => hslash (List.mem_cons_of_mem _ hmem)]
  | escaped mark rest => exact absurd List.mem_cons_self hslash

/-- A line is written as text or as a thematic break, and as a break only when it is dashes spaced so. -/
theorem marks_written {line : List Char} {kind : LineKind} (h : kind.Marks (escapeLineStart (escapeInline line))) :
    kind = .thematicBreak ∧ SpacedDashes (line.dropWhile isSpaceOrTab) := by
  have hline := (escapes_escapeInline line).dropWhile
  have hstart := startEscape (escapeInline line)
  generalize (escapeInline line).dropWhile isSpaceOrTab = start at hline hstart
  generalize escapeLineStart (escapeInline line) = written at hstart h
  cases hstart with
  | marked => exact absurd (marks_cons (by decide) h).2 (by decide)
  | numbered number =>
      obtain ⟨-, hdigits, hlength, -⟩ := orderedMarker?_eq_some number
      exact absurd h (not_marks_numbered hdigits hlength.1 kind)
  | kept marker underline number =>
      obtain ⟨rfl, hdashes⟩ := marks_kept hline marker underline number h
      have hslash : '\\' ∉ start := by
        intro hmem
        rcases hdashes.2.1 _ hmem with h | h
        · exact absurd h (by decide)
        · exact absurd h (by decide)
      rw [hline.eq_of_not_mem hslash]
      exact ⟨rfl, hdashes⟩

/-- The inline pass leaves blanks and dashes as they are. -/
theorem escapeInline_of_dashes {cs : List Char} (h : ∀ c ∈ cs, c = '-' ∨ isTabOrSpace c = true) :
    escapeInline cs = cs := by
  have hnone : ('\\' :: liveMarks).any isTabOrSpace = false := by decide
  refine escapeInline_of_not_mem fun c hc hmark => ?_
  rcases h c hc with rfl | hblank
  · exact absurd hmark (by decide)
  · exact List.any_eq_false.mp hnone c hmark hblank

/-- Dashes spaced so are written as they are, and break off the text. -/
theorem marks_of_spacedDashes {line : List Char} (h : SpacedDashes (line.dropWhile isSpaceOrTab)) :
    LineKind.thematicBreak.Marks (escapeLineStart (escapeInline line)) := by
  have hline : ∀ c ∈ line, c = '-' ∨ isTabOrSpace c = true := by
    intro c hc
    rw [← List.takeWhile_append_dropWhile (p := isSpaceOrTab) (l := line), List.mem_append] at hc
    rcases hc with hc | hc
    · exact .inr (List.mem_takeWhile_imp hc)
    · exact h.2.1 c hc
  rw [escapeInline_of_dashes hline]
  have hstart := startEscape line
  generalize line.dropWhile isSpaceOrTab = start at h hstart
  generalize escapeLineStart line = written at hstart ⊢
  obtain ⟨⟨more, hmore⟩, hall, hlast⟩ := h
  obtain rfl : '-' :: '-' :: more = start := hmore
  cases hstart with
  | marked begins =>
      exfalso
      rw [Bool.or_eq_true] at begins
      rcases begins with hmarker | hunder
      · cases hmarker
      · rw [isUnderline, Bool.and_eq_true] at hunder
        exact absurd ((all_trimEnd_iff _).mp hunder.2 '-' hlast) (by decide)
  | numbered number =>
      exfalso
      obtain ⟨hdash, hdigits, hlength, -⟩ := orderedMarker?_eq_some number
      obtain ⟨d, digits, rfl⟩ := List.exists_cons_of_length_pos hlength.1
      obtain ⟨rfl, -⟩ := List.cons.inj hdash
      exact absurd (List.forall_mem_cons.mp hdigits).1 (by decide)
  | kept =>
      have hmem : '-' ∈ more := (List.dropWhile_sublist _).mem (show '-' ∈ more.dropWhile (· == '-') from hlast)
      have hcount : 1 ≤ more.count '-' := List.count_pos_iff.mpr hmem
      simp only [LineKind.Marks, isThematicBreak, Bool.and_eq_true, decide_eq_true_eq, List.all_eq_true,
        Bool.or_eq_true]
      refine ⟨⟨by decide, ?_⟩, hall⟩
      rw [List.count_cons_self, List.count_cons_self]
      omega

/-- No line of an escaped text begins a block or underlines a line, but for thematic breaks; and none of those is among
its lines exactly when no line of the text is two dashes with dashes and blanks behind them, the last dash behind a
blank. -/
theorem escaped_line_kinds (text : List Char) :
    (∀ written ∈ lines (escapeBlockStarts (escapeInline text)),
        ∀ kind : LineKind, kind ≠ .thematicBreak → ¬ kind.Holds written) ∧
      ((∀ written ∈ lines (escapeBlockStarts (escapeInline text)), ¬ LineKind.thematicBreak.Holds written) ↔
        ∀ line ∈ lines text, ¬ SpacedDashes (line.dropWhile isSpaceOrTab)) := by
  rw [lines_escaped]
  refine ⟨?_, ?_, ?_⟩
  · intro written hwritten kind hkind hholds
    obtain ⟨line, -, rfl⟩ := List.mem_map.mp hwritten
    exact hkind (marks_written ((holds_escapeLineStart _ _).mp hholds)).1
  · intro hnone line hline hdashes
    exact hnone _ (List.mem_map_of_mem hline) ((holds_escapeLineStart _ _).mpr (marks_of_spacedDashes hdashes))
  · intro hnone written hwritten hholds
    obtain ⟨line, hline, rfl⟩ := List.mem_map.mp hwritten
    exact hnone line hline (marks_written ((holds_escapeLineStart _ _).mp hholds)).2

/-- A line of dashes with a blank before the last is written as it stands, and is a thematic break. -/
theorem escaped_line_kinds_dashes :
    "-- -".toList ∈ lines (escapeBlockStarts (escapeInline "-- -".toList)) ∧
      LineKind.thematicBreak.Holds "-- -".toList := by
  refine ⟨by decide, ?_⟩
  change isThematicBreak "-- -".toList = true
  decide

end Folio.Markdown
