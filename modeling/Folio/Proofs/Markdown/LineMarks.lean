import Folio.Proofs.Markdown.LineStarts
import Folio.Proofs.Markdown.Tokens

/-!
# The marks of escaped lines

Where inline syntax is escaped and nothing else, a line is still what its first characters make of it: they are written
as they stand, unless inline syntax begins with them too.

* `BlockMark` : what a heading or an item begins with, up to the blank behind it;
* `escapable`, `Sparing` : a text with backslashes only before characters that may begin inline syntax, and before bars;
* `Sparing.marks_iff`, `Sparing.holds_iff` : the kinds of a line that is escaped so are those of its text that no star,
  no underscore and no other character of `escapable` marks.
-/

namespace Folio.Markdown
open Unicode (isAsciiMark)

/-! ## What blocks begin with -/

/-- What a heading or an item begins with, up to the blank behind it. -/
inductive BlockMark : LineKind → List Char → Prop
  | hashes {n : Nat} (size : 1 ≤ n ∧ n ≤ 6) : BlockMark .heading (List.replicate n '#')
  | bullet {c : Char} (mark : c = '*' ∨ c = '-' ∨ c = '+') : BlockMark .item [c]
  | number {digits : List Char} {mark : Char} (all : ∀ d ∈ digits, d.isDigit = true)
      (size : 1 ≤ digits.length ∧ digits.length ≤ 9) (delimiter : mark = '.' ∨ mark = ')') :
      BlockMark .item (digits ++ [mark])

theorem marks_heading_iff {text : List Char} :
    LineKind.heading.Marks text ↔
      ∃ front after, BlockMark .heading front ∧ text = front ++ after ∧ blankNext after = true := by
  have hlevel : ∀ {n : Nat} {after : List Char}, after.head? ≠ some '#' →
      (LineKind.heading.Marks (List.replicate n '#' ++ after) ↔ (1 ≤ n ∧ n ≤ 6) ∧ blankNext after = true) := by
    intro n after hafter
    have hdrop : (List.replicate n '#' ++ after).drop n = after := by simp
    unfold LineKind.Marks headingLevel?
    dsimp only
    rw [countLeading_row hafter, hdrop, and_assoc]
    change (if 1 ≤ n ∧ n ≤ 6 ∧ blankNext after = true then some n else none).isSome = true ↔ _
    by_cases h : 1 ≤ n ∧ n ≤ 6 ∧ blankNext after = true
    · rw [if_pos h]
      exact iff_of_true rfl h
    · rw [if_neg h]
      exact iff_of_false Bool.false_ne_true h
  constructor
  · intro h
    have hhead : text.head? = some '#' := by
      by_contra hne
      have hnone := (hlevel (n := 0) hne).mp h
      omega
    obtain ⟨k, after, rfl, hafter⟩ := exists_row hhead
    obtain ⟨hsize, hblank⟩ := (hlevel hafter).mp h
    exact ⟨_, after, .hashes hsize, rfl, hblank⟩
  · rintro ⟨_, after, ⟨hsize⟩, rfl, hblank⟩
    have hafter : after.head? ≠ some '#' := by
      intro hhead
      rw [blankNext, hhead] at hblank
      exact absurd hblank (by decide)
    exact (hlevel hafter).mpr ⟨hsize, hblank⟩

theorem marks_item_iff {text : List Char} :
    LineKind.item.Marks text ↔
      ∃ front after, BlockMark .item front ∧ text = front ++ after ∧ blankNext after = true := by
  constructor
  · intro h
    cases text with
    | nil => cases h
    | cons c rest =>
        by_cases hdigit : c.isDigit = true
        · obtain ⟨digits, mark, after, hline, hall, hsize, hmark, hblank⟩ := item_of_digit hdigit h
          exact ⟨digits ++ [mark], after, .number hall hsize hmark, by simpa using hline, hblank⟩
        · by_cases hbullet : c = '*' ∨ c = '-' ∨ c = '+'
          · refine ⟨[c], rest, .bullet hbullet, rfl, ?_⟩
            by_contra hne
            simp [LineKind.Marks, ItemMark.ofLine?, hbullet, hne] at h
          · simp [LineKind.Marks, ItemMark.ofLine?, hbullet, hdigit] at h
  · rintro ⟨front, after, hfront, rfl, hblank⟩
    cases hfront with
    | bullet mark => simp [LineKind.Marks, ItemMark.ofLine?, mark, hblank]
    | @number digits mark all size delimiter =>
        have hother : mark.isDigit = false := by rcases delimiter with rfl | rfl <;> decide
        have hdigits : ((digits ++ mark :: after).take 9).takeWhile Char.isDigit = digits := by
          rw [List.take_append, List.take_of_length_le size.2]
          cases hrest : (mark :: after).take (9 - digits.length) with
          | nil => rw [List.append_nil, List.takeWhile_eq_self_iff.mpr all]
          | cons c rest =>
              obtain ⟨hc, -⟩ := List.cons_prefix_cons.mp (hrest ▸ List.take_prefix _ (mark :: after))
              rw [hc, takeWhile_digits all hother]
        obtain ⟨c, more, rfl⟩ := List.exists_cons_of_length_pos size.1
        have hc : ¬ (c = '*' ∨ c = '-' ∨ c = '+') := by
          rintro (rfl | rfl | rfl) <;> exact absurd (all _ List.mem_cons_self) (by decide)
        rw [List.append_assoc, List.singleton_append]
        unfold LineKind.Marks ItemMark.ofLine?
        rw [List.cons_append] at hdigits ⊢
        dsimp only
        rw [if_neg hc, hdigits]
        simp [delimiter, hblank]

/-- A break is made of one mark and of blanks. -/
theorem row_of_thematicBreak {line : List Char} (h : LineKind.thematicBreak.Marks line) :
    ∃ c rest, line = c :: rest ∧ c ∈ ['*', '-', '_', '='] ∧ ∀ d ∈ line, d = c ∨ isTabOrSpace d = true := by
  cases line with
  | nil => cases h
  | cons c rest =>
      simp only [LineKind.Marks, isThematicBreak, Bool.and_eq_true, decide_eq_true_eq, List.all_eq_true,
        Bool.or_eq_true] at h
      exact ⟨c, rest, rfl, (by decide : ['*', '-', '_'] ⊆ ['*', '-', '_', '=']) h.1.1, h.2⟩

/-- So is an underline. -/
theorem row_of_underline {line : List Char} (h : LineKind.underline.Marks line) :
    ∃ c rest, line = c :: rest ∧ c ∈ ['*', '-', '_', '='] ∧ ∀ d ∈ line, d = c ∨ isTabOrSpace d = true := by
  obtain ⟨c, rest, hline, hc, hall⟩ := exists_underline h
  refine ⟨c, rest, hline, by rcases hc with rfl | rfl <;> decide, fun d hd => ?_⟩
  rw [← List.takeWhile_append_dropWhile (p := (· == c)) (l := line), List.mem_append] at hd
  rcases hd with hrow | hblank
  · have hmark := List.mem_takeWhile_imp hrow
    exact .inl (beq_iff_eq.mp hmark)
  · exact .inr (List.all_eq_true.mp hall d hblank)

/-! ## Texts escaped sparingly -/

/-- Escaping adds backslashes and takes nothing away. -/
theorem Escapes.sublist {text written : List Char} (h : Escapes text written) : text.Sublist written := by
  induction h with
  | nil => exact List.Sublist.refl _
  | plain other dead rest ih => exact ih.cons_cons _
  | escaped mark rest ih => exact (ih.cons_cons _).cons _

theorem Escapes.mem_iff {text written : List Char} (h : Escapes text written) {c : Char} (hc : c ≠ '\\') :
    c ∈ written ↔ c ∈ text := by
  refine ⟨fun hmem => ?_, fun hmem => h.sublist.mem hmem⟩
  induction h with
  | nil => exact hmem
  | plain other dead rest ih => exact List.mem_cons.mpr ((List.mem_cons.mp hmem).imp_right ih)
  | escaped mark rest ih =>
      have hbehind := (List.mem_cons.mp hmem).resolve_left hc
      exact List.mem_cons.mpr ((List.mem_cons.mp hbehind).imp_right ih)

/-- The characters that may begin inline syntax, the backslash and the bar. -/
def escapable : List Char := ['\\', '|', '*', '_', '`', '<', '~', '$', '[', ']', '&']

theorem mem_escapable_of_live {c : Char} {after : List Char} (h : c = '\\' ∨ Live c after) : c ∈ escapable := by
  have hsubset : '\\' :: liveMarks ⊆ escapable := by decide
  exact hsubset (mem_marks_of_live h)

theorem isAsciiMark_of_mem_escapable {c : Char} (h : c ∈ escapable) : isAsciiMark c = true := by
  have hall : escapable.all isAsciiMark = true := by decide
  exact List.all_eq_true.mp hall c h

theorem not_mem_escapable_of_isDigit {c : Char} (h : c.isDigit = true) : c ∉ escapable := by
  have hnone : escapable.any Char.isDigit = false := by decide
  exact fun hmem => List.any_eq_false.mp hnone c hmem h

theorem not_mem_escapable_of_isTabOrSpace {c : Char} (h : isTabOrSpace c = true) : c ∉ escapable := by
  have hnone : escapable.any isTabOrSpace = false := by decide
  exact fun hmem => List.any_eq_false.mp hnone c hmem h

/-- The written text has backslashes before some characters that can need them: before every backslash of the text and
before every mark that would be live. -/
inductive Sparing : List Char → List Char → Prop
  | nil : Sparing [] []
  | plain {c : Char} {text written : List Char} (other : c ≠ '\\') (dead : ¬ Live c written)
      (rest : Sparing text written) : Sparing (c :: text) (c :: written)
  | escaped {c : Char} {text written : List Char} (mark : c ∈ escapable) (rest : Sparing text written) :
      Sparing (c :: text) ('\\' :: c :: written)

theorem sparing_escapeInline (cs : List Char) : Sparing cs (escapeInline cs) := by
  induction cs with
  | nil => exact .nil
  | cons c cs ih =>
      by_cases h : c = '\\' ∨ Live c cs
      · rw [escapeInline_live h]
        exact .escaped (mem_escapable_of_live h) ih
      · rw [escapeInline_dead (not_or.mp h).1 (not_or.mp h).2]
        exact .plain (not_or.mp h).1 (mt Live.of_escapeInline (not_or.mp h).2) ih

namespace Sparing
variable {text written : List Char}

theorem escapes (h : Sparing text written) : Escapes text written := by
  induction h with
  | nil => exact .nil
  | plain other dead rest ih => exact .plain other dead ih
  | escaped mark rest ih => exact .escaped (isAsciiMark_of_mem_escapable mark) ih

/-- What needs no backslash is written as it stands. -/
theorem exists_written {front rest : List Char} (h : Sparing (front ++ rest) written)
    (hfront : ∀ c ∈ front, c ∉ escapable) : ∃ after, written = front ++ after ∧ Sparing rest after := by
  induction front generalizing written with
  | nil => exact ⟨written, rfl, h⟩
  | cons c front ih =>
      obtain ⟨hc, hfront⟩ := List.forall_mem_cons.mp hfront
      cases h with
      | plain other dead behind =>
          obtain ⟨after, rfl, hafter⟩ := ih behind hfront
          exact ⟨after, rfl, hafter⟩
      | escaped mark => exact absurd mark hc

/-- What is written without a backslash stands in the text. -/
theorem exists_text {front after : List Char} (h : Sparing text (front ++ after)) (hslash : '\\' ∉ front) :
    ∃ rest, text = front ++ rest ∧ Sparing rest after := by
  induction front generalizing text with
  | nil => exact ⟨text, rfl, h⟩
  | cons c front ih =>
      obtain ⟨hc, hfront⟩ := not_or.mp (mt List.mem_cons.mpr hslash)
      rw [List.cons_append] at h
      generalize hlong : front ++ after = long at h
      cases h with
      | plain other dead behind =>
          obtain ⟨rest, rfl, hrest⟩ := ih (hlong ▸ behind) hfront
          exact ⟨rest, rfl, hrest⟩
      | escaped => exact absurd rfl hc

theorem eq_of_not_mem_escapable (h : Sparing text written) (htext : ∀ c ∈ text, c ∉ escapable) : written = text := by
  rw [← List.append_nil text] at h
  obtain ⟨after, rfl, hafter⟩ := h.exists_written htext
  cases hafter
  exact List.append_nil text

/-- A backslash is no blank, and neither is what stands behind it. -/
theorem blankNext (h : Sparing text written) : blankNext written = blankNext text := by
  cases h with
  | nil => rfl
  | plain => rfl
  | escaped mark => exact (isTabOrSpace_of_isAsciiMark (isAsciiMark_of_mem_escapable mark)).symm

theorem blankWidth (h : Sparing text written) (column : Nat) :
    Line.blankWidth column written = Line.blankWidth column text := by
  induction h generalizing column with
  | nil => rfl
  | plain other dead rest ih =>
      unfold Line.blankWidth
      rw [ih, ih]
  | @escaped c text written mark rest ih =>
      have hother : ∀ blank, isTabOrSpace blank = true → c ≠ blank := by
        rintro blank hblank rfl
        exact not_mem_escapable_of_isTabOrSpace hblank mark
      unfold Line.blankWidth
      rw [if_neg (by decide), if_neg (by decide), if_neg (hother ' ' (by decide)), if_neg (hother '\t' (by decide))]

theorem dropWhile (h : Sparing text written) :
    Sparing (text.dropWhile isTabOrSpace) (written.dropWhile isTabOrSpace) := by
  induction h with
  | nil => exact .nil
  | @plain c text written other dead rest ih =>
      rw [List.dropWhile_cons, List.dropWhile_cons]
      split
      · exact ih
      · exact .plain other dead rest
  | @escaped c text written mark rest ih =>
      have hblank := isTabOrSpace_of_isAsciiMark (isAsciiMark_of_mem_escapable mark)
      rw [List.dropWhile_cons, List.dropWhile_cons, hblank, if_neg Bool.false_ne_true, if_neg (by decide)]
      exact .escaped mark rest

theorem isBlank (h : Sparing text written) :
    ({ rest := written } : Line).isBlank = ({ rest := text } : Line).isBlank := by
  have hdrop := h.dropWhile
  unfold Line.isBlank Line.text
  dsimp only
  generalize text.dropWhile isTabOrSpace = start, written.dropWhile isTabOrSpace = writtenStart at hdrop ⊢
  cases hdrop with
  | nil => rfl
  | plain => rfl
  | escaped => rfl

/-- Texts put together at a blank are escaped like their parts. -/
theorem append {text' written' : List Char} (h : Sparing text written) (h' : Sparing text' (' ' :: written')) :
    Sparing (text ++ text') (written ++ ' ' :: written') := by
  induction h with
  | nil => exact h'
  | plain other dead rest ih => exact .plain other (mt (Live.of_append (by decide)) dead) ih
  | escaped mark rest ih => exact .escaped mark ih

end Sparing

/-! ## Marks that go through -/

theorem BlockMark.not_mem_slash {kind : LineKind} {front : List Char} (h : BlockMark kind front) : '\\' ∉ front := by
  cases h with
  | hashes => exact fun hmem => absurd (List.eq_of_mem_replicate hmem) (by decide)
  | bullet mark => rcases mark with rfl | rfl | rfl <;> decide
  | number all size delimiter =>
      rw [List.mem_append, List.mem_singleton]
      rintro (hdigit | rfl)
      · exact absurd (all _ hdigit) (by decide)
      · exact absurd delimiter (by decide)

/-- No character of a block's mark is escaped, but for a star. -/
theorem BlockMark.not_mem_escapable {kind : LineKind} {front : List Char} (h : BlockMark kind front)
    (hstar : front.head? ≠ some '*') : ∀ c ∈ front, c ∉ escapable := by
  cases h with
  | hashes size =>
      intro c hc
      rw [List.eq_of_mem_replicate hc]
      decide
  | bullet mark =>
      refine List.forall_mem_singleton.mpr ?_
      rcases mark with rfl | rfl | rfl
      · exact absurd rfl hstar
      · decide
      · decide
  | number all size delimiter =>
      rw [List.forall_mem_append, List.forall_mem_singleton]
      refine ⟨fun c hc => not_mem_escapable_of_isDigit (all c hc), ?_⟩
      rcases delimiter with rfl | rfl <;> decide

/-- A line that begins with the text is not made one of the kind by inline syntax: indentation is none, and neither are
the marks of some blocks, but for stars and underscores. -/
def LineKind.IsBare (text : List Char) : LineKind → Prop
  | .indentedCode => True
  | .heading | .quote | .item | .underline | .thematicBreak => text.head? ≠ some '*' ∧ text.head? ≠ some '_'
  | .fence | .html | .definition | .footnote => False

namespace Sparing
variable {text written : List Char}

/-- No block begins with a star or an underscore that is escaped. -/
theorem head_of_marks (h : Sparing text written) {kind : LineKind} (hmarks : kind.Marks written) :
    text.head? ≠ some '*' ∧ text.head? ≠ some '_' := by
  have hother : ∀ c, (c = '*' ∨ c = '_') → text.head? ≠ some c := by
    intro c hc hhead
    obtain ⟨rest, rfl⟩ := List.head?_eq_some_iff.mp hhead
    cases h with
    | plain other dead => exact dead (.of_mem (by rcases hc with rfl | rfl <;> decide) _)
    | escaped => exact absurd (marks_cons (by decide) hmarks).2 (by decide)
  exact ⟨hother _ (.inl rfl), hother _ (.inr rfl)⟩

/-- The mark of a heading or of an item, but for a star, is written as it stands. -/
theorem blockMark_iff (h : Sparing text written) {kind : LineKind} (hstar : text.head? ≠ some '*') :
    (∃ front after, BlockMark kind front ∧ written = front ++ after ∧ Markdown.blankNext after = true) ↔
      ∃ front after, BlockMark kind front ∧ text = front ++ after ∧ Markdown.blankNext after = true := by
  constructor
  · rintro ⟨front, after, hfront, rfl, hblank⟩
    obtain ⟨rest, rfl, hrest⟩ := h.exists_text hfront.not_mem_slash
    exact ⟨front, rest, hfront, rfl, hrest.blankNext ▸ hblank⟩
  · rintro ⟨front, after, hfront, rfl, hblank⟩
    have hstarred : front.head? ≠ some '*' := fun hhead => hstar (by rw [List.head?_append, hhead, Option.some_or])
    obtain ⟨rest, rfl, hrest⟩ := h.exists_written (hfront.not_mem_escapable hstarred)
    exact ⟨front, rest, hfront, rfl, hrest.blankNext.trans hblank⟩

/-- A row of one mark and of blanks is written as it stands, but for stars and underscores. -/
theorem row_iff (h : Sparing text written) {kind : LineKind} (hbare : text.head? ≠ some '*' ∧ text.head? ≠ some '_')
    (hrow : ∀ {line}, kind.Marks line → ∃ c rest, line = c :: rest ∧ c ∈ ['*', '-', '_', '='] ∧
      ∀ d ∈ line, d = c ∨ isTabOrSpace d = true) : kind.Marks written ↔ kind.Marks text := by
  constructor
  · intro hmarks
    obtain ⟨c, -, -, hc, hall⟩ := hrow hmarks
    have hslash : '\\' ∉ written := by
      intro hmem
      rcases hall _ hmem with rfl | hblank
      · exact absurd hc (by decide)
      · exact absurd hblank (by decide)
    rwa [h.escapes.eq_of_not_mem hslash]
  · intro hmarks
    obtain ⟨c, rest, rfl, hc, hall⟩ := hrow hmarks
    have hdead : c ∉ escapable := by
      simp only [List.mem_cons, List.not_mem_nil, or_false] at hc
      rcases hc with rfl | rfl | rfl | rfl
      · exact absurd rfl hbare.1
      · decide
      · exact absurd rfl hbare.2
      · decide
    rwa [h.eq_of_not_mem_escapable]
    intro d hd
    rcases hall d hd with rfl | hblank
    · exact hdead
    · exact not_mem_escapable_of_isTabOrSpace hblank

/-- A quote's mark is written as it stands. -/
theorem quote_iff (h : Sparing text written) : LineKind.quote.Marks written ↔ LineKind.quote.Marks text := by
  constructor
  · intro hmarks
    obtain ⟨after, rfl⟩ := List.head?_eq_some_iff.mp hmarks
    have hmark : Sparing text (['>'] ++ after) := h
    obtain ⟨rest, rfl, -⟩ := hmark.exists_text (by decide)
    rfl
  · intro hmarks
    obtain ⟨rest, rfl⟩ := List.head?_eq_some_iff.mp hmarks
    have hmark : Sparing (['>'] ++ rest) written := h
    obtain ⟨after, rfl, -⟩ := hmark.exists_written (List.forall_mem_singleton.mpr (by decide))
    rfl

/-- A text is marked as before when it is escaped, unless inline syntax marks it. -/
theorem marks_iff (h : Sparing text written) (kind : LineKind) :
    kind.Marks written ↔ kind.Marks text ∧ kind.IsBare text := by
  have hmarked (hsame : text.head? ≠ some '*' ∧ text.head? ≠ some '_' → (kind.Marks written ↔ kind.Marks text)) :
      kind.Marks written ↔ kind.Marks text ∧ text.head? ≠ some '*' ∧ text.head? ≠ some '_' := by
    by_cases hbare : text.head? ≠ some '*' ∧ text.head? ≠ some '_'
    · rw [hsame hbare, and_iff_left hbare]
    · exact iff_of_false (fun hmarks => hbare (h.head_of_marks hmarks)) fun hboth => hbare hboth.2
  have hnever (hnone : ¬ kind.Marks written) : kind.Marks written ↔ kind.Marks text ∧ False :=
    iff_of_false hnone And.right
  cases kind with
  | heading => exact hmarked fun hbare => marks_heading_iff.trans ((h.blockMark_iff hbare.1).trans marks_heading_iff.symm)
  | item => exact hmarked fun hbare => marks_item_iff.trans ((h.blockMark_iff hbare.1).trans marks_item_iff.symm)
  | quote => exact hmarked fun _ => h.quote_iff
  | underline => exact hmarked fun hbare => h.row_iff hbare row_of_underline
  | thematicBreak => exact hmarked fun hbare => h.row_iff hbare row_of_thematicBreak
  | indentedCode => exact iff_of_false id And.left
  | fence => exact hnever (not_fence_of_escapes h.escapes)
  | html => exact hnever (not_html_of_escapes h.escapes)
  | definition => exact hnever (not_definition_of_escapes h.escapes)
  | footnote => exact hnever (not_footnote_of_escapes h.escapes)

/-- A line that is escaped is of the kinds of its text, unless inline syntax makes it so. -/
theorem holds_iff (h : Sparing text written) (kind : LineKind) :
    kind.Holds written ↔ kind.Holds text ∧ kind.IsBare (text.dropWhile isTabOrSpace) := by
  have hindent : ({ rest := written } : Line).indent = ({ rest := text } : Line).indent := h.blankWidth 0
  have hblank : ({ rest := written } : Line).isBlank = ({ rest := text } : Line).isBlank := h.isBlank
  unfold LineKind.Holds
  dsimp only
  rw [hindent, hblank]
  split
  · refine ⟨fun hcode => ⟨hcode, ?_⟩, And.left⟩
    rw [hcode.1]
    trivial
  · exact h.dropWhile.marks_iff kind

end Sparing

end Folio.Markdown
