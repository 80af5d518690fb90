import Folio.Markdown.Escape
import Folio.Markdown.Grammar.Entity
import Mathlib.Data.List.TakeWhile
import Mathlib.Tactic.Common

/-!
# Escaped text, read back

A backslash before a punctuation mark takes away what the mark would begin, and is no part of the text.

* `Live` : the marks that begin inline syntax where they stand;
* `Live.of_prefixes` : a mark is live in front of any text that begins with what the mark takes in;
* `Escapes text written` : `written` is `text` with backslashes before some of its marks, among them every live one;
* `escapes_escapeInline`, `Escapes.escapeLineStart` : what the two passes over a text do to a line;
* `lines_escapeBlockStarts`, `lines_escaped` : the passes go line by line;
* `escaped_read_back` : a text is read back from its escaped lines, and nothing in them is live.
-/

namespace Folio.Markdown
open Unicode (isAsciiMark)
open Text (lines lines_append lines_of_not_mem lines_unlines lineInduction)

/-! ## Characters of a class -/

/-- How far a text begins with characters of a class is settled before a character of another class. -/
theorem takeWhile_stop {p : Char → Bool} {c : Char} (hc : p c = false) (cs rest : List Char) :
    (cs ++ c :: rest).takeWhile p = cs.takeWhile p := by
  induction cs with
  | nil => exact List.takeWhile_cons_of_neg (by simp [hc])
  | cons d cs ih => rw [List.cons_append, List.takeWhile_cons, List.takeWhile_cons, ih]

theorem dropWhile_stop {p : Char → Bool} {c : Char} (hc : p c = false) (cs rest : List Char) :
    (cs ++ c :: rest).dropWhile p = cs.dropWhile p ++ c :: rest := by
  induction cs with
  | nil => exact List.dropWhile_cons_of_neg (by simp [hc])
  | cons d cs ih =>
      rw [List.cons_append, List.dropWhile_cons, List.dropWhile_cons, ih]
      split <;> rfl

/-! ## Live marks -/

/-- What may stand between an ampersand and a semicolon: a word, or a number sign with a word or nothing after it. -/
def EntityName (name : List Char) : Prop :=
  (name ≠ [] ∧ ∀ c ∈ name, c.isAlphanum = true) ∨
    ∃ number, name = '#' :: number ∧ ∀ c ∈ number, c.isAlphanum = true

/-- The character begins inline syntax in front of the text `after`: emphasis, code, strikethrough, a formula, HTML,
a footnote's mark, the second part of a link, or an entity. -/
def Live (c : Char) (after : List Char) : Prop :=
  c ∈ ['*', '_', '`', '<', '~', '$'] ∨ (c = '[' ∧ after.head? = some '^') ∨
    (c = ']' ∧ ∃ next ∈ ['(', '[', ':'], after.head? = some next) ∨
    (c = '&' ∧ ∃ name rest, after = name ++ ';' :: rest ∧ EntityName name)

theorem EntityName.chars {name : List Char} (h : EntityName name) : ∀ c ∈ name, c = '#' ∨ c.isAlphanum = true := by
  rcases h with ⟨-, hall⟩ | ⟨number, rfl, hall⟩
  · exact fun c hc => .inr (hall c hc)
  · exact List.forall_mem_cons.mpr ⟨.inl rfl, fun c hc => .inr (hall c hc)⟩

theorem EntityName.not_mem {name : List Char} (h : EntityName name) {c : Char} (hword : c.isAlphanum = false)
    (hsign : c ≠ '#') : c ∉ name := by
  intro hmem
  rcases h.chars c hmem with hc | hc
  · exact hsign hc
  · rw [hword] at hc
    cases hc

theorem looksLikeEntity_iff {cs : List Char} :
    looksLikeEntity cs = true ↔ ∃ name rest, cs = name ++ ';' :: rest ∧ EntityName name := by
  constructor
  · intro h
    unfold looksLikeEntity at h
    dsimp only at h
    split at h
    next rest hrest =>
      have hcs : cs = cs.takeWhile (· != ';') ++ ';' :: rest := by
        conv_lhs => rw [← List.take_append_drop (cs.takeWhile (· != ';')).length cs]
        rw [hrest, ← List.prefix_iff_eq_take.mp (List.takeWhile_prefix _)]
      refine ⟨_, rest, hcs, ?_⟩
      revert h
      cases cs.takeWhile (· != ';') with
      | nil => intro h; cases h
      | cons c more =>
          intro h
          rw [Bool.and_eq_true, Bool.or_eq_true, decide_eq_true_eq, List.all_eq_true] at h
          obtain ⟨hc | rfl, hmore⟩ := h
          · exact .inl ⟨List.cons_ne_nil _ _, List.forall_mem_cons.mpr ⟨hc, hmore⟩⟩
          · exact .inr ⟨more, rfl, hmore⟩
    next => cases h
  · rintro ⟨name, rest, rfl, hname⟩
    have hsemi : ';' ∉ name := hname.not_mem (by decide) (by decide)
    have htake : (name ++ ';' :: rest).takeWhile (· != ';') = name := by
      have hpass : ∀ c ∈ name, (c != ';') = true := fun c hc => bne_iff_ne.mpr (ne_of_mem_of_not_mem hc hsemi)
      rw [List.takeWhile_append_of_pos hpass, List.takeWhile_cons]
      simp
    unfold looksLikeEntity
    dsimp only
    rw [htake, List.drop_left]
    rcases hname with ⟨hne, hall⟩ | ⟨number, rfl, hall⟩
    · cases name with
      | nil => exact absurd rfl hne
      | cons c more =>
          obtain ⟨hc, hmore⟩ := List.forall_mem_cons.mp hall
          simpa [hc] using hmore
    · simpa using hall

/-- A backslash goes before the live marks and before backslashes. -/
theorem startsInline_iff {c : Char} {after : List Char} : startsInline c after = true ↔ c = '\\' ∨ Live c after := by
  unfold startsInline Live
  split
  next => simp
  next => simp
  next => simp
  next => simp
  next => simp
  next => simp
  next => simp
  next => simp
  next => simp [or_assoc]
  next => simp [looksLikeEntity_iff]
  next => simp_all

/-- The characters that are live in front of some text. -/
def liveMarks : List Char := ['*', '_', '`', '<', '~', '$', '[', ']', '&']

theorem Live.mem {c : Char} {after : List Char} (h : Live c after) : c ∈ liveMarks := by
  rcases h with h | ⟨rfl, -⟩ | ⟨rfl, -⟩ | ⟨rfl, -⟩
  · exact (by decide : ['*', '_', '`', '<', '~', '$'] ⊆ liveMarks) h
  · decide
  · decide
  · decide

theorem Live.of_mem {c : Char} (h : c ∈ ['*', '_', '`', '<', '~', '$']) (after : List Char) : Live c after := .inl h

/-- A character of what a live mark takes in behind it. -/
def IsTaken (c : Char) : Prop := c ∈ ['^', '(', '[', ':', ';', '#'] ∨ c.isAlphanum = true

instance (c : Char) : Decidable (IsTaken c) := inferInstanceAs (Decidable (_ ∨ _))

/-- A live mark stays live in front of any text that begins as its own does, as far as the mark can take it in. -/
theorem Live.of_prefixes {c : Char} {after after' : List Char}
    (keeps : ∀ taken, (∀ d ∈ taken, IsTaken d) → taken <+: after → taken <+: after') (h : Live c after) :
    Live c after' := by
  have head : ∀ d, IsTaken d → after.head? = some d → after'.head? = some d := by
    intro d hd hhead
    obtain ⟨rest, rfl⟩ := List.head?_eq_some_iff.mp hhead
    obtain ⟨rest', rfl⟩ := keeps [d] (List.forall_mem_singleton.mpr hd) ⟨rest, rfl⟩
    rfl
  rcases h with h | ⟨rfl, h⟩ | ⟨rfl, d, hd, h⟩ | ⟨rfl, name, rest, rfl, hname⟩
  · exact .inl h
  · exact .inr (.inl ⟨rfl, head _ (by decide) h⟩)
  · have hsubset : ['(', '[', ':'] ⊆ ['^', '(', '[', ':', ';', '#'] := by decide
    exact .inr (.inr (.inl ⟨rfl, d, hd, head d (.inl (hsubset hd)) h⟩))
  · have htaken : ∀ d ∈ name ++ [';'], IsTaken d := by
      intro d hd
      rcases List.mem_append.mp hd with hd | hd
      · refine (hname.chars d hd).imp_left fun hsign => ?_
        rw [hsign]
        decide
      · rw [List.mem_singleton.mp hd]
        exact .inl (by decide)
    obtain ⟨rest', rfl⟩ := keeps _ htaken ⟨rest, by simp⟩
    exact .inr (.inr (.inr ⟨rfl, name, rest', by simp, hname⟩))

/-- A live mark is live in front of any longer text. -/
theorem Live.append {c : Char} {after : List Char} (h : Live c after) (more : List Char) : Live c (after ++ more) :=
  h.of_prefixes fun _ _ htaken => htaken.trans (List.prefix_append after more)

/-- Whether a mark is live is settled in front of a character that no live mark takes in. -/
theorem Live.of_append {c d : Char} {after rest : List Char} (hd : ¬ IsTaken d) (h : Live c (after ++ d :: rest)) :
    Live c after := by
  refine h.of_prefixes fun taken hall htaken => ?_
  have hnot : d ∉ taken := mt (hall d) hd
  -- a beginning that went past the character would hold it
  have hbefore : after ++ [d] <+: after ++ d :: rest := ⟨rest, by simp⟩
  rcases List.prefix_or_prefix_of_prefix htaken hbefore with h | h
  · rcases List.prefix_concat_iff.mp h with rfl | h
    · exact absurd List.mem_concat_self hnot
    · exact h
  · exact absurd (h.subset List.mem_concat_self) hnot

/-- Whether a mark is live is settled on its line. -/
theorem Live.of_line {c : Char} {after rest : List Char} (h : Live c (after ++ '\n' :: rest)) : Live c after :=
  Live.of_append (by decide) h

/-! ## The inline pass -/

theorem escapeInline_live {c : Char} {rest : List Char} (h : c = '\\' ∨ Live c rest) :
    escapeInline (c :: rest) = '\\' :: c :: escapeInline rest := by
  rw [escapeInline, if_pos (startsInline_iff.mpr h), List.cons_append, List.singleton_append]

theorem escapeInline_dead {c : Char} {rest : List Char} (hc : c ≠ '\\') (h : ¬ Live c rest) :
    escapeInline (c :: rest) = c :: escapeInline rest := by
  rw [escapeInline, if_neg (mt startsInline_iff.mp (not_or.mpr ⟨hc, h⟩)), List.singleton_append]

theorem mem_marks_of_live {c : Char} {after : List Char} (h : c = '\\' ∨ Live c after) : c ∈ '\\' :: liveMarks :=
  List.mem_cons.mpr (h.imp_right Live.mem)

/-- Only ASCII punctuation is live. -/
theorem isAsciiMark_of_live {c : Char} {after : List Char} (h : c = '\\' ∨ Live c after) : isAsciiMark c = true := by
  have hall : ('\\' :: liveMarks).all isAsciiMark = true := by decide
  exact List.all_eq_true.mp hall c (mem_marks_of_live h)

/-- The inline pass changes nothing in a text without marks. -/
theorem escapeInline_of_not_mem {cs : List Char} (h : ∀ c ∈ cs, c ∉ '\\' :: liveMarks) : escapeInline cs = cs := by
  induction cs with
  | nil => rfl
  | cons c cs ih =>
      obtain ⟨hc, hcs⟩ := List.forall_mem_cons.mp h
      obtain ⟨hother, hmark⟩ := not_or.mp (mt List.mem_cons.mpr hc)
      rw [escapeInline_dead hother (mt Live.mem hmark), ih hcs]

theorem escapeInline_append_line (piece rest : List Char) :
    escapeInline (piece ++ '\n' :: rest) = escapeInline piece ++ '\n' :: escapeInline rest := by
  induction piece with
  | nil =>
      exact escapeInline_dead (by decide) (mt Live.mem (by decide))
  | cons c piece ih =>
      rw [List.cons_append]
      by_cases h : c = '\\' ∨ Live c piece
      · have hlong : c = '\\' ∨ Live c (piece ++ '\n' :: rest) := h.imp_right (·.append _)
        rw [escapeInline_live h, escapeInline_live hlong, ih, List.cons_append, List.cons_append]
      · obtain ⟨hc, hdead⟩ := not_or.mp h
        rw [escapeInline_dead hc hdead, escapeInline_dead hc (mt Live.of_line hdead), ih, List.cons_append]

/-- The inline pass adds backslashes and nothing else. -/
theorem mem_escapeInline {c : Char} {cs : List Char} (h : c ∈ escapeInline cs) : c = '\\' ∨ c ∈ cs := by
  induction cs with
  | nil => cases h
  | cons d cs ih =>
      by_cases hd : d = '\\' ∨ Live d cs
      · rw [escapeInline_live hd, List.mem_cons, List.mem_cons] at h
        rcases h with h | h | h
        · exact .inl h
        · exact .inr (h ▸ List.mem_cons_self)
        · exact (ih h).imp_right (List.mem_cons_of_mem _)
      · rw [escapeInline_dead (not_or.mp hd).1 (not_or.mp hd).2, List.mem_cons] at h
        rcases h with h | h
        · exact .inr (h ▸ List.mem_cons_self)
        · exact (ih h).imp_right (List.mem_cons_of_mem _)

/-- The inline pass goes line by line. -/
theorem lines_escapeInline (cs : List Char) : lines (escapeInline cs) = (lines cs).map escapeInline := by
  have noBreak : ∀ piece : List Char, '\n' ∉ piece → '\n' ∉ escapeInline piece := fun piece h hmem =>
    (mem_escapeInline hmem).elim (by decide) h
  induction cs using lineInduction with
  | last piece h => rw [lines_of_not_mem h, lines_of_not_mem (noBreak piece h), List.map_singleton]
  | more piece rest h ih =>
      rw [escapeInline_append_line, lines_append h, lines_append (noBreak piece h), ih, List.map_cons]

/-! ## Text with backslashes in it -/

/-- `written` is the text with backslashes before some of its punctuation marks: before every backslash of the text
and before every mark that would be live. -/
inductive Escapes : List Char → List Char → Prop
  | nil : Escapes [] []
  | plain {c : Char} {text written : List Char} (other : c ≠ '\\') (dead : ¬ Live c written)
      (rest : Escapes text written) : Escapes (c :: text) (c :: written)
  | escaped {c : Char} {text written : List Char} (mark : isAsciiMark c = true) (rest : Escapes text written) :
      Escapes (c :: text) ('\\' :: c :: written)

/-- What is read at the beginning of escaped text without a backslash is the text's own. -/
theorem escapeInline_eq_cons {c : Char} {cs after : List Char} (h : escapeInline cs = c :: after) (hc : c ≠ '\\') :
    ∃ rest, cs = c :: rest ∧ escapeInline rest = after := by
  cases cs with
  | nil => cases h
  | cons d cs =>
      by_cases hd : d = '\\' ∨ Live d cs
      · rw [escapeInline_live hd] at h
        exact absurd (List.cons.inj h).1.symm hc
      · rw [escapeInline_dead (not_or.mp hd).1 (not_or.mp hd).2] at h
        obtain ⟨rfl, rfl⟩ := List.cons.inj h
        exact ⟨cs, rfl, rfl⟩

theorem escapeInline_eq_append {name after : List Char} (hname : '\\' ∉ name) {cs : List Char}
    (h : escapeInline cs = name ++ after) : ∃ rest, cs = name ++ rest ∧ escapeInline rest = after := by
  induction name generalizing cs with
  | nil => exact ⟨cs, rfl, h⟩
  | cons c name ih =>
      obtain ⟨hc, hname⟩ := not_or.mp (mt List.mem_cons.mpr hname)
      obtain ⟨rest, rfl, hrest⟩ := escapeInline_eq_cons h (Ne.symm hc)
      obtain ⟨more, rfl, hmore⟩ := ih hname hrest
      exact ⟨more, rfl, hmore⟩

theorem IsTaken.ne_backslash {c : Char} (h : IsTaken c) : c ≠ '\\' := by
  rintro rfl
  exact absurd h (by decide)

/-- The backslashes of the text behind a mark do not bring it to life. -/
theorem Live.of_escapeInline {c : Char} {cs : List Char} (h : Live c (escapeInline cs)) : Live c cs := by
  refine h.of_prefixes fun taken hall ⟨after, hafter⟩ => ?_
  obtain ⟨rest, hcs, -⟩ := escapeInline_eq_append (fun hmem => (hall _ hmem).ne_backslash rfl) hafter.symm
  exact ⟨rest, hcs.symm⟩

theorem escapes_escapeInline (cs : List Char) : Escapes cs (escapeInline cs) := by
  induction cs with
  | nil => exact .nil
  | cons c cs ih =>
      by_cases h : c = '\\' ∨ Live c cs
      · rw [escapeInline_live h]
        exact .escaped (isAsciiMark_of_live h) ih
      · obtain ⟨hc, hdead⟩ := not_or.mp h
        rw [escapeInline_dead hc hdead]
        exact .plain hc (mt Live.of_escapeInline hdead) ih

/-- What an escaped text begins with is not live. -/
theorem Escapes.head_not_live {text rest : List Char} {c : Char} (h : Escapes text (c :: rest)) : ¬ Live c rest := by
  cases h with
  | plain other dead _ => exact dead
  | escaped mark _ => exact mt Live.mem (by decide)

/-- A backslash before its first mark keeps a text escaped. -/
theorem Escapes.escape_head {c : Char} {text written : List Char} (h : Escapes text (c :: written)) (hc : c ≠ '\\')
    (mark : isAsciiMark c = true) : Escapes text ('\\' :: c :: written) := by
  cases h with
  | plain other dead rest => exact .escaped mark rest
  | escaped => exact absurd rfl hc

/-- A backslash behind digits keeps a text escaped. -/
theorem Escapes.escape_after_digits {digits : List Char} {c : Char} {text written : List Char}
    (hdigits : ∀ d ∈ digits, d.isDigit = true) (hc : c ≠ '\\') (mark : isAsciiMark c = true)
    (h : Escapes text (digits ++ c :: written)) : Escapes text (digits ++ '\\' :: c :: written) := by
  induction digits generalizing text with
  | nil => exact h.escape_head hc mark
  | cons d digits ih =>
      obtain ⟨hd, hdigits⟩ := List.forall_mem_cons.mp hdigits
      have hmark : ¬ isAsciiMark d = true := by
        unfold isAsciiMark
        simp [Char.isAlphanum, hd]
      rw [List.cons_append] at h ⊢
      generalize hlong : digits ++ c :: written = long at h
      cases h with
      | plain other dead rest =>
          subst hlong
          exact .plain other (fun hlive => hmark (isAsciiMark_of_live (.inr hlive))) (ih hdigits rest)
      | escaped => exact absurd hd (by decide)

theorem not_isSpaceOrTab_of_isAsciiMark {c : Char} (h : isAsciiMark c = true) : isSpaceOrTab c = false := by
  unfold isSpaceOrTab
  rw [Bool.or_eq_false_iff, decide_eq_false_iff_not, decide_eq_false_iff_not]
  constructor
  · rintro rfl
    exact absurd h (by decide)
  · rintro rfl
    exact absurd h (by decide)

/-- A line loses the same blanks at its beginning before and after it is escaped. -/
theorem Escapes.dropWhile {text written : List Char} (h : Escapes text written) :
    Escapes (text.dropWhile isSpaceOrTab) (written.dropWhile isSpaceOrTab) := by
  induction h with
  | nil => exact .nil
  | @plain c text written other dead rest ih =>
      rw [List.dropWhile_cons, List.dropWhile_cons]
      by_cases hblank : isSpaceOrTab c = true
      · rw [if_pos hblank, if_pos hblank]
        exact ih
      · rw [if_neg hblank, if_neg hblank]
        exact .plain other dead rest
  | @escaped c text written mark rest ih =>
      have hblank := not_isSpaceOrTab_of_isAsciiMark mark
      have hslash : isSpaceOrTab '\\' = false := by decide
      rw [List.dropWhile_cons, List.dropWhile_cons, hblank, hslash]
      exact .escaped mark rest

/-! ## The pass over the beginnings of lines -/

/-- The marks that a line may need a backslash before. -/
theorem mark_of_begins {line : List Char} (h : (startsWithMarker line || isUnderline line) = true) :
    ∃ c rest, line = c :: rest ∧ c ∈ ['#', '>', '-', '+', '*', '='] := by
  cases line with
  | nil => cases h
  | cons c rest =>
      refine ⟨c, rest, rfl, ?_⟩
      rw [Bool.or_eq_true] at h
      rcases h with h | h
      · unfold startsWithMarker at h
        split at h <;> simp_all
      · simp only [isUnderline, Bool.and_eq_true, Bool.or_eq_true, decide_eq_true_eq] at h
        rcases h.1 with rfl | rfl <;> simp

/-- The number of an ordered item, with a mark behind it. -/
theorem orderedMarker?_eq_some {line digits rest : List Char} (h : orderedMarker? line = some (digits, rest)) :
    line = digits ++ rest ∧ (∀ d ∈ digits, d.isDigit = true) ∧ (1 ≤ digits.length ∧ digits.length ≤ 9) ∧
      ∃ mark after, rest = mark :: after ∧ (mark = '.' ∨ mark = ')') := by
  unfold orderedMarker? at h
  dsimp only at h
  have hline : line = line.takeWhile Char.isDigit ++ line.drop (line.takeWhile Char.isDigit).length := by
    conv_lhs => rw [← List.take_append_drop (line.takeWhile Char.isDigit).length line]
    rw [← List.prefix_iff_eq_take.mp (List.takeWhile_prefix _)]
  have hdigits : ∀ d ∈ line.takeWhile Char.isDigit, d.isDigit = true := fun d hd => List.mem_takeWhile_imp hd
  split at h
  next hsize =>
    split at h
    next after hrest =>
      split at h
      next hblank =>
        obtain ⟨rfl, rfl⟩ := Prod.mk.inj (Option.some.inj h)
        exact ⟨hline, hdigits, hsize, '.', after, hrest, .inl rfl⟩
      next => cases h
    next after hrest =>
      split at h
      next hblank =>
        obtain ⟨rfl, rfl⟩ := Prod.mk.inj (Option.some.inj h)
        exact ⟨hline, hdigits, hsize, ')', after, hrest, .inr rfl⟩
      next => cases h
    next => cases h
  next => cases h

/-- What can become of a line without indentation. -/
inductive StartEscape (line : List Char) : List Char → Prop
  | marked (begins : (startsWithMarker line || isUnderline line) = true) : StartEscape line ('\\' :: line)
  | numbered {digits rest : List Char} (number : orderedMarker? line = some (digits, rest)) :
      StartEscape line (digits ++ '\\' :: rest)
  | kept (marker : startsWithMarker line = false) (underline : isUnderline line = false)
      (number : orderedMarker? line = none) : StartEscape line line

theorem startEscape (line : List Char) : StartEscape (line.dropWhile isSpaceOrTab) (escapeLineStart line) := by
  unfold escapeLineStart
  dsimp only
  split
  next hbegins => exact .marked hbegins
  next hbegins =>
    obtain ⟨hmarker, hunderline⟩ := Bool.or_eq_false_iff.mp (eq_false_of_ne_true hbegins)
    split
    next digits rest hnumber => exact .numbered hnumber
    next hnumber => exact .kept hmarker hunderline hnumber

/-- The pass over the beginning of a line keeps it escaped, without its indentation. -/
theorem Escapes.escapeLineStart {text written : List Char} (h : Escapes text written) :
    Escapes (text.dropWhile isSpaceOrTab) (escapeLineStart written) := by
  have hline := h.dropWhile
  have hstart := startEscape written
  generalize written.dropWhile isSpaceOrTab = line at hline hstart
  generalize Markdown.escapeLineStart written = result at hstart ⊢
  cases hstart with
  | marked begins =>
      obtain ⟨c, rest, rfl, hc⟩ := mark_of_begins begins
      refine hline.escape_head ?_ ?_ <;> (revert hc; simp only [List.mem_cons, List.not_mem_nil, or_false])
      · rintro (rfl | rfl | rfl | rfl | rfl | rfl) <;> decide
      · rintro (rfl | rfl | rfl | rfl | rfl | rfl) <;> decide
  | numbered number =>
      obtain ⟨rfl, hdigits, -, mark, after, rfl, hdot⟩ := orderedMarker?_eq_some number
      refine hline.escape_after_digits hdigits ?_ ?_
      · rcases hdot with rfl | rfl <;> decide
      · rcases hdot with rfl | rfl <;> decide
  | kept => exact hline

theorem mem_escapeLineStart {c : Char} {line : List Char} (h : c ∈ escapeLineStart line) : c = '\\' ∨ c ∈ line := by
  have hdrop : ∀ d ∈ line.dropWhile isSpaceOrTab, d ∈ line := fun d hd => (List.dropWhile_sublist _).mem hd
  have hstart := startEscape line
  generalize line.dropWhile isSpaceOrTab = start at hdrop hstart
  generalize escapeLineStart line = written at h hstart
  cases hstart with
  | marked => exact (List.mem_cons.mp h).imp_right (hdrop c)
  | numbered number =>
      obtain ⟨rfl, -⟩ := orderedMarker?_eq_some number
      rw [List.mem_append, List.mem_cons] at h
      rcases h with h | h | h
      · exact .inr (hdrop c (List.mem_append_left _ h))
      · exact .inl h
      · exact .inr (hdrop c (List.mem_append_right _ h))
  | kept => exact .inr (hdrop c h)

/-- The pass over the beginnings of lines goes line by line. -/
theorem lines_escapeBlockStarts (cs : List Char) : lines (escapeBlockStarts cs) = (lines cs).map escapeLineStart := by
  unfold escapeBlockStarts
  apply lines_unlines
  · intro hnil
    exact Text.splitWhen_ne_nil _ _ (List.map_eq_nil_iff.mp hnil)
  · intro written hwritten
    obtain ⟨line, hline, rfl⟩ := List.mem_map.mp hwritten
    have hbreak : '\n' ∉ line := Text.not_mem_of_mem_splitOn hline
    exact fun hmem => (mem_escapeLineStart hmem).elim (by decide) hbreak

/-- The lines of an escaped text are the text's lines, escaped one by one. -/
theorem lines_escaped (cs : List Char) :
    lines (escapeBlockStarts (escapeInline cs)) = (lines cs).map fun line => escapeLineStart (escapeInline line) := by
  rw [lines_escapeBlockStarts, lines_escapeInline, List.map_map]
  rfl

/-- An escaped line stands for the line without its indentation. -/
theorem escapes_line (line : List Char) :
    Escapes (line.dropWhile isSpaceOrTab) (escapeLineStart (escapeInline line)) :=
  (escapes_escapeInline line).escapeLineStart

/-! ## Reading -/

/-- The characters of a text that no backslash takes the meaning of, each with the text after it. -/
def bare : List Char → List (Char × List Char)
  | '\\' :: c :: rest => if isAsciiMark c then bare rest else ('\\', c :: rest) :: bare (c :: rest)
  | c :: rest => (c, rest) :: bare rest
  | [] => []

theorem unescapeMarks_cons {c : Char} (hc : c ≠ '\\') (rest : List Char) :
    unescapeMarks (c :: rest) = c :: unescapeMarks rest := by
  conv_lhs => unfold unescapeMarks
  split <;> simp_all

theorem bare_cons {c : Char} (hc : c ≠ '\\') (rest : List Char) : bare (c :: rest) = (c, rest) :: bare rest := by
  conv_lhs => unfold bare
  split <;> simp_all

theorem Escapes.unescapeMarks {text written : List Char} (h : Escapes text written) :
    unescapeMarks written = text := by
  induction h with
  | nil => rfl
  | plain other dead rest ih => rw [unescapeMarks_cons other, ih]
  | escaped mark rest ih => rw [Markdown.unescapeMarks, if_pos mark, ih]

theorem Escapes.not_live {text written : List Char} (h : Escapes text written) {c : Char} {after : List Char}
    (hbare : (c, after) ∈ bare written) : ¬ Live c after := by
  induction h with
  | nil => cases hbare
  | plain other dead rest ih =>
      rw [bare_cons other, List.mem_cons] at hbare
      rcases hbare with heq | hbare
      · obtain ⟨rfl, rfl⟩ := Prod.mk.inj heq
        exact dead
      · exact ih hbare
  | escaped mark rest ih =>
      rw [bare, if_pos mark] at hbare
      exact ih hbare

/-- A text has as many lines as it has when it is escaped; from each escaped line the text's own is read back, without
its indentation, and no mark in it that is not escaped begins inline syntax. -/
theorem escaped_read_back (text : List Char) :
    let written := lines (escapeBlockStarts (escapeInline text))
    written.length = (lines text).length ∧
      written.map unescapeMarks = (lines text).map (·.dropWhile isSpaceOrTab) ∧
      ∀ line ∈ written, ∀ c after, (c, after) ∈ bare line → ¬ Live c after := by
  intro written
  have hlines : written = (lines text).map fun line => escapeLineStart (escapeInline line) := lines_escaped text
  rw [hlines]
  refine ⟨List.length_map _, ?_, ?_⟩
  · rw [List.map_map]
    exact List.map_congr_left fun line _ => (escapes_line line).unescapeMarks
  · intro line hline c after hbare
    obtain ⟨source, -, rfl⟩ := List.mem_map.mp hline
    exact (escapes_line source).not_live hbare

example : escapeBlockStarts (escapeInline "  - [a](b)\n1. &amp; \\".toList) =
    "\\- [a\\](b)\n1\\. \\&amp; \\\\".toList := by decide

end Folio.Markdown
