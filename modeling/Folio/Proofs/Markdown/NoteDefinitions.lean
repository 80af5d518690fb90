import Folio.Proofs.Markdown.LeadingRule
import Folio.Proofs.Markdown.LineMarks
import Folio.Proofs.Markdown.TableCells

/-!
# The text of a footnote, read back

The definition of a footnote is its mark and its text, with the text's inline syntax escaped and nothing else. What
begins a block is left as it stands, and so are line feeds; a text without either is read back.

* `marks_escapeInline_iff` : the blocks that a text still begins when its inline syntax is escaped;
* `NoteRead`, `noteText_read_iff` : the definitions that are one line of text and are read back as the footnote's.
-/

namespace Folio.Markdown
open Text (trim)

/-! ## Marks behind the inline pass -/

/-- The text begins a heading, a quote, an item or a thematic break, with a mark that is no inline syntax. -/
def KeepsMark (text : List Char) : Prop :=
  text.head? ≠ some '*' ∧ text.head? ≠ some '_' ∧
    ∃ kind ∈ [LineKind.heading, .quote, .item, .thematicBreak], kind.Marks text

/-- A text begins a block when its inline syntax is escaped exactly when its mark is none; an underline is left out, for
it takes a line before it. -/
theorem marks_escapeInline_iff (text : List Char) :
    (∃ kind : LineKind, kind ≠ .underline ∧ kind.Marks (escapeInline text)) ↔ KeepsMark text := by
  have hspared := sparing_escapeInline text
  constructor
  · rintro ⟨kind, hkind, h⟩
    obtain ⟨hmarks, hbare⟩ := (hspared.marks_iff kind).mp h
    refine ⟨(hspared.head_of_marks h).1, (hspared.head_of_marks h).2, kind, ?_, hmarks⟩
    cases kind with
    | underline => exact absurd rfl hkind
    | indentedCode => exact hmarks.elim
    | heading | quote | item | thematicBreak => decide
    | fence | html | definition | footnote => exact hbare.elim
  · rintro ⟨hstar, hline, kind, hkind, h⟩
    simp only [List.mem_cons, List.not_mem_nil, or_false] at hkind
    have hbare : kind.IsBare text := by rcases hkind with rfl | rfl | rfl | rfl <;> exact ⟨hstar, hline⟩
    refine ⟨kind, ?_, (hspared.marks_iff kind).mpr ⟨h, hbare⟩⟩
    rcases hkind with rfl | rfl | rfl | rfl <;> decide

/-! ## Definitions -/

/-- The written text is one line with the mark of a definition and a body that begins no block and is read back as the
source. An underline begins none, for no line of the definition stands before it. -/
def NoteRead (reference written source : List Char) : Prop :=
  ∃ body, written = reference ++ ':' :: ' ' :: body ++ ['\n'] ∧ '\n' ∉ body ∧
    (∀ kind : LineKind, kind ≠ .underline → ¬ kind.Holds body) ∧ unescapeMarks body = source

theorem noteRead_iff {reference body source : List Char} :
    NoteRead reference (reference ++ ':' :: ' ' :: body ++ ['\n']) source ↔
      '\n' ∉ body ∧ (∀ kind : LineKind, kind ≠ .underline → ¬ kind.Holds body) ∧ unescapeMarks body = source := by
  constructor
  · rintro ⟨body', hwritten, h⟩
    obtain rfl : body = body' := by simpa using hwritten
    exact h
  · intro h
    exact ⟨body, rfl, h⟩

/-- A text without blanks at its edges is of the kinds that it is marked as. -/
theorem Trimmed.holds_iff {text : List Char} (h : Trimmed text) (kind : LineKind) :
    kind.Holds text ↔ kind.Marks text := by
  cases text with
  | nil => exact Iff.rfl
  | cons c rest =>
      refine LineKind.holds_cons ?_ kind
      by_contra hblank
      have hedge := h.head c rfl
      rw [isBlank_of_isTabOrSpace (Bool.of_not_eq_false hblank)] at hedge
      cases hedge

variable {doc : Document}

/-- **The definitions of footnotes that are read back.** The definition of a footnote is one line of text that is read
back as the text of the footnote, its line feeds as spaces, exactly when there are none and the text does not begin a
block. -/
theorem noteText_read_iff {id : String} {note : Footnote} (hnote : doc.footnote? id = some note) (index : Nat) :
    NoteRead (noteReference (index + 1)) (noteText doc index id)
        ((noteBody note).map fun c => if c = '\n' then ' ' else c) ↔
      '\n' ∉ noteBody note ∧ ¬ KeepsMark (noteBody note) := by
  have htext : noteText doc index id =
      noteReference (index + 1) ++ ':' :: ' ' :: escapeInline (noteBody note) ++ ['\n'] := by
    unfold noteText
    rw [hnote]
    rfl
  have hbody : Trimmed (escapeInline (noteBody note)) :=
    (escapes_escapeInline _).trimmed (trimmed_trim _)
  have hfeed : '\n' ∈ escapeInline (noteBody note) ↔ '\n' ∈ noteBody note :=
    ⟨fun hmem => (mem_escapeInline hmem).resolve_left (by decide), fun hmem => (escapes_escapeInline _).sublist.mem hmem⟩
  rw [htext, noteRead_iff, hfeed, (escapes_escapeInline _).unescapeMarks, ← marks_escapeInline_iff, not_exists]
  simp only [hbody.holds_iff, not_and]
  refine and_congr_right fun hnone => and_iff_left ?_
  refine Eq.symm ((List.map_congr_left fun c hc => ?_).trans (List.map_id _))
  exact if_neg (ne_of_mem_of_not_mem hc hnone)

/-- A footnote with one paragraph. -/
def noteOf (text : String) : Footnote := { id := "1", paragraphs := [{ runs := [{ text }] }] }

/-- A document with that footnote. -/
def notedDocument (text : String) : Document := { footnotes := [noteOf text] }

/-- Inline syntax at the beginning of a text and behind it is read back. -/
theorem noteText_read_iff_inline :
    (notedDocument "*a*, [b](c) # d ").footnote? "1" = some (noteOf "*a*, [b](c) # d ") ∧
      NoteRead "[^1]".toList (noteText (notedDocument "*a*, [b](c) # d ") 0 "1") "*a*, [b](c) # d".toList := by
  have hnote : (notedDocument "*a*, [b](c) # d ").footnote? "1" = some (noteOf "*a*, [b](c) # d ") := by decide
  exact ⟨hnote, (noteText_read_iff hnote 0).mpr ⟨by decide, fun hkeeps => hkeeps.1 rfl⟩⟩

/-- A line feed in a footnote ends its definition, and a dash in front of its text makes it a list. -/
theorem noteText_not_read :
    ¬ NoteRead "[^1]".toList (noteText (notedDocument "a\nb") 0 "1") "a b".toList ∧
      ¬ NoteRead "[^1]".toList (noteText (notedDocument "- a") 0 "1") "- a".toList := by
  have hfeed : noteText (notedDocument "a\nb") 0 "1" = "[^1]".toList ++ ':' :: ' ' :: "a\nb".toList ++ ['\n'] := by
    decide
  have hdash : noteText (notedDocument "- a") 0 "1" = "[^1]".toList ++ ':' :: ' ' :: "- a".toList ++ ['\n'] := by
    decide
  have hitem : LineKind.item.Holds "- a".toList :=
    (LineKind.holds_cons (by decide) .item).mpr (marks_item_iff.mpr ⟨['-'], " a".toList, .bullet (by decide), by decide⟩)
  rw [hfeed, hdash, noteRead_iff, noteRead_iff]
  exact ⟨fun h => h.1 (by decide), fun h => h.2.1 .item (by decide) hitem⟩

end Folio.Markdown
