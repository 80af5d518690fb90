import Folio.Markdown.RunText
import Folio.Proofs.Markdown.Escaping
import Folio.Proofs.Markdown.Tokens

/-!
# The markers of neighbouring runs

Runs in a row are written one behind the other, each between its own markers, with white space at its edges outside of
them. The marker that closes one run and the marker that opens the next are one row to a reader if they are of one mark
and nothing is between them.

* `Touches` : the markers of two runs meet so;
* `reads_written` : a run is read as its text between its own markers, unless the last of them goes on behind it;
* `inlineText_tokens_iff` : runs in a row are read as what they are exactly when no two neighbours touch.
-/

namespace Folio.Markdown
open Unicode (isAsciiMark isBlank)
open Text (Edges)

/-! ## What a run is to be read as -/

/-- The text with its line feeds made hard breaks. -/
def breakLines (cs : List Char) : List Char := cs.flatMap fun c => if c = '\n' then hardBreak else [c]

/-- Text that stands for itself. -/
def textTokens (cs : List Char) : List Token := (breakLines cs).map .text

/-- Code with the spaces that keep the backticks at its edges apart from those around it. -/
def padded (code : List Char) : List Char :=
  let pad := if code.head? = some '`' ∨ code.getLast? = some '`' then [' '] else []
  pad ++ code ++ pad

/-- A text between two rows of a mark. -/
def wrap (mark : Char) (k : Nat) (inner : List Char) : List Char :=
  List.replicate k mark ++ inner ++ List.replicate k mark

/-- The tokens of a text between two rows of a mark. -/
def wrapTokens (mark : Char) (k : Nat) (inner : List Token) : List Token :=
  if k = 0 then inner else .row mark k :: (inner ++ [.row mark k])

/-- The mark at the edges of a text between two rows of a mark. -/
def wrapMark (mark : Char) (k : Nat) (inner : Option Char) : Option Char := if k = 0 then inner else some mark

/-- The length of the rows around bold and italic text. -/
def emphasisLength (properties : RunProperties) : Nat :=
  (if properties.isBold then 2 else 0) + (if properties.isItalic then 1 else 0)

/-- The length of the rows around text that is struck through. -/
def strikeLength (properties : RunProperties) : Nat := if properties.isStrike then 2 else 0

section Settings
variable (settings : ExportSettings)

/-- The tokens of a text that neither begins nor ends blank, in some formatting. -/
def coreTokens (properties : RunProperties) (core : List Char) : List Token :=
  wrapTokens '~' (strikeLength properties) <| wrapTokens settings.emphasisMarker (emphasisLength properties) <|
    if isCode settings properties then [.code (longestBackticks 0 0 core + 1) (breakLines (padded core))]
    else textTokens core

/-- The tokens of a run: its text, with the markers of its formatting between its blank edges. -/
def runTokens (run : Run) : List Token :=
  let edges := Edges.ofText run.text.toList
  if edges.core.isEmpty then textTokens run.text.toList
  else textTokens edges.lead ++ coreTokens settings run.properties edges.core ++ textTokens edges.trail

/-- The mark of the outermost markers around text in some formatting. -/
def outerMark? (properties : RunProperties) : Option Char :=
  wrapMark '~' (strikeLength properties) <| wrapMark settings.emphasisMarker (emphasisLength properties) <|
    if isCode settings properties then some '`' else none

/-- The mark that a run begins with, unless it begins blank. -/
def opens? (run : Run) : Option Char :=
  if run.text.toList.head?.all isBlank then none else outerMark? settings run.properties

/-- The mark that a run ends with, unless it ends blank. -/
def closes? (run : Run) : Option Char :=
  if run.text.toList.getLast?.all isBlank then none else outerMark? settings run.properties

/-- The run before ends with a mark, and the run behind begins with the same. -/
def Touches (before behind : Run) : Prop :=
  closes? settings before ≠ none ∧ opens? settings behind = closes? settings before

instance (before behind : Run) : Decidable (Touches settings before behind) :=
  inferInstanceAs (Decidable (closes? settings before ≠ none ∧ opens? settings behind = closes? settings before))

/-- The text of a run as it is written, with its line feeds made hard breaks. -/
def written (run : Run) : List Char := breakLines (formatRun settings run)

end Settings

/-! ## Line breaks -/

theorem breakLines_append (cs rest : List Char) : breakLines (cs ++ rest) = breakLines cs ++ breakLines rest :=
  List.flatMap_append

theorem breakLines_cons {c : Char} (hc : c ≠ '\n') (cs : List Char) : breakLines (c :: cs) = c :: breakLines cs := by
  unfold breakLines
  rw [List.flatMap_cons, if_neg hc, List.singleton_append]

theorem breakLines_of_not_mem {cs : List Char} (h : '\n' ∉ cs) : breakLines cs = cs := by
  induction cs with
  | nil => rfl
  | cons c cs ih =>
      obtain ⟨hc, hcs⟩ := not_or.mp (mt List.mem_cons.mpr h)
      rw [breakLines_cons (Ne.symm hc), ih hcs]

theorem breakLines_row {mark : Char} (hmark : mark ∈ rowMarks) (k : Nat) :
    breakLines (List.replicate k mark) = List.replicate k mark := by
  apply breakLines_of_not_mem
  intro h
  rw [← List.eq_of_mem_replicate h] at hmark
  exact absurd hmark (by decide)

/-- A text with broken lines ends with the same character. -/
theorem getLast?_breakLines (cs : List Char) : (breakLines cs).getLast? = cs.getLast? := by
  rcases List.eq_nil_or_concat cs with rfl | ⟨front, c, rfl⟩
  · rfl
  · rw [List.concat_eq_append, breakLines_append, List.getLast?_append, List.getLast?_append]
    by_cases hc : c = '\n'
    · subst hc
      rfl
    · rw [breakLines_cons hc]
      rfl

/-- A text with broken lines begins with the same character, or with a blank as it did before. -/
theorem head?_breakLines {c : Char} {cs : List Char} (h : cs.head? = some c) :
    ∃ d, (breakLines cs).head? = some d ∧ (d = c ∨ isBlank c = true ∧ isBlank d = true) := by
  obtain ⟨rest, rfl⟩ := List.head?_eq_some_iff.mp h
  by_cases hc : c = '\n'
  · subst hc
    exact ⟨' ', rfl, .inr (by decide)⟩
  · rw [breakLines_cons hc]
    exact ⟨c, rfl, .inl rfl⟩

/-- Breaking lines makes no row of backticks longer. -/
theorem longestBackticks_breakLines (longest current : Nat) (cs : List Char) :
    longestBackticks longest current (breakLines cs) = longestBackticks longest current cs := by
  induction cs generalizing longest current with
  | nil => rfl
  | cons c cs ih =>
      by_cases hc : c = '\n'
      · subst hc
        exact ih longest 0
      · rw [breakLines_cons hc, longestBackticks, longestBackticks, ih, ih]

/-! ## Marks and blanks -/

theorem not_rowMark_of_isBlank {c : Char} (hblank : isBlank c = true) : c ∉ rowMarks := by
  intro h
  simp only [rowMarks, List.mem_cons, List.not_mem_nil, or_false] at h
  rcases h with rfl | rfl | rfl | rfl <;> exact absurd hblank (by decide)

theorem live_of_rowMark {mark : Char} (h : mark ∈ rowMarks) (after : List Char) : Live mark after := by
  refine Live.of_mem ?_ after
  simp only [rowMarks, List.mem_cons, List.not_mem_nil, or_false] at h
  rcases h with rfl | rfl | rfl | rfl <;> decide

theorem plain_of_isBlank {c : Char} (hblank : isBlank c = true) : c ≠ '\\' ∧ c ∉ rowMarks := by
  refine ⟨?_, not_rowMark_of_isBlank hblank⟩
  rintro rfl
  exact absurd hblank (by decide)

theorem blank_hardBreak : ∀ c ∈ hardBreak, isBlank c = true := by
  rw [← List.all_eq_true]
  decide

/-- Text without marks is read as it is. -/
theorem scan_plain {cs : List Char} (h : ∀ c ∈ cs, c ≠ '\\' ∧ c ∉ rowMarks) (rest : List Char) :
    scan 0 (cs ++ rest) = cs.map .text ++ scan 0 rest := by
  induction cs with
  | nil => rfl
  | cons c cs ih =>
      obtain ⟨⟨hslash, hc⟩, hcs⟩ := List.forall_mem_cons.mp h
      rw [List.cons_append, scan_text hslash hc, ih hcs, List.map_cons, List.cons_append]

/-- Escaped text is read as the text. -/
theorem reads_escaped {text written : List Char} (h : Escapes text written) :
    Reads none (breakLines written) (textTokens text) := by
  have hcons : ∀ c text, c ≠ '\n' → textTokens (c :: text) = .text c :: textTokens text := by
    intro c text hc
    unfold textTokens
    rw [breakLines_cons hc, List.map_cons]
  apply Reads.of_scan
  intro rest
  induction h with
  | nil => rfl
  | @plain c text written other dead _ ih =>
      have hrow : c ∉ rowMarks := fun hmem => dead (live_of_rowMark hmem written)
      by_cases hc : c = '\n'
      · subst hc
        change scan 0 (hardBreak ++ (breakLines written ++ rest)) = _
        rw [scan_plain fun d hd => plain_of_isBlank (blank_hardBreak d hd), ih]
        rfl
      · rw [breakLines_cons hc, hcons c text hc, List.cons_append, scan_text other hrow, ih, List.cons_append]
  | @escaped c text written mark _ ih =>
      have hc : c ≠ '\n' := by
        rintro rfl
        exact absurd mark (by decide)
      rw [breakLines_cons (by decide), breakLines_cons hc, hcons c text hc, List.cons_append, List.cons_append,
        scan_escaped mark, ih, List.cons_append]

/-- White space is read as it is. -/
theorem reads_blank {cs : List Char} (h : ∀ c ∈ cs, isBlank c = true) : Reads none (breakLines cs) (textTokens cs) := by
  apply Reads.of_scan
  intro rest
  apply scan_plain
  intro c hc
  obtain ⟨d, hd, hmem⟩ := List.mem_flatMap.mp hc
  split at hmem
  · exact plain_of_isBlank (blank_hardBreak c hmem)
  · rw [List.mem_singleton.mp hmem]
    exact plain_of_isBlank (h d hd)

/-! ## Code -/

theorem codeSpan_eq (code : List Char) :
    codeSpan code = wrap '`' (longestBackticks 0 0 code + 1) (padded code) := by
  unfold codeSpan wrap padded
  dsimp only
  rw [← List.append_assoc, ← List.append_assoc]

theorem mem_codeSpan {code : List Char} {c : Char} (h : c ∈ codeSpan code) : c ∈ code ∨ c ∈ ['`', ' '] := by
  have hpad : ∀ b : Prop, [Decidable b] → c ∈ (if b then [' '] else []) → c ∈ ['`', ' '] := by
    intro b _ hmem
    split at hmem
    · exact List.mem_cons_of_mem _ hmem
    · cases hmem
  rw [codeSpan_eq, wrap, padded] at h
  simp only [List.mem_append, List.mem_replicate] at h
  rcases h with (h | (h | h) | h) | h
  · exact .inr (by simp [h.2])
  · exact .inr (hpad _ h)
  · exact .inl h
  · exact .inr (hpad _ h)
  · exact .inr (by simp [h.2])

theorem longestBackticks_blank_end (longest current : Nat) (cs : List Char) :
    longestBackticks longest current (cs ++ [' ']) = longestBackticks longest current cs := by
  induction cs generalizing longest current with
  | nil => rfl
  | cons c cs ih => rw [List.cons_append, longestBackticks, longestBackticks, ih, ih]

theorem longestBackticks_padded (code : List Char) :
    longestBackticks 0 0 (padded code) = longestBackticks 0 0 code := by
  unfold padded
  dsimp only
  split
  · exact longestBackticks_blank_end 0 0 code
  · rw [List.nil_append, List.append_nil]

/-- Code with its spaces has no backtick at its edges. -/
theorem edges_padded {code : List Char} (hne : code ≠ []) :
    (∃ c, (padded code).head? = some c ∧ c ≠ '`') ∧ (padded code).getLast? ≠ some '`' := by
  unfold padded
  dsimp only
  split
  next =>
    refine ⟨⟨' ', rfl, by decide⟩, ?_⟩
    rw [List.getLast?_append]
    exact fun h => absurd (Option.some.inj h) (by decide)
  next hedges =>
    obtain ⟨hhead, hlast⟩ := not_or.mp hedges
    obtain ⟨c, rest, rfl⟩ := List.exists_cons_of_ne_nil hne
    rw [List.nil_append, List.append_nil]
    exact ⟨⟨c, rfl, fun h => hhead (congrArg some h)⟩, hlast⟩

theorem reads_codeSpan {code : List Char} (hne : code ≠ []) :
    Reads (some '`') (breakLines (codeSpan code))
      [.code (longestBackticks 0 0 code + 1) (breakLines (padded code))] := by
  obtain ⟨⟨c, hhead, htick⟩, hlast⟩ := edges_padded hne
  rw [codeSpan_eq, wrap, breakLines_append, breakLines_append, breakLines_row (by decide)]
  apply reads_code
  · rw [longestBackticks_breakLines, longestBackticks_padded]
    exact Nat.lt_succ_self _
  · obtain ⟨d, hd, rfl | ⟨-, hblank⟩⟩ := head?_breakLines hhead
    · exact ⟨d, hd, htick⟩
    · refine ⟨d, hd, ?_⟩
      rintro rfl
      exact absurd hblank (by decide)
  · rw [getLast?_breakLines]
    exact hlast

/-! ## Markers -/

/-- The text begins with the mark, and with no mark of a row if there is none. -/
def Begins (mark : Option Char) (text : List Char) : Prop :=
  ∃ c, text.head? = some c ∧ ∀ other ∈ rowMarks, c = other ↔ mark = some other

theorem Begins.append {mark : Option Char} {text : List Char} (h : Begins mark text) (more : List Char) :
    Begins mark (text ++ more) := by
  obtain ⟨c, hc, hmarks⟩ := h
  refine ⟨c, ?_, hmarks⟩
  rw [List.head?_append, hc, Option.some_or]

theorem begins_none {c : Char} {text : List Char} (hhead : text.head? = some c) (hc : c ∉ rowMarks) :
    Begins none text := by
  refine ⟨c, hhead, fun other hother => ⟨?_, fun h => by cases h⟩⟩
  rintro rfl
  exact absurd hother hc

theorem begins_some {mark : Char} {text : List Char} (hhead : text.head? = some mark) : Begins (some mark) text :=
  ⟨mark, hhead, fun _ _ => ⟨congrArg some, Option.some.inj⟩⟩

/-- Breaking lines brings no mark to the beginning of a text. -/
theorem begins_breakLines {c : Char} {cs : List Char} (hhead : cs.head? = some c) (hc : c ∉ rowMarks) :
    Begins none (breakLines cs) := by
  obtain ⟨d, hd, rfl | ⟨-, hblank⟩⟩ := head?_breakLines hhead
  · exact begins_none hd hc
  · exact begins_none hd (not_rowMark_of_isBlank hblank)

/-- Escaped text begins with no mark. -/
theorem begins_escapeInline {core : List Char} (hne : core ≠ []) : Begins none (breakLines (escapeInline core)) := by
  obtain ⟨c, cs, rfl⟩ := List.exists_cons_of_ne_nil hne
  by_cases h : c = '\\' ∨ Live c cs
  · rw [escapeInline_live h]
    exact begins_breakLines rfl (by decide)
  · obtain ⟨hother, hdead⟩ := not_or.mp h
    rw [escapeInline_dead hother hdead]
    exact begins_breakLines rfl fun hmem => hdead (live_of_rowMark hmem cs)

theorem begins_codeSpan (code : List Char) : Begins (some '`') (breakLines (codeSpan code)) := by
  rw [codeSpan_eq, wrap, breakLines_append, breakLines_append, breakLines_row (by decide)]
  exact begins_some rfl

theorem Begins.wrap {first : Option Char} {inner : List Char} (h : Begins first inner) (mark : Char) (k : Nat) :
    Begins (wrapMark mark k first) (wrap mark k inner) := by
  cases k with
  | zero =>
      have hwrap : Markdown.wrap mark 0 inner = inner := List.append_nil inner
      rw [hwrap]
      exact h
  | succ k => exact begins_some rfl

/-- A piece between two rows of a mark that it does not begin with. -/
theorem Reads.wrap {mark : Char} {last : Option Char} {inner : List Char} {tokens : List Token}
    (h : Reads last inner tokens) (hbegins : Begins last inner) (hmark : mark ∈ rowMarks) (htick : mark ≠ '`')
    (hlast : last ≠ some mark) (k : Nat) :
    Reads (wrapMark mark k last) (wrap mark k inner) (wrapTokens mark k tokens) := by
  cases k with
  | zero =>
      have hwrap : Markdown.wrap mark 0 inner = inner := List.append_nil inner
      rw [hwrap]
      exact h
  | succ k =>
      have hrow := reads_row hmark htick k
      obtain ⟨c, hc, hmarks⟩ := hbegins
      have hinner : Reads (some mark) (inner ++ List.replicate (k + 1) mark) (tokens ++ [.row mark (k + 1)]) := by
        refine h.append hrow fun other hother => ⟨mark, rfl, ?_⟩
        rintro rfl
        exact hlast hother
      unfold Markdown.wrap
      rw [List.append_assoc]
      refine hrow.append hinner ?_
      rintro _ ⟨⟩
      refine ⟨c, ?_, ?_⟩
      · rw [List.head?_append, hc]
        rfl
      · exact fun heq => hlast ((hmarks _ hmark).mp heq)

theorem breakLines_wrap {mark : Char} (hmark : mark ∈ rowMarks) (k : Nat) (inner : List Char) :
    breakLines (wrap mark k inner) = wrap mark k (breakLines inner) := by
  unfold wrap
  rw [breakLines_append, breakLines_append, breakLines_row hmark]

/-- Code and escaped text, without markers, end with the mark that they begin with: a backtick or none. -/
theorem reads_unmarked (code : Bool) {core : List Char} (hne : core ≠ []) :
    let last := if code then some '`' else none
    let inner := breakLines (if code then codeSpan core else escapeInline core)
    let tokens := if code then [.code (longestBackticks 0 0 core + 1) (breakLines (padded core))] else textTokens core
    Begins last inner ∧ Reads last inner tokens ∧ ∀ mark, mark ≠ '`' → last ≠ some mark := by
  cases code with
  | true => exact ⟨begins_codeSpan core, reads_codeSpan hne, fun mark hother h => hother (Option.some.inj h).symm⟩
  | false => exact ⟨begins_escapeInline hne, reads_escaped (escapes_escapeInline core), fun mark _ h => by cases h⟩

/-! ## A run -/

section Run
variable {settings : ExportSettings} (hmarker : settings.emphasisMarker = '*' ∨ settings.emphasisMarker = '_')

/-- The text of a run between its blank edges, as it is written. -/
def coreText (settings : ExportSettings) (properties : RunProperties) (core : List Char) : List Char :=
  wrap '~' (strikeLength properties) <| wrap settings.emphasisMarker (emphasisLength properties) <|
    if isCode settings properties then codeSpan core else escapeInline core

theorem formatRun_eq {run : Run} (hcore : (Edges.ofText run.text.toList).core ≠ []) :
    formatRun settings run = (Edges.ofText run.text.toList).lead ++
      coreText settings run.properties (Edges.ofText run.text.toList).core ++ (Edges.ofText run.text.toList).trail := by
  have hstrike : (if run.properties.isStrike then ['~', '~'] else []) =
      List.replicate (strikeLength run.properties) '~' := by
    unfold strikeLength
    split <;> rfl
  unfold formatRun coreText wrap emphasisMarkers
  dsimp only
  rw [List.isEmpty_eq_false_iff.mpr hcore, if_neg Bool.false_ne_true, hstrike]
  simp only [List.append_assoc]
  rfl

/-- A run is written with the characters of its text and of its markers, and with those that escape. -/
theorem mem_formatRun {run : Run} {c : Char} (h : c ∈ formatRun settings run) :
    c ∈ run.text.toList ∨ (emphasisLength run.properties ≠ 0 ∧ c = settings.emphasisMarker) ∨
      c ∈ ['\\', '`', ' ', '~'] := by
  have hedges := Edges.ofText_append run.text.toList
  by_cases hcore : (Edges.ofText run.text.toList).core = []
  · unfold formatRun at h
    dsimp only at h
    rw [hcore] at h
    exact .inl h
  · have hinner : c ∈ (if isCode settings run.properties then codeSpan (Edges.ofText run.text.toList).core
        else escapeInline (Edges.ofText run.text.toList).core) →
        c ∈ (Edges.ofText run.text.toList).core ∨ c ∈ ['\\', '`', ' ', '~'] := by
      intro hmem
      split at hmem
      · have hmarks : ['`', ' '] ⊆ ['\\', '`', ' ', '~'] := by decide
        exact (mem_codeSpan hmem).imp_right fun h => hmarks h
      · rcases mem_escapeInline hmem with rfl | hmem
        · exact .inr List.mem_cons_self
        · exact .inl hmem
    rw [formatRun_eq hcore, coreText, wrap, wrap] at h
    rw [← hedges]
    simp only [List.mem_append, List.mem_replicate] at h ⊢
    rcases h with (h | ((h | ((h | h) | h)) | h)) | h
    · exact .inl (.inl (.inl h))
    · exact .inr (.inr (by simp [h.2]))
    · exact .inr (.inl h)
    · exact (hinner h).imp (fun h => .inl (.inr h)) .inr
    · exact .inr (.inl h)
    · exact .inr (.inr (by simp [h.2]))
    · exact .inl (.inr h)

include hmarker

theorem emphasisMarker_mem : settings.emphasisMarker ∈ rowMarks ∧ settings.emphasisMarker ≠ '`' ∧
    settings.emphasisMarker ≠ '~' := by
  rcases hmarker with h | h <;> rw [h] <;> decide

theorem outerMark?_mem {properties : RunProperties} {mark : Char} (h : outerMark? settings properties = some mark) :
    mark ∈ rowMarks := by
  unfold outerMark? wrapMark at h
  split at h
  · split at h
    · split at h
      · obtain rfl := Option.some.inj h
        decide
      · cases h
    · obtain rfl := Option.some.inj h
      exact (emphasisMarker_mem hmarker).1
  · obtain rfl := Option.some.inj h
    decide

theorem closes?_mem {run : Run} {mark : Char} (h : closes? settings run = some mark) : mark ∈ rowMarks := by
  unfold closes? at h
  split at h
  · cases h
  · exact outerMark?_mem hmarker h

/-- The text of a run begins with the mark of its outermost markers, and is read between all its markers. -/
theorem reads_coreText (properties : RunProperties) {core : List Char} (hne : core ≠ []) :
    Begins (outerMark? settings properties) (breakLines (coreText settings properties core)) ∧
      Reads (outerMark? settings properties) (breakLines (coreText settings properties core))
        (coreTokens settings properties core) := by
  obtain ⟨hmem, htick, htilde⟩ := emphasisMarker_mem hmarker
  unfold coreText coreTokens outerMark?
  rw [breakLines_wrap (by decide), breakLines_wrap hmem]
  obtain ⟨hbegins, hreads, hother⟩ := reads_unmarked (isCode settings properties) hne
  have hemphasis := hreads.wrap hbegins hmem htick (hother _ htick) (emphasisLength properties)
  have hbetween := hbegins.wrap settings.emphasisMarker (emphasisLength properties)
  refine ⟨hbetween.wrap '~' _, hemphasis.wrap hbetween (by decide) (by decide) ?_ _⟩
  unfold wrapMark
  split
  · exact hother '~' (by decide)
  · exact fun h => htilde (Option.some.inj h)

/-- A run is read as its text between its own markers, unless the last of them goes on behind it. -/
theorem reads_written (run : Run) :
    Reads (closes? settings run) (written settings run) (runTokens settings run) := by
  have hlead : ∀ c ∈ (Edges.ofText run.text.toList).lead, isBlank c = true := Edges.blank_lead
  have htrail : ∀ c ∈ (Edges.ofText run.text.toList).trail, isBlank c = true := Edges.blank_trail
  unfold closes? written runTokens
  rw [Edges.all_getLast?]
  by_cases hcore : (Edges.ofText run.text.toList).core = []
  · unfold formatRun
    dsimp only
    rw [hcore]
    exact reads_blank (Edges.blank_of_core_eq_nil hcore)
  · obtain ⟨-, hreads⟩ := reads_coreText hmarker run.properties hcore
    have hfront := (reads_blank hlead).append hreads fun mark h => by cases h
    rw [formatRun_eq hcore, breakLines_append, breakLines_append]
    dsimp only
    rw [List.isEmpty_eq_false_iff.mpr hcore, Bool.false_or, if_neg Bool.false_ne_true]
    cases hends : (Edges.ofText run.text.toList).trail with
    | nil =>
        have hnoText : breakLines [] = [] := rfl
        have hnoTokens : textTokens [] = [] := rfl
        rw [hnoText, hnoTokens, List.append_nil, List.append_nil]
        exact hfront
    | cons c trail =>
        rw [hends] at htrail
        -- white space keeps the row that closes the run from going on
        refine hfront.append (reads_blank htrail) fun mark hmark => ?_
        obtain ⟨d, hd, hother⟩ : Begins none (breakLines (c :: trail)) :=
          begins_breakLines rfl (not_rowMark_of_isBlank (htrail c List.mem_cons_self))
        refine ⟨d, hd, ?_⟩
        rintro rfl
        cases (hother d (outerMark?_mem hmarker hmark)).mp rfl

theorem begins_written {run : Run} (hne : run.text ≠ "") : Begins (opens? settings run) (written settings run) := by
  have hlead : ∀ c ∈ (Edges.ofText run.text.toList).lead, isBlank c = true := Edges.blank_lead
  unfold opens? written
  rw [Edges.all_head?]
  by_cases hcore : (Edges.ofText run.text.toList).core = []
  · obtain ⟨c, rest, htext⟩ := List.exists_cons_of_ne_nil (mt String.toList_eq_nil_iff.mp hne)
    have hblank := Edges.blank_of_core_eq_nil hcore c (by rw [htext]; exact List.mem_cons_self)
    unfold formatRun
    dsimp only
    rw [hcore]
    exact begins_breakLines (congrArg List.head? htext) (not_rowMark_of_isBlank hblank)
  · obtain ⟨hbegins, -⟩ := reads_coreText hmarker run.properties hcore
    rw [formatRun_eq hcore, breakLines_append, breakLines_append, List.isEmpty_eq_false_iff.mpr hcore, Bool.false_or]
    cases hstarts : (Edges.ofText run.text.toList).lead with
    | nil => exact hbegins.append _
    | cons c lead =>
        rw [hstarts] at hlead
        have hblank : Begins none (breakLines (c :: lead)) :=
          begins_breakLines rfl (not_rowMark_of_isBlank (hlead c List.mem_cons_self))
        exact (hblank.append _).append _

/-! ## Runs in a row -/

/-- Runs in a row are read as what they are exactly when no neighbours touch. -/
theorem scan_written_iff {runs : List Run} (hne : ∀ run ∈ runs, run.text ≠ "") :
    scan 0 (runs.flatMap (written settings)) = runs.flatMap (runTokens settings) ↔
      runs.IsChain fun before behind => ¬ Touches settings before behind := by
  induction runs with
  | nil => exact ⟨fun _ => .nil, fun _ => rfl⟩
  | cons run rest ih =>
      obtain ⟨-, hrest⟩ := List.forall_mem_cons.mp hne
      have hreads := reads_written hmarker run
      rw [List.flatMap_cons, List.flatMap_cons]
      cases rest with
      | nil =>
          refine ⟨fun _ => .singleton run, fun _ => hreads.apart [] ?_⟩
          exact fun mark _ h => by cases h
      | cons next rest =>
          -- whether the first run is read as what it is depends only on how the second begins
          obtain ⟨c, hc, hmarks⟩ : Begins (opens? settings next) ((next :: rest).flatMap (written settings)) :=
            (begins_written hmarker (hne next (by simp))).append _
          rw [List.isChain_cons_cons]
          by_cases htouch : Touches settings run next
          · obtain ⟨mark, hcloses⟩ := Option.ne_none_iff_exists'.mp htouch.1
            obtain rfl := (hmarks mark (closes?_mem hmarker hcloses)).mpr (htouch.2.trans hcloses)
            exact ⟨fun h => absurd h (hreads.fused _ _ hcloses hc _), fun h => absurd htouch h.1⟩
          · have hapart : ∀ mark ∈ closes? settings run, ((next :: rest).flatMap (written settings)).head? ≠ some mark := by
              intro mark hcloses hhead
              obtain rfl := Option.some.inj (hc.symm.trans hhead)
              have hcloses := Option.mem_def.mp hcloses
              have hopens := (hmarks c (closes?_mem hmarker hcloses)).mp rfl
              rw [← hcloses] at hopens
              exact htouch ⟨Option.ne_none_iff_exists'.mpr ⟨c, hcloses⟩, hopens⟩
            rw [hreads.apart _ hapart, List.append_right_inj, ih hrest]
            exact ⟨fun h => ⟨htouch, h⟩, And.right⟩

end Run

/-- Merging keeps what holds of all runs whatever their texts are. -/
theorem forall_mergeAfter {P : Run → Prop} (hP : ∀ run text, P run → P { run with text }) {last : Run}
    {runs : List Run} (hlast : P last) (hruns : ∀ run ∈ runs, P run) : ∀ run ∈ mergeAfter last runs, P run := by
  induction runs generalizing last with
  | nil => exact List.forall_mem_singleton.mpr hlast
  | cons next rest ih =>
      obtain ⟨hnext, hrest⟩ := List.forall_mem_cons.mp hruns
      unfold mergeAfter
      split
      · exact ih (hP last _ hlast) hrest
      · exact List.forall_mem_cons.mpr ⟨hlast, ih hnext hrest⟩

theorem forall_mergeRuns {P : Run → Prop} (hP : ∀ run text, P run → P { run with text }) {runs : List Run}
    (hruns : ∀ run ∈ runs, P run) : ∀ run ∈ mergeRuns runs, P run := by
  cases runs with
  | nil => exact hruns
  | cons run rest =>
      obtain ⟨hrun, hrest⟩ := List.forall_mem_cons.mp hruns
      exact forall_mergeAfter hP hrun hrest

/-- Merging leaves runs of text. -/
theorem isTextRun_mergeRuns {runs : List Run} (hruns : ∀ run ∈ runs, isTextRun run = true) :
    ∀ run ∈ mergeRuns runs, isTextRun run = true :=
  forall_mergeRuns (fun _ _ htext => htext) hruns

theorem runTexts_of_text (settings : ExportSettings) (doc : Document) (order : NoteOrder) {runs : List Run}
    (hruns : ∀ run ∈ runs, isTextRun run = true) :
    (runTexts settings doc order runs).1 = runs.flatMap (formatRun settings) := by
  induction runs with
  | nil => rfl
  | cons run rest ih =>
      obtain ⟨hrun, hrest⟩ := List.forall_mem_cons.mp hruns
      have htext : runText settings doc order run = (formatRun settings run, order) := by
        unfold isTextRun at hrun
        rw [Bool.and_eq_true, Option.isNone_iff_eq_none, Option.isNone_iff_eq_none] at hrun
        unfold runText
        rw [hrun.1, hrun.2]
        rfl
      rw [runTexts, htext]
      dsimp only
      rw [ih hrest, List.flatMap_cons]

/-- Runs without text are not written. -/
theorem flatMap_filter_text {α : Type} {f : Run → List α} (hf : ∀ run, run.text = "" → f run = []) (runs : List Run) :
    (runs.filter (·.text ≠ "")).flatMap f = runs.flatMap f := by
  induction runs with
  | nil => rfl
  | cons run rest ih =>
      rw [List.filter_cons]
      split
      · rw [List.flatMap_cons, List.flatMap_cons, ih]
      · rename_i hempty
        rw [ih, List.flatMap_cons, hf run (by simpa using hempty), List.nil_append]

/-- Runs of text are read as each of them is to be read, between its own markers, exactly when no two neighbours that
are written touch: that one ends with the mark that the next begins with, with no white space between them. -/
theorem inlineText_tokens_iff (settings : ExportSettings) (doc : Document) (order : NoteOrder) (runs : List Run)
    (hmarker : settings.emphasisMarker = '*' ∨ settings.emphasisMarker = '_')
    (hruns : ∀ run ∈ runs, isTextRun run = true) :
    let merged := (mergeRuns runs).filter (·.text ≠ "")
    scan 0 (inlineText settings doc order runs).1 = merged.flatMap (runTokens settings) ↔
      merged.IsChain fun before behind => ¬ Touches settings before behind := by
  intro merged
  have hempty : ∀ run : Run, run.text = "" → written settings run = [] ∧ runTokens settings run = [] := by
    intro run h
    unfold written runTokens formatRun
    rw [h]
    exact ⟨rfl, rfl⟩
  have htext : (inlineText settings doc order runs).1 = merged.flatMap (written settings) := by
    rw [flatMap_filter_text fun run h => (hempty run h).1]
    change breakLines (runTexts settings doc order (mergeRuns runs)).1 = _
    rw [runTexts_of_text settings doc order (isTextRun_mergeRuns hruns)]
    exact List.flatMap_assoc
  rw [htext]
  apply scan_written_iff hmarker
  intro run hrun
  simpa using (List.mem_filter.mp hrun).2

/-- A run that ends blank does not touch the next. -/
theorem inlineText_tokens_apart :
    let bold : RunProperties := { bold := some true }
    let runs : List Run := [{ text := "a ", properties := bold },
      { text := "b", properties := { bold with fontColor := some "FF0000" } }]
    ((∀ run ∈ runs, isTextRun run = true) ∧ (inlineText {} {} [] runs).1 = "**a** **b**".toList) ∧
      scan 0 (inlineText {} {} [] runs).1 = runs.flatMap (runTokens {}) := by
  intro bold runs
  have htext : ∀ run ∈ runs, isTextRun run = true := by decide
  have hmerged : (mergeRuns runs).filter (·.text ≠ "") = runs := by decide
  refine ⟨⟨htext, by decide⟩, ?_⟩
  have hread := inlineText_tokens_iff {} {} [] runs (.inl rfl) htext
  dsimp only at hread
  rw [hmerged] at hread
  exact hread.mpr (by decide)

/-- Bold text in front of bold text of another colour: the rows between them are one. -/
theorem inlineText_tokens_fused :
    let bold : RunProperties := { bold := some true }
    let before : Run := { text := "a", properties := bold }
    let behind : Run := { text := "b", properties := { bold with fontColor := some "FF0000" } }
    (inlineText {} {} [] [before, behind]).1 = "**a****b**".toList ∧ Touches {} before behind ∧
      [before, behind].flatMap (runTokens {}) =
        [.row '*' 2, .text 'a', .row '*' 2, .row '*' 2, .text 'b', .row '*' 2] ∧
      scan 0 "**a****b**".toList = [.row '*' 2, .text 'a', .row '*' 4, .text 'b', .row '*' 2] := by
  decide

end Folio.Markdown
