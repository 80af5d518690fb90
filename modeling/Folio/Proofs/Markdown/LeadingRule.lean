import Folio.Markdown.Reading
import Folio.Proofs.Markdown.DashBlocks

/-!
# A rule at the beginning of a text

A text that begins with a line of three dashes and has another one is taken for a text with metadata in front. Without
metadata of its own, a document is written as such a text when the first of its elements that leaves a trace is a rule
and dashes follow somewhere: another rule, the underline of a short heading, a line of code, a cell of a simple table or
the row in front of the footnotes.

* `groupText_dashes` : the lines of dashes of elements in a row;
* `groupText_opens` : what an element that is no rule begins with;
* `NoteDashes`, `dashes_noteText` : the footnotes that go on in a line of dashes;
* `written_looksLikeMetadata_iff` : the documents that are written in the shape of metadata.
-/

namespace Folio.Markdown
open FrontMatter (delimiter)
open Text (lines lines_append lines_of_not_mem lineInduction trim)

/-- The text begins with a line of dashes and has another: the shape that metadata has. -/
def LooksLikeMetadata (cs : List Char) : Prop := (lines cs).head? = some delimiter ∧ delimiter ∈ (lines cs).tail

instance (cs : List Char) : Decidable (LooksLikeMetadata cs) :=
  inferInstanceAs (Decidable ((lines cs).head? = some delimiter ∧ delimiter ∈ (lines cs).tail))

/-- The footnotes are written behind the elements. -/
def WritesNotes (settings : ExportSettings) (doc : Document) : Prop := settings.footnotes = true ∧ doc.footnotes ≠ []

/-- The text of a footnote. -/
def noteBody (note : Footnote) : List Char := trim (Text.join [' '] (note.paragraphs.map Paragraph.textChars))

/-- Neither code nor a list waits for its end. -/
def Idle (w : Writing) : Prop := w.codeLines = [] ∧ w.inList = false

variable {settings : ExportSettings} {doc : Document} {w : Writing}

/-! ## Elements in a row -/

/-- Where the writing does not end, an element is written in front of the others. -/
theorem groupText_element {element : Element} {elements : List Element} {text : List Char}
    (h : groupText settings doc w (element :: elements) = .ok text) :
    ∃ rest, groupText settings doc (elementText settings doc w element).2 elements = .ok rest ∧
      text = (elementText settings doc w element).1 ++ rest := by
  unfold groupText at h ⊢
  rcases elementsText_cons settings doc w element with ⟨d, hends⟩ | ⟨first, hgoes⟩
  · rw [hends] at h
    cases h
  · rw [hgoes] at h
    cases hrest : (elementsText settings doc (elementText settings doc w element).2 elements).1 with
    | error d =>
        rw [hrest] at h
        cases h
    | ok written =>
        rw [hrest] at h
        obtain rfl := Except.ok.inj h
        exact ⟨_, rfl, List.append_assoc ..⟩

/-- Elements in a row have the lines of dashes that wait in front of them, and their own. -/
theorem groupText_dashes {elements : List Element} {text : List Char}
    (h : groupText settings doc w elements = .ok text) :
    Dashes (DashesWait settings w ∨ ∃ element ∈ elements, WritesDashes settings doc element) text := by
  induction elements generalizing w text with
  | nil =>
      obtain rfl := Except.ok.inj h
      obtain ⟨Q, hdashes, hwait⟩ := dashStep_closeGroup settings w
      have hclosed : ¬ DashesWait settings (closeGroup settings w).2 := fun hwaits => hwaits.1 rfl
      rw [or_iff_left hclosed, or_false] at hwait
      exact hdashes.iff (by simp [hwait])
  | cons element elements ih =>
      obtain ⟨rest, hrest, rfl⟩ := groupText_element h
      obtain ⟨Q, hdashes, hwait⟩ := dashStep_elementText settings doc element w
      refine (hdashes.append (ih hrest)).iff ?_
      rw [← or_assoc, hwait, or_assoc, List.exists_mem_cons_iff]

theorem ok_of_map_text {outcome : Except Diagnostic (List Char)} {gap text : List Char}
    (h : outcome.map (gap ++ ·) = .ok text) : ∃ rest, outcome = .ok rest ∧ text = gap ++ rest := by
  cases outcome with
  | error d => cases h
  | ok rest => exact ⟨rest, rfl, (Except.ok.inj h).symm⟩

/-- Code that waits for its fence begins the text, and so does a line of code. -/
theorem groupText_backtick {elements : List Element} {text : List Char} (hlist : w.inList = false)
    (hcode : w.codeLines ≠ [] ∨ elements.head?.any isCodeLine = true)
    (h : groupText settings doc w elements = .ok text) : ∃ rest, text = '`' :: rest := by
  have hfence : ∀ (language : String) code rest, ∃ behind, fenceText language code ++ rest = '`' :: behind :=
    fun _ _ _ => ⟨_, rfl⟩
  induction elements generalizing w text with
  | nil =>
      have hwaits : w.codeLines ≠ [] := hcode.resolve_right (by simp)
      rw [groupText_ended hwaits hlist rfl] at h
      obtain ⟨rest, -, rfl⟩ := ok_of_map_text h
      exact hfence _ _ rest
  | cons element elements ih =>
      cases hline : isCodeLine element with
      | false =>
          have hwaits : w.codeLines ≠ [] := hcode.resolve_right (by simp [hline])
          rw [groupText_ended hwaits hlist (by simp [hline])] at h
          obtain ⟨rest, -, rfl⟩ := ok_of_map_text h
          exact hfence _ _ rest
      | true =>
          cases element with
          | table table => cases hline
          | paragraph paragraph =>
              have hstyle : styleOf paragraph = Style.code := of_decide_eq_true hline
              rw [groupText_cons hstyle] at h
              obtain ⟨rest, hrest, rfl⟩ := ok_of_map_text h
              rw [codeLine_eq hlist] at hrest ⊢
              generalize closesCode paragraph = closes at hrest ⊢
              cases closes with
              | true => exact hfence _ _ rest
              | false =>
                  -- The line waits with those before it.
                  have hwaits : w.codeLines ++ [lineOfCode paragraph] ≠ [] := by simp
                  exact ih (w := { w with codeLines := w.codeLines ++ [lineOfCode paragraph] }) hlist (.inl hwaits)
                    hrest

theorem closeGroup_idle (h : Idle w) : closeGroup settings w = ([], w) := closeGroup_nothing h.1 h.2

/-- An element that is left out leaves nothing open. -/
theorem elementText_leftOut (hidle : Idle w) {element : Element} (h : IsLeftOut settings doc element) :
    (elementText settings doc w element).1 = [] ∧ Idle (elementText settings doc w element).2 := by
  cases element with
  | table table =>
      rw [elementText, tableChars_left_out h, closeGroup_idle hidle]
      exact ⟨rfl, hidle⟩
  | paragraph paragraph =>
      have hkind : blockKind paragraph ≠ .code ∧ blockKind paragraph ≠ .item := by
        change blockLeftOut settings doc paragraph (blockKind paragraph) at h
        constructor <;>
        · intro hkind
          rw [hkind] at h
          exact h
      obtain ⟨notes, hwritten⟩ := paragraphText_plain settings doc w hkind.1 hkind.2
      rw [elementText, hwritten, closeGroup_idle hidle, blockText_eq_nil w.notes h]
      exact ⟨rfl, rfl, rfl⟩

/-- A rule is a line of dashes and an empty line. -/
theorem elementText_rule (settings : ExportSettings) (doc : Document) (hidle : Idle w) {element : Element}
    (h : IsRule element) :
    (elementText settings doc w element).1 = delimiter ++ '\n' :: ['\n'] ∧
      Idle (elementText settings doc w element).2 := by
  cases element with
  | table table => exact h.elim
  | paragraph paragraph =>
      have hkind : blockKind paragraph = .rule := h
      have hplain : blockKind paragraph ≠ .code ∧ blockKind paragraph ≠ .item := by simp [hkind]
      obtain ⟨notes, hwritten⟩ := paragraphText_plain settings doc w hplain.1 hplain.2
      rw [elementText, hwritten, hkind, closeGroup_idle hidle]
      exact ⟨rfl, rfl, rfl⟩

/-- Any other element begins the text with something else. -/
theorem groupText_opens (hidle : Idle w) {element : Element} (hkept : ¬ IsLeftOut settings doc element)
    (hrule : ¬ IsRule element) {elements : List Element} {text : List Char}
    (h : groupText settings doc w (element :: elements) = .ok text) : BeginsOtherwise text := by
  obtain ⟨rest, -, htext⟩ := groupText_element h
  cases element with
  | table table =>
      rw [elementText, closeGroup_idle hidle] at htext
      rw [htext]
      exact (beginsOtherwise_tableChars (not_not.mp hkept)).append rest
  | paragraph paragraph =>
      cases hkind : blockKind paragraph with
      | code =>
          have hline : isCodeLine (.paragraph paragraph) = true := decide_eq_true (styleOf_of_code hkind)
          obtain ⟨rest, rfl⟩ := groupText_backtick hidle.2 (.inr (by simp [hline])) h
          exact beginsOtherwise_cons (by decide) (by decide) rest
      | item =>
          obtain ⟨Q, hdashes, hwait⟩ := dashStep_elementText settings doc (.paragraph paragraph) w
          have hnone : ¬ HasDashes (elementText settings doc w (.paragraph paragraph)).1 := by
            rw [hdashes.hasDashes]
            intro hQ
            rcases hwait.mp (.inl hQ) with hwaits | hwrites
            · exact hwaits.1 hidle.1
            · rw [WritesDashes, hkind] at hwrites
              exact hwrites
          have hfeed : '\n' ∈ (elementText settings doc w (.paragraph paragraph)).1 := by
            rw [elementText, paragraphText_item hkind]
            refine List.mem_append_right _ (List.mem_append_right _ ?_)
            exact List.mem_append_right _ (List.mem_singleton_self _)
          rw [htext]
          exact (beginsOtherwise_of_not_hasDashes hnone hfeed).append rest
      | rule => exact absurd hkind hrule
      | _ =>
          have hplain : blockKind paragraph ≠ .code ∧ blockKind paragraph ≠ .item ∧
              blockKind paragraph ≠ .rule := by simp [hkind]
          obtain ⟨hcode, hitem, hother⟩ := hplain
          obtain ⟨notes, hwritten⟩ := paragraphText_plain settings doc w hcode hitem
          rw [elementText, hwritten, closeGroup_idle hidle] at htext
          rw [htext]
          exact (beginsOtherwise_blockText w.notes hcode hitem hother hkept).append rest

/-- Elements that are left out leave the others to begin the text. -/
theorem groupText_leftOut (hidle : Idle w) {front elements : List Element}
    (hfront : ∀ element ∈ front, IsLeftOut settings doc element) {text : List Char}
    (h : groupText settings doc w (front ++ elements) = .ok text) :
    ∃ w', Idle w' ∧ groupText settings doc w' elements = .ok text := by
  induction front generalizing w with
  | nil => exact ⟨w, hidle, h⟩
  | cons element front ih =>
      obtain ⟨helement, hfront⟩ := List.forall_mem_cons.mp hfront
      obtain ⟨rest, hrest, htext⟩ := groupText_element h
      obtain ⟨hnothing, hnext⟩ := elementText_leftOut hidle helement
      rw [hnothing, List.nil_append] at htext
      exact ih hnext hfront (htext ▸ hrest)

/-! ## Footnotes -/

/-- A footnote whose text goes on in a line of dashes. -/
def NoteDashes (doc : Document) : Prop :=
  ∃ note, doc.footnote? note.id = some note ∧ delimiter ∈ (lines (noteBody note)).tail

theorem escapeInline_eq_delimiter_iff (line : List Char) : escapeInline line = delimiter ↔ line = delimiter := by
  have hdashes : escapeInline delimiter = delimiter := by decide
  constructor
  · intro h
    have hescapes := escapes_escapeInline line
    rw [h] at hescapes
    exact hescapes.eq_of_not_mem (by decide)
  · rintro rfl
    exact hdashes

theorem dashes_noteText (index : Nat) (id : String) :
    Dashes (∃ note, doc.footnote? id = some note ∧ delimiter ∈ (lines (noteBody note)).tail)
      (noteText doc index id) := by
  unfold noteText
  cases hnote : doc.footnote? id with
  | none => exact dashes_nil.iff (by simp)
  | some note =>
      have hreference : '\n' ∉ noteReference (index + 1) ++ [':', ' '] := by
        rw [List.mem_append]
        rintro (hmem | hmem)
        · exact Bool.noConfusion (isReferenceChar_of_mem hmem)
        · exact absurd hmem (by decide)
      have hline : '\n' ∉ '[' :: ('^' :: (index + 1).repr.toList ++ [']'] ++ [':', ' ']) := hreference
      have hfirst := hasDashes_prepend _ _ (by decide) hline (escapeInline (noteBody note))
      have htext := (dashes_ended (noteReference (index + 1) ++ [':', ' '] ++ escapeInline (noteBody note))).iff hfirst
      rw [List.append_assoc (noteReference (index + 1)) [':', ' ']] at htext
      refine htext.iff ?_
      rw [lines_escapeInline, ← List.map_tail, List.mem_map]
      simp only [escapeInline_eq_delimiter_iff, Option.some.injEq, exists_eq_right, exists_eq_left']

/-- The footnotes are written behind a rule. -/
theorem notesText_eq_of_written (order : NoteOrder) (h : WritesNotes settings doc) :
    ∃ notes, notesText settings doc order = delimiter ++ '\n' :: '\n' :: notes ∧ Dashes (NoteDashes doc) notes := by
  obtain ⟨hnotes, hsome⟩ := h
  refine ⟨((allNotes doc order).mapIdx (noteText doc)).flatten, ?_, ?_⟩
  · unfold notesText
    rw [hnotes, List.isEmpty_eq_false_iff.mpr hsome]
    rfl
  · rw [List.mapIdx_eq_zipIdx_map, ← List.flatMap_def]
    refine (dashes_flatMap fun entry (_ : entry ∈ (allNotes doc order).zipIdx) =>
      dashes_noteText entry.2 entry.1).iff ?_
    constructor
    · rintro ⟨entry, -, note, hnote, hdashes⟩
      have hid : note.id = entry.1 := by simpa using List.find?_some hnote
      exact ⟨note, hid ▸ hnote, hdashes⟩
    · rintro ⟨note, hnote, hdashes⟩
      have hmem : note.id ∈ allNotes doc order := by
        rw [allNotes_eq]
        exact mem_addNotes (List.mem_map_of_mem (List.mem_of_find?_eq_some hnote))
      obtain ⟨i, hi⟩ := List.mem_iff_getElem?.mp hmem
      exact ⟨(note.id, i), List.mk_mem_zipIdx_iff_getElem?.mpr hi, note, hnote, hdashes⟩

theorem notesText_eq_nil (order : NoteOrder) (h : ¬ WritesNotes settings doc) : notesText settings doc order = [] := by
  unfold notesText
  split
  next => rfl
  next hwritten =>
    simp only [Bool.or_eq_true, Bool.not_eq_true', List.isEmpty_iff, not_or, Bool.not_eq_false] at hwritten
    exact absurd hwritten h

/-! ## Whole documents -/

theorem frontMatterText_eq_nil {metadata : Metadata}
    (h : settings.includeMetadata = false ∨ metadata.entries = []) : frontMatterText settings metadata = [] := by
  unfold frontMatterText
  rcases h with hoff | hempty
  · rw [hoff]
    rfl
  · rw [hempty, List.isEmpty_nil, Bool.or_true]
    rfl

/-- Without metadata of its own a document is written as its elements and its footnotes. -/
theorem write_eq_ok {text : String} (hfront : settings.includeMetadata = false ∨ doc.metadata.entries = [])
    (h : (write settings doc).1 = .ok text) :
    ∃ body order, groupText settings doc {} (writtenElements settings doc) = .ok body ∧
      text.toList = body ++ notesText settings doc order := by
  have hnone := frontMatterText_eq_nil hfront
  unfold write at h
  unfold groupText
  generalize elementsText settings doc {} (writtenElements settings doc) = written at h ⊢
  obtain ⟨d | ⟨texts, w⟩, diagnostics⟩ := written
  · cases h
  · obtain rfl := Except.ok.inj h
    refine ⟨_, w.notes, rfl, ?_⟩
    rw [String.toList_ofList, hnone, List.nil_append]
    rfl

theorem forall_leftOut_or_first (settings : ExportSettings) (doc : Document) (elements : List Element) :
    (∀ element ∈ elements, IsLeftOut settings doc element) ∨
      ∃ front element back, elements = front ++ element :: back ∧ (∀ element ∈ front, IsLeftOut settings doc element) ∧
        ¬ IsLeftOut settings doc element := by
  induction elements with
  | nil => exact .inl (by simp)
  | cons element elements ih =>
      by_cases helement : IsLeftOut settings doc element
      · rcases ih with hall | ⟨front, other, back, rfl, hfront, hother⟩
        · exact .inl (List.forall_mem_cons.mpr ⟨helement, hall⟩)
        · exact .inr ⟨element :: front, other, back, rfl, List.forall_mem_cons.mpr ⟨helement, hfront⟩, hother⟩
      · exact .inr ⟨[], element, elements, rfl, by simp, helement⟩

theorem looksLikeMetadata_rule (rest : List Char) :
    LooksLikeMetadata (delimiter ++ '\n' :: '\n' :: rest) ↔ HasDashes rest := by
  have hlines : lines (delimiter ++ '\n' :: '\n' :: rest) = delimiter :: [] :: lines rest := rfl
  unfold LooksLikeMetadata HasDashes
  rw [hlines, List.head?_cons, List.tail_cons, List.mem_cons, and_iff_right rfl, or_iff_right (by decide)]

/-- Behind a rule, the lines are those of the elements behind it and of the footnotes. -/
theorem looksLikeMetadata_behind_rule (hidle : Idle w) {rule : Element} (hrule : IsRule rule) {back : List Element}
    {body : List Char} (h : groupText settings doc w (rule :: back) = .ok body) (order : NoteOrder) :
    LooksLikeMetadata (body ++ notesText settings doc order) ↔
      (∃ element ∈ back, WritesDashes settings doc element) ∨ WritesNotes settings doc := by
  obtain ⟨rest, hrest, rfl⟩ := groupText_element h
  obtain ⟨hwritten, hnext⟩ := elementText_rule settings doc hidle hrule
  have hwaits : ¬ DashesWait settings (elementText settings doc w rule).2 := fun hwaits => hwaits.1 hnext.1
  have hnotes : HasDashes (notesText settings doc order) ↔ WritesNotes settings doc := by
    by_cases hfollow : WritesNotes settings doc
    · obtain ⟨notes, hnotes, -⟩ := notesText_eq_of_written order hfollow
      rw [hnotes, hasDashes_feed]
      exact iff_of_true (.inl (by decide)) hfollow
    · rw [notesText_eq_nil order hfollow]
      exact iff_of_false not_hasDashes_nil hfollow
  rw [hwritten, List.append_assoc, List.append_assoc]
  change LooksLikeMetadata (delimiter ++ '\n' :: '\n' :: (rest ++ notesText settings doc order)) ↔ _
  rw [looksLikeMetadata_rule, groupText_dashes hrest, or_iff_right hwaits, hnotes]

/-- Footnotes alone begin with a rule too. -/
theorem looksLikeMetadata_notesText (order : NoteOrder) :
    LooksLikeMetadata (notesText settings doc order) ↔ WritesNotes settings doc ∧ NoteDashes doc := by
  by_cases hwritten : WritesNotes settings doc
  · obtain ⟨notes, hnotes, hdashes⟩ := notesText_eq_of_written order hwritten
    rw [hnotes, looksLikeMetadata_rule, hdashes.hasDashes, and_iff_right hwritten]
  · rw [notesText_eq_nil order hwritten]
    exact iff_of_false (by decide) fun hboth => hwritten hboth.1

theorem groupText_nothing (hidle : Idle w) : groupText settings doc w [] = .ok [] := by
  have hclosed : (closeGroup settings w).1 = [] := congrArg Prod.fst (closeGroup_idle hidle)
  exact congrArg Except.ok hclosed

/-- A document without metadata in front is written in the shape of metadata exactly when the first of its elements
that leaves a trace is a rule with a line of dashes behind it, of an element or in front of the footnotes, or when
nothing but footnotes is written and one of them goes on in a line of dashes. -/
theorem written_looksLikeMetadata_iff (settings : ExportSettings) (doc : Document) {text : String}
    (hfront : settings.includeMetadata = false ∨ doc.metadata.entries = []) (h : (write settings doc).1 = .ok text) :
    LooksLikeMetadata text.toList ↔
      (∃ front rule back, writtenElements settings doc = front ++ rule :: back ∧
        (∀ element ∈ front, IsLeftOut settings doc element) ∧ IsRule rule ∧
        ((∃ element ∈ back, WritesDashes settings doc element) ∨ WritesNotes settings doc)) ∨
      ((∀ element ∈ writtenElements settings doc, IsLeftOut settings doc element) ∧ WritesNotes settings doc ∧
        NoteDashes doc) := by
  obtain ⟨body, order, hbody, htext⟩ := write_eq_ok hfront h
  have hidle : Idle {} := ⟨rfl, rfl⟩
  have hrule : ∀ {front rule back}, writtenElements settings doc = front ++ rule :: back →
      (∀ element ∈ front, IsLeftOut settings doc element) → IsRule rule →
      (LooksLikeMetadata text.toList ↔
        (∃ element ∈ back, WritesDashes settings doc element) ∨ WritesNotes settings doc) := by
    intro front rule back helements hfront hrule
    rw [helements] at hbody
    obtain ⟨w, hw, hgroup⟩ := groupText_leftOut hidle hfront hbody
    rw [htext]
    exact looksLikeMetadata_behind_rule hw hrule hgroup order
  have halone : (∀ element ∈ writtenElements settings doc, IsLeftOut settings doc element) →
      (LooksLikeMetadata text.toList ↔ WritesNotes settings doc ∧ NoteDashes doc) := by
    intro hall
    rw [← List.append_nil (writtenElements settings doc)] at hbody
    obtain ⟨w, hw, hgroup⟩ := groupText_leftOut hidle hall hbody
    obtain rfl := Except.ok.inj ((groupText_nothing hw).symm.trans hgroup)
    rw [htext, List.nil_append]
    exact looksLikeMetadata_notesText order
  constructor
  · intro hlooks
    rcases forall_leftOut_or_first settings doc (writtenElements settings doc) with
      hall | ⟨front, element, back, helements, hfront, hkept⟩
    · exact .inr ⟨hall, (halone hall).mp hlooks⟩
    · by_cases helement : IsRule element
      · exact .inl ⟨front, element, back, helements, hfront, helement, (hrule helements hfront helement).mp hlooks⟩
      · exfalso
        rw [helements] at hbody
        obtain ⟨w, hw, hgroup⟩ := groupText_leftOut hidle hfront hbody
        have hopens := groupText_opens hw hkept helement hgroup (notesText settings doc order)
        rw [← htext] at hopens
        exact hopens hlooks.1
  · rintro (⟨front, rule, back, helements, hfront, hisRule, hbehind⟩ | ⟨hall, hboth⟩)
    · exact (hrule helements hfront hisRule).mpr hbehind
    · exact (halone hall).mpr hboth

/-- A rule is an empty paragraph with a border below it. -/
def ruleParagraph : Paragraph := { properties := { borderBottom := true } }

/-- A heading of the given style with its title. -/
def titled (style title : String) : Paragraph := (Paragraph.styled style).push { text := title }

/-- The underline of a short heading below a rule, with a blank heading in front. -/
theorem written_looksLikeMetadata_underline :
    let settings : ExportSettings := { setextHeadings := true }
    let doc : Document :=
      { body := [.paragraph (titled "Heading 1" " "), .paragraph ruleParagraph, .paragraph (titled "Heading 2" "ab")] }
    let text := "---\n\nab\n---\n\n"
    ((settings.includeMetadata = false ∨ doc.metadata.entries = []) ∧ (write settings doc).1.toOption = some text) ∧
      LooksLikeMetadata text.toList := by
  intro settings doc text
  have hfront : settings.includeMetadata = false ∨ doc.metadata.entries = [] := .inr rfl
  have hoption : (write settings doc).1.toOption = some text := by decide +kernel
  have hwritten : (write settings doc).1 = .ok text := by
    cases hresult : (write settings doc).1 with
    | error d =>
        rw [hresult] at hoption
        cases hoption
    | ok written =>
        rw [hresult] at hoption
        rw [Option.some.inj hoption]
  have hblank : blockKind (titled "Heading 1" " ") = .heading 1 := by decide +kernel
  have hshort : blockKind (titled "Heading 2" "ab") = .heading 2 := by decide +kernel
  refine ⟨⟨hfront, hoption⟩, (written_looksLikeMetadata_iff settings doc hfront hwritten).mpr (.inl ?_)⟩
  refine ⟨[.paragraph (titled "Heading 1" " ")], .paragraph ruleParagraph, [.paragraph (titled "Heading 2" "ab")], rfl,
    ?_, ?_, .inl ⟨_, List.mem_singleton_self _, ?_⟩⟩
  · rw [List.forall_mem_singleton, IsLeftOut, hblank, blockLeftOut]
    decide +kernel
  · rw [IsRule]
    decide +kernel
  · rw [WritesDashes, hshort, blockDashes]
    decide +kernel

/-- Text between two rules is read as metadata, and nothing is left of it. -/
theorem written_looksLikeMetadata_rules :
    let doc : Document :=
      { body := [.paragraph ruleParagraph, .paragraph { runs := [{ text := "text" }] }, .paragraph ruleParagraph] }
    let text := "---\n\ntext\n\n---\n\n"
    doc.metadata.entries = [] ∧ (write {} doc).1.toOption = some text ∧ LooksLikeMetadata text.toList ∧
      splitFrontMatter? text.toList = some (text.toList, []) := by
  decide +kernel

end Folio.Markdown
