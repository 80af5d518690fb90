import Folio.Markdown.Writing
import Folio.Proofs.Markdown.RunMarkers

/-!
# References in a text

References to footnotes hold no white space and no character that a layout takes for its own. However a text is broken
into lines, wrapped, trimmed or has its lines escaped, the references in it stay whole and in their order.

* `Refers` : references of the numbers stand in a text, one behind the other;
* `Refers.cut` : a character that no reference holds parts them;
* `Refers.wrap`, `Refers.escapeBlockStarts`, `Refers.oneLine` : layouts keep references;
* `Refers.headingText`, `Refers.bodyText`, `Refers.itemGlyph` : blocks keep references.
-/

namespace Folio.Markdown
open Text (trim trimStart trimEnd)
open Unicode (isBlank)

/-- A character that a reference may hold. -/
def isReferenceChar (c : Char) : Bool := c = '[' || c = '^' || c = ']' || c.isDigit

theorem isReferenceChar_of_mem {n : Nat} {c : Char} (h : c ∈ noteReference n) : isReferenceChar c = true := by
  unfold noteReference at h
  rw [List.mem_append, List.mem_append, List.mem_singleton] at h
  rcases h with (h | h) | rfl
  · rw [List.mem_cons, List.mem_singleton] at h
    rcases h with rfl | rfl <;> rfl
  · unfold isReferenceChar
    rw [Text.isDigit_of_mem_repr h, Bool.or_true]
  · rfl

/-- White space is in no reference. -/
theorem isReferenceChar_of_isBlank {c : Char} (h : isBlank c = true) : isReferenceChar c = false := by
  rw [Bool.eq_false_iff]
  intro hc
  have hgraphic : 32 < c.toNat ∧ c.toNat < 127 := by
    simp only [isReferenceChar, Bool.or_eq_true, decide_eq_true_eq] at hc
    rcases hc with ((rfl | rfl) | rfl) | hdigit
    · decide
    · decide
    · decide
    · obtain ⟨hlow, hhigh⟩ := Bool.and_eq_true_iff.mp hdigit
      have hlow : 48 ≤ c.toNat := of_decide_eq_true hlow
      have hhigh : c.toNat ≤ 57 := of_decide_eq_true hhigh
      omega
  rw [Unicode.isBlank_of_graphic hgraphic.1 hgraphic.2] at h
  exact Bool.noConfusion h

/-- References of the numbers stand in the text, one behind the other. -/
inductive Refers : List Nat → List Char → Prop
  | nil (text : List Char) : Refers [] text
  | cons (gap : List Char) (n : Nat) {ns : List Nat} {rest : List Char} (more : Refers ns rest) :
      Refers (n :: ns) (gap ++ (noteReference n ++ rest))

variable {ns ms : List Nat} {text : List Char}

/-! ## Texts put together -/

theorem Refers.prepend (h : Refers ns text) (gap : List Char) : Refers ns (gap ++ text) := by
  cases h with
  | nil => exact .nil _
  | cons inner n more =>
      rw [← List.append_assoc]
      exact .cons (gap ++ inner) n more

theorem Refers.append {other : List Char} (h : Refers ns text) (hother : Refers ms other) :
    Refers (ns ++ ms) (text ++ other) := by
  induction h with
  | nil text => exact hother.prepend text
  | cons gap n more ih =>
      rw [List.append_assoc, List.append_assoc]
      exact .cons gap n ih

theorem Refers.append_text (h : Refers ns text) (other : List Char) : Refers ns (text ++ other) := by
  have hboth := h.append (.nil other)
  rw [List.append_nil] at hboth
  exact hboth

theorem refers_noteReference (n : Nat) : Refers [n] (noteReference n) := by
  have h := Refers.cons [] n (.nil [])
  rw [List.append_nil] at h
  exact h

/-! ## Texts cut apart -/

theorem Refers.eq_nil (h : Refers ns text) (hopen : '[' ∉ text) : ns = [] := by
  cases h with
  | nil => rfl
  | cons gap n more =>
      have hmem : '[' ∈ noteReference n := List.mem_cons_self
      exact absurd (List.mem_append_right gap (List.mem_append_left _ hmem)) hopen

/-- A character that no reference holds parts the references before it from those behind it. -/
theorem Refers.cut {c : Char} (hc : isReferenceChar c = false) {before after : List Char}
    (h : Refers ns (before ++ c :: after)) :
    ∃ ns₁ ns₂, ns = ns₁ ++ ns₂ ∧ Refers ns₁ before ∧ Refers ns₂ after := by
  generalize htext : before ++ c :: after = text at h
  induction h generalizing before with
  | nil => exact ⟨[], [], rfl, .nil _, .nil _⟩
  | @cons gap n ns rest more ih =>
      have hnot : c ∉ noteReference n := fun hmem => by
        rw [isReferenceChar_of_mem hmem] at hc
        exact Bool.noConfusion hc
      rcases List.append_eq_append_iff.mp htext with ⟨inner, rfl, hinner⟩ | ⟨inner, rfl, hinner⟩
      · -- The character stands in the gap.
        cases inner with
        | nil =>
            have hhead := (List.cons.inj hinner).1
            exact absurd (hhead ▸ List.mem_cons_self) hnot
        | cons d inner =>
            obtain ⟨rfl, rfl⟩ := List.cons.inj hinner
            exact ⟨[], n :: ns, rfl, .nil _, .cons inner n more⟩
      · rcases List.append_eq_append_iff.mp hinner with ⟨tail, rfl, hrest⟩ | ⟨tail, href, htail⟩
        · -- It stands behind the reference.
          obtain ⟨ns₁, ns₂, rfl, h₁, h₂⟩ := ih hrest.symm
          exact ⟨n :: ns₁, ns₂, rfl, .cons gap n h₁, h₂⟩
        · cases tail with
          | nil =>
              obtain ⟨ns₁, ns₂, rfl, h₁, h₂⟩ := @ih [] htail
              rw [List.append_nil] at href
              rw [← href]
              have hfront := Refers.cons gap n h₁
              rw [List.append_nil] at hfront
              exact ⟨n :: ns₁, ns₂, rfl, hfront, h₂⟩
          | cons d tail =>
              obtain ⟨rfl, -⟩ := List.cons.inj htail
              rw [href] at hnot
              exact absurd (List.mem_append_right inner List.mem_cons_self) hnot

theorem Refers.of_prepend {front : List Char} (h : Refers ns (front ++ text)) (hopen : '[' ∉ front) :
    Refers ns text := by
  generalize hwhole : front ++ text = whole at h
  cases h with
  | nil => exact .nil _
  | cons gap n more =>
      rcases List.append_eq_append_iff.mp hwhole with ⟨inner, rfl, rfl⟩ | ⟨inner, rfl, hinner⟩
      · exact .cons inner n more
      · cases inner with
        | nil =>
            rw [List.nil_append] at hinner
            rw [← hinner]
            exact .cons [] n more
        | cons d inner =>
            have hhead := (List.cons.inj hinner).1
            exact absurd (hhead ▸ List.mem_append_right gap List.mem_cons_self) hopen

theorem Refers.of_append_text {last : List Char} (h : Refers ns (text ++ last))
    (hlast : ∀ c ∈ last, isReferenceChar c = false) : Refers ns text := by
  cases last with
  | nil =>
      rw [List.append_nil] at h
      exact h
  | cons c last =>
      obtain ⟨ns₁, ns₂, rfl, h₁, h₂⟩ := h.cut (hlast c List.mem_cons_self)
      have hopen : '[' ∉ last := fun hmem => Bool.noConfusion (hlast '[' (List.mem_cons_of_mem c hmem))
      rw [h₂.eq_nil hopen, List.append_nil]
      exact h₁

/-! ## Blank edges -/

theorem Refers.trimStart (h : Refers ns text) : Refers ns (trimStart text) := by
  have hsplit : text.takeWhile isBlank ++ Text.trimStart text = text := List.takeWhile_append_dropWhile
  rw [← hsplit] at h
  refine h.of_prepend fun hmem => ?_
  have hblank := List.all_eq_true.mp List.all_takeWhile '[' hmem
  exact absurd hblank (by decide)

theorem Refers.trimEnd (h : Refers ns text) : Refers ns (trimEnd text) := by
  obtain ⟨last, hlast, hblank⟩ := Text.eq_dropWhileEnd_append isBlank text
  rw [hlast] at h
  exact h.of_append_text fun c hc => isReferenceChar_of_isBlank (hblank c hc)

theorem Refers.trim (h : Refers ns text) : Refers ns (trim text) := h.trimStart.trimEnd

/-! ## Pieces -/

/-- A text laid out line by line keeps its references when its lines do. -/
theorem Refers.mapLines {f : List Char → List Char} (hf : ∀ ns line, Refers ns line → Refers ns (f line))
    (h : Refers ns text) : Refers ns (Text.unlines ((Text.lines text).map f)) := by
  induction text using Text.lineInduction generalizing ns with
  | last piece hpiece =>
      rw [Text.lines_of_not_mem hpiece, List.map_singleton, Text.unlines, Text.join, List.intersperse_singleton,
        List.flatten_singleton]
      exact hf ns piece h
  | more piece rest hpiece ih =>
      obtain ⟨ns₁, ns₂, rfl, h₁, h₂⟩ := h.cut (by decide)
      obtain ⟨line, lines, hlines⟩ := List.exists_cons_of_ne_nil (Text.splitWhen_ne_nil (· == '\n') rest)
      have hrest : Text.lines rest = line :: lines := hlines
      have hmore := ih h₂
      rw [hrest, List.map_cons] at hmore
      rw [Text.lines_append hpiece, hrest, List.map_cons, List.map_cons, Text.unlines, Text.join_cons_cons]
      exact ((hf ns₁ piece h₁).append_text ['\n']).append hmore

/-- A text laid out between marks that share no character with references keeps its references when its pieces do. -/
theorem Refers.mapPieces {mark : List Char} (hne : mark ≠ []) (hmark : ∀ c ∈ mark, isReferenceChar c = false)
    {f : List Char → List Char} (hf : ∀ ns piece, Refers ns piece → Refers ns (f piece)) (sep : List Char)
    {ns : List Nat} {text : List Char} (h : Refers ns text) :
    Refers ns (Text.join sep ((Text.splitText mark text).map f)) := by
  rcases Text.splitText_eq hne text with hsplit | ⟨piece, rest, htext, hsplit⟩
  · rw [hsplit, List.map_singleton, Text.join, List.intersperse_singleton, List.flatten_singleton]
    exact hf ns text h
  · obtain ⟨c, cs, rfl⟩ := List.exists_cons_of_ne_nil hne
    rw [htext, List.append_assoc, List.cons_append] at h
    obtain ⟨hc, hcs⟩ := List.forall_mem_cons.mp hmark
    obtain ⟨ns₁, ns₂, rfl, h₁, h₂⟩ := h.cut hc
    have hopen : '[' ∉ cs := fun hmem => Bool.noConfusion (hcs '[' hmem)
    have hshorter : rest.length < text.length := by
      rw [htext, List.length_append, List.length_append, List.length_cons]
      omega
    have hmore := Refers.mapPieces hne hmark hf sep (h₂.of_prepend hopen)
    obtain ⟨next, pieces, hpieces⟩ := List.exists_cons_of_ne_nil (Text.splitTextFrom_ne_nil (c :: cs) 0 rest)
    have hrest : Text.splitText (c :: cs) rest = next :: pieces := hpieces
    rw [hrest, List.map_cons] at hmore
    rw [hsplit, hrest, List.map_cons, List.map_cons, Text.join_cons_cons]
    exact ((hf ns₁ piece h₁).append_text sep).append hmore
termination_by text.length

/-- The references that stand in the words of a row. -/
theorem Refers.words (h : Refers ns text) :
    ∃ parts, parts.flatten = ns ∧ List.Forall₂ Refers parts (Text.words text) := by
  have hpieces : ∀ {parts pieces}, List.Forall₂ Refers parts pieces →
      ∃ kept, kept.flatten = parts.flatten ∧ List.Forall₂ Refers kept (pieces.filter (!·.isEmpty)) := by
    intro parts pieces h
    induction h with
    | nil => exact ⟨[], rfl, .nil⟩
    | @cons ns piece parts pieces hpiece _ ih =>
        obtain ⟨kept, hkept, hall⟩ := ih
        cases piece with
        | nil =>
            rw [hpiece.eq_nil List.not_mem_nil, List.flatten_cons, List.nil_append]
            exact ⟨kept, hkept, hall⟩
        | cons c piece =>
            refine ⟨ns :: kept, ?_, .cons hpiece hall⟩
            rw [List.flatten_cons, List.flatten_cons, hkept]
  have hsplit : ∃ parts, parts.flatten = ns ∧ List.Forall₂ Refers parts (Text.splitWhen isBlank text) := by
    induction text using Text.pieceInduction isBlank generalizing ns with
    | last piece hpiece =>
        rw [Text.splitWhen_of_forall hpiece]
        exact ⟨[ns], List.flatten_singleton, .cons h .nil⟩
    | more piece c rest hpiece hc ih =>
        obtain ⟨ns₁, ns₂, rfl, h₁, h₂⟩ := h.cut (isReferenceChar_of_isBlank hc)
        obtain ⟨parts, hparts, hall⟩ := ih h₂
        rw [Text.splitWhen_append hpiece hc]
        exact ⟨ns₁ :: parts, by rw [List.flatten_cons, hparts], .cons h₁ hall⟩
  obtain ⟨parts, rfl, hall⟩ := hsplit
  exact hpieces hall

theorem refers_fill (width column : Nat) {parts : List (List Nat)} {words : List (List Char)}
    (h : List.Forall₂ Refers parts words) : Refers parts.flatten (Text.fill width column words) := by
  induction h generalizing column with
  | nil => exact .nil _
  | @cons ns word parts words hword hwords ih =>
      have hset : ∀ column gap, Refers (ns ++ parts.flatten) (gap ++ (word ++ Text.fill width column words)) :=
        fun column gap => (hword.append (ih column)).prepend gap
      unfold Text.fill
      rw [List.flatten_cons]
      split
      · exact hset _ ['\n']
      · split
        · exact hset _ [' ']
        · exact hset _ []

/-! ## Layouts -/

theorem Refers.wrap (h : Refers ns text) (width : Nat) : Refers ns (Text.wrap text width) := by
  have hline : ∀ ns line, Refers ns line → Refers ns (Text.fill width 0 (Text.words line)) := by
    intro ns line h
    obtain ⟨parts, rfl, hall⟩ := h.words
    exact refers_fill width 0 hall
  unfold Text.wrap
  split
  · exact h
  · exact h.mapLines hline

theorem isReferenceChar_of_mem_hardBreak : ∀ c ∈ hardBreak, isReferenceChar c = false := fun c hc =>
  isReferenceChar_of_isBlank (blank_hardBreak c hc)

theorem Refers.wrapSegments (h : Refers ns text) (width : Nat) : Refers ns (wrapSegments width text) :=
  h.mapPieces (List.cons_ne_nil _ _) isReferenceChar_of_mem_hardBreak (fun _ _ h => h.wrap width) hardBreak

theorem Refers.oneLine (h : Refers ns text) : Refers ns (oneLine text) := by
  have hpieces := h.mapPieces (List.cons_ne_nil _ _) isReferenceChar_of_mem_hardBreak (fun _ _ h => h) [' ']
  unfold Markdown.oneLine
  rw [Text.replace_eq_join]
  rw [List.map_id'] at hpieces
  exact hpieces

theorem Refers.breakLines (h : Refers ns text) : Refers ns (breakLines text) := by
  induction h with
  | nil => exact .nil _
  | cons gap n more ih =>
      have hline : '\n' ∉ noteReference n := fun hmem => Bool.noConfusion (isReferenceChar_of_mem hmem)
      rw [breakLines_append, breakLines_append, breakLines_of_not_mem hline]
      exact .cons (Markdown.breakLines gap) n ih

theorem Refers.escapeLineStart (h : Refers ns text) : Refers ns (escapeLineStart text) := by
  have hindent : text.takeWhile isSpaceOrTab ++ text.dropWhile isSpaceOrTab = text := List.takeWhile_append_dropWhile
  have hline : Refers ns (text.dropWhile isSpaceOrTab) := by
    rw [← hindent] at h
    refine h.of_prepend fun hmem => ?_
    exact absurd (List.all_eq_true.mp List.all_takeWhile '[' hmem) (by decide)
  have hstart := startEscape text
  generalize text.dropWhile isSpaceOrTab = line at hline hstart
  generalize Markdown.escapeLineStart text = written at hstart ⊢
  cases hstart with
  | marked => exact hline.prepend ['\\']
  | kept => exact hline
  | numbered number =>
      obtain ⟨rfl, hdigits, -⟩ := orderedMarker?_eq_some number
      have hopen := hline.of_prepend fun hmem => absurd (hdigits '[' hmem) (by decide)
      rw [← List.singleton_append, ← List.append_assoc]
      exact hopen.prepend _

theorem Refers.escapeBlockStarts (h : Refers ns text) : Refers ns (escapeBlockStarts text) :=
  h.mapLines fun _ _ h => h.escapeLineStart

/-! ## Blocks -/

theorem Refers.itemGlyph (h : Refers ns text) : Refers ns (itemGlyph text).2 := by
  have hglyph : ∀ {c rest}, c ≠ '[' → Refers ns (c :: rest) → Refers ns (Text.trimStart rest) := by
    intro c rest hc h
    have hrest : Refers ns ([c] ++ rest) := h
    exact (hrest.of_prepend fun hmem => hc (List.mem_singleton.mp hmem).symm).trimStart
  have hstart := h.trimStart
  unfold Markdown.itemGlyph
  split
  next rest htext => exact hglyph (by decide) (htext ▸ hstart)
  next rest htext => exact hglyph (by decide) (htext ▸ hstart)
  next rest htext => exact hglyph (by decide) (htext ▸ hstart)
  next => exact hstart

theorem Refers.keepHashes (h : Refers ns text) : Refers ns (keepHashes text) := by
  obtain ⟨last, hlast, hhashes⟩ := Text.eq_dropWhileEnd_append (· == '#') text
  have hcut : Refers ns (Text.dropWhileEnd (· == '#') text) := by
    rw [hlast] at h
    refine h.of_append_text fun c hc => ?_
    rw [beq_iff_eq.mp (hhashes c hc)]
    rfl
  unfold Markdown.keepHashes
  dsimp only
  split
  · exact hcut.append_text _
  · exact h

theorem Refers.headingText (settings : ExportSettings) (level : Nat) (h : Refers ns text) :
    Refers ns (headingText settings level text) := by
  have htitle := h.oneLine.trim
  unfold Markdown.headingText
  dsimp only
  split
  next hempty => exact List.isEmpty_iff.mp hempty ▸ htitle
  next =>
    split
    · exact (htitle.escapeBlockStarts.append_text _).append_text _
    · rw [List.append_assoc]
      exact ((htitle.keepHashes.append_text ['\n', '\n']).prepend [' ']).prepend _

theorem Refers.bodyText (settings : ExportSettings) (h : Refers ns text) : Refers ns (bodyText settings text) := by
  have htrim := h.trim
  unfold Markdown.bodyText
  split
  next hempty => exact List.isEmpty_iff.mp hempty ▸ htrim
  next =>
    cases settings.wrapWidth with
    | none => exact h.escapeBlockStarts.append_text _
    | some width => exact (h.wrapSegments width).escapeBlockStarts.append_text _

end Folio.Markdown
