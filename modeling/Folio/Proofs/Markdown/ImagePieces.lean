import Folio.Proofs.Markdown.Destinations

/-!
# The images in a text

Without definitions of references a text gets its images from brackets that close in front of a target in parentheses.
So the destination of an image is found in what was left to read when its bracket closed, and two parentheses and the
bracket with it.

* `AddsNone`, `Adds` : the reading goes on without new images, or with images whose destinations fit into what was left;
* `image_of_mem_closeBracket` : the one image that a closing bracket makes;
* `adds_readInline`, `adds_readAll` : each step of the reading adds no other images, and so does the whole of it;
* `mem_held_of_mem_readInlines` : the images in a text are among the pieces that the reading ends with.
-/

namespace Folio.Markdown

/-! ## What has been read -/

/-- The destination of a piece that is an image. -/
def Piece.destination? : Piece → Option String
  | .node ⟨.image destination _, _, _, _⟩ => some destination
  | _ => none

/-- The pieces that have been read, those in front of the open brackets among them. -/
def InlineState.held (s : InlineState) : List Piece := s.pieces ++ s.brackets.flatMap (·.before)

/-- Every image that has been read at `next` was read at `s`. -/
def AddsNone (s next : InlineState) : Prop := ∀ piece ∈ next.held, piece ∈ s.held ∨ piece.destination? = none

/-- Every image that has been read at `next` was read at `s`, or its destination fits, with two parentheses and a
bracket, into what was left there. -/
def Adds (s next : InlineState) : Prop :=
  ∀ piece ∈ next.held, ∀ destination ∈ piece.destination?, piece ∈ s.held ∨ destination.length + 3 ≤ s.rest.length

section AddsNone
variable {ctx : InlineContext} {s next last : InlineState}

theorem addsNone_refl (s : InlineState) : AddsNone s s := fun _ hpiece => .inl hpiece

theorem AddsNone.adds (h : AddsNone s next) : Adds s next := by
  intro piece hpiece destination hdestination
  refine .inl ((h piece hpiece).resolve_right fun hnone => ?_)
  rw [hnone] at hdestination
  cases hdestination

/-- Nothing but pieces and brackets matters. -/
theorem AddsNone.of_eq (h : AddsNone s next) (hpieces : last.pieces = next.pieces)
    (hbrackets : last.brackets = next.brackets) : AddsNone s last := by
  unfold AddsNone InlineState.held
  rw [hpieces, hbrackets]
  exact h

theorem AddsNone.advance (h : AddsNone s next) (n : Nat) : AddsNone s (next.advance n) := h.of_eq rfl rfl

theorem AddsNone.push (h : AddsNone s next) {piece : Piece} (hpiece : piece.destination? = none) :
    AddsNone s (next.push piece) :=
  List.forall_mem_cons.mpr ⟨.inr hpiece, h⟩

theorem AddsNone.pushText (h : AddsNone s next) {position : Nat} {text : List Char} :
    AddsNone s (next.pushText ctx position text) := h.push rfl

theorem addsNone_plain (n : Nat) : AddsNone s (s.plain ctx n) := (addsNone_refl s).pushText.advance n

/-! ## The readers of one part -/

theorem addsNone_readLineEnd : AddsNone s (readLineEnd ctx s) := by
  unfold readLineEnd
  dsimp only
  refine AddsNone.of_eq ((addsNone_refl s).push ?_) rfl rfl
  split <;> rfl

theorem addsNone_readBackslash : AddsNone s (readBackslash ctx s) := by
  unfold readBackslash
  split
  next =>
    split
    · exact (addsNone_refl s).pushText.advance 2
    · split
      · exact AddsNone.advance ((addsNone_refl s).push rfl) 2
      · exact addsNone_plain 1
  next => exact addsNone_plain 1

theorem addsNone_readAmpersand : AddsNone s (readAmpersand ctx s) := by
  unfold readAmpersand
  split
  · exact (addsNone_refl s).pushText.advance _
  · exact addsNone_plain 1

theorem addsNone_readLoneRow (n : Nat) : AddsNone s (readLoneRow ctx s n) :=
  ((addsNone_refl s).advance n).pushText

theorem addsNone_readBackticks : AddsNone s (readBackticks ctx s) := by
  unfold readBackticks
  dsimp only
  split
  · exact addsNone_readLoneRow _
  · split
    · refine AddsNone.of_eq (((addsNone_refl s).advance _).push ?_) rfl rfl
      rfl
    · exact (addsNone_readLoneRow _).of_eq rfl rfl

theorem addsNone_readDollars : AddsNone s (readDollars ctx s) := by
  unfold readDollars
  dsimp only
  split
  next =>
    refine AddsNone.advance (AddsNone.push ((addsNone_refl s).advance _) ?_) _
    split <;> rfl
  next => exact addsNone_readLoneRow _

theorem addsNone_readAngle : AddsNone s (readAngle ctx s) := by
  unfold readAngle
  dsimp only
  split
  next => exact AddsNone.advance ((addsNone_refl s).push rfl) _
  next =>
    split
    · exact AddsNone.advance ((addsNone_refl s).push rfl) _
    · exact addsNone_plain 1
    · exact (addsNone_plain 1).of_eq rfl rfl

theorem mem_dropText {n : Nat} {piece : Piece} {pieces : List Piece} (h : piece ∈ dropText n pieces) :
    piece ∈ pieces ∨ piece.destination? = none := by
  fun_induction dropText n pieces with
  | case1 => cases h
  | case2 => exact .inl h
  | case3 n rest hn text line column hshort =>
      rcases List.mem_cons.mp h with rfl | h
      · exact .inr rfl
      · exact .inl (List.mem_cons_of_mem _ h)
  | case4 n rest hn text line column hshort ih => exact (ih h).imp_left (List.mem_cons_of_mem _)
  | case5 => exact .inl h

theorem addsNone_readColon : AddsNone s (readColon ctx s) := by
  unfold readColon
  split
  next scheme address hmatch =>
    have hdropped : AddsNone s { s with pieces := dropText scheme.length s.pieces } := by
      intro piece hpiece
      rcases List.mem_append.mp hpiece with hpiece | hpiece
      · exact (mem_dropText hpiece).imp_left (List.mem_append_left _)
      · exact .inl (List.mem_append_right _ hpiece)
    exact (hdropped.push rfl).advance _
  next => exact addsNone_plain 1

theorem addsNone_readHostLetter : AddsNone s (readHostLetter ctx s) := by
  unfold readHostLetter
  split
  next => exact ((addsNone_refl s).push rfl).advance _
  next => exact addsNone_plain 1

theorem addsNone_readDelimiter (mark : Char) : AddsNone s (readDelimiter ctx s mark) :=
  ((addsNone_refl s).push rfl).advance _

theorem addsNone_readText : AddsNone s (readText ctx s) := by
  unfold readText
  dsimp only
  exact AddsNone.of_eq (addsNone_refl s).pushText rfl rfl

/-! ## Brackets -/

theorem held_openBracket (image : Bool) : (openBracket ctx s image).held = s.held := by
  unfold openBracket InlineState.held
  cases s.brackets with
  | nil => rfl
  | cons bracket outer => rfl

theorem addsNone_openBracket (image : Bool) : AddsNone s (openBracket ctx s image) := by
  unfold AddsNone
  rw [held_openBracket]
  exact addsNone_refl s

theorem addsNone_readExclamation : AddsNone s (readExclamation ctx s) := by
  unfold readExclamation
  split
  · split
    · exact addsNone_plain 1
    · exact addsNone_openBracket true
  · exact addsNone_plain 1

theorem mem_release {bracket : Bracket} {piece : Piece} {pieces : List Piece} (h : piece ∈ bracket.release pieces) :
    piece ∈ pieces ∨ piece ∈ bracket.before ∨ piece.destination? = none := by
  rcases List.mem_append.mp h with h | h
  · exact .inl h
  · rcases List.mem_cons.mp h with rfl | h
    · exact .inr (.inr rfl)
    · exact .inr (.inl h)

theorem held_of_open {bracket : Bracket} {outer : List Bracket} (hopen : s.brackets = bracket :: outer) :
    s.held = s.pieces ++ (bracket.before ++ outer.flatMap (·.before)) := by
  rw [InlineState.held, hopen, List.flatMap_cons]

/-- The pieces of a closed bracket, and those in front of it, have been read. -/
theorem addsNone_of_closed {bracket : Bracket} {outer : List Bracket} (hopen : s.brackets = bracket :: outer)
    (hbrackets : next.brackets = outer)
    (hpieces : ∀ piece ∈ next.pieces, piece ∈ s.pieces ∨ piece ∈ bracket.before ∨ piece.destination? = none) :
    AddsNone s next := by
  intro piece hpiece
  rw [held_of_open hopen]
  rcases List.mem_append.mp hpiece with hpiece | hpiece
  · rcases hpieces piece hpiece with hpiece | hpiece | hnone
    · exact .inl (List.mem_append_left _ hpiece)
    · exact .inl (List.mem_append_right _ (List.mem_append_left _ hpiece))
    · exact .inr hnone
  · rw [hbrackets] at hpiece
    exact .inl (List.mem_append_right _ (List.mem_append_right _ hpiece))

theorem inlineTarget?_of_targetOf? (hreferences : ctx.references = {}) {bracket : Bracket} {inside rest : List Char}
    {target : Target} {budget : Nat} (h : targetOf? ctx s bracket inside = some (target, rest, budget)) :
    inlineTarget? s.rest = some (target, rest) := by
  unfold targetOf? at h
  split at h
  next heq =>
    rw [heq]
    cases h
    rfl
  next =>
    rw [hreferences] at h
    cases hlabel : referenceLabel? bracket inside s.rest with
    | none => rw [hlabel] at h; cases h
    | some found => rw [hlabel] at h; cases h

/-- A closing bracket makes an image of what is in its pair, if a target follows, and no other. -/
theorem image_of_mem_closeBracket (hreferences : ctx.references = {}) {piece : Piece}
    (h : piece ∈ (closeBracket ctx s).held) (himage : piece.destination? ≠ none) :
    piece ∈ s.held ∨ ∃ bracket ∈ s.brackets, ∃ target rest, inlineTarget? (s.rest.drop 1) = some (target, rest) ∧
      piece = .node ⟨.image target.destination target.title, resolve s.pieces, bracket.line, bracket.column⟩ := by
  have hkept {next : InlineState} (hnone : AddsNone s next) (hpiece : piece ∈ next.held) : piece ∈ s.held :=
    (hnone piece hpiece).resolve_right himage
  revert h
  unfold closeBracket
  dsimp only
  rw [show (s.advance 1).brackets = s.brackets from rfl]
  cases hopen : s.brackets with
  | nil =>
      intro h
      refine .inl (hkept (AddsNone.pushText ?_) h)
      exact (addsNone_refl s).of_eq rfl hopen.symm
  | cons bracket outer =>
      have hfallen (next : InlineState) (hpieces : next.pieces = bracket.release s.pieces)
          (hbrackets : next.brackets = outer) : AddsNone s next :=
        addsNone_of_closed hopen hbrackets fun piece hpiece => mem_release (hpieces ▸ hpiece)
      dsimp only
      split
      · exact fun h => .inl (hkept (hfallen _ rfl rfl).pushText h)
      · split
        next target rest budget htarget =>
          intro h
          rcases List.mem_cons.mp h with rfl | h
          · right
            refine ⟨bracket, List.mem_cons_self, target, rest, inlineTarget?_of_targetOf? hreferences htarget, ?_⟩
            split at himage
            next hbracket =>
              rw [if_pos hbracket]
              rfl
            next => exact absurd rfl himage
          · rw [held_of_open hopen]
            exact .inl (List.mem_append_right _ h)
        next =>
          split
          next label hlabel =>
            refine fun h => .inl (hkept (addsNone_of_closed hopen rfl fun piece hpiece => ?_) h)
            rcases List.mem_append.mp hpiece with hpiece | hpiece
            · exact .inl (List.mem_of_mem_filter hpiece)
            · rcases List.mem_cons.mp hpiece with rfl | hpiece
              · exact .inr (.inr rfl)
              · exact .inr (.inl hpiece)
          next => exact fun h => .inl (hkept (hfallen _ rfl rfl).pushText h)

theorem adds_closeBracket (hreferences : ctx.references = {}) : Adds s (closeBracket ctx s) := by
  intro piece hpiece destination hdestination
  have himage : piece.destination? ≠ none := Option.ne_none_iff_exists'.mpr ⟨destination, hdestination⟩
  rcases image_of_mem_closeBracket hreferences hpiece himage with hpiece | ⟨bracket, -, target, rest, htarget, rfl⟩
  · exact .inl hpiece
  · obtain rfl : target.destination = destination := Option.some.inj hdestination
    have hfits := length_of_inlineTarget? htarget
    rw [List.length_drop] at hfits
    right
    omega

/-- A closing bracket is read, and its target if it has one. -/
theorem rest_closeBracket : (closeBracket ctx s).rest <:+ s.rest.drop 1 := by
  unfold closeBracket
  dsimp only
  split
  · exact List.suffix_refl _
  · split
    · exact List.suffix_refl _
    · split
      · exact List.drop_suffix _ _
      · split
        · exact List.suffix_refl _
        · exact List.suffix_refl _

/-! ## The whole text -/

theorem adds_readInline (hreferences : ctx.references = {}) (c : Char) : Adds s (readInline ctx s c) := by
  unfold readInline
  split
  next => exact addsNone_readLineEnd.adds
  next => exact addsNone_readBackticks.adds
  next => exact addsNone_readBackslash.adds
  next => exact addsNone_readAmpersand.adds
  next => exact addsNone_readAngle.adds
  next => exact (addsNone_readDelimiter _).adds
  next => exact (addsNone_readDelimiter _).adds
  next => exact (addsNone_openBracket _).adds
  next => exact adds_closeBracket hreferences
  next => exact addsNone_readExclamation.adds
  next => exact (addsNone_plain 1).adds
  next => exact (addsNone_plain 1).adds
  next => exact (addsNone_plain 1).adds
  next => exact (addsNone_plain 1).adds
  next =>
    split
    · exact (addsNone_readDelimiter _).adds
    · exact addsNone_readText.adds
  next =>
    split
    · exact addsNone_readColon.adds
    · exact (addsNone_plain 1).adds
  next =>
    split
    · exact addsNone_readHostLetter.adds
    · exact addsNone_readText.adds
  next =>
    split
    · exact addsNone_readDollars.adds
    · exact (addsNone_plain 1).adds
  next => exact addsNone_readText.adds

theorem adds_readAll (hreferences : ctx.references = {}) : Adds s (readAll ctx s) := by
  fun_induction readAll ctx s with
  | case1 s => exact (addsNone_refl s).adds
  | case2 s c tail hrest next hshorter ih =>
      intro piece hpiece destination hdestination
      rcases ih piece hpiece destination hdestination with hpiece | hlength
      · exact adds_readInline hreferences c piece hpiece destination hdestination
      · exact .inr (hlength.trans hshorter.le)
  | case3 s c tail hrest next => exact adds_readInline hreferences c

end AddsNone

/-! ## The nodes of a text -/

theorem mem_of_findOpener {closer opener : Delimiter} {after before inner outer : List Piece}
    (h : findOpener closer after before = some (inner, opener, outer)) {piece : Piece} (hpiece : piece ∈ outer) :
    piece ∈ before := by
  fun_induction findOpener closer after before with
  | case1 => cases h
  | case2 after d before hmatches =>
      cases h
      exact List.mem_cons_of_mem _ hpiece
  | case3 after d before hmatches ih => exact List.mem_cons_of_mem _ (ih h)
  | case4 after piece before hrow ih => exact List.mem_cons_of_mem _ (ih h)

theorem destination?_spend {d : Delimiter} {n : Nat} {piece : Piece} (h : piece ∈ d.spend n) :
    piece.destination? = none := by
  unfold Delimiter.spend at h
  split at h
  · cases h
  · rw [List.mem_singleton.mp h]
    rfl

theorem destination?_emphasisNode (opener : Delimiter) (used : Nat) (inner : List Piece) :
    (Piece.node (emphasisNode opener used inner)).destination? = none := by
  unfold emphasisNode
  dsimp only
  split <;> rfl

theorem mem_of_emphasis {closer opener : Delimiter} {before inner outer : List Piece} {used : Nat}
    (hfound : (if closer.closes = true then findOpener closer [] before else none) = some (inner, opener, outer))
    {piece : Piece} (himage : piece.destination? ≠ none)
    (h : piece ∈ .node (emphasisNode opener used inner) :: (opener.spend used ++ outer)) : piece ∈ before := by
  rcases List.mem_cons.mp h with rfl | h
  · exact absurd (destination?_emphasisNode ..) himage
  · rcases List.mem_append.mp h with h | h
    · exact absurd (destination?_spend h) himage
    · split at hfound
      · exact mem_of_findOpener hfound h
      · cases hfound

/-- The matching of emphasis makes no images. -/
theorem mem_of_mem_matchPieces {before pieces : List Piece} {piece : Piece} (h : piece ∈ matchPieces before pieces)
    (himage : piece.destination? ≠ none) : piece ∈ before ∨ piece ∈ pieces := by
  fun_induction matchPieces before pieces with
  | case1 before => exact .inl (List.mem_reverse.mp h)
  | case2 before closer rest hnone ih =>
      -- the piece goes over from the pieces that follow to those that have been gone through
      rw [List.mem_cons, or_left_comm, ← or_assoc, ← List.mem_cons]
      exact ih h
  | case3 before closer rest inner opener outer hfound used huneven =>
      exact (List.mem_append.mp h).imp_left List.mem_reverse.mp
  | case4 before closer rest inner opener outer hfound used heven node matched hspent ih =>
      exact (ih h).imp (mem_of_emphasis hfound himage) (List.mem_cons_of_mem _)
  | case5 before closer rest inner opener outer hfound used heven node matched hleft ih =>
      refine (ih h).imp (mem_of_emphasis hfound himage) fun hpiece => ?_
      rcases List.mem_cons.mp hpiece with rfl | hpiece
      · exact absurd rfl himage
      · exact List.mem_cons_of_mem _ hpiece
  | case6 before piece rest hrow ih =>
      rw [List.mem_cons, or_left_comm, ← or_assoc, ← List.mem_cons]
      exact ih h

theorem destination?_of_kind {node : Node} {destination title : String} (h : node.kind = .image destination title) :
    (Piece.node node).destination? = some destination := by
  obtain ⟨kind, children, line, column⟩ := node
  obtain rfl : kind = _ := h
  rfl

theorem destination?_ne_none {node : Node} {destination title : String} (h : node.kind = .image destination title) :
    (Piece.node node).destination? ≠ none := by
  rw [destination?_of_kind h]
  exact Option.some_ne_none _

theorem mem_of_mem_resolve {pieces : List Piece} {node : Node} {destination title : String}
    (h : node ∈ resolve pieces) (himage : node.kind = .image destination title) : .node node ∈ pieces := by
  obtain ⟨piece, hpiece, rfl⟩ := List.mem_map.mp h
  cases piece with
  | node content =>
      have hkind : content.kind = .image destination title := himage
      exact (mem_of_mem_matchPieces hpiece (destination?_ne_none hkind)).elim nofun List.mem_reverse.mp
  | html source line column => cases himage
  | delimiter row => cases himage

/-- The brackets that are still open at the end become text. -/
theorem mem_of_mem_foldl_release {brackets : List Bracket} {pieces : List Piece} {piece : Piece}
    (h : piece ∈ brackets.foldl (fun pieces bracket => bracket.release pieces) pieces)
    (himage : piece.destination? ≠ none) : piece ∈ pieces ++ brackets.flatMap (·.before) := by
  induction brackets generalizing pieces with
  | nil => exact List.mem_append_left _ h
  | cons bracket outer ih =>
      rw [List.flatMap_cons, List.mem_append, List.mem_append]
      rcases List.mem_append.mp (ih h) with h | h
      · rcases mem_release h with h | h | hnone
        · exact .inl h
        · exact .inr (.inl h)
        · exact absurd hnone himage
      · exact .inr (.inr h)

theorem mem_held_of_mem_readInlines {features : Features} {budget line : Nat} {text : RawText} {node : Node}
    {destination title : String} (h : node ∈ (readInlines features {} budget line text).1)
    (himage : node.kind = .image destination title) :
    .node node ∈
      (readAll ⟨features, {}, line, text.offsets⟩ { rest := trimSpaceEnd text.chars, line, budget }).held :=
  mem_of_mem_foldl_release (mem_of_mem_resolve h himage) (destination?_ne_none himage)

end Folio.Markdown
