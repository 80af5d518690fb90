import Folio.Proofs.Files.ImageLinks
import Folio.Proofs.Markdown.BracketText
import Folio.Proofs.Markdown.ImagePieces

/-!
# Links to images, read back

The text of an image and the destination of its link are written as they are. Where nothing in the text is live, what is
written is read as that image exactly when the brackets in the text close in pairs and the destination can stand without
angle brackets: an unmatched bracket, a space, a parenthesis too many or a reference makes something else of it.

* `textChars_image` : the text of an image with nothing but text in it;
* `exists_walking_imageText` : the reading of a written image gets to the bracket behind its text;
* `readInlines_imageText_iff` : what is written for a text and a destination is read as that image;
* `image_read_back_iff` : so for the images of a document.
-/

namespace Folio.Markdown

/-! ## The text of an image -/

theorem matchPieces_texts {before pieces : List Piece} (h : ∀ piece ∈ pieces, piece.IsText) :
    matchPieces before pieces = before.reverse ++ pieces := by
  induction pieces generalizing before with
  | nil => rw [matchPieces, List.append_nil]
  | cons piece rest ih =>
      obtain ⟨⟨text, line, column, -, rfl⟩, hrest⟩ := List.forall_mem_cons.mp h
      rw [matchPieces, ih hrest, List.reverse_cons, List.append_assoc, List.singleton_append]
      intro row hrow
      cases hrow

theorem textOfAll_texts {pieces : List Piece} (h : ∀ piece ∈ pieces, piece.IsText) (first : Bool) :
    textOfAll first (pieces.map Piece.toNode) = (pieces.filterMap Piece.source?).flatten := by
  induction pieces generalizing first with
  | nil => rfl
  | cons piece rest ih =>
      obtain ⟨⟨text, line, column, -, rfl⟩, hrest⟩ := List.forall_mem_cons.mp h
      rw [List.filterMap_cons_some (source?_textNode ..), List.map_cons, List.flatten_cons, ← ih hrest first]
      simp [textOfAll, Piece.toNode, textNode, Kind.isInline, Node.textChars, Kind.ownText]

theorem textChars_image {pieces : List Piece} (h : ∀ piece ∈ pieces, piece.IsText) (destination title : String)
    (line column : Nat) :
    Node.textChars ⟨.image destination title, resolve pieces, line, column⟩ = textIn pieces := by
  have hreverse : ∀ piece ∈ pieces.reverse, piece.IsText := fun piece hpiece => h piece (List.mem_reverse.mp hpiece)
  change textOfAll true (resolve pieces) = _
  rw [resolve, matchPieces_texts hreverse, List.reverse_nil, List.nil_append, textOfAll_texts hreverse, textIn]

/-! ## The bracket behind the text -/

section Closing
variable (ctx : InlineContext) {s : InlineState} {alt link : List Char}

theorem exists_walking_imageText (hreferences : ctx.references = {}) (hquiet : Quiet ctx.features alt)
    (hrest : s.rest = Folio.imageText alt link) (hpieces : s.pieces = []) (hbrackets : s.brackets = []) :
    ∃ last, readAll ctx s = readAll ctx last ∧ last.rest = ']' :: '(' :: (link ++ [')']) ∧ Walking last alt := by
  have htext : s.rest = '!' :: '[' :: (alt ++ ']' :: '(' :: (link ++ [')'])) := by
    rw [hrest]
    simp [Folio.imageText]
  have hhead : (alt ++ ']' :: '(' :: (link ++ [')'])).head? ≠ some '^' := by
    cases alt with
    | nil => exact fun heq => absurd (Option.some.inj heq) (by decide)
    | cons c alt =>
        intro heq
        obtain rfl : c = '^' := Option.some.inj heq
        exact (dead_of_escapeInline hquiet.escaped (List.suffix_refl _)).2 (.inr (.inl ⟨rfl, rfl⟩))
  have hstep : readInline ctx s '!' = openBracket ctx s true := by
    change readExclamation ctx s = _
    unfold readExclamation
    rw [htext]
    exact if_neg hhead
  have hnext : (openBracket ctx s true).rest = alt ++ ']' :: '(' :: (link ++ [')']) := by
    change s.rest.drop 2 = _
    rw [htext]
    rfl
  have hopened : (openBracket ctx s true).brackets =
      [⟨true, s.line, s.columnOf ctx s.position, [], s.rest.drop 2, false⟩] := by
    unfold openBracket
    rw [hbrackets, hpieces]
    rfl
  have hwalking : Walking (openBracket ctx s true) [] := by
    refine ⟨?_, nofun, ?_, ?_, .inl rfl⟩
    · rw [hopened]
      rfl
    · rw [hopened]
      exact List.forall_mem_singleton.mpr nofun
    · rw [hopened]
      exact ⟨[], _, rfl, rfl, rfl, rfl⟩
  obtain ⟨last, hall, hlast⟩ := exists_walking_readAll hreferences hwalking hquiet hnext
  refine ⟨last, ?_, hlast⟩
  rw [← hall, ← hstep]
  refine readAll_of_shorter htext ?_
  rw [hstep, hnext, htext]
  simp only [List.length_cons]
  omega

/-- The bracket of an image closes in front of a target, and nothing is left. -/
theorem closeBracket_image {tail : List Char} {first : Bracket} {target : Target} (hrest : s.rest = ']' :: tail)
    (hopen : s.brackets = [first]) (himage : first.image = true) (hbefore : first.before = [])
    (htarget : inlineTarget? tail = some (target, [])) :
    (closeBracket ctx s).rest = [] ∧ (closeBracket ctx s).brackets = [] ∧
      (closeBracket ctx s).pieces =
        [.node ⟨.image target.destination target.title, resolve s.pieces, first.line, first.column⟩] := by
  have hbehind := rest_advance hrest
  have hfound (next : InlineState) (hnext : next.rest = tail) (inside : List Char) :
      targetOf? ctx next first inside = some (target, [], next.budget) := by
    unfold targetOf?
    rw [hnext, htarget]
  unfold closeBracket
  dsimp only
  rw [show (s.advance 1).brackets = s.brackets from rfl, hopen]
  dsimp only
  rw [if_neg fun h => by simp [himage] at h, hfound]
  · dsimp only
    rw [himage, hbefore]
    exact ⟨List.drop_length, rfl, rfl⟩
  · exact hbehind

end Closing

/-! ## Images, read back -/

section Reading
variable {features : Features} {ctx : InlineContext} {last : InlineState} {alt link : List Char}

theorem trimSpaceEnd_imageText (alt link : List Char) :
    trimSpaceEnd (Folio.imageText alt link) = Folio.imageText alt link := by
  unfold trimSpaceEnd Text.dropWhileEnd Folio.imageText
  rw [List.reverse_append, List.reverse_singleton, List.singleton_append, List.dropWhile_cons_of_neg (by decide),
    List.reverse_cons, List.reverse_reverse]

/-- The bracket behind the text is read as a closing one. -/
theorem readAll_closeBracket {tail : List Char} (hrest : last.rest = ']' :: tail) :
    readAll ctx last = readAll ctx (closeBracket ctx last) := by
  refine readAll_of_shorter hrest ?_
  have hshorter : (closeBracket ctx last).rest.length ≤ (last.rest.drop 1).length := rest_closeBracket.length_le
  rw [hrest] at hshorter ⊢
  exact Nat.lt_succ_of_le hshorter

theorem readAll_of_closed (ctx : InlineContext) (hslash : '\\' ∉ link) (hwalking : Walking last alt)
    (hrest : last.rest = ']' :: '(' :: (link ++ [')'])) (hclosed : openAfter '[' ']' 0 alt = some 0)
    (hdestination : IsDestination link) :
    ∃ line column, (readAll ctx last).brackets = [] ∧
      (readAll ctx last).pieces = [.node ⟨.image (String.ofList link) "", resolve last.pieces, line, column⟩] := by
  obtain ⟨first, hopen, himage, hbefore, -⟩ := hwalking.alone hclosed
  obtain ⟨hend, hbrackets, hpieces⟩ := closeBracket_image ctx hrest hopen himage hbefore
    (inlineTarget?_of_isDestination hdestination hslash)
  have hall : readAll ctx last = closeBracket ctx last := by
    rw [readAll_closeBracket hrest, readAll]
    split
    next => rfl
    next heq => rw [hend] at heq; cases heq
  rw [hall]
  exact ⟨first.line, first.column, hbrackets, hpieces⟩

/-- An image with the destination has been made of the text by the bracket behind it. -/
theorem isDestination_of_mem_readAll (hreferences : ctx.references = {}) (hslash : '\\' ∉ link)
    (hwalking : Walking last alt) (hrest : last.rest = ']' :: '(' :: (link ++ [')'])) {node : Node} {title : String}
    (hmem : .node node ∈ (readAll ctx last).held) (hkind : node.kind = .image (String.ofList link) title)
    (htext : node.textChars = alt) :
    openAfter '[' ']' 0 alt = some 0 ∧ IsDestination link := by
  have himage : (Piece.node node).destination? ≠ none := destination?_ne_none hkind
  have hbehind : last.rest.drop 1 = '(' :: (link ++ [')']) := rest_advance hrest
  -- what is left behind the bracket is too short for the destination and another bracket
  have hclose : .node node ∈ (closeBracket ctx last).held := by
    rw [readAll_closeBracket hrest] at hmem
    refine (adds_readAll hreferences _ hmem _ (destination?_of_kind hkind)).resolve_right fun hfits => ?_
    have hshorter : (closeBracket ctx last).rest.length ≤ (last.rest.drop 1).length := rest_closeBracket.length_le
    rw [hbehind] at hshorter
    simp only [String.length_ofList, List.length_cons, List.length_append, List.length_nil] at hfits hshorter
    omega
  rcases image_of_mem_closeBracket hreferences hclose himage with hheld | ⟨bracket, hopen, target, rest, htarget, hnode⟩
  · have hpiece : (Piece.node node).IsText := by
      rcases List.mem_append.mp hheld with hpiece | hpiece
      · exact hwalking.pieces _ hpiece
      · obtain ⟨bracket, hbracket, hpiece⟩ := List.mem_flatMap.mp hpiece
        exact hwalking.before bracket hbracket _ hpiece
    obtain ⟨text, line, column, -, heq⟩ := hpiece
    rw [heq] at himage
    exact absurd rfl himage
  · rw [hbehind] at htarget
    obtain rfl := Piece.node.inj hnode
    rw [textChars_image hwalking.pieces] at htext
    obtain ⟨hlink, -⟩ := Kind.image.inj hkind
    exact ⟨hwalking.openAfter_eq (List.ne_nil_of_mem hopen) htext, isDestination_of_inlineTarget? hslash htarget hlink⟩

/-- **What is written for an image is read as that image exactly when the brackets in its text close in pairs and its
destination needs no angle brackets.** -/
theorem readInlines_imageText_iff (hquiet : Quiet features alt) (hslash : '\\' ∉ link) (budget line : Nat)
    (offsets : List Nat) :
    (∃ node title, (readInlines features {} budget line ⟨Folio.imageText alt link, offsets⟩).1 = [node] ∧
        node.kind = .image (String.ofList link) title ∧ node.textChars = alt) ↔
      openAfter '[' ']' 0 alt = some 0 ∧ IsDestination link := by
  obtain ⟨last, hall, hrest, hwalking⟩ := exists_walking_imageText ⟨features, {}, line, offsets⟩
    (s := { rest := Folio.imageText alt link, line, budget }) rfl hquiet rfl rfl rfl
  constructor
  · rintro ⟨node, title, hnodes, hkind, htext⟩
    have hmem : node ∈ (readInlines features {} budget line ⟨Folio.imageText alt link, offsets⟩).1 := by
      rw [hnodes]
      exact List.mem_singleton_self node
    have hheld := mem_held_of_mem_readInlines hmem hkind
    rw [trimSpaceEnd_imageText, hall] at hheld
    exact isDestination_of_mem_readAll rfl hslash hwalking hrest hheld hkind htext
  · rintro ⟨hclosed, hdestination⟩
    obtain ⟨line', column, hbrackets, hpieces⟩ := readAll_of_closed ⟨features, {}, line, offsets⟩ hslash hwalking
      hrest hclosed hdestination
    obtain ⟨-, -, -, -, hshown⟩ := hwalking.alone hclosed
    refine ⟨⟨.image (String.ofList link) "", resolve last.pieces, line', column⟩, "", ?_, rfl, ?_⟩
    · unfold readInlines
      dsimp only
      rw [trimSpaceEnd_imageText, hall, hbrackets, hpieces]
      exact resolve_node _
    · rw [textChars_image hwalking.pieces, hshown]

end Reading

/-! ## The images of a document -/

/-- The destination that is written for an image with its number. -/
def writtenDestination (settings : ExportSettings) (entry : MediaRef × Nat) : List Char :=
  Media.linkPath (imageTarget settings entry).toList (settings.images.linkBase.map String.toList)

theorem slash_not_mem_linkPath (target : List Char) (base : Option (List Char)) :
    '\\' ∉ Media.linkPath target base := by
  unfold Media.linkPath FilePath.forwardSlashes
  intro hmem
  obtain ⟨c, -, hc⟩ := List.mem_map.mp hmem
  split at hc
  next => cases hc
  next hne => exact hne hc

/-- **Images are read back exactly when their texts are balanced and their destinations are bare.** While images are
extracted, a run with an image is written as an image with a link. Where nothing in its text is live, that is read as
one image with the text of the image and the destination of the link exactly when the brackets in the text close in
pairs and the destination needs no angle brackets and has no reference in it. -/
theorem image_read_back_iff (settings : ExportSettings) (doc : Document) (hextract : settings.images.extract = true)
    {run : Run} (hfootnote : run.footnote = none) {index : Nat} (hmedia : run.media = some index) {image : MediaRef}
    (himage : doc.media[index]? = some image) (order : NoteOrder) {features : Features}
    (hquiet : Quiet features image.alt.toList) (budget line : Nat) (offsets : List Nat) :
    let destination := writtenDestination settings (image, index + 1)
    (∃ node title,
        (readInlines features {} budget line ⟨(runText settings doc order run).1, offsets⟩).1 = [node] ∧
          node.kind = .image (String.ofList destination) title ∧ node.textContent = image.alt) ↔
      openAfter '[' ']' 0 image.alt.toList = some 0 ∧ IsDestination destination := by
  intro destination
  have htext (node : Node) : node.textContent = image.alt ↔ node.textChars = image.alt.toList := by
    rw [Node.textContent, ← String.toList_inj, String.toList_ofList]
  have hwritten : (runText settings doc order run).1 = Folio.imageText image.alt.toList destination := by
    rw [runText_image hextract hfootnote hmedia himage order]
    rfl
  simp only [hwritten, htext]
  exact readInlines_imageText_iff hquiet (slash_not_mem_linkPath _ _) budget line offsets

/-- Brackets that close in pairs are no hindrance. -/
theorem image_read_back_iff_pairs :
    let image : MediaRef := { source := "pics/cat.png", alt := "a [very [small]] cat" }
    let doc : Document := { media := [image] }
    let settings : ExportSettings := { images := { extract := true } }
    let run : Run := { text := "[Image: a cat]", media := some 0 }
    (settings.images.extract = true ∧ run.footnote = none ∧ run.media = some 0 ∧ doc.media[0]? = some image ∧
        Quiet {} image.alt.toList) ∧
      ∃ node title,
        (readInlines {} {} leastBudget 1 ⟨(runText settings doc [] run).1, [0]⟩).1 = [node] ∧
          node.kind = .image "images/image1.png" title ∧ node.textContent = "a [very [small]] cat" := by
  intro image doc settings run
  have hquiet : Quiet {} image.alt.toList := by decide
  have hlink : writtenDestination settings (image, 1) = "images/image1.png".toList := by decide +kernel
  have hfootnote : run.footnote = none := rfl
  have himage : doc.media[0]? = some image := rfl
  obtain ⟨node, title, hnodes, hkind, htext⟩ :=
    (image_read_back_iff settings doc rfl hfootnote rfl himage [] hquiet leastBudget 1 [0]).mpr
      ⟨by decide, by rw [hlink]; decide +kernel⟩
  rw [hlink, String.ofList_toList] at hkind
  exact ⟨⟨rfl, rfl, rfl, rfl, hquiet⟩, node, title, hnodes, hkind, htext⟩

/-- A text that closes the bracket in front of it is read as no image. -/
theorem image_read_back_closed :
    let image : MediaRef := { source := "pics/cat.png", alt := "a]b" }
    let doc : Document := { media := [image] }
    let settings : ExportSettings := { images := { extract := true } }
    let run : Run := { text := "[Image: a]b]", media := some 0 }
    (runText settings doc [] run).1 = "![a]b](images/image1.png)".toList ∧
      ¬ ∃ node title,
        (readInlines {} {} leastBudget 1 ⟨(runText settings doc [] run).1, [0]⟩).1 = [node] ∧
          node.kind = .image "images/image1.png" title ∧ node.textContent = "a]b" := by
  intro image doc settings run
  have hwritten : (runText settings doc [] run).1 = "![a]b](images/image1.png)".toList := by decide +kernel
  refine ⟨hwritten, ?_⟩
  rintro ⟨node, title, hnodes, hkind, htext⟩
  have hchars : node.textChars = "a]b".toList := by
    rw [← htext, Node.textContent, String.toList_ofList]
  have hquiet : Quiet {} "a]b".toList := by decide
  have hslash : '\\' ∉ "images/image1.png".toList := by decide
  rw [hwritten] at hnodes
  have hclosed := (readInlines_imageText_iff hquiet hslash leastBudget 1 [0]).mp ⟨node, title, hnodes, hkind, hchars⟩
  exact absurd hclosed.1 (by decide)

end Folio.Markdown
