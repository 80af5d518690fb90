import Folio.Proofs.Math.MarkupTags

/-!
# Reading equation markup back

The XML of markup is read character by character into pieces, with the open elements on a stack; the pieces are then
taken for markup. What was written comes back: which part is which, whether a root has a degree, where one run ends and
the next begins, and the text of the runs.

* `Markup.ofXml` : the markup that a text is the XML of;
* `ReadsAs text pieces` : from wherever text is expected, `text` adds `pieces` to what was read;
* `ReadsAs.enclose`, `readsAs_escapeXml` : elements and their texts are read as what they are;
* `xmlChars_readsAs` : markup is read as a piece that is taken for it;
* `toXml_unambiguous` : so no two markups have the same XML.
-/

namespace Folio.Math

/-! ## From characters to pieces -/

/-- A character of text, or an element with what stands between its tags. -/
inductive Piece where
  | char (c : Char)
  | element (tag : Tag) (contents : List Piece)
  deriving Repr

/-- The tag of an element with contents at either end, or of one without. -/
inductive TagKind where
  | opening
  | closing
  | empty
  deriving DecidableEq, Repr

/-- What stands between the angle brackets of a tag. -/
def TagKind.inside (tag : Tag) : TagKind → List Char
  | opening => tag.xml.chars
  | closing => '/' :: tag.xml.name.chars
  | empty => tag.xml.chars ++ ['/']

/-- All elements. -/
def Tag.all : List Tag := [
  .math, .run, .text, .fraction, .num, .den, .radical, .radicalSettings, .hideDegree, .degree, .base, .superscript,
  .subscript, .bothScripts, .sup, .sub]

/-- The tag with the given text between its angle brackets. -/
def readTag (inside : List Char) : Option (TagKind × Tag) :=
  (Tag.all.flatMap fun tag => [(.opening, tag), (.closing, tag), (.empty, tag)]).find? fun (kind, tag) =>
    kind.inside tag = inside

/-- What the next character belongs to. -/
inductive Pending where
  | text
  | reference (name : List Char)
  | tag (inside : List Char)
  deriving Repr

/-- How far a document has been read. -/
structure Reader where
  /-- The open elements, the innermost first, each with the pieces in front of it. -/
  outer : List (Tag × List Piece)
  /-- The pieces behind the innermost start tag. -/
  row : List Piece
  pending : Pending
  deriving Repr

namespace Reader
variable (reader : Reader)

/-- At the end of a tag. An end tag belongs to the innermost open element. -/
def takeTag : TagKind × Tag → Option Reader
  | (.opening, tag) => some ⟨(tag, reader.row) :: reader.outer, [], .text⟩
  | (.empty, tag) => some ⟨reader.outer, reader.row ++ [.element tag []], .text⟩
  | (.closing, tag) =>
    match reader.outer with
    | (opened, before) :: outer =>
      if opened = tag then some ⟨outer, before ++ [.element tag reader.row], .text⟩ else none
    | [] => none

/-- One character more. -/
def step (c : Char) : Option Reader :=
  match reader.pending with
  | .text =>
    if c = '<' then some { reader with pending := .tag [] }
    else if c = '&' then some { reader with pending := .reference [] }
    else some { reader with row := reader.row ++ [.char c] }
  | .reference name =>
    if c = ';' then do
      let entity ← Xml.entities.find? (·.1.toList = name)
      return { reader with row := reader.row ++ [.char entity.2], pending := .text }
    else some { reader with pending := .reference (name ++ [c]) }
  | .tag inside =>
    if c = '>' then (readTag inside).bind reader.takeTag
    else some { reader with pending := .tag (inside ++ [c]) }

end Reader

/-- The pieces of a document whose elements are all closed. -/
def readPieces (text : List Char) : Option (List Piece) :=
  match text.foldlM Reader.step ⟨[], [], .text⟩ with
  | some ⟨[], row, .text⟩ => some row
  | _ => none

/-! ## From pieces to markup -/

/-- The text that the pieces are, if they are characters. -/
def ofChars (pieces : List Piece) : Option (List Char) :=
  pieces.mapM fun piece => match piece with
    | .char c => some c
    | .element _ _ => none

mutual

/-- The markup that a piece is. -/
def Piece.markup? : Piece → Option Markup
  | .element .math row => return .math (← rowMarkup? row)
  | .element .run [.element .text pieces] => return .run (String.ofList (← ofChars pieces))
  | .element .fraction [.element .num num, .element .den den] =>
    return .fraction (← rowMarkup? num) (← rowMarkup? den)
  | .element .radical
      [.element .radicalSettings [.element .hideDegree []], .element .degree [], .element .base radicand] =>
    return .sqrt (← rowMarkup? radicand)
  | .element .radical [.element .degree degree, .element .base radicand] =>
    return .root (← rowMarkup? degree) (← rowMarkup? radicand)
  | .element .superscript [.element .base base, .element .sup exponent] =>
    return .sup (← rowMarkup? base) (← rowMarkup? exponent)
  | .element .subscript [.element .base base, .element .sub subscript] =>
    return .sub (← rowMarkup? base) (← rowMarkup? subscript)
  | .element .bothScripts [.element .base base, .element .sub subscript, .element .sup exponent] =>
    return .subsup (← rowMarkup? base) (← rowMarkup? subscript) (← rowMarkup? exponent)
  | _ => none

/-- The markup that the pieces of a row are. -/
def rowMarkup? : List Piece → Option (List Markup)
  | [] => some []
  | piece :: row => return (← piece.markup?) :: (← rowMarkup? row)

end

/-- The markup that a text is the XML of. -/
def Markup.ofXml (xml : String) : Option Markup := do
  match ← readPieces xml.toList with
  | [piece] => piece.markup?
  | _ => none

/-! ## What is written is read -/

theorem readTag_inside (kind : TagKind) (tag : Tag) : readTag (kind.inside tag) = some (kind, tag) := by
  cases kind <;> cases tag <;> decide +kernel

/-- From wherever text is expected, reading `text` adds `pieces` to what was read. -/
def ReadsAs (text : List Char) (pieces : List Piece) : Prop :=
  ∀ outer row, text.foldlM Reader.step ⟨outer, row, .text⟩ = some ⟨outer, row ++ pieces, .text⟩

section ReadsAs
variable {xs ys : List Char} {pieces pieces' : List Piece}

theorem ReadsAs.nil : ReadsAs [] [] := fun outer row => by simp

theorem ReadsAs.append (h : ReadsAs xs pieces) (h' : ReadsAs ys pieces') : ReadsAs (xs ++ ys) (pieces ++ pieces') := by
  intro outer row
  rw [List.foldlM_append, h outer row, Option.bind_eq_bind, Option.bind_some, h' outer, List.append_assoc]

/-- A character of text is read as itself, when it is written as a reference as well. -/
theorem readsAs_escapeXmlChar (c : Char) : ReadsAs (escapeXmlChar c) [.char c] := by
  intro outer row
  unfold escapeXmlChar
  split
  · rfl
  · rfl
  · rfl
  · rfl
  · rfl
  · rename_i hamp hlt _ _ _
    simp [Reader.step, if_neg hamp, if_neg hlt]

theorem readsAs_escapeXml (text : List Char) : ReadsAs (escapeXml text) (text.map .char) := by
  induction text with
  | nil => exact .nil
  | cons c text ih => exact (readsAs_escapeXmlChar c).append ih

/-- The reader takes the text up to the end of a tag as one. -/
theorem foldlM_inside (reader : Reader) {inside : List Char} (before : List Char) (h : '>' ∉ inside) :
    (inside ++ ['>']).foldlM Reader.step { reader with pending := .tag before } =
      (readTag (before ++ inside)).bind reader.takeTag := by
  induction inside generalizing before with
  | nil => simp [Reader.step]; rfl
  | cons c inside ih =>
      have hc : c ≠ '>' := fun hc => h (hc ▸ List.mem_cons_self)
      have := ih (before ++ [c]) fun hm => h (List.mem_cons_of_mem c hm)
      simpa [Reader.step, hc] using this

theorem foldlM_tag (kind : TagKind) (tag : Tag) (outer : List (Tag × List Piece)) (row : List Piece) :
    ('<' :: (kind.inside tag ++ ['>'])).foldlM Reader.step ⟨outer, row, .text⟩ =
      Reader.takeTag ⟨outer, row, .text⟩ (kind, tag) := by
  have inside : '>' ∉ kind.inside tag := by cases kind <;> cases tag <;> decide +kernel
  have read := foldlM_inside ⟨outer, row, .text⟩ [] inside
  rw [List.nil_append, readTag_inside, Option.bind_some] at read
  rw [List.foldlM_cons, ← read]
  rfl

/-- An element is read as one piece, whatever stands in front of it. -/
theorem ReadsAs.enclose (tag : Tag) (h : ReadsAs xs pieces) : ReadsAs (tag.enclose xs) [.element tag pieces] := by
  intro outer row
  have split : tag.enclose xs =
      '<' :: (TagKind.opening.inside tag ++ ['>']) ++ xs ++ '<' :: (TagKind.closing.inside tag ++ ['>']) := by
    simp [Tag.enclose, Xml.Tag.enclose, TagKind.inside]
  rw [split, List.foldlM_append, List.foldlM_append, foldlM_tag, Reader.takeTag, Option.bind_eq_bind, Option.bind_some,
    h, Option.bind_some, foldlM_tag, Reader.takeTag]
  simp

theorem readsAs_empty (tag : Tag) : ReadsAs tag.empty [.element tag []] := by
  intro outer row
  have split : tag.empty = '<' :: (TagKind.empty.inside tag ++ ['>']) := by
    simp [Tag.empty, Xml.Tag.empty, TagKind.inside]
  rw [split, foldlM_tag]
  rfl

end ReadsAs

/-! ## What is read is the markup -/

theorem ofChars_map (text : List Char) : ofChars (text.map .char) = some text := by
  induction text with
  | nil => rfl
  | cons c text ih =>
      rw [ofChars] at ih ⊢
      rw [List.map_cons, List.mapM_cons, ih]
      rfl

mutual

/-- The XML of an element is read as a piece that is taken for the element. -/
theorem xmlChars_readsAs : ∀ markup : Markup, ∃ piece, ReadsAs markup.xmlChars [piece] ∧ piece.markup? = some markup
  | .math row => by
    obtain ⟨pieces, h, hm⟩ := xmlAll_readsAs row
    exact ⟨_, xmlChars_math row ▸ h.enclose .math, by simp [Piece.markup?, hm]⟩
  | .run text => by
    have read := ((readsAs_escapeXml text.toList).enclose .text).enclose .run
    exact ⟨_, xmlChars_run text ▸ read, by simp [Piece.markup?, ofChars_map]⟩
  | .fraction num den => by
    obtain ⟨num', hnum, hnum'⟩ := xmlAll_readsAs num
    obtain ⟨den', hden, hden'⟩ := xmlAll_readsAs den
    have read := ((hnum.enclose .num).append (hden.enclose .den)).enclose .fraction
    exact ⟨_, xmlChars_fraction num den ▸ read, by simp [Piece.markup?, hnum', hden']⟩
  | .sqrt radicand => by
    obtain ⟨radicand', hr, hr'⟩ := xmlAll_readsAs radicand
    have settings := (readsAs_empty .hideDegree).enclose .radicalSettings
    have read := (settings.append ((readsAs_empty .degree).append (hr.enclose .base))).enclose .radical
    exact ⟨_, xmlChars_sqrt radicand ▸ read, by simp [Piece.markup?, hr']⟩
  | .root degree radicand => by
    obtain ⟨degree', hd, hd'⟩ := xmlAll_readsAs degree
    obtain ⟨radicand', hr, hr'⟩ := xmlAll_readsAs radicand
    have read := ((hd.enclose .degree).append (hr.enclose .base)).enclose .radical
    exact ⟨_, xmlChars_root degree radicand ▸ read, by simp [Piece.markup?, hd', hr']⟩
  | .sup base exponent => by
    obtain ⟨base', hb, hb'⟩ := xmlAll_readsAs base
    obtain ⟨exponent', he, he'⟩ := xmlAll_readsAs exponent
    have read := ((hb.enclose .base).append (he.enclose .sup)).enclose .superscript
    exact ⟨_, xmlChars_sup base exponent ▸ read, by simp [Piece.markup?, hb', he']⟩
  | .sub base subscript => by
    obtain ⟨base', hb, hb'⟩ := xmlAll_readsAs base
    obtain ⟨subscript', hs, hs'⟩ := xmlAll_readsAs subscript
    have read := ((hb.enclose .base).append (hs.enclose .sub)).enclose .subscript
    exact ⟨_, xmlChars_sub base subscript ▸ read, by simp [Piece.markup?, hb', hs']⟩
  | .subsup base subscript exponent => by
    obtain ⟨base', hb, hb'⟩ := xmlAll_readsAs base
    obtain ⟨subscript', hs, hs'⟩ := xmlAll_readsAs subscript
    obtain ⟨exponent', he, he'⟩ := xmlAll_readsAs exponent
    have read := (((hb.enclose .base).append (hs.enclose .sub)).append (he.enclose .sup)).enclose .bothScripts
    exact ⟨_, xmlChars_subsup base subscript exponent ▸ read, by simp [Piece.markup?, hb', hs', he']⟩

/-- The XML of a row is read as pieces that are taken for the row. -/
theorem xmlAll_readsAs : ∀ row : List Markup, ∃ pieces, ReadsAs (xmlAll row) pieces ∧ rowMarkup? pieces = some row
  | [] => ⟨[], .nil, rfl⟩
  | element :: row => by
    obtain ⟨piece, h, hm⟩ := xmlChars_readsAs element
    obtain ⟨pieces, hrow, hrow'⟩ := xmlAll_readsAs row
    exact ⟨piece :: pieces, h.append hrow, by simp [rowMarkup?, hm, hrow']⟩

end

/-- The markup is read back from its XML. -/
theorem ofXml_xmlChars (markup : Markup) : Markup.ofXml (String.ofList markup.xmlChars) = some markup := by
  obtain ⟨piece, h, hm⟩ := xmlChars_readsAs markup
  have read : readPieces markup.xmlChars = some [piece] := by
    rw [readPieces, h [] []]
    rfl
  rw [Markup.ofXml, String.toList_ofList, read]
  exact hm

/-- **The XML of markup is unambiguous.** The markup is read back from it, and different markup is written differently. -/
theorem toXml_unambiguous (a b : Markup) :
    Markup.ofXml a.toXml = some a ∧ (a.toXml = b.toXml → a = b) := by
  refine ⟨ofXml_xmlChars a, fun same => ?_⟩
  have read : Markup.ofXml a.toXml = some b := same ▸ ofXml_xmlChars b
  exact Option.some.inj ((ofXml_xmlChars a).symm.trans read)

end Folio.Math
