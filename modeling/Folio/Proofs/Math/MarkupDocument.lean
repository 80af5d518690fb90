import Folio.Proofs.Math.KeptCharacters
import Folio.Proofs.Math.MarkupTags

/-!
# Equation markup as an XML document

The XML of a formula has one root, its elements nest, and its text is escaped, whatever the formula is. It is a
document unless it has a character that no document may contain. Tags, references and symbols have none, so such a
character can only be a leaf of the formula.

* `isElement_xmlChars`, `isContent_xmlAll` : markup is written as elements;
* `mem_substitute`, `mem_markupOnto` : characters that no document may contain stay where they are;
* `isDocument_toXml_iff` : the XML of a formula is a document exactly when all its leaves are allowed;
* `source_isDocument_iff` : so is the XML of a source, always if the source itself has allowed characters only.
-/

namespace Folio.Math
open Xml (IsElement IsContent IsDocument isChar)

/-! ## Markup is elements -/

/-- The prefixes that markup uses are bound. -/
structure Bound (scope : List String) : Prop where
  math : "m" ∈ scope
  xml : "xml" ∈ scope
  xmlns : "xmlns" ∈ scope

section Elements
variable {scope : List String} {xs : List Char}

theorem isValid_xml (h : Bound scope) (tag : Tag) : tag.xml.isValid scope = true := by
  obtain ⟨hm, hx, hn⟩ := h
  cases tag <;>
    simp [Xml.Tag.isValid, Xml.Tag.declared, Xml.Name.isValid, Xml.Attribute.isValid, Tag.xml, Tag.name,
      Tag.attributes, hm, hx, hn, -List.all_eq_true] <;>
    decide +kernel

/-- Only the root binds a prefix. -/
theorem declared_eq {tag : Tag} (h : tag ≠ .math) : tag.xml.declared = [] := by
  cases tag <;> first | rfl | exact absurd rfl h

theorem Bound.enclose (h : Bound scope) (tag : Tag) (hne : tag ≠ .math) (inside : IsContent scope xs) :
    IsElement scope tag.xml.name (tag.enclose xs) :=
  .enclose (isValid_xml h tag) (by rwa [declared_eq hne])

theorem Bound.empty (h : Bound scope) (tag : Tag) : IsElement scope tag.xml.name tag.empty :=
  .empty (isValid_xml h tag)

theorem not_mem_escapeXmlChar (c : Char) : '>' ∉ escapeXmlChar c := by
  unfold escapeXmlChar
  split
  · decide
  · decide
  · decide
  · decide
  · decide
  · rename_i hgt _ _
    exact fun hm => hgt (List.mem_singleton.mp hm).symm

/-- Escaped text can stand in an element: what could end it is written as references. -/
theorem isContent_escapeXml (scope : List String) (text : List Char) : IsContent scope (escapeXml text) := by
  induction text with
  | nil => exact .nil
  | cons c text ih =>
      have noEnd : ¬ "]]>".toList <+: escapeXmlChar c ++ escapeXml text := fun hp => by
        have hm : '>' ∈ escapeXml (c :: text) := hp.subset (by decide)
        obtain ⟨d, -, hd⟩ := List.mem_flatMap.mp hm
        exact not_mem_escapeXmlChar d hd
      rw [show escapeXml (c :: text) = escapeXmlChar c ++ escapeXml text from rfl]
      revert noEnd
      unfold escapeXmlChar
      split
      · exact fun _ => .reference (show ("amp", '&') ∈ Xml.entities by decide) ih
      · exact fun _ => .reference (show ("lt", '<') ∈ Xml.entities by decide) ih
      · exact fun _ => .reference (show ("gt", '>') ∈ Xml.entities by decide) ih
      · exact fun _ => .reference (show ("quot", '"') ∈ Xml.entities by decide) ih
      · exact fun _ => .reference (show ("apos", '\'') ∈ Xml.entities by decide) ih
      · rename_i hamp hlt _ _ _
        exact fun noEnd => .char ⟨hlt, hamp⟩ noEnd ih

end Elements

mutual

/-- Markup is an element wherever its prefixes are bound. -/
theorem isElement_xmlChars : ∀ (markup : Markup) {scope : List String}, Bound scope →
    ∃ name, IsElement scope name markup.xmlChars
  | .math row, scope, h => by
    have inside : Bound (Tag.math.xml.declared ++ scope) :=
      ⟨List.mem_cons_self, List.mem_cons_of_mem _ h.xml, List.mem_cons_of_mem _ h.xmlns⟩
    rw [xmlChars_math]
    exact ⟨_, .enclose (isValid_xml h .math) (isContent_xmlAll row inside)⟩
  | .run text, scope, h => by
    have inside := h.enclose .text (by decide) (isContent_escapeXml scope text.toList)
    rw [xmlChars_run]
    exact ⟨_, h.enclose .run (by decide) inside.content⟩
  | .fraction num den, scope, h => by
    have first := h.enclose .num (by decide) (isContent_xmlAll num h)
    have second := h.enclose .den (by decide) (isContent_xmlAll den h)
    rw [xmlChars_fraction]
    exact ⟨_, h.enclose .fraction (by decide) (.element first second.content)⟩
  | .sqrt radicand, scope, h => by
    have settings := h.enclose .radicalSettings (by decide) (h.empty .hideDegree).content
    have under := h.enclose .base (by decide) (isContent_xmlAll radicand h)
    rw [xmlChars_sqrt]
    exact ⟨_, h.enclose .radical (by decide) (.element settings (.element (h.empty .degree) under.content))⟩
  | .root degree radicand, scope, h => by
    have first := h.enclose .degree (by decide) (isContent_xmlAll degree h)
    have under := h.enclose .base (by decide) (isContent_xmlAll radicand h)
    rw [xmlChars_root]
    exact ⟨_, h.enclose .radical (by decide) (.element first under.content)⟩
  | .sup base exponent, scope, h => by
    have first := h.enclose .base (by decide) (isContent_xmlAll base h)
    have raised := h.enclose .sup (by decide) (isContent_xmlAll exponent h)
    rw [xmlChars_sup]
    exact ⟨_, h.enclose .superscript (by decide) (.element first raised.content)⟩
  | .sub base subscript, scope, h => by
    have first := h.enclose .base (by decide) (isContent_xmlAll base h)
    have lowered := h.enclose .sub (by decide) (isContent_xmlAll subscript h)
    rw [xmlChars_sub]
    exact ⟨_, h.enclose .subscript (by decide) (.element first lowered.content)⟩
  | .subsup base subscript exponent, scope, h => by
    have first := h.enclose .base (by decide) (isContent_xmlAll base h)
    have lowered := h.enclose .sub (by decide) (isContent_xmlAll subscript h)
    have raised := h.enclose .sup (by decide) (isContent_xmlAll exponent h)
    rw [xmlChars_subsup, List.append_assoc]
    exact ⟨_, h.enclose .bothScripts (by decide) (.element first (.element lowered raised.content))⟩

/-- The elements of a row can stand in an element. -/
theorem isContent_xmlAll : ∀ (row : List Markup) {scope : List String}, Bound scope → IsContent scope (xmlAll row)
  | [], _, _ => .nil
  | element :: row, _, h =>
    let ⟨_, first⟩ := isElement_xmlChars element h
    .element first (isContent_xmlAll row h)

end

/-! ## Characters -/

section Characters
variable {c : Char} (hc : isChar c = false)
include hc

theorem not_mem_of_all {text : List Char} (h : text.all isChar = true) : c ∉ text := fun hm => by
  rw [List.all_eq_true.mp h c hm] at hc
  exact Bool.noConfusion hc

theorem ne_of_isChar {d : Char} (hd : isChar d = true) : c ≠ d := fun h => by
  rw [h, hd] at hc
  exact Bool.noConfusion hc

theorem mem_enclose (tag : Tag) (contents : List Char) : c ∈ tag.enclose contents ↔ c ∈ contents := by
  have none : c ∉ tag.enclose [] := not_mem_of_all hc (by cases tag <;> decide +kernel)
  simp only [Tag.enclose, Xml.Tag.enclose, List.mem_append, List.mem_cons, List.not_mem_nil] at none ⊢
  tauto

theorem not_mem_empty (tag : Tag) : c ∉ tag.empty := not_mem_of_all hc (by cases tag <;> decide +kernel)

theorem mem_escapeXmlChar (d : Char) : c ∈ escapeXmlChar d ↔ c = d := by
  unfold escapeXmlChar
  split
  · exact iff_of_false (not_mem_of_all hc (by decide)) (ne_of_isChar hc (by decide))
  · exact iff_of_false (not_mem_of_all hc (by decide)) (ne_of_isChar hc (by decide))
  · exact iff_of_false (not_mem_of_all hc (by decide)) (ne_of_isChar hc (by decide))
  · exact iff_of_false (not_mem_of_all hc (by decide)) (ne_of_isChar hc (by decide))
  · exact iff_of_false (not_mem_of_all hc (by decide)) (ne_of_isChar hc (by decide))
  · exact List.mem_singleton

theorem mem_escapeXml (text : List Char) : c ∈ escapeXml text ↔ c ∈ text := by
  simp [escapeXml, List.mem_flatMap, mem_escapeXmlChar hc]

theorem mem_xmlChars_run (text : String) : c ∈ (Markup.run text).xmlChars ↔ c ∈ text.toList := by
  rw [xmlChars_run, mem_enclose hc, mem_enclose hc, mem_escapeXml hc]

/-- No command and no symbol has such a character, so a command that has one stays as it is. -/
theorem mem_symbolOrSelf (command : List Char) : c ∈ symbolOrSelf command ↔ c ∈ command := by
  have allowed : Symbols.all.all (fun entry => entry.1.toList.all isChar && entry.2.toList.all isChar) = true := by
    decide +kernel
  unfold symbolOrSelf lookupSymbol
  split
  · rename_i symbol h
    obtain ⟨front, back, known, -⟩ := List.lookup_eq_some_iff.mp h
    have entry := List.all_eq_true.mp allowed (String.ofList command, symbol) (known ▸ List.mem_append_cons_self)
    rw [Bool.and_eq_true, String.toList_ofList] at entry
    exact iff_of_false (not_mem_of_all hc entry.2) (not_mem_of_all hc entry.1)
  · exact Iff.rfl

theorem mem_substitute (text : List Char) : c ∈ substitute text ↔ c ∈ text := by
  fun_induction substitute text with
  | case1 => exact Iff.rfl
  | case2 cs ih =>
      rw [List.mem_append, ih, mem_symbolOrSelf hc, ← List.mem_append, readCommand_append]
  | case3 d cs hd ih => rw [List.mem_cons, List.mem_cons, ih]

theorem mem_consText (text : List Char) (row : List Markup) :
    c ∈ xmlAll (consText text row) ↔ c ∈ text ∨ c ∈ xmlAll row := by
  unfold consText
  split
  · rename_i h
    simp [List.isEmpty_iff.mp h]
  · split
    · rw [xmlAll, xmlAll, List.mem_append, List.mem_append, mem_xmlChars_run hc, mem_xmlChars_run hc,
        String.toList_append, String.toList_ofList, List.mem_append, or_assoc]
    · rw [xmlAll, List.mem_append, mem_xmlChars_run hc, String.toList_ofList]

/-- The base of a script is written as a run. -/
theorem mem_base (base : Char) : c ∈ xmlAll [.run base.toString] ↔ c = base := by
  rw [xmlAll, xmlAll, List.append_nil, mem_xmlChars_run hc, show base.toString.toList = [base] from
    String.toList_singleton base, List.mem_singleton]

end Characters

/-- What is written in front of every row is written alone as well. -/
theorem mem_alone {c : Char} {formula : Formula}
    (h : ∀ row, c ∈ xmlAll (markupOnto formula row) ↔ c ∈ formula.leaves ∨ c ∈ xmlAll row) :
    c ∈ xmlAll (markupOnto formula []) ↔ c ∈ formula.leaves :=
  (h []).trans (or_iff_left List.not_mem_nil)

mutual

/-- The characters that no document may contain are in the XML of a formula if they are leaves of it. -/
theorem mem_markupOnto {c : Char} (hc : isChar c = false) : ∀ (formula : Formula) (row : List Markup),
    c ∈ xmlAll (markupOnto formula row) ↔ c ∈ formula.leaves ∨ c ∈ xmlAll row
  | .run text, row => by rw [markupOnto, mem_consText hc, mem_substitute hc, Formula.leaves]
  | .group parts, row => by
    rw [markupOnto, Formula.leaves]
    exact mem_markupAllOnto hc parts row
  | .frac num den, row => by
    have hnum := mem_alone (mem_markupOnto hc num)
    have hden := mem_alone (mem_markupOnto hc den)
    simp only [markupOnto, xmlAll, xmlChars_fraction, List.mem_append, mem_enclose hc, hnum, hden, Formula.leaves]
  | .sqrt radicand, row => by
    have hradicand := mem_alone (mem_markupOnto hc radicand)
    simp only [markupOnto, xmlAll, xmlChars_sqrt, List.mem_append, mem_enclose hc, not_mem_empty hc, hradicand,
      Formula.leaves, false_or]
  | .root degree radicand, row => by
    have hdegree := mem_alone (mem_markupOnto hc degree)
    have hradicand := mem_alone (mem_markupOnto hc radicand)
    simp only [markupOnto, xmlAll, xmlChars_root, List.mem_append, mem_enclose hc, hdegree, hradicand, Formula.leaves]
  | .sup base exponent, row => by
    have hexponent := mem_alone (mem_markupOnto hc exponent)
    rw [markupOnto, xmlAll, xmlChars_sup, List.mem_append, mem_enclose hc, List.mem_append, mem_enclose hc,
      mem_enclose hc, mem_base hc, hexponent, Formula.leaves, List.mem_cons]
  | .sub base subscript, row => by
    have hsubscript := mem_alone (mem_markupOnto hc subscript)
    rw [markupOnto, xmlAll, xmlChars_sub, List.mem_append, mem_enclose hc, List.mem_append, mem_enclose hc,
      mem_enclose hc, mem_base hc, hsubscript, Formula.leaves, List.mem_cons]
  | .subsup base subscript exponent, row => by
    have hsubscript := mem_alone (mem_markupOnto hc subscript)
    have hexponent := mem_alone (mem_markupOnto hc exponent)
    rw [markupOnto, xmlAll, xmlChars_subsup, List.mem_append, mem_enclose hc, List.mem_append, List.mem_append,
      mem_enclose hc, mem_enclose hc, mem_enclose hc, mem_base hc, hsubscript, hexponent, Formula.leaves, List.mem_cons,
      List.mem_append, or_assoc (a := c = base)]

theorem mem_markupAllOnto {c : Char} (hc : isChar c = false) : ∀ (parts : List Formula) (row : List Markup),
    c ∈ xmlAll (markupAllOnto parts row) ↔ c ∈ rowLeaves parts ∨ c ∈ xmlAll row
  | [], row => by rw [markupAllOnto, rowLeaves, or_iff_right List.not_mem_nil]
  | part :: parts, row => by
    rw [markupAllOnto, mem_markupOnto hc part, mem_markupAllOnto hc parts, rowLeaves, List.mem_append, or_assoc]

end

/-- The name of the root. -/
def rootName : Xml.Name := ⟨some "m", "oMath"⟩

/-- The XML of a formula is a document unless a leaf of the formula is a character that no document may contain. -/
theorem isDocument_toXml_iff (formula : Formula) :
    IsDocument rootName formula.toMarkup.toXml ↔ ∀ c ∈ formula.leaves, isChar c = true := by
  have text : formula.toMarkup.toXml.toList = Tag.math.enclose (xmlAll (markupOnto formula [])) := by
    rw [Formula.toMarkup, Markup.toXml, String.toList_ofList, xmlChars_math]
  have chars : ∀ c, isChar c = false → (c ∈ formula.toMarkup.toXml.toList ↔ c ∈ formula.leaves) := fun c hc => by
    rw [text, mem_enclose hc, mem_alone (mem_markupOnto hc formula)]
  constructor
  · intro document c hm
    by_contra hc
    exact hc (document.chars c ((chars c (Bool.eq_false_iff.mpr hc)).mpr hm))
  · refine fun allowed => ⟨fun c hm => ?_, ?_⟩
    · by_contra hc
      exact hc (allowed c ((chars c (Bool.eq_false_iff.mpr hc)).mp hm))
    · have bound : Bound (Tag.math.xml.declared ++ Xml.predeclared) := ⟨by decide, by decide, by decide⟩
      exact text ▸ .enclose (by decide +kernel) (isContent_xmlAll _ bound)

/-- **The XML of a source is a document exactly when no leaf of its formula is a character that XML excludes**, and so
whenever the source has none. -/
theorem source_isDocument_iff (source : String) :
    (IsDocument rootName (parse source).toMarkup.toXml ↔ ∀ c ∈ (parse source).leaves, isChar c = true) ∧
      ((∀ c ∈ source.toList, isChar c = true) → IsDocument rootName (parse source).toMarkup.toXml) := by
  refine ⟨isDocument_toXml_iff _, fun allowed => (isDocument_toXml_iff _).mpr fun c hm => allowed c ?_⟩
  have kept := (parseNodes_keeps 0 source.toList).count_le c
  exact List.count_pos_iff.mp (Nat.lt_of_lt_of_le (List.count_pos_iff.mpr hm) kept)

/-- A comparison and an ampersand, in a fraction that is not closed. -/
theorem source_isDocument_comparison : (∀ c ∈ "\\frac\x7ba<b\x7d\x7b&".toList, isChar c = true) ∧
    IsDocument rootName (parse "\\frac\x7ba<b\x7d\x7b&").toMarkup.toXml :=
  have allowed : ∀ c ∈ "\\frac\x7ba<b\x7d\x7b&".toList, isChar c = true := List.all_eq_true.mp (by decide)
  ⟨allowed, (source_isDocument_iff "\\frac\x7ba<b\x7d\x7b&").2 allowed⟩

/-- A control character is written as it stands. -/
theorem source_isDocument_control : ¬ IsDocument rootName (parse "\x01").toMarkup.toXml := by
  have kept := (parseNodes_keeps 0 "\x01".toList).count_eq '\x01' (by decide)
  have leaf : '\x01' ∈ (parse "\x01").leaves := List.count_pos_iff.mp (Nat.lt_of_lt_of_eq (by decide) kept.symm)
  intro document
  exact absurd ((isDocument_toXml_iff _).mp document '\x01' leaf) (by decide)

end Folio.Math
