import Folio.Math.Markup
import Folio.Xml.Document

/-!
# The tags of equation markup

All elements of an equation bear names of one namespace; three of them have an attribute.

* `Tag` : the elements, with `Tag.xml` for how they are written;
* `xmlChars_math`, `xmlChars_run` and so on : the XML of each kind of markup as elements that enclose one another.
-/

namespace Folio.Math

/-- An element that equations are written with. -/
inductive Tag where
  | math
  | run
  | text
  | fraction
  | num
  | den
  | radical
  | radicalSettings
  | hideDegree
  | degree
  /-- The radicand of a root, or what has scripts. -/
  | base
  | superscript
  | subscript
  | bothScripts
  | sup
  | sub
  deriving DecidableEq, Repr

namespace Tag

/-- The name of the element in its namespace. -/
def name : Tag → String
  | math => "oMath"
  | run => "r"
  | text => "t"
  | fraction => "f"
  | num => "num"
  | den => "den"
  | radical => "rad"
  | radicalSettings => "radPr"
  | hideDegree => "degHide"
  | degree => "deg"
  | base => "e"
  | superscript => "sSup"
  | subscript => "sSub"
  | bothScripts => "sSubSup"
  | sup => "sup"
  | sub => "sub"

/-- The attributes that the element always has. -/
def attributes : Tag → List Xml.Attribute
  | math => [⟨⟨some "xmlns", "m"⟩, markupNamespace⟩]
  | text => [⟨⟨some "xml", "space"⟩, "preserve"⟩]
  | hideDegree => [⟨⟨some "m", "val"⟩, "1"⟩]
  | _ => []

/-- The tag as it is written. -/
def xml (tag : Tag) : Xml.Tag := ⟨⟨some "m", tag.name⟩, tag.attributes⟩

/-- The element with contents. -/
def enclose (tag : Tag) (contents : List Char) : List Char := tag.xml.enclose contents

/-- The element without contents. -/
def empty (tag : Tag) : List Char := tag.xml.empty

end Tag

/-! ## Markup as elements -/

/-- An element without attributes is written with its bare name. -/
theorem element_eq (tag : Tag) (h : tag.attributes = []) (contents : List Char) :
    element tag.name contents = tag.enclose contents := by
  show "<m:".toList ++ tag.name.toList ++ '>' :: contents ++ "</m:".toList ++ tag.name.toList ++ ['>'] = _
  simp [Tag.enclose, Tag.xml, Xml.Tag.enclose, Xml.Tag.chars, Xml.Name.chars, h]

section Elements
variable (row num den degree radicand base subscript exponent : List Markup)

theorem xmlChars_math : (Markup.math row).xmlChars = Tag.math.enclose (xmlAll row) := by
  show "<m:oMath xmlns:m=\"".toList ++ markupNamespace.toList ++ "\">".toList ++ xmlAll row ++ "</m:oMath>".toList = _
  simp [Tag.enclose, Tag.xml, Tag.name, Tag.attributes, Xml.Tag.enclose, Xml.Tag.chars, Xml.Name.chars,
    Xml.Attribute.chars]

theorem xmlChars_run (text : String) :
    (Markup.run text).xmlChars = Tag.run.enclose (Tag.text.enclose (escapeXml text.toList)) := by
  show element Tag.run.name ("<m:t xml:space=\"preserve\">".toList ++ escapeXml text.toList ++ "</m:t>".toList) = _
  rw [element_eq .run rfl]
  simp [Tag.enclose, Tag.xml, Tag.name, Tag.attributes, Xml.Tag.enclose, Xml.Tag.chars, Xml.Name.chars,
    Xml.Attribute.chars]

theorem xmlChars_fraction : (Markup.fraction num den).xmlChars =
    Tag.fraction.enclose (Tag.num.enclose (xmlAll num) ++ Tag.den.enclose (xmlAll den)) := by
  rw [← element_eq .fraction rfl, ← element_eq .num rfl, ← element_eq .den rfl]
  rfl

/-- A root whose degree is hidden has an empty degree element all the same. -/
theorem xmlChars_sqrt : (Markup.sqrt radicand).xmlChars =
    Tag.radical.enclose (Tag.radicalSettings.enclose Tag.hideDegree.empty ++
      (Tag.degree.empty ++ Tag.base.enclose (xmlAll radicand))) := by
  show element Tag.radical.name ("<m:radPr><m:degHide m:val=\"1\"/></m:radPr><m:deg/>".toList ++
    element Tag.base.name (xmlAll radicand)) = _
  rw [element_eq .radical rfl, element_eq .base rfl]
  simp [Tag.enclose, Tag.empty, Tag.xml, Tag.name, Tag.attributes, Xml.Tag.enclose, Xml.Tag.empty, Xml.Tag.chars,
    Xml.Name.chars, Xml.Attribute.chars]

theorem xmlChars_root : (Markup.root degree radicand).xmlChars =
    Tag.radical.enclose (Tag.degree.enclose (xmlAll degree) ++ Tag.base.enclose (xmlAll radicand)) := by
  rw [← element_eq .radical rfl, ← element_eq .degree rfl, ← element_eq .base rfl]
  rfl

theorem xmlChars_sup : (Markup.sup base exponent).xmlChars =
    Tag.superscript.enclose (Tag.base.enclose (xmlAll base) ++ Tag.sup.enclose (xmlAll exponent)) := by
  rw [← element_eq .superscript rfl, ← element_eq .base rfl, ← element_eq .sup rfl]
  rfl

theorem xmlChars_sub : (Markup.sub base subscript).xmlChars =
    Tag.subscript.enclose (Tag.base.enclose (xmlAll base) ++ Tag.sub.enclose (xmlAll subscript)) := by
  rw [← element_eq .subscript rfl, ← element_eq .base rfl, ← element_eq .sub rfl]
  rfl

theorem xmlChars_subsup : (Markup.subsup base subscript exponent).xmlChars =
    Tag.bothScripts.enclose (Tag.base.enclose (xmlAll base) ++ Tag.sub.enclose (xmlAll subscript) ++
      Tag.sup.enclose (xmlAll exponent)) := by
  rw [← element_eq .bothScripts rfl, ← element_eq .base rfl, ← element_eq .sub rfl, ← element_eq .sup rfl]
  rfl

end Elements

end Folio.Math
