/-!
# XML documents

The grammar of XML 1.0 with namespaces, for documents that are one element: elements with attributes, text, and
references to the predefined entities. Comments, processing instructions, sections of raw text, character references
and what may stand before and behind the root have no place in it, and tags have no more white space than they need. So
all that it derives is well-formed, but not all that is well-formed is derived.

* `isChar` : the characters that a document may contain, anywhere;
* `Name`, `Attribute`, `Tag` : the markup of an element, and when it is valid where given prefixes are bound;
* `IsElement`, `IsContent` : elements and what stands between their tags;
* `IsDocument` : a document with a root of a given name.
-/

namespace Folio.Xml

/-! ## Characters and names -/

/-- A character that a document may contain. -/
def isChar (c : Char) : Bool :=
  c = '\t' || c = '\n' || c = '\r' || (0x20 ≤ c.toNat && c.toNat ≤ 0xD7FF) ||
    (0xE000 ≤ c.toNat && c.toNat ≤ 0xFFFD) || 0x10000 ≤ c.toNat

/-- The characters beyond ASCII that a name can begin with. -/
def nameStarts : List (Nat × Nat) := [
  (0xC0, 0xD6), (0xD8, 0xF6), (0xF8, 0x2FF), (0x370, 0x37D), (0x37F, 0x1FFF), (0x200C, 0x200D), (0x2070, 0x218F),
  (0x2C00, 0x2FEF), (0x3001, 0xD7FF), (0xF900, 0xFDCF), (0xFDF0, 0xFFFD), (0x10000, 0xEFFFF)]

/-- The characters beyond ASCII that a name can only go on with. -/
def nameJoins : List (Nat × Nat) := [(0xB7, 0xB7), (0x300, 0x36F), (0x203F, 0x2040)]

/-- The character is in one of the ranges. -/
def isIn (ranges : List (Nat × Nat)) (c : Char) : Bool :=
  ranges.any fun range => range.1 ≤ c.toNat && c.toNat ≤ range.2

/-- A character that a name can begin with. The colon is not one: it stands behind the prefix of a name. -/
def isNameStart (c : Char) : Bool := c.isAlpha || c = '_' || isIn nameStarts c

/-- A character that a name can go on with. -/
def isNameChar (c : Char) : Bool := isNameStart c || c.isDigit || c = '-' || c = '.' || isIn nameJoins c

/-- A name without a colon. -/
def isName : List Char → Bool
  | [] => false
  | c :: cs => isNameStart c && cs.all isNameChar

/-- A name, which may have the prefix of a namespace. -/
structure Name where
  space : Option String
  base : String
  deriving DecidableEq, Repr

/-- The name as it is written. -/
def Name.chars (name : Name) : List Char := name.space.elim [] (·.toList ++ [':']) ++ name.base.toList

/-- The name can stand where the prefixes of `scope` are bound. -/
def Name.isValid (scope : List String) (name : Name) : Bool :=
  isName name.base.toList && name.space.all fun space => isName space.toList && scope.contains space

/-! ## Tags -/

/-- An attribute of an element. -/
structure Attribute where
  name : Name
  value : String
  deriving DecidableEq, Repr

/-- The attribute as it is written. -/
def Attribute.chars (attr : Attribute) : List Char :=
  attr.name.chars ++ '=' :: '"' :: attr.value.toList ++ ['"']

/-- The attribute has a valid name, and its value does without references and ends at its quote. -/
def Attribute.isValid (scope : List String) (attr : Attribute) : Bool :=
  attr.name.isValid scope && attr.value.toList.all fun c => c ≠ '<' && c ≠ '&' && c ≠ '"'

/-- The name and the attributes of an element. -/
structure Tag where
  name : Name
  attributes : List Attribute := []
  deriving DecidableEq, Repr

namespace Tag
variable (tag : Tag)

/-- What stands in the start tag. -/
def chars : List Char := tag.name.chars ++ tag.attributes.flatMap fun attr => ' ' :: attr.chars

/-- The element with contents between its start tag and its end tag. -/
def enclose (contents : List Char) : List Char :=
  '<' :: tag.chars ++ '>' :: contents ++ '<' :: '/' :: tag.name.chars ++ ['>']

/-- The element without contents, as one tag. -/
def empty : List Char := '<' :: tag.chars ++ ['/', '>']

/-- The prefixes that the tag binds, for itself and for what it encloses. -/
def declared : List String :=
  tag.attributes.filterMap fun attr =>
    if attr.name.space = some "xmlns" then some attr.name.base else none

/-- The names of the tag are valid, and no two attributes share one. -/
def isValid (scope : List String) : Bool :=
  tag.name.isValid (tag.declared ++ scope) && tag.attributes.all (·.isValid (tag.declared ++ scope)) &&
    decide (tag.attributes.map (·.name)).Nodup

end Tag

/-! ## Elements -/

/-- The predefined entities, with the characters that they stand for. -/
def entities : List (String × Char) := [("amp", '&'), ("lt", '<'), ("gt", '>'), ("quot", '"'), ("apos", '\'')]

mutual

/-- The text is an element of the given name, where the prefixes of `scope` are bound. -/
inductive IsElement : List String → Name → List Char → Prop where
  | enclose {scope : List String} {tag : Tag} {contents : List Char} (valid : tag.isValid scope = true)
      (inside : IsContent (tag.declared ++ scope) contents) : IsElement scope tag.name (tag.enclose contents)
  | empty {scope : List String} {tag : Tag} (valid : tag.isValid scope = true) : IsElement scope tag.name tag.empty

/-- The text can stand between the tags of an element: characters other than `<` and `&`, references and elements. -/
inductive IsContent : List String → List Char → Prop where
  | nil {scope : List String} : IsContent scope []
  | char {scope : List String} {c : Char} {cs : List Char} (plain : c ≠ '<' ∧ c ≠ '&')
      (noEnd : ¬ "]]>".toList <+: c :: cs) (behind : IsContent scope cs) : IsContent scope (c :: cs)
  | reference {scope : List String} {entity : String × Char} {cs : List Char} (known : entity ∈ entities)
      (behind : IsContent scope cs) : IsContent scope ('&' :: entity.1.toList ++ ';' :: cs)
  | element {scope : List String} {name : Name} {xs cs : List Char} (first : IsElement scope name xs)
      (behind : IsContent scope cs) : IsContent scope (xs ++ cs)

end

theorem IsElement.content {scope : List String} {name : Name} {cs : List Char} (h : IsElement scope name cs) :
    IsContent scope cs := cs.append_nil ▸ .element h .nil

/-- The prefixes that are bound without a declaration. -/
def predeclared : List String := ["xml", "xmlns"]

/-- The text is a document whose root has the given name. -/
structure IsDocument (root : Name) (text : String) : Prop where
  chars : ∀ c ∈ text.toList, isChar c = true
  element : IsElement predeclared root text.toList

end Folio.Xml
