import Folio.Text.Punycode
import Folio.Unicode.Composition
import Folio.Unicode.Direction
import Folio.Unicode.DomainForm
import Folio.Unicode.Joining

/-!
# Domain names

A domain name is a row of labels with full stops between them. Its labels are read in composed form,
with every character replaced by what it stands for; a label in ASCII may be written for one that is
not. A label does not begin with a mark, joins only letters that can be joined, and is readable in one
direction.
-/

namespace Folio

/-- A domain name, as it is compared. -/
structure DomainName where
  labels : List (List Char)
  deriving DecidableEq, Repr

namespace DomainName
open Unicode (composed direction domainForm? isCombiningMark)

/-- A character that no domain name holds: controls, the space, and the marks with a meaning of their
own in an address. -/
def isForbidden (c : Char) : Bool :=
  c.toNat ≤ 32 || c = '\x7f'
    || c ∈ ['%', '#', '/', ':', '<', '>', '?', '@', '[', '\\', ']', '^', '|']

/-- The text with its characters replaced by what they stand for, in composed form. -/
def plainText? (cs : List Char) : Option (List Char) := do
  let forms ← cs.mapM domainForm?
  return composed forms.flatten

/-! ## Labels -/

/-- What a label begins with that is written in ASCII for another. -/
def asciiMark : List Char := "xn--".toList

/-- The longest part in ASCII that a label is written for. -/
def maxAsciiLength : Nat := 2000

/-- The longest label that is not of ASCII alone. -/
def maxLength : Nat := 1000

/-- The label that is meant by what is written. A label that can do without it is not written in
ASCII, and one that is means itself. -/
def meantLabel? (label : List Char) : Option (List Char) :=
  if asciiMark.isPrefixOf label then do
    let rest := label.drop asciiMark.length
    guard (label.getLast? != some '-' && decide (rest.length ≤ maxAsciiLength))
    let meant ← Text.Punycode.decode? rest
    guard (plainText? meant == some meant)
    return meant
  else some label

/-- Joiners stand after a character that has lost its vowel; one that keeps letters apart may also
stand where they could be joined. The characters in `before` are passed, last one first. -/
def joinsWell (before : List Char) : List Char → Bool
  | [] => true
  | c :: rest =>
    let fits :=
      !Unicode.isJoiner c
        || before.head?.any (Unicode.markClass · = Unicode.viramaClass)
        || (c = '\u200c' && Unicode.couldJoin before rest)
    fits && joinsWell (c :: before) rest

/-- The label keeps the rules for labels of any direction. -/
def isLabel (label : List Char) : Bool :=
  !label.any isForbidden && !label.head?.any isCombiningMark && joinsWell [] label
    && (label.all (·.toNat < 128) || decide (label.length ≤ maxLength))

/-- The labels can each be read in one direction only, if any holds letters that are written from
right to left. -/
def areSettled (labels : List (List Char)) : Bool :=
  let directions := labels.map (·.map direction)
  !(directions.any (·.any (·.turns))) || directions.all Unicode.isSettled

/-! ## Whole names -/

/-- The domain name that a text spells. -/
def ofText? (cs : List Char) : Option DomainName := do
  let plain ← plainText? cs
  let labels ← (Text.splitOn '.' plain).mapM meantLabel?
  if labels.all isLabel && areSettled labels then some ⟨labels⟩ else none

/-- The domain name as a text. -/
def text (name : DomainName) : List Char := Text.join ['.'] name.labels

end DomainName
end Folio
