import Folio.Markdown.EntityNames
import Folio.Text.Digits
import Folio.Unicode.Punctuation

/-!
# Character references and escapes

A character can be written by its name or by its number between an ampersand and a semicolon, and a
punctuation mark can be written with a backslash before it, so that it stands for itself.

* `unescapeMarks_of_forall_ne`: a text without a backslash is read as it stands.
-/

namespace Folio.Markdown
open Unicode (isAsciiMark)

/-- The character with a given number; zero, the numbers from the first surrogate to the first number
of private use and those beyond the last character stand for the replacement character. -/
def pointChar (n : Nat) : Char :=
  if n ≠ 0 ∧ n.isValidChar ∧ n ≠ 0xE000 then Char.ofNat n else '\ufffd'

/-- The most digits that the number of a character may have. -/
def maxReferenceDigits : Nat := 7

/-- The character that a number sign refers to and the length of the reference after that sign:
decimal digits, or an `x` and hexadecimal ones. -/
def numericReference? (cs : List Char) : Option (Char × Nat) :=
  let (lead, base) :=
    match cs.head? with
    | some 'x' | some 'X' => (1, 16)
    | _ => (0, 10)
  let digits := (cs.drop lead).takeWhile fun c => (Text.digitValue? base c).isSome
  let stop := lead + digits.length
  if 1 ≤ digits.length ∧ digits.length ≤ maxReferenceDigits ∧ (cs.drop stop).head? = some ';' then
    some (pointChar ((Text.ofDigits? base 0 digits).getD 0), stop + 1)
  else none

/-- The text that an ampersand refers to and the length of the reference after it. -/
def reference? (cs : List Char) : Option (List Char × Nat) :=
  match cs with
  | '#' :: rest => (numericReference? rest).map fun (c, length) => ([c], length + 1)
  | _ =>
    let name := cs.takeWhile (· != ';')
    if 2 ≤ name.length ∧ name.length ≤ 31 ∧ name.length < cs.length then
      (EntityNames.codePoints? name).map fun points => (points.map Char.ofNat, name.length + 1)
    else none

/-- The text with its character references resolved; the first argument counts the characters that
belong to the reference just resolved. -/
def decodeReferencesFrom : Nat → List Char → List Char
  | _, [] => []
  | skip + 1, _ :: rest => decodeReferencesFrom skip rest
  | 0, '&' :: rest =>
    match reference? rest with
    | some (text, length) => text ++ decodeReferencesFrom length rest
    | none => '&' :: decodeReferencesFrom 0 rest
  | 0, c :: rest => c :: decodeReferencesFrom 0 rest

/-- The text with its character references resolved. -/
def decodeReferences (cs : List Char) : List Char := decodeReferencesFrom 0 cs

/-- The text without the backslashes that stand before punctuation marks. -/
def unescapeMarks : List Char → List Char
  | '\\' :: c :: rest =>
    if isAsciiMark c then c :: unescapeMarks rest else '\\' :: unescapeMarks (c :: rest)
  | c :: rest => c :: unescapeMarks rest
  | [] => []

theorem unescapeMarks_of_forall_ne {cs : List Char} (h : ∀ c ∈ cs, c ≠ '\\') :
    unescapeMarks cs = cs := by
  induction cs with
  | nil => rfl
  | cons c cs ih =>
      have hc : c ≠ '\\' := h c (by simp)
      have := ih fun d hd => h d (by simp [hd])
      unfold unescapeMarks
      split <;> simp_all

end Folio.Markdown
