import Folio.Math.Command
import Folio.Unicode.Alphanumeric
import Folio.Unicode.Blank

/-!
# The items of a formula's source

A formula's source is read item by item, without looking inside braces: an item holds the source
of its parts. What fits no rule is a run of literal text, so reading never fails, and every item
takes at least one character.

* `readArgument_cases`, `readFraction_eq_some`, `readRadical_cases`, `readCommandItem_cases`,
  `readScripted_cases`, `readItem_cases`: what each reader can find;
* `length_readItem`: an item leaves less source than it found, and the source of a part is shorter
  than the source of its item.
-/

namespace Folio.Math
open Unicode (isAlphanumeric isBlank)

/-- A bracketed part of the source. -/
structure Part where
  /-- The opening bracket. -/
  opening : Char
  /-- The source between the brackets. -/
  inner : List Char
  /-- The closing bracket, absent when the source ends before it. -/
  closing : Option Char
  deriving DecidableEq, Repr

/-- The part as it is written, brackets included. -/
def Part.literal (part : Part) : List Char :=
  part.opening :: part.inner ++ part.closing.toList

/-- The source up to the bracket that closes the `depth` brackets open so far, whether there is
one, and the rest. A backslash hides the character after it. -/
def readBalanced (opening closing : Char) : Nat → List Char → List Char × Bool × List Char
  | _, [] => ([], false, [])
  | _, ['\\'] => (['\\'], false, [])
  | depth, '\\' :: c :: cs =>
    let (inner, closed, rest) := readBalanced opening closing depth cs
    ('\\' :: c :: inner, closed, rest)
  | depth, c :: cs =>
    if c = opening then
      let (inner, closed, rest) := readBalanced opening closing (depth + 1) cs
      (c :: inner, closed, rest)
    else if c = closing then
      if depth ≤ 1 then ([], true, cs)
      else
        let (inner, closed, rest) := readBalanced opening closing (depth - 1) cs
        (c :: inner, closed, rest)
    else
      let (inner, closed, rest) := readBalanced opening closing depth cs
      (c :: inner, closed, rest)

/-- The bracketed part at the start of the source, if there is one, and the rest. -/
def readPart (opening closing : Char) : List Char → Option (Part × List Char)
  | [] => none
  | c :: cs =>
    if c = opening then
      let (inner, closed, rest) := readBalanced opening closing 1 cs
      some (⟨opening, inner, if closed then some closing else none⟩, rest)
    else none

/-- The part in braces at the start of the source. -/
def readGroup : List Char → Option (Part × List Char) := readPart '\x7b' '\x7d'

/-- The part in square brackets at the start of the source. -/
def readBracket : List Char → Option (Part × List Char) := readPart '[' ']'

/-- The argument of a script marker. -/
inductive Argument where
  /-- A part in braces. -/
  | part (source : Part)
  /-- A single command or character. -/
  | text (text : List Char)
  deriving DecidableEq, Repr

/-- A marker that starts a script. -/
def isScriptMarker (c : Char) : Bool := c = '^' || c = '_'

/-- The argument at the start of the source: a part in braces, a command, or one character that is
neither a script marker nor a closing brace. -/
def readArgument : List Char → Option (Argument × List Char)
  | [] => none
  | c :: cs =>
    if c = '\x7b' then (readGroup (c :: cs)).map fun (p, rest) => (.part p, rest)
    else if c = '\\' then some (.text (readCommand c cs).1, (readCommand c cs).2)
    else if isScriptMarker c || c = '\x7d' then none
    else some (.text [c], cs)

/-- One item of a formula's source, with the source of its parts. -/
inductive Item where
  /-- Literal text or a command. -/
  | run (text : List Char)
  /-- A part in braces, which only groups. -/
  | group (part : Part)
  /-- A fraction. -/
  | frac (num den : Part)
  /-- A square root. -/
  | sqrt (radicand : Part)
  /-- A root of the given degree. -/
  | root (degree radicand : Part)
  /-- A character with a superscript. -/
  | sup (base : Char) (exponent : Argument)
  /-- A character with a subscript. -/
  | sub (base : Char) (subscript : Argument)
  /-- A character with both scripts. -/
  | subsup (base : Char) (subscript exponent : Argument)
  deriving DecidableEq, Repr

/-- The parts in braces of an argument. -/
def Argument.parts : Argument → List Part
  | .part source => [source]
  | .text _ => []

/-- The length of the source that an argument leaves to be read. -/
def Argument.size : Argument → Nat
  | .part source => source.inner.length
  | .text _ => 0

theorem Argument.size_le {argument : Argument} {n : Nat}
    (h : ∀ part ∈ argument.parts, part.inner.length ≤ n) : argument.size ≤ n := by
  cases argument with
  | part source => exact h source (List.mem_singleton.2 rfl)
  | text _ => exact Nat.zero_le n

/-- The bracketed parts of an item. -/
def Item.parts : Item → List Part
  | .run _ => []
  | .group part => [part]
  | .frac num den => [num, den]
  | .sqrt radicand => [radicand]
  | .root degree radicand => [degree, radicand]
  | .sup _ exponent => exponent.parts
  | .sub _ subscript => subscript.parts
  | .subsup _ subscript exponent => subscript.parts ++ exponent.parts

/-- The source after its leading white space. -/
def skipBlank (cs : List Char) : List Char := cs.dropWhile isBlank

/-- The two parts of a fraction, with blanks allowed before each. -/
def readFraction (cs : List Char) : Option (Item × List Char) := do
  let (num, rest) ← readGroup (skipBlank cs)
  let (den, rest) ← readGroup (skipBlank rest)
  return (.frac num den, rest)

/-- The radicand of a root and, in square brackets before it, its degree. -/
def readRadical (cs : List Char) : Option (Item × List Char) :=
  match readBracket (skipBlank cs) with
  | none => do
    let (radicand, rest) ← readGroup (skipBlank cs)
    return (.sqrt radicand, rest)
  | some (degree, rest) => do
    let (radicand, rest) ← readGroup (skipBlank rest)
    return (.root degree radicand, rest)

/-- The item of a command; a command that lacks its arguments is literal text. -/
def readCommandItem (c : Char) (cs : List Char) : Item × List Char :=
  let (command, rest) := readCommand c cs
  let item :=
    if ["\\frac".toList, "\\dfrac".toList, "\\tfrac".toList].contains command then readFraction rest
    else if command = "\\sqrt".toList then readRadical rest
    else none
  item.getD (.run command, rest)

/-- The scripts of the character `base`, which stands before `cs`: one script, or one of each kind
in either order. -/
def readScripted (base : Char) (cs : List Char) : Option (Item × List Char) :=
  match cs with
  | [] => none
  | marker :: cs => do
    if !isScriptMarker marker then none
    let (first, rest) ← readArgument cs
    let second := match rest with
      | c :: cs => if isScriptMarker c && c ≠ marker then readArgument cs else none
      | [] => none
    match second with
    | some (second, rest) =>
      if marker = '_' then some (.subsup base first second, rest)
      else some (.subsup base second first, rest)
    | none => if marker = '^' then some (.sup base first, rest) else some (.sub base first, rest)

/-- A character that can stand inside a run of plain text. -/
def isPlain (c : Char) : Bool :=
  isAlphanumeric c || isBlank c || 128 ≤ c.toNat || c ∈ "+-=*/()[]<>|.,;:!?'\"".toList

/-- The character carries a script when the source goes on with `cs`. -/
def carriesScript (c : Char) (cs : List Char) : Bool :=
  isAlphanumeric c && cs.head?.any isScriptMarker

/-- The plain text at the start of the source, up to the next character that carries a script. -/
def readPlain : List Char → List Char × List Char
  | [] => ([], [])
  | c :: cs =>
    if isPlain c && !carriesScript c cs then
      let (text, rest) := readPlain cs
      (c :: text, rest)
    else ([], c :: cs)

/-- The plain text that begins with `c`, or `c` alone when it is not plain. -/
def readText (c : Char) (cs : List Char) : Item × List Char :=
  match readPlain (c :: cs) with
  | ([], _) => (.run [c], cs)
  | (text, rest) => (.run text, rest)

/-- The first item of the source that begins with `c`, and the rest of the source. -/
def readItem (c : Char) (cs : List Char) : Item × List Char :=
  match if carriesScript c cs then readScripted c cs else none with
  | some scripted => scripted
  | none =>
    if c = '\\' then readCommandItem c cs
    else
      match readGroup (c :: cs) with
      | some (part, rest) => (.group part, rest)
      | none => readText c cs

/-! ## What the readers find -/

section Found
variable {cs rest : List Char} {item : Item}

/-- An argument is a part in braces, a command, or one character. -/
theorem readArgument_cases {argument : Argument} (h : readArgument cs = some (argument, rest)) :
    (∃ part, argument = .part part ∧ readGroup cs = some (part, rest)) ∨
      (∃ ds, cs = '\\' :: ds ∧ argument = .text (readCommand '\\' ds).1 ∧
        rest = (readCommand '\\' ds).2) ∨
      ∃ c, c ≠ '\\' ∧ cs = c :: rest ∧ argument = .text [c] := by
  cases cs with
  | nil => cases h
  | cons c cs =>
      rw [readArgument] at h
      split at h
      · obtain ⟨⟨part, behind⟩, hg, he⟩ := Option.map_eq_some_iff.1 h
        cases he
        exact .inl ⟨part, rfl, hg⟩
      · split at h
        · rename_i hc
          cases h
          exact .inr (.inl ⟨cs, by rw [hc], by rw [hc], by rw [hc]⟩)
        · split at h
          · cases h
          · rename_i hc _
            cases h
            exact .inr (.inr ⟨c, hc, rfl, rfl⟩)

theorem readFraction_eq_some (h : readFraction cs = some (item, rest)) :
    ∃ num behind den, item = .frac num den ∧ readGroup (skipBlank cs) = some (num, behind) ∧
      readGroup (skipBlank behind) = some (den, rest) := by
  simp only [readFraction, Option.bind_eq_bind, Option.bind_eq_some_iff, Prod.exists] at h
  obtain ⟨num, behind, hn, den, rest, hd, h⟩ := h
  cases h
  exact ⟨num, behind, den, rfl, hn, hd⟩

theorem readRadical_cases (h : readRadical cs = some (item, rest)) :
    (∃ radicand, item = .sqrt radicand ∧ readGroup (skipBlank cs) = some (radicand, rest)) ∨
      ∃ degree behind radicand, item = .root degree radicand ∧
        readBracket (skipBlank cs) = some (degree, behind) ∧
        readGroup (skipBlank behind) = some (radicand, rest) := by
  unfold readRadical at h
  split at h
  · simp only [Option.bind_eq_bind, Option.bind_eq_some_iff, Prod.exists] at h
    obtain ⟨radicand, rest, hr, h⟩ := h
    cases h
    exact .inl ⟨radicand, rfl, hr⟩
  · rename_i degree behind hd
    simp only [Option.bind_eq_bind, Option.bind_eq_some_iff, Prod.exists] at h
    obtain ⟨radicand, rest, hr, h⟩ := h
    cases h
    exact .inr ⟨degree, behind, radicand, rfl, hd, hr⟩

/-- A command is read with its arguments, or stays literal text. -/
theorem readCommandItem_cases (c : Char) (cs : List Char) :
    readCommandItem c cs = (.run (readCommand c cs).1, (readCommand c cs).2) ∨
      ((readCommand c cs).1 ∈ ["\\frac".toList, "\\dfrac".toList, "\\tfrac".toList] ∧
        readFraction (readCommand c cs).2 = some (readCommandItem c cs)) ∨
      ((readCommand c cs).1 = "\\sqrt".toList ∧
        readRadical (readCommand c cs).2 = some (readCommandItem c cs)) := by
  unfold readCommandItem
  simp only
  split
  · rename_i hc
    cases readFraction (readCommand c cs).2 with
    | none => exact .inl rfl
    | some found => exact .inr (.inl ⟨List.contains_iff_mem.1 hc, rfl⟩)
  · split
    · rename_i hc
      cases readRadical (readCommand c cs).2 with
      | none => exact .inl rfl
      | some found => exact .inr (.inr ⟨hc, rfl⟩)
    · exact .inl rfl

/-- The scripts of a character are one argument behind its marker, or two behind markers of
either kind. -/
theorem readScripted_cases {base : Char} (h : readScripted base cs = some (item, rest)) :
    ∃ marker ds first behind, isScriptMarker marker = true ∧ cs = marker :: ds ∧
      readArgument ds = some (first, behind) ∧
      (rest = behind ∧ item = (if marker = '^' then .sup base first else .sub base first) ∨
        ∃ other es second, isScriptMarker other = true ∧ other ≠ marker ∧ behind = other :: es ∧
          readArgument es = some (second, rest) ∧
          item = if marker = '_' then .subsup base first second else .subsup base second first) := by
  cases cs with
  | nil => cases h
  | cons marker ds =>
      simp only [readScripted] at h
      cases hm : isScriptMarker marker with
      | false => simp [hm] at h
      | true =>
          simp only [hm, Bool.not_true, Bool.false_eq_true, ↓reduceIte, Option.bind_eq_bind,
            Option.bind_eq_some_iff, Prod.exists] at h
          obtain ⟨first, behind, hf, h⟩ := h
          refine ⟨marker, ds, first, behind, hm, rfl, hf, ?_⟩
          split at h
          · -- a second argument stands behind a marker of the other kind
            rename_i second behind' hs
            split at hs
            · rename_i other es
              split at hs
              · rename_i ho
                rw [Bool.and_eq_true, decide_eq_true_eq] at ho
                refine .inr ⟨other, es, second, ho.1, ho.2, rfl, ?_⟩
                split at h
                · rename_i hu
                  cases h
                  exact ⟨hs, (if_pos hu).symm⟩
                · rename_i hu
                  cases h
                  exact ⟨hs, (if_neg hu).symm⟩
              · cases hs
            · cases hs
          · refine .inl ?_
            split at h
            · rename_i hp
              cases h
              exact ⟨rfl, (if_pos hp).symm⟩
            · rename_i hp
              cases h
              exact ⟨rfl, (if_neg hp).symm⟩

/-- An item is a character with its scripts, a command, a part in braces or plain text. -/
theorem readItem_cases (c : Char) (cs : List Char) :
    (isAlphanumeric c = true ∧ readScripted c cs = some (readItem c cs)) ∨
      (c = '\\' ∧ readItem c cs = readCommandItem c cs) ∨
      (∃ part, (readItem c cs).1 = .group part ∧
        readGroup (c :: cs) = some (part, (readItem c cs).2)) ∨
      (c ≠ '\\' ∧ readItem c cs = readText c cs) := by
  unfold readItem
  split
  · rename_i scripted h
    split at h
    · rename_i hc
      exact .inl ⟨(Bool.and_eq_true _ _ ▸ hc).1, h⟩
    · cases h
  · split
    · rename_i hc
      exact .inr (.inl ⟨hc, rfl⟩)
    · rename_i hc
      split
      · rename_i part rest hg
        exact .inr (.inr (.inl ⟨part, rfl, hg⟩))
      · exact .inr (.inr (.inr ⟨hc, rfl⟩))

end Found

/-! ## What is read is shorter -/

theorem length_readBalanced (opening closing : Char) (depth : Nat) (cs : List Char) :
    (readBalanced opening closing depth cs).1.length
      + (readBalanced opening closing depth cs).2.2.length ≤ cs.length := by
  fun_induction readBalanced opening closing depth cs <;> simp_all <;> omega

theorem length_readPart {opening closing : Char} {cs : List Char} {part : Part} {rest : List Char}
    (h : readPart opening closing cs = some (part, rest)) :
    part.inner.length + rest.length + 1 ≤ cs.length := by
  cases cs with
  | nil => simp [readPart] at h
  | cons c cs =>
      simp only [readPart] at h
      split at h
      · have hl := length_readBalanced opening closing 1 cs
        rcases hb : readBalanced opening closing 1 cs with ⟨inner, closed, rest'⟩
        simp only [hb, Option.some.injEq, Prod.mk.injEq] at h hl
        obtain ⟨rfl, rfl⟩ := h
        simp only [List.length_cons]
        omega
      · simp at h

theorem length_skipBlank (cs : List Char) : (skipBlank cs).length ≤ cs.length :=
  (List.dropWhile_suffix _).length_le

theorem length_readArgument {cs : List Char} {argument : Argument} {rest : List Char}
    (h : readArgument cs = some (argument, rest)) :
    rest.length < cs.length ∧ ∀ part ∈ argument.parts, part.inner.length < cs.length := by
  rcases readArgument_cases h with ⟨part, rfl, hg⟩ | ⟨ds, rfl, rfl, rfl⟩ | ⟨c, -, rfl, rfl⟩
  · have := length_readPart hg
    simp only [Argument.parts, List.mem_singleton, forall_eq]
    omega
  · have := length_readCommand_le '\\' ds
    simp [Argument.parts]
    omega
  · simp [Argument.parts]

theorem length_readFraction {cs : List Char} {item : Item} {rest : List Char}
    (h : readFraction cs = some (item, rest)) :
    rest.length ≤ cs.length ∧ ∀ part ∈ item.parts, part.inner.length ≤ cs.length := by
  obtain ⟨num, behind, den, rfl, hn, hd⟩ := readFraction_eq_some h
  have h1 := length_skipBlank cs
  have h2 := length_readPart hn
  have h3 := length_skipBlank behind
  have h4 := length_readPart hd
  simp only [Item.parts, List.mem_cons, List.not_mem_nil, or_false, forall_eq_or_imp, forall_eq]
  omega

theorem length_readRadical {cs : List Char} {item : Item} {rest : List Char}
    (h : readRadical cs = some (item, rest)) :
    rest.length ≤ cs.length ∧ ∀ part ∈ item.parts, part.inner.length ≤ cs.length := by
  have h1 := length_skipBlank cs
  rcases readRadical_cases h with ⟨radicand, rfl, hr⟩ | ⟨degree, behind, radicand, rfl, hd, hr⟩
  · have h2 := length_readPart hr
    simp only [Item.parts, List.mem_singleton, forall_eq]
    omega
  · have h2 := length_readPart hd
    have h3 := length_skipBlank behind
    have h4 := length_readPart hr
    simp only [Item.parts, List.mem_cons, List.not_mem_nil, or_false, forall_eq_or_imp, forall_eq]
    omega

theorem length_readCommandItem (c : Char) (cs : List Char) :
    (readCommandItem c cs).2.length ≤ cs.length ∧
      ∀ part ∈ (readCommandItem c cs).1.parts, part.inner.length ≤ cs.length := by
  have name := length_readCommand_le c cs
  have behind {length} (h : length ≤ (readCommand c cs).2.length) : length ≤ cs.length :=
    Nat.le_trans h name
  rcases readCommandItem_cases c cs with h | ⟨-, h⟩ | ⟨-, h⟩
  · rw [h]
    exact ⟨name, fun _ hp => nomatch hp⟩
  · obtain ⟨hr, hp⟩ := length_readFraction h
    exact ⟨behind hr, fun part h => behind (hp part h)⟩
  · obtain ⟨hr, hp⟩ := length_readRadical h
    exact ⟨behind hr, fun part h => behind (hp part h)⟩

theorem length_readScripted {base : Char} {cs : List Char} {item : Item} {rest : List Char}
    (h : readScripted base cs = some (item, rest)) :
    rest.length ≤ cs.length ∧ ∀ part ∈ item.parts, part.inner.length ≤ cs.length := by
  obtain ⟨marker, ds, first, behind, -, rfl, hf, hs⟩ := readScripted_cases h
  obtain ⟨hr, hp⟩ := length_readArgument hf
  rw [List.length_cons]
  rcases hs with ⟨rfl, rfl⟩ | ⟨other, es, second, -, -, rfl, hs, rfl⟩
  · refine ⟨by omega, fun part h => ?_⟩
    have : part ∈ first.parts := by
      split at h <;> exact h
    have := hp part this
    omega
  · obtain ⟨hr', hp'⟩ := length_readArgument hs
    rw [List.length_cons] at hr
    refine ⟨by omega, fun part h => ?_⟩
    have : part ∈ first.parts ∨ part ∈ second.parts := by
      split at h
      · exact List.mem_append.1 h
      · exact (List.mem_append.1 h).symm
    rcases this with h | h
    · have := hp part h
      omega
    · have := hp' part h
      omega

theorem length_readPlain (cs : List Char) :
    (readPlain cs).1.length + (readPlain cs).2.length = cs.length := by
  fun_induction readPlain cs with
  | case1 => rfl
  | case2 c cs h text rest hr ih =>
      simp only [hr] at ih
      simp only [List.length_cons]
      omega
  | case3 c cs h => exact Nat.zero_add _

theorem length_readText (c : Char) (cs : List Char) :
    (readText c cs).2.length ≤ cs.length ∧ (readText c cs).1.parts = [] := by
  have h := length_readPlain (c :: cs)
  unfold readText
  split
  · simp [Item.parts]
  · rename_i text rest hne heq
    rw [heq] at h
    simp only [List.length_cons] at h
    have : text.length ≠ 0 := fun h0 => hne (List.length_eq_zero_iff.1 h0)
    simp [Item.parts]
    omega

theorem length_readItem (c : Char) (cs : List Char) :
    (readItem c cs).2.length ≤ cs.length ∧
      ∀ part ∈ (readItem c cs).1.parts, part.inner.length ≤ cs.length := by
  rcases readItem_cases c cs with ⟨-, h⟩ | ⟨-, h⟩ | ⟨part, hi, h⟩ | ⟨-, h⟩
  · exact length_readScripted h
  · rw [h]
    exact length_readCommandItem c cs
  · have := length_readPart h
    rw [List.length_cons] at this
    simp only [hi, Item.parts, List.mem_singleton, forall_eq]
    omega
  · have := length_readText c cs
    rw [h, this.2]
    exact ⟨this.1, fun _ hp => nomatch hp⟩

end Folio.Math
