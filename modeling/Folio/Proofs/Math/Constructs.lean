import Folio.Math.Parser
import Folio.Proofs.Math.Parts

/-!
# What the constructs of a formula are parsed to

A construct is parsed to one formula over what its parts are parsed to on their own, in front of what the rest of the
source is parsed to on its own.

* `sourceInduction` : induction over the items of a source and the insides of their parts;
* `parseNodes_depth` : below the limit, the depth at which a source is parsed does not show in the result;
* `parse_constructs` : groups, fractions, roots and scripts over parts with balanced braces.
-/

namespace Folio.Math
open Unicode (isAlphanumeric isBlank)

/-- The formulas that an item stands for. -/
def Item.nodes (depth : Nat) : Item → List Formula
  | .run text => [.run (String.ofList text)]
  | .group part => parsePart depth part
  | .frac num den => [.frac (.ofParts (parsePart depth num)) (.ofParts (parsePart depth den))]
  | .sqrt radicand => [.sqrt (.ofParts (parsePart depth radicand))]
  | .root degree radicand => [.root (.ofParts (parsePart depth degree)) (.ofParts (parsePart depth radicand))]
  | .sup base exponent => [.sup base (parseArgument depth exponent)]
  | .sub base subscript => [.sub base (parseArgument depth subscript)]
  | .subsup base subscript exponent =>
      [.subsup base (parseArgument depth subscript) (parseArgument depth exponent)]

/-- A source is parsed item by item. -/
theorem parseNodes_cons (depth : Nat) (c : Char) (cs : List Char) :
    parseNodes depth (c :: cs) = (readItem c cs).1.nodes depth ++ parseNodes depth (readItem c cs).2 := by
  rw [parseNodes]
  split
  rename_i item rest h
  have read : (readItem c cs).1.nodes depth ++ parseNodes depth (readItem c cs).2 =
      item.nodes depth ++ parseNodes depth rest := by rw [h]
  refine Eq.trans ?_ read.symm
  cases item <;> rfl

/-- What holds of a source when it holds of the rest behind its first item and, one level deeper, of the insides of the
item's parts, holds of every source. -/
theorem sourceInduction {motive : Nat → List Char → Prop} (nil : ∀ depth, motive depth [])
    (cons : ∀ depth c cs, (∀ part ∈ (readItem c cs).1.parts, motive (depth + 1) part.inner) →
      motive depth (readItem c cs).2 → motive depth (c :: cs)) (depth : Nat) (cs : List Char) : motive depth cs := by
  induction hn : cs.length using Nat.strongRecOn generalizing depth cs with
  | ind n ih =>
  cases cs with
  | nil => exact nil depth
  | cons c cs =>
      obtain ⟨hrest, hparts⟩ := length_readItem c cs
      rw [List.length_cons] at hn
      refine cons depth c cs (fun part hp => ?_) (ih _ (by omega) _ _ rfl)
      have := hparts part hp
      exact ih _ (by omega) _ _ rfl

/-! ## Depth -/

/-- The depth shows in an item only through its parts. -/
theorem Item.nodes_congr {depth depth' : Nat} {item : Item}
    (h : ∀ part ∈ item.parts, parsePart depth part = parsePart depth' part) :
    item.nodes depth = item.nodes depth' := by
  have argument : ∀ a : Argument, (∀ part ∈ a.parts, parsePart depth part = parsePart depth' part) →
      parseArgument depth a = parseArgument depth' a := by
    intro a ha
    cases a with
    | part source => rw [parseArgument, parseArgument, ha source (List.mem_singleton.mpr rfl)]
    | text text => rw [parseArgument, parseArgument]
  cases item with
  | run text => rfl
  | group part => exact h part (List.mem_singleton.mpr rfl)
  | frac num den =>
      simp only [parts, List.mem_cons, List.not_mem_nil, or_false, forall_eq_or_imp, forall_eq] at h
      rw [nodes, nodes, h.1, h.2]
  | sqrt radicand =>
      simp only [parts, List.mem_singleton, forall_eq] at h
      rw [nodes, nodes, h]
  | root degree radicand =>
      simp only [parts, List.mem_cons, List.not_mem_nil, or_false, forall_eq_or_imp, forall_eq] at h
      rw [nodes, nodes, h.1, h.2]
  | sup base exponent => rw [nodes, nodes, argument exponent h]
  | sub base subscript => rw [nodes, nodes, argument subscript h]
  | subsup base subscript exponent =>
      simp only [parts, List.mem_append] at h
      rw [nodes, nodes, argument subscript fun part hp => h part (.inl hp),
        argument exponent fun part hp => h part (.inr hp)]

/-- Below the limit, the depth at which a source is parsed does not show in the result. -/
theorem parseNodes_depth {levels depth depth' : Nat} {cs : List Char} (h : Shallow levels cs)
    (hd : depth + levels ≤ maxDepth) (hd' : depth' + levels ≤ maxDepth) :
    parseNodes depth cs = parseNodes depth' cs := by
  induction depth, cs using sourceInduction generalizing levels depth' with
  | nil depth => rw [parseNodes, parseNodes]
  | cons depth c cs inside behind =>
      have taken := readItem_takes c cs
      rw [parseNodes_cons, parseNodes_cons, behind (h.of_ahead taken.ahead) hd hd']
      congr 1
      refine Item.nodes_congr fun part hp => ?_
      obtain ⟨inner, rfl, hi⟩ := (taken.holds part hp).shallow h
      rw [parsePart, parsePart, if_neg (by omega), if_neg (by omega)]
      exact inside part hp hi (by omega) (by omega)

/-! ## Reading the constructs -/

section Read
variable {xs ys zs : List Char}

theorem readPart_append {opening closing : Char} (hne : opening ≠ closing) (hc : closing ≠ '\\')
    (h : balancedFrom opening closing 0 xs = true) (rest : List Char) :
    readPart opening closing (opening :: (xs ++ closing :: rest)) = some (⟨opening, xs, some closing⟩, rest) := by
  rw [readPart, if_pos rfl, readBalanced_append hne hc h]
  rfl

/-- The part that a text in braces is read to. -/
def braced (xs : List Char) : Part := ⟨'\x7b', xs, some '\x7d'⟩

/-- The part that a text in square brackets is read to. -/
def bracketed (xs : List Char) : Part := ⟨'[', xs, some ']'⟩

theorem readGroup_append (h : balancedFrom '\x7b' '\x7d' 0 xs = true) (rest : List Char) :
    readGroup ('\x7b' :: (xs ++ '\x7d' :: rest)) = some (braced xs, rest) :=
  readPart_append (by decide) (by decide) h rest

theorem readBracket_append (h : balancedFrom '[' ']' 0 xs = true) (rest : List Char) :
    readBracket ('[' :: (xs ++ ']' :: rest)) = some (bracketed xs, rest) :=
  readPart_append (by decide) (by decide) h rest

theorem skipBlank_cons {c : Char} (h : isBlank c = false) (cs : List Char) : skipBlank (c :: cs) = c :: cs := by
  rw [skipBlank, List.dropWhile_cons, if_neg (by simp [h])]

theorem skipBlank_append {blanks : List Char} (h : ∀ c ∈ blanks, isBlank c = true) {c : Char} (hc : isBlank c = false)
    (cs : List Char) : skipBlank (blanks ++ c :: cs) = c :: cs := by
  rw [skipBlank, List.dropWhile_append_of_pos h]
  exact skipBlank_cons hc cs

theorem readFraction_append {blanks blanks' : List Char} (hblank : ∀ c ∈ blanks, isBlank c = true)
    (hblank' : ∀ c ∈ blanks', isBlank c = true) (hx : balancedFrom '\x7b' '\x7d' 0 xs = true)
    (hy : balancedFrom '\x7b' '\x7d' 0 ys = true) (rest : List Char) :
    readFraction (blanks ++ '\x7b' :: (xs ++ '\x7d' :: (blanks' ++ '\x7b' :: (ys ++ '\x7d' :: rest)))) =
      some (.frac (braced xs) (braced ys), rest) := by
  unfold readFraction
  rw [skipBlank_append hblank (by decide), readGroup_append hx]
  simp only [Option.bind_eq_bind, Option.bind_some]
  rw [skipBlank_append hblank' (by decide), readGroup_append hy]
  rfl

theorem readRadical_append (hx : balancedFrom '\x7b' '\x7d' 0 xs = true) (rest : List Char) :
    readRadical ('\x7b' :: (xs ++ '\x7d' :: rest)) = some (.sqrt (braced xs), rest) := by
  rw [readRadical, skipBlank_cons (by decide), readGroup_append hx]
  rfl

theorem readRadical_append_degree (hx : balancedFrom '[' ']' 0 xs = true) (hy : balancedFrom '\x7b' '\x7d' 0 ys = true)
    (rest : List Char) :
    readRadical ('[' :: (xs ++ ']' :: '\x7b' :: (ys ++ '\x7d' :: rest))) =
      some (.root (bracketed xs) (braced ys), rest) := by
  rw [readRadical, skipBlank_cons (by decide), readBracket_append hx]
  simp only
  rw [skipBlank_cons (by decide), readGroup_append hy]
  rfl

theorem readArgument_append (hx : balancedFrom '\x7b' '\x7d' 0 xs = true) (rest : List Char) :
    readArgument ('\x7b' :: (xs ++ '\x7d' :: rest)) = some (.part (braced xs), rest) := by
  rw [readArgument, if_pos rfl, readGroup_append hx]
  rfl

/-- A command name ends in front of anything but a letter. -/
theorem readCommand_append_name {name : List Char} (hne : name ≠ []) (hname : ∀ c ∈ name, c.isAlpha = true)
    (hrest : ∀ c ∈ xs.head?, c.isAlpha = false) : readCommand '\\' (name ++ xs) = ('\\' :: name, xs) := by
  have none : xs.takeWhile Char.isAlpha = [] ∧ xs.dropWhile Char.isAlpha = xs := by
    cases xs with
    | nil => exact ⟨rfl, rfl⟩
    | cons c cs => simp [hrest c rfl]
  have taken : (name ++ xs).takeWhile Char.isAlpha = name := by
    rw [List.takeWhile_append_of_pos hname, none.1, List.append_nil]
  have left : (name ++ xs).dropWhile Char.isAlpha = xs := by
    rw [List.dropWhile_append_of_pos hname, none.2]
  unfold readCommand readName
  rw [taken, left]
  cases name with
  | nil => exact absurd rfl hne
  | cons c cs => rfl

theorem not_isAlpha_of_isBlank {c : Char} (h : isBlank c = true) : c.isAlpha = false := by
  rw [Bool.eq_false_iff]
  intro ha
  have hc : (65 ≤ c.toNat ∧ c.toNat ≤ 90) ∨ (97 ≤ c.toNat ∧ c.toNat ≤ 122) := by
    rcases Bool.or_eq_true_iff.mp ha with upper | lower
    · exact .inl (of_decide_eq_true upper)
    · obtain ⟨low, high⟩ := Bool.and_eq_true_iff.mp lower
      exact .inr ⟨of_decide_eq_true low, of_decide_eq_true high⟩
  rw [Unicode.isBlank_of_graphic (by omega) (by omega)] at h
  exact Bool.noConfusion h

/-- Blanks and then a bracket do not go on with a command name. -/
theorem head_not_isAlpha {blanks : List Char} (h : ∀ c ∈ blanks, isBlank c = true) {c : Char} (hc : c.isAlpha = false)
    (cs : List Char) : ∀ d ∈ (blanks ++ c :: cs).head?, d.isAlpha = false := by
  intro d hd
  cases blanks with
  | nil =>
      cases hd
      exact hc
  | cons b bs =>
      cases hd
      exact not_isAlpha_of_isBlank (h _ List.mem_cons_self)

theorem readItem_command (cs : List Char) : readItem '\\' cs = readCommandItem '\\' cs := by
  rw [readItem, carriesScript, isAlphanumeric_backslash, Bool.false_and]
  rfl

theorem readItem_group (hx : balancedFrom '\x7b' '\x7d' 0 xs = true) (rest : List Char) :
    readItem '\x7b' (xs ++ '\x7d' :: rest) = (.group (braced xs), rest) := by
  have plain : isAlphanumeric '\x7b' = false := (Unicode.isAlphanumeric_of_lt (by decide)).trans (by decide)
  rw [readItem, carriesScript, plain, Bool.false_and, if_neg Bool.false_ne_true]
  simp only
  rw [if_neg (by decide), readGroup_append hx]

theorem readItem_scripted {c marker : Char} (hc : isAlphanumeric c = true) (hm : isScriptMarker marker = true)
    {cs : List Char} {found : Item × List Char} (h : readScripted c (marker :: cs) = some found) :
    readItem c (marker :: cs) = found := by
  rw [readItem, carriesScript, hc, Bool.true_and, List.head?_cons, Option.any_some, if_pos hm, h]

theorem readScripted_pair {marker other : Char} (hm : isScriptMarker marker = true) (ho : isScriptMarker other = true)
    (hne : other ≠ marker) (hx : balancedFrom '\x7b' '\x7d' 0 xs = true) (hy : balancedFrom '\x7b' '\x7d' 0 ys = true)
    (base : Char) (rest : List Char) :
    readScripted base (marker :: '\x7b' :: (xs ++ '\x7d' :: other :: '\x7b' :: (ys ++ '\x7d' :: rest))) =
      some (if marker = '_' then .subsup base (.part (braced xs)) (.part (braced ys))
        else .subsup base (.part (braced ys)) (.part (braced xs)), rest) := by
  simp only [readScripted, hm, Bool.not_true, Bool.false_eq_true, if_false, readArgument_append hx,
    Option.bind_eq_bind, Option.bind_some, ho, Bool.true_and, decide_eq_true hne, if_true, readArgument_append hy]
  split_ifs <;> rfl

/-- A second marker of the same kind does not belong to the character any more. -/
theorem readScripted_single {marker : Char} (hm : isScriptMarker marker = true)
    (hx : balancedFrom '\x7b' '\x7d' 0 xs = true) (base : Char) {rest : List Char}
    (hrest : ∀ d ∈ rest.head?, isScriptMarker d = true → d = marker) :
    readScripted base (marker :: '\x7b' :: (xs ++ '\x7d' :: rest)) =
      some (if marker = '^' then .sup base (.part (braced xs)) else .sub base (.part (braced xs)), rest) := by
  cases rest with
  | nil =>
      simp only [readScripted, hm, Bool.not_true, Bool.false_eq_true, if_false, readArgument_append hx,
        Option.bind_eq_bind, Option.bind_some]
      split_ifs <;> rfl
  | cons d ds =>
      have same : (isScriptMarker d && decide (d ≠ marker)) = false := by
        by_cases hd : isScriptMarker d = true
        · simp [hrest d rfl hd]
        · simp [hd]
      simp only [readScripted, hm, Bool.not_true, Bool.false_eq_true, if_false, readArgument_append hx,
        Option.bind_eq_bind, Option.bind_some, same]
      split_ifs <;> rfl

end Read

/-! ## Parsing the constructs -/

/-- The formulas that stand in a row. -/
def Formula.parts : Formula → List Formula
  | .group parts => parts
  | part => [part]

/-- The formulas in a row that a source is parsed to. -/
def row (source : String) : List Formula := (parse source).parts

/-- The one formula that a source stands for as a part. -/
def whole (source : String) : Formula := .ofParts (row source)

/-- A text that can stand in braces: they close in pairs, and its brackets nest less deep than the limit. -/
structure Enclosable (source : String) : Prop where
  balanced : Balanced '\x7b' '\x7d' source
  nests : NestsWithin 255 source

section Parse
variable {a b d : String}

theorem parse_eq (source : String) : parse source = .group (parseNodes 0 source.toList) := rfl

theorem row_eq (source : String) : row source = parseNodes 0 source.toList := rfl

/-- A part is parsed as its source is on its own. -/
theorem parsePart_enclosable (h : Enclosable a) {part : Part} (hp : part.inner = a.toList) :
    parsePart 0 part = row a := by
  rw [parsePart, if_neg (by decide), hp, row_eq]
  exact parseNodes_depth (shallow_of_nestsWithin h.balanced h.nests) (by decide) (by decide)

theorem parsePart_braced (h : Enclosable a) : parsePart 0 (braced a.toList) = row a := parsePart_enclosable h rfl

theorem parsePart_bracketed (h : Enclosable a) : parsePart 0 (bracketed a.toList) = row a := parsePart_enclosable h rfl

theorem parseArgument_braced (h : Enclosable a) : parseArgument 0 (.part (braced a.toList)) = whole a := by
  rw [parseArgument, parsePart_braced h]
  rfl

theorem parse_group (ha : Enclosable a) (q : String) :
    parse ("\x7b" ++ a ++ "\x7d" ++ q) = .group (row a ++ row q) := by
  have read := readItem_group ha.balanced q.toList
  have source : ("\x7b" ++ a ++ "\x7d" ++ q).toList = '\x7b' :: (a.toList ++ '\x7d' :: q.toList) := by simp
  rw [parse_eq, source, parseNodes_cons, read, Item.nodes, parsePart_braced ha, row_eq q]

/-- What a command is read to, when its name ends before `cs` and the command takes its arguments from there. -/
theorem readItem_fraction {name : String} (hn : name ∈ ["frac", "dfrac", "tfrac"]) {cs : List Char}
    {found : Item × List Char} (hcs : ∀ c ∈ cs.head?, c.isAlpha = false) (h : readFraction cs = some found) :
    readItem '\\' (name.toList ++ cs) = found := by
  have letters : name.toList ≠ [] ∧ name.toList.all Char.isAlpha = true := by
    simp only [List.mem_cons, List.not_mem_nil, or_false] at hn
    rcases hn with rfl | rfl | rfl <;> decide
  have known : ["\\frac".toList, "\\dfrac".toList, "\\tfrac".toList].contains ('\\' :: name.toList) = true := by
    simp only [List.mem_cons, List.not_mem_nil, or_false] at hn
    rcases hn with rfl | rfl | rfl <;> decide
  rw [readItem_command, readCommandItem, readCommand_append_name letters.1 (List.all_eq_true.mp letters.2) hcs]
  simp only [known, if_true, h, Option.getD_some]

theorem readItem_radical {cs : List Char} {found : Item × List Char} (hcs : ∀ c ∈ cs.head?, c.isAlpha = false)
    (h : readRadical cs = some found) : readItem '\\' ("sqrt".toList ++ cs) = found := by
  have other : ["\\frac".toList, "\\dfrac".toList, "\\tfrac".toList].contains ('\\' :: "sqrt".toList) = false := by
    decide
  have letters : "sqrt".toList.all Char.isAlpha = true := by decide
  rw [readItem_command, readCommandItem, readCommand_append_name (by decide) (List.all_eq_true.mp letters) hcs]
  simp only [other, Bool.false_eq_true, if_false, h]
  rfl

theorem parse_fraction {name blanks blanks' : String} (hn : name ∈ ["frac", "dfrac", "tfrac"])
    (hblank : ∀ c ∈ blanks.toList, isBlank c = true) (hblank' : ∀ c ∈ blanks'.toList, isBlank c = true)
    (ha : Enclosable a) (hb : Enclosable b) (q : String) :
    parse ("\\" ++ name ++ blanks ++ "\x7b" ++ a ++ "\x7d" ++ blanks' ++ "\x7b" ++ b ++ "\x7d" ++ q) =
      .group (.frac (whole a) (whole b) :: row q) := by
  have read := readItem_fraction hn (head_not_isAlpha hblank (by decide) _)
    (readFraction_append hblank hblank' ha.balanced hb.balanced q.toList)
  have source : ("\\" ++ name ++ blanks ++ "\x7b" ++ a ++ "\x7d" ++ blanks' ++ "\x7b" ++ b ++ "\x7d" ++ q).toList =
      '\\' :: (name.toList ++ (blanks.toList ++ '\x7b' :: (a.toList ++ '\x7d' ::
        (blanks'.toList ++ '\x7b' :: (b.toList ++ '\x7d' :: q.toList))))) := by simp
  rw [parse_eq, source, parseNodes_cons, read, Item.nodes, parsePart_braced ha, parsePart_braced hb, row_eq q]
  rfl

theorem parse_radical (ha : Enclosable a) (q : String) :
    parse ("\\sqrt\x7b" ++ a ++ "\x7d" ++ q) = .group (.sqrt (whole a) :: row q) := by
  have read := readItem_radical (by simp) (readRadical_append ha.balanced q.toList)
  have source : ("\\sqrt\x7b" ++ a ++ "\x7d" ++ q).toList =
      '\\' :: ("sqrt".toList ++ '\x7b' :: (a.toList ++ '\x7d' :: q.toList)) := by simp
  rw [parse_eq, source, parseNodes_cons, read, Item.nodes, parsePart_braced ha, row_eq q]
  rfl

theorem parse_root (ha : Enclosable a) (hd : Enclosable d) (hd' : Balanced '[' ']' d) (q : String) :
    parse ("\\sqrt[" ++ d ++ "]\x7b" ++ a ++ "\x7d" ++ q) = .group (.root (whole d) (whole a) :: row q) := by
  have read := readItem_radical (by simp) (readRadical_append_degree hd' ha.balanced q.toList)
  have source : ("\\sqrt[" ++ d ++ "]\x7b" ++ a ++ "\x7d" ++ q).toList =
      '\\' :: ("sqrt".toList ++ '[' :: (d.toList ++ ']' :: '\x7b' :: (a.toList ++ '\x7d' :: q.toList))) := by simp
  rw [parse_eq, source, parseNodes_cons, read, Item.nodes, parsePart_braced ha, parsePart_bracketed hd, row_eq q]
  rfl

theorem isScriptMarker_sub : isScriptMarker '_' = true := rfl

theorem isScriptMarker_sup : isScriptMarker '^' = true := rfl

section Script
variable {c : Char} (hc : isAlphanumeric c = true)
include hc

theorem parse_subsup (ha : Enclosable a) (hb : Enclosable b) (q : String) :
    parse (String.singleton c ++ "_\x7b" ++ a ++ "\x7d^\x7b" ++ b ++ "\x7d" ++ q) =
      .group (.subsup c (whole a) (whole b) :: row q) := by
  have read := readItem_scripted hc isScriptMarker_sub (readScripted_pair isScriptMarker_sub isScriptMarker_sup
    (by decide) ha.balanced hb.balanced c q.toList)
  have source : (String.singleton c ++ "_\x7b" ++ a ++ "\x7d^\x7b" ++ b ++ "\x7d" ++ q).toList =
      c :: '_' :: '\x7b' :: (a.toList ++ '\x7d' :: '^' :: '\x7b' :: (b.toList ++ '\x7d' :: q.toList)) := by simp
  rw [parse_eq, source, parseNodes_cons, read, if_pos rfl, Item.nodes, parseArgument_braced ha, parseArgument_braced hb,
    row_eq q]
  rfl

theorem parse_supsub (ha : Enclosable a) (hb : Enclosable b) (q : String) :
    parse (String.singleton c ++ "^\x7b" ++ b ++ "\x7d_\x7b" ++ a ++ "\x7d" ++ q) =
      .group (.subsup c (whole a) (whole b) :: row q) := by
  have read := readItem_scripted hc isScriptMarker_sup (readScripted_pair isScriptMarker_sup isScriptMarker_sub
    (by decide) hb.balanced ha.balanced c q.toList)
  have source : (String.singleton c ++ "^\x7b" ++ b ++ "\x7d_\x7b" ++ a ++ "\x7d" ++ q).toList =
      c :: '^' :: '\x7b' :: (b.toList ++ '\x7d' :: '_' :: '\x7b' :: (a.toList ++ '\x7d' :: q.toList)) := by simp
  rw [parse_eq, source, parseNodes_cons, read, if_neg (by decide), Item.nodes, parseArgument_braced ha,
    parseArgument_braced hb, row_eq q]
  rfl

theorem parse_sup (ha : Enclosable a) {q : String} (hq : q.toList.head? ≠ some '_') :
    parse (String.singleton c ++ "^\x7b" ++ a ++ "\x7d" ++ q) = .group (.sup c (whole a) :: row q) := by
  have other : ∀ m ∈ q.toList.head?, isScriptMarker m = true → m = '^' := by
    intro m hm hs
    rcases (Bool.or_eq_true _ _).mp hs with h | h
    · exact of_decide_eq_true h
    · exact absurd (of_decide_eq_true h ▸ hm) hq
  have read := readItem_scripted hc isScriptMarker_sup (readScripted_single isScriptMarker_sup ha.balanced c other)
  have source : (String.singleton c ++ "^\x7b" ++ a ++ "\x7d" ++ q).toList =
      c :: '^' :: '\x7b' :: (a.toList ++ '\x7d' :: q.toList) := by simp
  rw [parse_eq, source, parseNodes_cons, read, if_pos rfl, Item.nodes, parseArgument_braced ha, row_eq q]
  rfl

theorem parse_sub (ha : Enclosable a) {q : String} (hq : q.toList.head? ≠ some '^') :
    parse (String.singleton c ++ "_\x7b" ++ a ++ "\x7d" ++ q) = .group (.sub c (whole a) :: row q) := by
  have other : ∀ m ∈ q.toList.head?, isScriptMarker m = true → m = '_' := by
    intro m hm hs
    rcases (Bool.or_eq_true _ _).mp hs with h | h
    · exact absurd (of_decide_eq_true h ▸ hm) hq
    · exact of_decide_eq_true h
  have read := readItem_scripted hc isScriptMarker_sub (readScripted_single isScriptMarker_sub ha.balanced c other)
  have source : (String.singleton c ++ "_\x7b" ++ a ++ "\x7d" ++ q).toList =
      c :: '_' :: '\x7b' :: (a.toList ++ '\x7d' :: q.toList) := by simp
  rw [parse_eq, source, parseNodes_cons, read, if_neg (by decide), Item.nodes, parseArgument_braced ha, row_eq q]
  rfl

end Script

/-- Every construct over parts that can stand in braces is parsed to its formula over what the parts are parsed to on
their own, and the source behind it as it is on its own. Braces that only group are spliced into the row. -/
theorem parse_constructs (ha : Enclosable a) (hb : Enclosable b) (hd : Enclosable d) (hd' : Balanced '[' ']' d)
    {c : Char} (hc : isAlphanumeric c = true) {blanks blanks' : String}
    (hblank : ∀ x ∈ blanks.toList, isBlank x = true) (hblank' : ∀ x ∈ blanks'.toList, isBlank x = true) (q : String) :
    parse ("\x7b" ++ a ++ "\x7d" ++ q) = .group (row a ++ row q) ∧
    (∀ name ∈ ["frac", "dfrac", "tfrac"],
      parse ("\\" ++ name ++ blanks ++ "\x7b" ++ a ++ "\x7d" ++ blanks' ++ "\x7b" ++ b ++ "\x7d" ++ q) =
        .group (.frac (whole a) (whole b) :: row q)) ∧
    parse ("\\sqrt\x7b" ++ a ++ "\x7d" ++ q) = .group (.sqrt (whole a) :: row q) ∧
    parse ("\\sqrt[" ++ d ++ "]\x7b" ++ a ++ "\x7d" ++ q) = .group (.root (whole d) (whole a) :: row q) ∧
    parse (String.singleton c ++ "_\x7b" ++ a ++ "\x7d^\x7b" ++ b ++ "\x7d" ++ q) =
      .group (.subsup c (whole a) (whole b) :: row q) ∧
    parse (String.singleton c ++ "^\x7b" ++ b ++ "\x7d_\x7b" ++ a ++ "\x7d" ++ q) =
      .group (.subsup c (whole a) (whole b) :: row q) ∧
    (q.toList.head? ≠ some '_' →
      parse (String.singleton c ++ "^\x7b" ++ a ++ "\x7d" ++ q) = .group (.sup c (whole a) :: row q)) ∧
    (q.toList.head? ≠ some '^' →
      parse (String.singleton c ++ "_\x7b" ++ a ++ "\x7d" ++ q) = .group (.sub c (whole a) :: row q)) :=
  ⟨parse_group ha q, fun _ hn => parse_fraction hn hblank hblank' ha hb q, parse_radical ha q, parse_root ha hd hd' q,
    parse_subsup hc ha hb q, parse_supsub hc ha hb q, parse_sup hc ha, parse_sub hc ha⟩

end Parse

/-- A power over a hidden brace, and what follows the fraction. -/
theorem parse_constructs_power :
    (Enclosable "x^\x7b2\x7d" ∧ Enclosable "\\\x7b" ∧ Enclosable "[3]" ∧ Balanced '[' ']' "[3]") ∧
    parse ("\\" ++ "frac" ++ " " ++ "\x7b" ++ "x^\x7b2\x7d" ++ "\x7d" ++ "" ++ "\x7b" ++ "\\\x7b" ++ "\x7d" ++ "_1") =
      .group (.frac (whole "x^\x7b2\x7d") (whole "\\\x7b") :: row "_1") := by
  have short : ∀ text : String, text.length ≤ 255 → NestsWithin 255 text := fun text h =>
    (nestsWithin_length text).mono h
  have ha : Enclosable "x^\x7b2\x7d" := ⟨by decide, short _ (by decide)⟩
  have hb : Enclosable "\\\x7b" := ⟨by decide, short _ (by decide)⟩
  have hd : Enclosable "[3]" := ⟨by decide, short _ (by decide)⟩
  have blank : " ".toList.all isBlank = true := by decide
  have h := @parse_constructs _ _ _ ha hb hd (by decide) 'x' (by decide +kernel) " " ""
    (List.all_eq_true.mp blank) (by simp) "_1"
  exact ⟨⟨ha, hb, hd, by decide⟩, h.2.1 "frac" (by decide)⟩

end Folio.Math
