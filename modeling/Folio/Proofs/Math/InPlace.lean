import Folio.Math.InPlace
import Folio.Proofs.Math.KeptCharacters
import Folio.Proofs.Math.Shape
import Mathlib.Data.List.DropRight

/-!
# Parsing in place comes to the same formula without a fault

A reader over the buffer stands in front of the text that the reader over a list has left. Where the one leaves `rest`
of a range that ends at `stop`, the other comes to the index `stop - rest.length`; that it comes there without a fault
is part of every statement.

* `At chars stop pos cs` : the range from `pos` to `stop` of the buffer `chars` holds `cs`;
* `Opens` : the range of the inside of a part that is written at an index;
* `parseItem_eq` : one round of the loop reads the first item of the range;
* `parseRange_eq`, `parse_ok` : the whole loop parses the range, and so the source;
* `parse_total` : what comes out has a bounded depth and no groups that only wrap.
-/

namespace Folio.Math.InPlace
open Unicode (isAlphanumeric isBlank)

@[simp] theorem ok_bind {α β : Type} (a : α) (f : α → Except Fault β) : (Except.ok a >>= f) = f a := rfl

@[simp] theorem pure_eq {α : Type} (a : α) : (pure a : Except Fault α) = .ok a := rfl

/-! ## Places in the buffer -/

/-- The range from `pos` to `stop` of the buffer holds `cs`. -/
def At (chars : List Char) (stop pos : Nat) (cs : List Char) : Prop :=
  ∃ before after, chars = before ++ cs ++ after ∧ pos = before.length ∧ stop = pos + cs.length

section Places
variable {chars : List Char} {stop pos : Nat} {c : Char} {cs xs : List Char}

theorem At.stop_eq (h : At chars stop pos cs) : stop = pos + cs.length := h.choose_spec.choose_spec.2.2

theorem At.lt (h : At chars stop pos (c :: cs)) : pos < stop := by
  rw [h.stop_eq, List.length_cons]
  omega

theorem At.not_lt (h : At chars stop pos []) : ¬ pos < stop := by
  rw [h.stop_eq, List.length_nil]
  omega

/-- Behind what stands first. -/
theorem At.append (h : At chars stop pos (xs ++ cs)) : At chars stop (pos + xs.length) cs := by
  obtain ⟨before, after, rfl, rfl, rfl⟩ := h
  exact ⟨before ++ xs, after, by simp, by simp, by simp [Nat.add_assoc]⟩

theorem At.tail (h : At chars stop pos (c :: cs)) : At chars stop (pos + 1) cs :=
  (show At chars stop pos ([c] ++ cs) from h).append

/-- What stands first is a range of its own. -/
theorem At.left (h : At chars stop pos (xs ++ cs)) : At chars (pos + xs.length) pos xs := by
  obtain ⟨before, after, rfl, rfl, rfl⟩ := h
  exact ⟨before, cs ++ after, by simp, rfl, rfl⟩

theorem At.stop_sub (h : At chars stop pos (xs ++ cs)) : stop - cs.length = pos + xs.length := by
  rw [h.stop_eq, List.length_append]
  omega

theorem At.charAt (h : At chars stop pos (c :: cs)) : charAt chars pos = .ok c := by
  obtain ⟨before, after, rfl, rfl, -⟩ := h
  simp [InPlace.charAt]

theorem At.peek (h : At chars stop pos cs) : peek chars stop pos = .ok cs.head? := by
  cases cs with
  | nil => simp [InPlace.peek, h.not_lt]
  | cons c cs => simp [InPlace.peek, h.lt, h.charAt]

/-- The place behind what stands first, told by what is left. -/
theorem At.rest (h : At chars stop pos (xs ++ cs)) : At chars stop (stop - cs.length) cs := h.stop_sub ▸ h.append

theorem At.stop_le (h : At chars stop pos cs) : stop ≤ chars.length := by
  obtain ⟨before, after, rfl, rfl, rfl⟩ := h
  simp

theorem At.checkRange (h : At chars stop pos cs) : checkRange chars pos stop = .ok () := by
  obtain ⟨before, after, rfl, rfl, rfl⟩ := h
  rw [InPlace.checkRange, if_pos (by simp)]

theorem At.slice (h : At chars stop pos cs) : slice chars pos stop = .ok cs := by
  rw [InPlace.slice, h.checkRange]
  obtain ⟨before, after, rfl, rfl, rfl⟩ := h
  simp [List.take_append]

/-- What stands first can be taken out. -/
theorem At.slice_left (h : At chars stop pos (xs ++ cs)) : InPlace.slice chars pos (stop - cs.length) = .ok xs :=
  h.stop_sub ▸ h.left.slice

theorem move_ok {index : Nat} (h : index ≤ stop) : move stop index = .ok () := if_pos h

theorem At.move (h : At chars stop pos cs) : move stop pos = .ok () := move_ok (by rw [h.stop_eq]; omega)

end Places

/-! ## The readers -/

section Readers
variable {chars : List Char} {stop pos : Nat} {c : Char} {cs : List Char}

theorem skipBlank_eq (h : At chars stop pos cs) :
    skipBlank chars stop pos = .ok (stop - (Math.skipBlank cs).length) := by
  induction cs generalizing pos with
  | nil =>
      rw [skipBlank, if_neg h.not_lt, h.stop_eq]
      rfl
  | cons c cs ih =>
      rw [skipBlank, if_pos h.lt, h.charAt, ok_bind, Math.skipBlank, List.dropWhile_cons]
      by_cases hc : isBlank c = true
      · rw [if_pos hc, if_pos hc, h.tail.move, ok_bind]
        exact ih h.tail
      · rw [if_neg hc, if_neg hc, h.stop_eq, Nat.add_sub_cancel]
        rfl

theorem skipLetters_eq (h : At chars stop pos cs) :
    skipLetters chars stop pos = .ok (stop - (cs.dropWhile Char.isAlpha).length) := by
  induction cs generalizing pos with
  | nil =>
      rw [skipLetters, if_neg h.not_lt, h.stop_eq]
      rfl
  | cons c cs ih =>
      rw [skipLetters, if_pos h.lt, h.charAt, ok_bind, List.dropWhile_cons]
      by_cases hc : c.isAlpha = true
      · rw [if_pos hc, if_pos hc]
        exact ih h.tail
      · rw [if_neg hc, if_neg hc, h.stop_eq, Nat.add_sub_cancel]
        rfl

/-- Where the name of a command ends. -/
theorem nameEnd_eq (h : At chars stop pos cs) {letters : Nat}
    (hl : letters = stop - (cs.dropWhile Char.isAlpha).length) :
    (if letters = pos ∧ letters < stop then letters + 1 else letters) = stop - (readName cs).2.length := by
  have text := congrArg List.length (cs.takeWhile_append_dropWhile (p := Char.isAlpha))
  rw [List.length_append] at text
  have hstop := h.stop_eq
  unfold readName
  cases hn : cs.takeWhile Char.isAlpha with
  | nil =>
      rw [hn, List.length_nil] at text
      simp only [List.length_drop]
      split_ifs <;> omega
  | cons d ds =>
      rw [hn, List.length_cons] at text
      rw [if_neg (by omega), hl]

theorem readCommand_eq (h : At chars stop pos (c :: cs)) :
    readCommand chars stop pos = .ok ((Math.readCommand c cs).1, stop - (Math.readCommand c cs).2.length) := by
  have placed := h
  rw [← readCommand_append c cs] at placed
  have inside : checkRange chars 0 stop = .ok () := if_pos ⟨Nat.zero_le _, h.stop_le⟩
  rw [readCommand, inside, ok_bind, skipLetters_eq h.tail, ok_bind]
  simp only [nameEnd_eq h.tail rfl]
  rw [show (readName cs).2 = (Math.readCommand c cs).2 from rfl, placed.slice_left, ok_bind, placed.rest.move]
  rfl

theorem carriesScript_eq (h : At chars stop pos (c :: cs)) :
    carriesScript chars stop c pos = .ok (Math.carriesScript c cs) := by
  rw [carriesScript, Math.carriesScript, h.tail.peek]
  by_cases hc : isAlphanumeric c = true
  · rw [if_pos hc, hc]
    rfl
  · rw [if_neg hc, Bool.eq_false_iff.mpr hc]
    rfl

theorem skipPlain_eq (h : At chars stop pos cs) :
    skipPlain chars stop pos = .ok (stop - (readPlain cs).2.length) := by
  induction cs generalizing pos with
  | nil =>
      rw [skipPlain, if_neg h.not_lt, h.stop_eq]
      rfl
  | cons c cs ih =>
      have stays : Except.ok pos = (Except.ok (stop - (c :: cs).length) : Except Fault Nat) := by
        rw [h.stop_eq, Nat.add_sub_cancel]
      rw [skipPlain, if_pos h.lt, h.charAt, ok_bind, readPlain]
      by_cases hp : isPlain c = true
      · rw [if_pos hp, carriesScript_eq h, ok_bind]
        by_cases hs : Math.carriesScript c cs = true
        · simpa [hs] using stays
        · rw [if_neg hs, if_pos (by simp [hp, hs]), h.tail.move, ok_bind]
          exact ih h.tail
      · simpa [hp] using stays

theorem readText_eq (h : At chars stop pos (c :: cs)) :
    ∃ text rest, Math.readText c cs = (.run text, rest) ∧
      readText chars stop pos = .ok (text, stop - rest.length) := by
  have placed := h
  rw [← readPlain_append (c :: cs)] at placed
  have hsub := placed.stop_sub
  rw [readText, skipPlain_eq h, ok_bind, Math.readText]
  rcases hp : readPlain (c :: cs) with ⟨text, rest⟩
  rw [hp] at placed hsub
  cases text with
  | nil =>
      -- nothing plain is ahead, so the one character is taken as it is
      have one : At chars stop pos ([c] ++ cs) := h
      refine ⟨[c], cs, rfl, ?_⟩
      rw [List.length_nil, Nat.add_zero] at hsub
      simp only [hsub, if_true]
      rw [show pos + 1 = stop - cs.length from one.stop_sub.symm, one.rest.move, ok_bind, one.slice_left]
      rfl
  | cons d ds =>
      refine ⟨d :: ds, rest, rfl, ?_⟩
      have moved : stop - rest.length ≠ pos := by
        rw [hsub, List.length_cons]
        omega
      simp only [moved, if_false]
      rw [placed.rest.move, ok_bind, placed.slice_left]
      rfl

theorem ne_backslash (h : c = '\\' → cs = [] → False) (h' : ∀ d ds, c = '\\' → cs = d :: ds → False) : c ≠ '\\' := by
  intro hc
  cases cs with
  | nil => exact h hc rfl
  | cons d ds => exact h' d ds hc rfl

/-- The scan for the closing bracket goes as over a list; the range that it finds begins at `start`, wherever the scan
has got to. -/
theorem findClosing_eq {opening closing : Char} {start depth : Nat} (hstart : start ≤ stop) (hd : 0 < depth)
    (h : At chars stop pos cs) :
    findClosing chars stop opening closing start depth pos =
      .ok (⟨start, pos + (readBalanced opening closing depth cs).1.length⟩,
        stop - (readBalanced opening closing depth cs).2.2.length) := by
  fun_induction readBalanced opening closing depth cs generalizing pos with
  | case1 depth =>
      rw [findClosing, if_neg h.not_lt, Nat.min_eq_left hstart, h.stop_eq]
      rfl
  | case2 depth =>
      -- the backslash hides what would stand behind the end, and the scan has gone past it
      have past : ¬ pos + 2 < stop := by
        rw [h.stop_eq, List.length_singleton]
        omega
      rw [findClosing, if_pos h.lt, h.charAt, ok_bind, if_pos rfl, findClosing, if_neg past, Nat.min_eq_left hstart,
        h.stop_eq]
      rfl
  | case3 depth c cs inner closed rest hr ih =>
      simp only [hr] at ih
      rw [findClosing, if_pos h.lt, h.charAt, ok_bind, if_pos rfl, ih hd h.tail.tail]
      simp only [List.length_cons, Nat.add_assoc, Nat.add_comm 1]
  | case4 depth cs inner closed rest hr hn hb ih =>
      simp only [hr] at ih
      rw [findClosing, if_pos h.lt, h.charAt, ok_bind, if_neg (ne_backslash hn hb), if_pos rfl,
        ih (Nat.succ_pos depth) h.tail]
      simp only [List.length_cons, Nat.add_assoc, Nat.add_comm 1]
  | case5 depth cs hone hn hb hne =>
      have one : stop - cs.length = pos + 1 := (show At chars stop pos ([closing] ++ cs) from h).stop_sub
      rw [findClosing, if_pos h.lt, h.charAt, ok_bind, if_neg (ne_backslash hn hb), if_neg hne, if_pos rfl,
        if_neg (by omega), if_pos (by omega), h.tail.move, one]
      rfl
  | case6 depth cs hone inner closed rest hr hn hb hne ih =>
      simp only [hr] at ih
      rw [findClosing, if_pos h.lt, h.charAt, ok_bind, if_neg (ne_backslash hn hb), if_neg hne, if_pos rfl,
        if_neg (by omega), if_neg (by omega), ih (by omega) h.tail]
      simp only [List.length_cons, Nat.add_assoc, Nat.add_comm 1]
  | case7 depth c cs hn hb hno hnc inner closed rest hr ih =>
      simp only [hr] at ih
      rw [findClosing, if_pos h.lt, h.charAt, ok_bind, if_neg (ne_backslash hn hb), if_neg hno, if_neg hnc,
        ih hd h.tail]
      simp only [List.length_cons, Nat.add_assoc, Nat.add_comm 1]

/-- Where a part and its rest come to lie in the buffer. -/
def partRange (stop pos : Nat) (found : Part × List Char) : Range × Nat :=
  (⟨pos + 1, pos + 1 + found.1.inner.length⟩, stop - found.2.length)

theorem readPart_eq {opening closing : Char} (ho : opening ≠ '\\') (h : At chars stop pos cs) :
    readPart chars stop opening closing pos = .ok ((Math.readPart opening closing cs).map (partRange stop pos)) := by
  rw [readPart, h.peek, ok_bind]
  cases cs with
  | nil => rfl
  | cons c cs =>
      rw [List.head?_cons, Math.readPart]
      by_cases hc : c = opening
      · subst hc
        -- the scan counts the opening bracket first
        rw [if_pos rfl, if_pos rfl, findClosing, if_pos h.lt, h.charAt, ok_bind, if_neg ho, if_pos rfl,
          findClosing_eq h.lt Nat.one_pos h.tail]
        rfl
      · rw [if_neg (fun hs => hc (Option.some.inj hs)), if_neg hc]
        rfl

end Readers

/-! ## Constructs -/

/-- The formulas of an item, and where its rest comes to lie. -/
def itemPlace (depth stop : Nat) (found : Item × List Char) : List Formula × Nat :=
  (found.1.nodes depth, stop - found.2.length)

/-- A formula as a row of its own. -/
def single (found : Formula × Nat) : List Formula × Nat := ([found.1], found.2)

/-- The argument behind the second marker of a script, which is of the other kind. -/
def secondArgument (marker : Char) : List Char → Option (Argument × List Char)
  | c :: cs => if isScriptMarker c && c ≠ marker then readArgument cs else none
  | [] => none

/-- The part opens at the index, and the range is its inside; a part that is not closed goes on to the end. -/
def Opens (chars : List Char) (stop opened : Nat) (inner : Range) (part : Part) : Prop :=
  ∃ rest, At chars stop opened (part.literal ++ rest) ∧ inner = ⟨opened + 1, opened + 1 + part.inner.length⟩ ∧
    (part.closing = none → rest = [])

section Constructs
variable {chars : List Char} {stop pos depth : Nat} {c : Char} {cs : List Char}

/-- What was read as a part opens where reading began, and reading goes on at the rest. -/
theorem opens_of_readPart {opening closing : Char} {part : Part} {rest : List Char} (h : At chars stop pos cs)
    (hp : Math.readPart opening closing cs = some (part, rest)) :
    Opens chars stop pos ⟨pos + 1, pos + 1 + part.inner.length⟩ part ∧ At chars stop (stop - rest.length) rest := by
  obtain ⟨rfl, -, -⟩ := readPart_literal hp
  refine ⟨⟨rest, h, rfl, fun hc => ?_⟩, h.rest⟩
  rcases readPart_cases hp with ⟨-, hc', -⟩ | ⟨-, hr, -⟩
  · exact absurd (hc.symm.trans hc') (by simp)
  · exact hr

variable {inside : Nat → Range → Except Fault (List Formula)}
  (hinside : ∀ opened inner part, Opens chars stop opened inner part →
    inside opened inner = .ok (Math.parsePart depth part))
include hinside

theorem parseArgument_eq (h : At chars stop pos cs) :
    parseArgument chars stop inside pos =
      .ok ((readArgument cs).map fun found => (Math.parseArgument depth found.1, stop - found.2.length)) := by
  rw [parseArgument, h.peek, ok_bind]
  cases cs with
  | nil => rfl
  | cons c cs =>
      simp only [List.head?_cons, readArgument]
      split_ifs with hopen hback hend
      · rw [readPart_eq (by decide) h, ok_bind, readGroup]
        rcases hp : Math.readPart '\x7b' '\x7d' (c :: cs) with _ | ⟨part, rest⟩
        · rfl
        · simp only [Option.map_some, partRange]
          rw [hinside _ _ _ (opens_of_readPart h hp).1, ok_bind, Math.parseArgument]
          rfl
      · rw [readCommand_eq (hback ▸ h), ok_bind, hback]
        simp only [Option.map_some, Math.parseArgument]
        rfl
      · rfl
      · have one : stop - cs.length = pos + 1 := (show At chars stop pos ([c] ++ cs) from h).stop_sub
        simp only [h.tail.move, ok_bind, Option.map_some, Math.parseArgument, one]
        rfl

omit hinside in
theorem At.behind_argument (h : At chars stop pos cs) {argument : Argument} {rest : List Char}
    (hr : readArgument cs = some (argument, rest)) : At chars stop (stop - rest.length) rest := by
  rw [readArgument_keeps hr] at h
  exact h.rest

omit hinside in
/-- The marker of the other kind. -/
theorem other_marker {marker : Char} (hm : isScriptMarker marker = true) (c : Char) :
    (isScriptMarker c && decide (c ≠ marker)) = true ↔ c = if marker = '_' then '^' else '_' := by
  have hm : marker = '^' ∨ marker = '_' := by simpa [isScriptMarker] using hm
  rcases hm with rfl | rfl <;> simp [isScriptMarker] <;> grind

omit hinside in
/-- What the scripts of a character are once the first argument is read. -/
theorem readScripted_argument {base marker : Char} {first : Argument} {rest : List Char}
    (hm : isScriptMarker marker = true) (hf : readArgument cs = some (first, rest)) :
    readScripted base (marker :: cs) = some (match secondArgument marker rest with
      | some (second, behind) =>
        (if marker = '_' then .subsup base first second else .subsup base second first, behind)
      | none => (if marker = '^' then .sup base first else .sub base first, rest)) := by
  simp only [readScripted, hm, hf, Bool.not_true, Bool.false_eq_true, if_false, Option.bind_eq_bind, Option.bind_some]
  cases rest with
  | nil =>
      simp only [secondArgument]
      split_ifs <;> rfl
  | cons d ds =>
      simp only [secondArgument]
      split_ifs <;> cases readArgument ds <;> rfl

theorem parseScripted_eq {base marker : Char} (hm : isScriptMarker marker = true)
    (h : At chars stop pos (base :: marker :: cs)) :
    ∃ found, parseScripted chars stop inside pos = .ok found ∧
      found.map single = (readScripted base (marker :: cs)).map (itemPlace depth stop) := by
  have h₂ : At chars stop (pos + 2) cs := h.tail.tail
  simp only [parseScripted, h.peek, h.tail.peek, h.tail.move, h₂.move, parseArgument_eq hinside h₂, List.head?_cons,
    ok_bind]
  rcases hf : readArgument cs with _ | ⟨first, rest⟩
  · exact ⟨none, rfl, by simp [readScripted, hm, hf]⟩
  have hr := h₂.behind_argument hf
  simp only [Option.map_some, hr.peek, ok_bind]
  rw [readScripted_argument hm hf]
  cases rest with
  | nil => exact ⟨_, rfl, by simp only [secondArgument]; split_ifs <;> rfl⟩
  | cons d ds =>
      have h₃ : At chars stop (stop - (d :: ds).length + 1) ds := hr.tail
      rw [secondArgument]
      by_cases hd : (isScriptMarker d && decide (d ≠ marker)) = true
      · rw [if_pos hd, List.head?_cons, if_pos (congrArg some ((other_marker hm d).mp hd)), h₃.move, ok_bind,
          parseArgument_eq hinside h₃, ok_bind]
        rcases readArgument ds with _ | ⟨second, behind⟩
        · exact ⟨_, rfl, by simp only; split_ifs <;> rfl⟩
        · exact ⟨_, rfl, by simp only; split_ifs <;> rfl⟩
      · rw [if_neg hd, List.head?_cons, if_neg fun hs => hd ((other_marker hm d).mpr (Option.some.inj hs))]
        exact ⟨_, rfl, by simp only; split_ifs <;> rfl⟩

omit hinside in
theorem At.behind_blanks (h : At chars stop pos cs) :
    At chars stop (stop - (Math.skipBlank cs).length) (Math.skipBlank cs) := by
  rw [← cs.takeWhile_append_dropWhile (p := isBlank)] at h
  exact h.rest

theorem parseFraction_eq (h : At chars stop pos cs) :
    ∃ found, parseFraction chars stop inside pos = .ok found ∧
      found.map single = (readFraction cs).map (itemPlace depth stop) := by
  have hn := h.behind_blanks
  rw [parseFraction, skipBlank_eq h, ok_bind, readPart_eq (by decide) hn, ok_bind, readFraction, readGroup]
  rcases num : Math.readPart '\x7b' '\x7d' (Math.skipBlank cs) with _ | ⟨num, rest⟩
  · exact ⟨none, rfl, rfl⟩
  obtain ⟨opensNum, hr⟩ := opens_of_readPart hn num
  have hd := hr.behind_blanks
  simp only [Option.map_some, partRange, Option.bind_eq_bind, Option.bind_some]
  rw [skipBlank_eq hr, ok_bind, readPart_eq (by decide) hd, ok_bind]
  rcases den : Math.readPart '\x7b' '\x7d' (Math.skipBlank rest) with _ | ⟨den, behind⟩
  · exact ⟨none, rfl, rfl⟩
  have opensDen := (opens_of_readPart hd den).1
  simp only [Option.map_some, partRange, Option.bind_some]
  rw [hinside _ _ _ opensNum, ok_bind, hinside _ _ _ opensDen]
  exact ⟨_, rfl, rfl⟩

theorem parseRadical_eq (h : At chars stop pos cs) :
    ∃ found, parseRadical chars stop inside pos = .ok found ∧
      found.map single = (readRadical cs).map (itemPlace depth stop) := by
  have hb := h.behind_blanks
  rw [parseRadical, skipBlank_eq h, ok_bind, readPart_eq (by decide) hb, ok_bind, readRadical, readBracket]
  rcases degree : Math.readPart '[' ']' (Math.skipBlank cs) with _ | ⟨degree, rest⟩
  · -- blanks are skipped once more, but none are left
    have again : Math.skipBlank (Math.skipBlank cs) = Math.skipBlank cs := List.dropWhile_idempotent _ _
    have hr := hb.behind_blanks
    simp only [Option.map_none, Option.elim_none]
    rw [skipBlank_eq hb, ok_bind, readPart_eq (by decide) hr, again, ok_bind, readGroup]
    rcases radicand : Math.readPart '\x7b' '\x7d' (Math.skipBlank cs) with _ | ⟨radicand, behind⟩
    · exact ⟨none, rfl, rfl⟩
    have opens := (opens_of_readPart hr (again ▸ radicand)).1
    rw [again] at opens
    simp only [Option.map_some, partRange]
    rw [hinside _ _ _ opens]
    exact ⟨_, rfl, rfl⟩
  · obtain ⟨opensDegree, hd⟩ := opens_of_readPart hb degree
    have hr := hd.behind_blanks
    simp only [Option.map_some, partRange, Option.elim_some]
    rw [skipBlank_eq hd, ok_bind, readPart_eq (by decide) hr, ok_bind, readGroup]
    rcases radicand : Math.readPart '\x7b' '\x7d' (Math.skipBlank rest) with _ | ⟨radicand, behind⟩
    · exact ⟨none, rfl, rfl⟩
    have opens := (opens_of_readPart hr radicand).1
    simp only [Option.map_some, partRange]
    rw [hinside _ _ _ opensDegree, ok_bind, hinside _ _ _ opens]
    exact ⟨_, rfl, rfl⟩

omit hinside in
/-- A construct that was not read leaves the command as literal text. -/
theorem getD_place {found : Option (Formula × Nat)} {read : Option (Item × List Char)}
    (same : found.map single = read.map (itemPlace depth stop)) (text rest : List Char) :
    single (found.getD (.run (String.ofList text), stop - rest.length)) =
      itemPlace depth stop (read.getD (.run text, rest)) := by
  cases found with
  | none =>
      cases read with
      | none => rfl
      | some _ => cases same
  | some _ =>
      cases read with
      | none => cases same
      | some _ => exact Option.some.inj same

theorem parseCommand_eq (h : At chars stop pos ('\\' :: cs)) :
    ∃ found, parseCommand chars stop inside pos = .ok found ∧
      single found = itemPlace depth stop (readCommandItem '\\' cs) := by
  have placed := h
  rw [← readCommand_append '\\' cs] at placed
  have hr := placed.rest
  rw [parseCommand, readCommand_eq h, ok_bind, readCommandItem]
  simp only
  split_ifs
  · obtain ⟨found, hf, same⟩ := parseFraction_eq hinside hr
    rw [hf, ok_bind]
    exact ⟨_, rfl, getD_place same _ _⟩
  · obtain ⟨found, hf, same⟩ := parseRadical_eq hinside hr
    rw [hf, ok_bind]
    exact ⟨_, rfl, getD_place same _ _⟩
  · exact ⟨_, rfl, rfl⟩

theorem parseUnscripted_eq (h : At chars stop pos (c :: cs)) :
    parseUnscripted chars stop inside c pos = .ok (itemPlace depth stop
      (if c = '\\' then readCommandItem c cs
        else match readGroup (c :: cs) with
          | some (part, rest) => (.group part, rest)
          | none => Math.readText c cs)) := by
  rw [parseUnscripted]
  by_cases hc : c = '\\'
  · subst hc
    obtain ⟨found, hf, same⟩ := parseCommand_eq hinside h
    rw [if_pos rfl, if_pos rfl, hf, ← same]
    rfl
  · rw [if_neg hc, if_neg hc]
    by_cases hb : c = '\x7b'
    · rw [if_pos hb, readPart_eq (by decide) h, ok_bind, readGroup]
      rcases hp : Math.readPart '\x7b' '\x7d' (c :: cs) with _ | ⟨part, rest⟩
      · -- a brace always opens a part
        rw [Math.readPart, if_pos hb] at hp
        cases hp
      · simp only [Option.map_some, partRange]
        rw [hinside _ _ _ (opens_of_readPart h hp).1]
        rfl
    · obtain ⟨text, rest, hr, same⟩ := readText_eq h
      have none : readGroup (c :: cs) = none := if_neg hb
      rw [if_neg hb, same, none]
      simp only
      rw [hr]
      rfl

/-- One round of the loop reads the first item of the range. -/
theorem parseItem_eq (h : At chars stop pos (c :: cs)) :
    parseItem chars stop inside pos = .ok (itemPlace depth stop (readItem c cs)) := by
  rw [parseItem, h.charAt, ok_bind, carriesScript_eq h, ok_bind, readItem]
  by_cases hs : Math.carriesScript c cs = true
  · -- a marker follows the character
    obtain ⟨marker, ds, rfl, hm⟩ : ∃ marker ds, cs = marker :: ds ∧ isScriptMarker marker = true := by
      cases cs with
      | nil => simp [Math.carriesScript] at hs
      | cons marker ds => exact ⟨marker, ds, rfl, ((Bool.and_eq_true _ _).mp hs).2⟩
    obtain ⟨found, hf, same⟩ := parseScripted_eq hinside hm h
    rw [if_pos hs, if_pos hs, hf, ok_bind]
    cases found with
    | none =>
        have none : readScripted c (marker :: ds) = none := Option.map_eq_none_iff.mp same.symm
        rw [none]
        exact parseUnscripted_eq hinside h
    | some found =>
        obtain ⟨read, hr, same⟩ := Option.map_eq_some_iff.mp same.symm
        rw [hr]
        exact congrArg Except.ok same.symm
  · rw [if_neg hs, if_neg hs]
    exact parseUnscripted_eq hinside h

end Constructs

/-! ## The rest of a source -/

section Rest
variable {cs rest : List Char} {item : Item}

theorem readPart_suffix {opening closing : Char} {part : Part}
    (h : Math.readPart opening closing cs = some (part, rest)) : rest <:+ cs :=
  ⟨part.literal, (readPart_literal h).1.symm⟩

theorem skipBlank_suffix (cs : List Char) : Math.skipBlank cs <:+ cs := List.dropWhile_suffix _

theorem readArgument_suffix {argument : Argument} (h : readArgument cs = some (argument, rest)) : rest <:+ cs :=
  ⟨argument.written, (readArgument_keeps h).symm⟩

theorem readFraction_suffix (h : readFraction cs = some (item, rest)) : rest <:+ cs := by
  obtain ⟨num, behind, den, rfl, hn, hd⟩ := readFraction_eq_some h
  have first := (readPart_suffix hn).trans (skipBlank_suffix cs)
  exact ((readPart_suffix hd).trans (skipBlank_suffix behind)).trans first

theorem readRadical_suffix (h : readRadical cs = some (item, rest)) : rest <:+ cs := by
  rcases readRadical_cases h with ⟨radicand, rfl, hr⟩ | ⟨degree, behind, radicand, rfl, hd, hr⟩
  · exact (readPart_suffix hr).trans (skipBlank_suffix cs)
  · have first := (readPart_suffix hd).trans (skipBlank_suffix cs)
    exact ((readPart_suffix hr).trans (skipBlank_suffix behind)).trans first

theorem readCommandItem_suffix (c : Char) (cs : List Char) : (readCommandItem c cs).2 <:+ c :: cs := by
  have name : (Math.readCommand c cs).2 <:+ c :: cs := ⟨_, readCommand_append c cs⟩
  rcases readCommandItem_cases c cs with h | ⟨-, h⟩ | ⟨-, h⟩
  · rwa [h]
  · exact (readFraction_suffix h).trans name
  · exact (readRadical_suffix h).trans name

theorem readScripted_suffix {base : Char} (h : readScripted base cs = some (item, rest)) : rest <:+ cs := by
  obtain ⟨marker, ds, first, behind, -, rfl, hf, hs⟩ := readScripted_cases h
  have one := (readArgument_suffix hf).trans (List.suffix_cons marker ds)
  rcases hs with ⟨rfl, -⟩ | ⟨other, es, second, -, -, rfl, hs, -⟩
  · exact one
  · exact ((readArgument_suffix hs).trans (List.suffix_cons other es)).trans one

theorem readItem_suffix (c : Char) (cs : List Char) : (readItem c cs).2 <:+ c :: cs := by
  rcases readItem_cases c cs with ⟨-, h⟩ | ⟨-, h⟩ | ⟨part, -, h⟩ | ⟨-, h⟩
  · exact (readScripted_suffix h).trans (List.suffix_cons c cs)
  · rw [h]
    exact readCommandItem_suffix c cs
  · exact readPart_suffix h
  · rw [h]
    exact ⟨_, readText_written c cs⟩

end Rest

/-! ## The loop -/

section Loop
variable {chars : List Char} {stop pos depth opened : Nat} {cs rest : List Char}

theorem At.of_suffix (h : At chars stop pos cs) (hs : rest <:+ cs) : At chars stop (stop - rest.length) rest := by
  obtain ⟨taken, rfl⟩ := hs
  exact h.rest

/-- A part is parsed where it stands, if ranges are parsed one level deeper; what lies too deep is taken out as it is
written. -/
theorem parseInside_eq {inner : Range} {part : Part} (opens : Opens chars stop opened inner part)
    (deeper : depth < maxDepth → ∀ {stop pos cs}, At chars stop pos cs →
      parseRange chars (depth + 1) stop pos = .ok (parseNodes (depth + 1) cs)) :
    parseInside chars depth stop opened inner = .ok (parsePart depth part) := by
  obtain ⟨rest, h, rfl, hr⟩ := opens
  rw [parseInside, parsePart]
  split_ifs with hd
  · have upTo : min (opened + 1 + part.inner.length + 1) stop = opened + part.literal.length := by
      rw [h.stop_eq]
      cases hc : part.closing with
      | none => simp [Part.literal, hc, hr hc]; omega
      | some _ => simp [Part.literal, hc]; omega
    simp only
    rw [upTo, h.left.slice]
    rfl
  · have inside : At chars (opened + 1 + part.inner.length) (opened + 1) part.inner :=
      (show At chars stop opened (part.opening :: (part.inner ++ (part.closing.toList ++ rest))) by
        simpa [Part.literal] using h).tail.left
    simp only
    rw [inside.checkRange, ok_bind]
    exact deeper (by omega) inside

/-- The loop over a range, if the parts in it are parsed. Its rounds read something, since what is left behind an item
is shorter. -/
theorem parseRange_of_inside
    (hinside : ∀ opened inner part, Opens chars stop opened inner part →
      parseInside chars depth stop opened inner = .ok (parsePart depth part))
    (h : At chars stop pos cs) : parseRange chars depth stop pos = .ok (parseNodes depth cs) := by
  induction hn : cs.length using Nat.strongRecOn generalizing pos cs with
  | ind n ih =>
  cases cs with
  | nil => rw [parseRange, if_neg h.not_lt, parseNodes]; rfl
  | cons c cs =>
      have behind : At chars stop (itemPlace depth stop (readItem c cs)).2 (readItem c cs).2 :=
        h.of_suffix (readItem_suffix c cs)
      have shorter := (length_readItem c cs).1
      rw [List.length_cons] at hn
      have advance : pos < (itemPlace depth stop (readItem c cs)).2 := by
        have := h.stop_eq
        have := behind.stop_eq
        rw [List.length_cons] at *
        omega
      rw [parseRange, if_pos h.lt, parseItem_eq hinside h, ok_bind, parseNodes_cons]
      simp only
      rw [if_pos advance, ih _ (by omega) behind rfl]
      rfl

/-- The loop parses the range that it is given. -/
theorem parseRange_eq (depth : Nat) (h : At chars stop pos cs) :
    parseRange chars depth stop pos = .ok (parseNodes depth cs) := by
  -- on the levels that are left: parts are parsed one level deeper
  induction hl : maxDepth - depth using Nat.strongRecOn generalizing depth stop pos cs with
  | ind levels ih =>
  refine parseRange_of_inside (fun opened inner part opens => parseInside_eq opens fun hd => ?_) h
  intro stop pos cs h
  exact ih _ (by omega) (depth + 1) h rfl

end Loop

/-- The whole source is parsed in place. -/
theorem parse_ok (source : String) : parse source = .ok (Math.parse source) := by
  have whole : At source.toList source.toList.length 0 source.toList := ⟨[], [], by simp, rfl, by simp⟩
  rw [parse, parseRange_eq 0 whole]
  rfl

/-- **Parsing is total, and its result is shallow and collapsed.** No index leaves its range and every round of the loop
reads something, so parsing in place comes to the formula of the source. That is a group; no way down from it meets
more than `maxDepth + 1` fractions, roots and scripts; no group below it stands in a group or has a single part. -/
theorem parse_total (source : String) :
    parse source = .ok (Math.parse source) ∧ (∃ parts, Math.parse source = .group parts) ∧
      (∀ path, (Math.parse source).Path path → path.countP Formula.isConstruct ≤ maxDepth + 1) ∧
      (Math.parse source).Collapsed := by
  have fits := parseNodes_fits 0 source.toList
  exact ⟨parse_ok source, ⟨_, parse_eq source⟩, fits.bounded, fits.collapsed⟩

end Folio.Math.InPlace
