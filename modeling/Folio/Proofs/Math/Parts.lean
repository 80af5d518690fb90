import Folio.Proofs.Math.Nesting

/-!
# The bracketed parts of a source and how deep they nest

* `Ahead cs rest` : `rest` is what is left of `cs` after some of its tokens;
* `Holds cs part` : `part` is a bracketed part that is read somewhere in `cs`;
* `readItem_takes` : an item holds parts of its source, and the source goes on behind it;
* `Shallow levels cs` : no place of `cs` lies inside more than `levels` parts;
* `Holds.shallow` : inside a part the brackets are one level less deep than around it.
-/

namespace Folio.Math
open Unicode (isAlphanumeric isBlank)

/-! ## The source ahead -/

/-- `rest` is what is left of `cs` after some of its tokens. -/
def Ahead (cs rest : List Char) : Prop := ∃ pre, shown cs = pre ++ shown rest

theorem Ahead.refl (cs : List Char) : Ahead cs cs := ⟨[], rfl⟩

theorem Ahead.trans {cs ds rest : List Char} (h : Ahead cs ds) (h' : Ahead ds rest) : Ahead cs rest := by
  obtain ⟨pre, h⟩ := h
  obtain ⟨pre', h'⟩ := h'
  exact ⟨pre ++ pre', by rw [h, h', List.append_assoc]⟩

/-- A character other than the backslash is a token of its own. -/
theorem Ahead.cons {c : Char} (h : c ≠ '\\') (cs : List Char) : Ahead (c :: cs) cs :=
  ⟨[c], shown_cons h cs⟩

/-- `part` is read somewhere in `cs`; one in square brackets counts only when it is closed. -/
def Holds (cs : List Char) (part : Part) : Prop :=
  ∃ source rest, Ahead cs source ∧
    (readGroup source = some (part, rest) ∨ readBracket source = some (part, rest) ∧ part.closing ≠ none)

theorem Holds.of_ahead {cs ds : List Char} {part : Part} (h : Ahead cs ds) (h' : Holds ds part) : Holds cs part := by
  obtain ⟨source, rest, hs, hp⟩ := h'
  exact ⟨source, rest, h.trans hs, hp⟩

/-- A reader took `parts` from `cs` and left `rest`. -/
structure Takes (cs : List Char) (parts : List Part) (rest : List Char) : Prop where
  ahead : Ahead cs rest
  holds : ∀ part ∈ parts, Holds cs part

theorem Takes.none {cs rest : List Char} (h : Ahead cs rest) : Takes cs [] rest :=
  ⟨h, fun _ hp => absurd hp List.not_mem_nil⟩

/-- Two readers one after the other. -/
theorem Takes.append {cs ds rest : List Char} {parts parts' : List Part} (h : Takes cs parts ds)
    (h' : Takes ds parts' rest) : Takes cs (parts ++ parts') rest := by
  refine ⟨h.ahead.trans h'.ahead, fun part hp => ?_⟩
  rcases List.mem_append.mp hp with hp | hp
  · exact h.holds part hp
  · exact (h'.holds part hp).of_ahead h.ahead

theorem Takes.of_ahead {cs ds rest : List Char} {parts : List Part} (h : Ahead cs ds) (h' : Takes ds parts rest) :
    Takes cs parts rest := (Takes.none h).append h'

/-! ## The readers of a source -/

/-- A part that is read stands between its brackets, balanced, or reaches to the end of a source that never closes
it. -/
theorem readPart_cases {opening closing : Char} {cs : List Char} {part : Part} {rest : List Char}
    (h : readPart opening closing cs = some (part, rest)) :
    (cs = opening :: part.inner ++ closing :: rest ∧ part.closing = some closing ∧
        balancedFrom opening closing 0 part.inner = true) ∨
      (cs = opening :: part.inner ∧ rest = [] ∧ part.closing = none ∧
        closedBeyond opening closing 0 (shown part.inner) = 0) := by
  cases cs with
  | nil => cases h
  | cons c cs =>
      rw [readPart] at h
      by_cases hc : c = opening
      · rw [if_pos hc] at h
        subst hc
        rcases hb : readBalanced c closing 1 cs with ⟨inner, closed, rest'⟩
        rw [hb] at h
        cases h
        cases closed with
        | true =>
            obtain ⟨rfl, hb'⟩ := balancedFrom_of_readBalanced hb
            exact .inl ⟨rfl, rfl, hb'⟩
        | false =>
            obtain ⟨rfl, rfl, hb'⟩ := closedBeyond_of_readBalanced hb
            exact .inr ⟨rfl, rfl, rfl, hb'⟩
      · rw [if_neg hc] at h
        cases h

theorem readPart_ahead {opening closing : Char} (ho : opening ≠ '\\') (hc : closing ≠ '\\') {cs : List Char}
    {part : Part} {rest : List Char} (h : readPart opening closing cs = some (part, rest)) : Ahead cs rest := by
  rcases readPart_cases h with ⟨rfl, -, hb⟩ | ⟨rfl, rfl, -, -⟩
  · refine ⟨opening :: shown part.inner ++ [closing], ?_⟩
    rw [List.cons_append, shown_cons ho, shown_append_of_balancedFrom hb, shown_cons hc]
    simp
  · exact ⟨opening :: shown part.inner, by rw [shown_cons ho]; simp [shown]⟩

theorem readGroup_takes {cs : List Char} {part : Part} {rest : List Char} (h : readGroup cs = some (part, rest)) :
    Takes cs [part] rest := by
  refine ⟨readPart_ahead (by decide) (by decide) h, fun p hp => ?_⟩
  rw [List.mem_singleton.mp hp]
  exact ⟨cs, rest, .refl cs, .inl h⟩

theorem readBracket_takes {cs : List Char} {part : Part} {rest : List Char} (h : readBracket cs = some (part, rest))
    (hr : rest ≠ []) : Takes cs [part] rest := by
  refine ⟨readPart_ahead (by decide) (by decide) h, fun p hp => ?_⟩
  rw [List.mem_singleton.mp hp]
  rcases readPart_cases h with ⟨-, hc, -⟩ | ⟨-, hr', -⟩
  · exact ⟨cs, rest, .refl cs, .inr ⟨h, by simp [hc]⟩⟩
  · exact absurd hr' hr

/-- Characters other than the backslash can be skipped one by one. -/
theorem ahead_dropWhile {p : Char → Bool} (hp : p '\\' = false) (cs : List Char) : Ahead cs (cs.dropWhile p) := by
  induction cs with
  | nil => exact .refl []
  | cons c cs ih =>
      rw [List.dropWhile_cons]
      by_cases h : p c = true
      · rw [if_pos h]
        exact (Ahead.cons (fun hc => by simp [hc, hp] at h) cs).trans ih
      · rw [if_neg h]
        exact .refl _

theorem skipBlank_ahead (cs : List Char) : Ahead cs (skipBlank cs) := ahead_dropWhile (by decide) cs

/-- The first letter of a name is hidden by the backslash of its command; the others stand for themselves. -/
theorem readCommand_ahead (cs : List Char) : Ahead ('\\' :: cs) (readCommand '\\' cs).2 := by
  cases cs with
  | nil => exact ⟨[], rfl⟩
  | cons c cs =>
      have hidden : Ahead ('\\' :: c :: cs) cs := ⟨[], by rw [shown]; rfl⟩
      simp only [readCommand, readName, List.takeWhile_cons, List.dropWhile_cons]
      by_cases h : c.isAlpha = true
      · simp only [h, if_true]
        exact hidden.trans (ahead_dropWhile (by decide) cs)
      · simp only [h, Bool.false_eq_true, if_false]
        exact hidden

theorem readArgument_takes {cs : List Char} {argument : Argument} {rest : List Char}
    (h : readArgument cs = some (argument, rest)) : Takes cs argument.parts rest := by
  rcases readArgument_cases h with ⟨part, rfl, hg⟩ | ⟨ds, rfl, rfl, rfl⟩ | ⟨c, hc, rfl, rfl⟩
  · exact readGroup_takes hg
  · exact .none (readCommand_ahead ds)
  · exact .none (.cons hc rest)

theorem readFraction_takes {cs : List Char} {item : Item} {rest : List Char}
    (h : readFraction cs = some (item, rest)) : Takes cs item.parts rest := by
  obtain ⟨num, behind, den, rfl, hn, hd⟩ := readFraction_eq_some h
  have first : Takes cs [num] behind := (readGroup_takes hn).of_ahead (skipBlank_ahead cs)
  exact first.append ((readGroup_takes hd).of_ahead (skipBlank_ahead behind))

theorem readRadical_takes {cs : List Char} {item : Item} {rest : List Char}
    (h : readRadical cs = some (item, rest)) : Takes cs item.parts rest := by
  rcases readRadical_cases h with ⟨radicand, rfl, hr⟩ | ⟨degree, behind, radicand, rfl, hd, hr⟩
  · exact (readGroup_takes hr).of_ahead (skipBlank_ahead cs)
  · -- a radicand follows the degree, so the source does not end inside the degree
    have hne : behind ≠ [] := by
      rintro rfl
      cases hr
    have first : Takes cs [degree] behind := (readBracket_takes hd hne).of_ahead (skipBlank_ahead cs)
    exact first.append ((readGroup_takes hr).of_ahead (skipBlank_ahead behind))

theorem readCommandItem_takes (cs : List Char) :
    Takes ('\\' :: cs) (readCommandItem '\\' cs).1.parts (readCommandItem '\\' cs).2 := by
  have name := readCommand_ahead cs
  rcases readCommandItem_cases '\\' cs with h | ⟨-, h⟩ | ⟨-, h⟩
  · rw [h]
    exact .none name
  · exact (readFraction_takes h).of_ahead name
  · exact (readRadical_takes h).of_ahead name

theorem ne_backslash_of_isScriptMarker {c : Char} (h : isScriptMarker c = true) : c ≠ '\\' := by
  rintro rfl
  exact absurd h (by decide)

/-- An argument behind a script marker. -/
theorem readArgument_takes_marked {marker : Char} (hm : isScriptMarker marker = true) {cs : List Char}
    {argument : Argument} {rest : List Char} (h : readArgument cs = some (argument, rest)) :
    Takes (marker :: cs) argument.parts rest :=
  (readArgument_takes h).of_ahead (.cons (ne_backslash_of_isScriptMarker hm) cs)

theorem readScripted_takes {base : Char} {cs : List Char} {item : Item} {rest : List Char}
    (h : readScripted base cs = some (item, rest)) : Takes cs item.parts rest := by
  obtain ⟨marker, ds, first, behind, hm, rfl, hf, hs⟩ := readScripted_cases h
  have one := readArgument_takes_marked hm hf
  rcases hs with ⟨rfl, rfl⟩ | ⟨other, es, second, ho, -, rfl, hs, rfl⟩
  · split_ifs <;> exact one
  · have two := one.append (readArgument_takes_marked ho hs)
    split_ifs
    · exact two
    · refine ⟨two.ahead, fun part hp => two.holds part ?_⟩
      exact List.mem_append.mpr (List.mem_append.mp hp).symm

theorem isAlphanumeric_backslash : isAlphanumeric '\\' = false :=
  (Unicode.isAlphanumeric_of_lt (by decide)).trans (by decide)

theorem readPlain_ahead (cs : List Char) : Ahead cs (readPlain cs).2 := by
  fun_induction readPlain cs with
  | case1 => exact .refl []
  | case2 c cs h text rest hr ih =>
      refine (Ahead.cons (fun hc => ?_) cs).trans (by rw [hr] at ih; exact ih)
      have : isPlain '\\' = false := by decide +kernel
      simp [hc, this] at h
  | case3 c cs h => exact .refl _

theorem readText_takes {c : Char} (h : c ≠ '\\') (cs : List Char) :
    Takes (c :: cs) (readText c cs).1.parts (readText c cs).2 := by
  have hp := readPlain_ahead (c :: cs)
  unfold readText
  split
  · exact .none (.cons h cs)
  · rename_i text rest hne heq
    rw [heq] at hp
    exact .none hp

/-- An item holds parts of its source, and the source goes on behind it. -/
theorem readItem_takes (c : Char) (cs : List Char) :
    Takes (c :: cs) (readItem c cs).1.parts (readItem c cs).2 := by
  rcases readItem_cases c cs with ⟨hc, h⟩ | ⟨rfl, h⟩ | ⟨part, hi, h⟩ | ⟨hc, h⟩
  · have hc : c ≠ '\\' := by
      rintro rfl
      rw [isAlphanumeric_backslash] at hc
      cases hc
    exact (readScripted_takes h).of_ahead (.cons hc cs)
  · rw [h]
    exact readCommandItem_takes cs
  · rw [hi]
    exact readGroup_takes h
  · rw [h]
    exact readText_takes hc cs

/-! ## How deep the parts nest -/

/-- No place of the source lies inside more than `levels` parts; a brace counts also when nothing closes it. -/
def Shallow (levels : Nat) (cs : List Char) : Prop :=
  ∀ before after, shown cs = before ++ after →
    leftOpen '\x7b' '\x7d' 0 before + pairsAround '[' ']' before after ≤ levels

theorem Shallow.of_ahead {levels : Nat} {cs rest : List Char} (h : Shallow levels cs) (ha : Ahead cs rest) :
    Shallow levels rest := by
  intro before after hs
  obtain ⟨pre, ha⟩ := ha
  have := h (pre ++ before) after (by rw [ha, hs, List.append_assoc])
  have h1 := leftOpen_le_append '\x7b' '\x7d' pre before
  have h2 := pairsAround_le_append '[' ']' pre before after []
  rw [List.append_nil] at h2
  omega

/-- Brackets stay open over a text that closes none of them. -/
theorem leftOpen_lt_append {opening closing : Char} (pre : List Char) {before after : List Char}
    (h : closedBeyond opening closing 0 (before ++ after) = 0) :
    leftOpen opening closing 0 before < leftOpen opening closing 0 (pre ++ opening :: before) := by
  rw [closedBeyond_append] at h
  have h' := leftOpen_add opening closing 0 (leftOpen opening closing 0 pre + 1) before
  rw [Nat.zero_add, show closedBeyond opening closing 0 before = 0 by omega] at h'
  rw [leftOpen_append, leftOpen, if_pos rfl, h']
  omega

/-- Around a balanced text the brackets are one pair more. -/
theorem pairsAround_lt_append {opening closing : Char} (hne : opening ≠ closing) (pre rest : List Char)
    {before after : List Char} (hopen : leftOpen opening closing 0 (before ++ after) = 0)
    (hclose : closedBeyond opening closing 0 (before ++ after) = 0) :
    pairsAround opening closing before after <
      pairsAround opening closing (pre ++ opening :: before) (after ++ closing :: rest) := by
  have h1 := leftOpen_lt_append pre hclose
  have h2 := leftOpen_add opening closing 0 (leftOpen opening closing 0 before) after
  rw [Nat.zero_add, ← leftOpen_append, hopen] at h2
  have h3 : closedBeyond opening closing 0 (after ++ closing :: rest) > closedBeyond opening closing 0 after := by
    rw [closedBeyond_append, show leftOpen opening closing 0 after = 0 by omega, closedBeyond, if_neg hne.symm,
      if_pos rfl, if_pos rfl]
    omega
  simp only [pairsAround]
  omega

/-- Inside a part the brackets are one level less deep than around it. -/
theorem Holds.shallow {levels : Nat} {cs : List Char} {part : Part} (h : Holds cs part) (hs : Shallow levels cs) :
    ∃ inner, levels = inner + 1 ∧ Shallow inner part.inner := by
  obtain ⟨source, rest, ha, hp⟩ := h
  -- each place inside the part is a place of the source with one more bracket around it
  have deeper : ∀ before after, shown part.inner = before ++ after →
      leftOpen '\x7b' '\x7d' 0 before + pairsAround '[' ']' before after < levels := by
    intro before after hi
    have hs := hs.of_ahead ha
    rcases hp with hp | ⟨hp, hc⟩
    · have h2 := pairsAround_le_append '[' ']' ['\x7b'] before after
      rcases readPart_cases hp with ⟨rfl, -, hb⟩ | ⟨rfl, -, -, hb⟩
      · have h1 := leftOpen_lt_append [] (hi ▸ (counts_of_balancedFrom hb).2)
        have := hs ('\x7b' :: before) (after ++ '\x7d' :: shown rest) (by
          rw [List.cons_append, shown_cons (by decide), shown_append_of_balancedFrom hb, shown_cons (by decide), hi]
          simp)
        have := h2 ('\x7d' :: shown rest)
        rw [List.nil_append] at h1
        rw [List.singleton_append] at this
        omega
      · have h1 := leftOpen_lt_append [] (hi ▸ hb)
        have := hs ('\x7b' :: before) after (by rw [shown_cons (by decide), hi]; rfl)
        have := h2 []
        rw [List.nil_append] at h1
        rw [List.singleton_append, List.append_nil] at this
        omega
    · rcases readPart_cases hp with ⟨rfl, -, hb⟩ | ⟨-, -, hc', -⟩
      · obtain ⟨hopen, hclose⟩ := counts_of_balancedFrom hb
        have h1 := leftOpen_le_append '\x7b' '\x7d' ['['] before
        have h2 := pairsAround_lt_append (by decide) [] (shown rest) (hi ▸ hopen) (hi ▸ hclose)
        have := hs ('[' :: before) (after ++ ']' :: shown rest) (by
          rw [List.cons_append, shown_cons (by decide), shown_append_of_balancedFrom hb, shown_cons (by decide), hi]
          simp)
        rw [List.nil_append] at h2
        rw [List.singleton_append] at h1
        omega
      · exact absurd hc' hc
  cases levels with
  | zero => exact absurd (deeper [] _ rfl) (Nat.not_lt_zero _)
  | succ inner => exact ⟨inner, rfl, fun before after hi => Nat.le_of_lt_succ (deeper before after hi)⟩

/-- In a source with balanced braces all that is open is closed again. -/
theorem shallow_of_nestsWithin {limit : Nat} {text : String} (hb : Balanced '\x7b' '\x7d' text)
    (h : NestsWithin limit text) : Shallow limit text.toList := by
  intro before after hs
  obtain ⟨hopen, -⟩ := counts_of_balancedFrom hb
  have h1 := leftOpen_add '\x7b' '\x7d' 0 (leftOpen '\x7b' '\x7d' 0 before) after
  rw [Nat.zero_add, ← leftOpen_append, ← hs, hopen] at h1
  have := h before after hs
  simp only [pairsAround] at this ⊢
  omega

end Folio.Math
