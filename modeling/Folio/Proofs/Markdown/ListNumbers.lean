import Folio.Proofs.Markdown.ListItems

/-!
# The numbers of an ordered list

An item that gives its start begins another list, behind an empty line if one is there already; the items behind it
count on from the number before.

* `elementsText_append`, `elementsText_concat` : elements in a row are written one part behind the other;
* `itemGap_goesOn`, `itemGap_begins` : what stands in front of an item that goes on with a list, or begins another;
* `CountsOn`, `items_written` : the lines of items that count on;
* `list_numbers_iff` : the lists whose items have the numbers from the start on.
-/

namespace Folio.Markdown

variable {settings : ExportSettings} {doc : Document} {w : Writing} {paragraph : Paragraph}

/-! ## Elements in a row -/

/-- Where the writing does not end, elements are written in front of the others. -/
theorem elementsText_append {front : List Element} {texts : List Char} {w' : Writing} {diagnostics : List Diagnostic}
    (h : elementsText settings doc w front = (.ok (texts, w'), diagnostics)) (back : List Element) :
    elementsText settings doc w (front ++ back) =
      ((elementsText settings doc w' back).1.map fun written => (texts ++ written.1, written.2),
        diagnostics ++ (elementsText settings doc w' back).2) := by
  induction front generalizing w texts diagnostics with
  | nil =>
      obtain ⟨hwritten, rfl⟩ := Prod.mk.inj h
      obtain ⟨rfl, rfl⟩ := Prod.mk.inj (Except.ok.inj hwritten)
      rw [List.nil_append, List.nil_append]
      refine Prod.ext ?_ rfl
      cases (elementsText settings doc w back).1 <;> rfl
  | cons element front ih =>
      rcases elementsText_cons settings doc w element with ⟨d, hends⟩ | ⟨first, hgoes⟩
      · rw [hends] at h
        cases h
      · rw [hgoes] at h
        obtain ⟨hwritten, rfl⟩ := Prod.mk.inj h
        rw [List.cons_append, hgoes]
        cases hfront : elementsText settings doc (elementText settings doc w element).2 front with
        | mk outcome after =>
            rw [hfront] at hwritten
            cases outcome with
            | error d => cases hwritten
            | ok written =>
                obtain ⟨rfl, rfl⟩ := Prod.mk.inj (Except.ok.inj hwritten)
                rw [ih hfront, List.append_assoc]
                refine Prod.ext ?_ rfl
                cases (elementsText settings doc written.2 back).1 <;> simp [Except.map]

/-- The last element is written behind the others. -/
theorem elementsText_concat {front : List Element} {last : Element} {texts : List Char} {w' : Writing}
    {diagnostics : List Diagnostic} (h : elementsText settings doc w (front ++ [last]) = (.ok (texts, w'), diagnostics)) :
    ∃ before text, texts = text ++ (elementText settings doc before last).1 ∧
      w' = (elementText settings doc before last).2 := by
  induction front generalizing w texts diagnostics with
  | nil =>
      rcases elementsText_cons settings doc w last with ⟨d, hends⟩ | ⟨first, hgoes⟩
      · rw [List.nil_append, hends] at h
        cases h
      · rw [List.nil_append, hgoes] at h
        obtain ⟨rfl, rfl⟩ := Prod.mk.inj (Except.ok.inj (Prod.mk.inj h).1)
        exact ⟨w, [], List.append_nil _, rfl⟩
  | cons element front ih =>
      rcases elementsText_cons settings doc w element with ⟨d, hends⟩ | ⟨first, hgoes⟩
      · rw [List.cons_append, hends] at h
        cases h
      · rw [List.cons_append, hgoes] at h
        cases hback : elementsText settings doc (elementText settings doc w element).2 (front ++ [last]) with
        | mk outcome after =>
            rw [hback] at h
            cases outcome with
            | error d => cases (Prod.mk.inj h).1
            | ok written =>
                obtain ⟨rfl, rfl⟩ := Prod.mk.inj (Except.ok.inj (Prod.mk.inj h).1)
                obtain ⟨before, text, htext, hstate⟩ := ih hback
                exact ⟨before, _ ++ text, by rw [htext, List.append_assoc], hstate⟩

/-! ## Items in a row -/

theorem itemGap_goesOn (hcode : w.codeLines = []) (h : topLevelStart paragraph = none) :
    itemGap settings paragraph w = ([], w) := by
  obtain ⟨codeLines, inList, counter, notes⟩ := w
  cases hcode
  unfold itemGap andThen closeFence restartList
  rw [h]
  rfl

theorem itemGap_begins (hcode : w.codeLines = []) (hlist : w.inList = true) {start : Nat}
    (h : topLevelStart paragraph = some start) : (itemGap settings paragraph w).1 = ['\n'] := by
  obtain ⟨codeLines, inList, counter, notes⟩ := w
  cases hcode
  cases hlist
  unfold itemGap andThen closeFence restartList
  rw [h]
  rfl

/-- Each of the lines begins with the number behind that of the line before it, the first with the one behind `number`. -/
def CountsOn : Nat → List (List Char) → Prop
  | _, [] => True
  | number, line :: lines =>
    ('\n' ∉ line ∧ ∃ rest, line = (nextNumber number).repr.toList ++ '.' :: rest) ∧ CountsOn (nextNumber number) lines

theorem lineOfItem_ordered (h : isOrdered paragraph = true) (order : NoteOrder) (number : Nat) :
    '\n' ∉ lineOfItem settings doc order paragraph number ∧
      ∃ rest, lineOfItem settings doc order paragraph number = number.repr.toList ++ '.' :: rest := by
  have hmark : markText settings paragraph number = number.repr.toList ++ ['.'] := if_pos h
  constructor
  · simp [lineOfItem, newline_not_mem_markText h, newline_not_mem_itemChars]
  · rw [lineOfItem, hmark, List.append_assoc, List.singleton_append]
    exact ⟨_, rfl⟩

/-- The items go on with an ordered list. -/
def GoesOn (items : List Paragraph) : Prop :=
  ∀ item ∈ items, blockKind item = .item ∧ isOrdered item = true ∧ topLevelStart item = none

/-- Items that go on with a list are lines that count on. -/
theorem items_written {items : List Paragraph} (h : GoesOn items) (hcode : w.codeLines = []) :
    ∃ lines w', elementsText settings doc w (items.map .paragraph) = (.ok (lines.flatMap (· ++ ['\n']), w'), []) ∧
      lines.length = items.length ∧ CountsOn w.counter lines := by
  induction items generalizing w with
  | nil => exact ⟨[], w, rfl, rfl, trivial⟩
  | cons item items ih =>
      obtain ⟨⟨hitem, hordered, hstart⟩, hitems⟩ := List.forall_mem_cons.mp h
      have hwritten := @item_written settings doc w item hitem
      have hbefore : numberBefore item w = w.counter := by rw [numberBefore, hstart]; rfl
      rw [itemGap_goesOn hcode hstart, hordered, if_pos rfl, hbefore, List.nil_append] at hwritten
      obtain ⟨lines, w', hlines, hlength, hcounts⟩ := @ih (paragraphText settings doc w item).2 hitems (by rw [hwritten])
      refine ⟨lineOfItem settings doc w.notes item (nextNumber w.counter) :: lines, w', ?_, congrArg (· + 1) hlength,
        lineOfItem_ordered hordered _ _, ?_⟩
      · rw [List.map_cons, elementsText, hwritten, List.flatMap_cons]
        rw [hwritten] at hlines
        dsimp only
        rw [hlines]
        rfl
      · rw [hwritten] at hcounts
        exact hcounts

/-! ## The numbers -/

theorem number_begins_iff {m n : Nat} {rest : List Char} :
    m.repr.toList ++ ['.'] <+: n.repr.toList ++ '.' :: rest ↔ m = n := by
  have hdigits : ∀ {k : Nat} {after : List Char}, (k.repr.toList ++ '.' :: after).takeWhile Char.isDigit = k.repr.toList :=
    takeWhile_digits (fun _ hd => Text.isDigit_of_mem_repr hd) (by decide)
  constructor
  · rintro ⟨back, hback⟩
    rw [List.append_assoc, List.singleton_append] at hback
    have htake := congrArg (List.takeWhile Char.isDigit) hback
    rw [hdigits, hdigits] at htake
    exact Text.repr_injective htake
  · rintro rfl
    exact ⟨rest, by simp⟩

theorem CountsOn.newline_not_mem {before : Nat} {lines : List (List Char)} (h : CountsOn before lines) :
    ∀ line ∈ lines, '\n' ∉ line := by
  induction lines generalizing before with
  | nil => exact fun _ hmem => absurd hmem List.not_mem_nil
  | cons line lines ih => exact List.forall_mem_cons.mpr ⟨h.1.1, ih h.2⟩

/-- The lines begin with the numbers from the start on. -/
def HaveNumbers (start : Nat) (lines : List (List Char)) : Prop :=
  ∀ k line, lines[k]? = some line → (start + k).repr.toList ++ ['.'] <+: line

theorem haveNumbers_cons {start : Nat} {line : List Char} {lines : List (List Char)} :
    HaveNumbers start (line :: lines) ↔ start.repr.toList ++ ['.'] <+: line ∧ HaveNumbers (start + 1) lines := by
  constructor
  · intro h
    refine ⟨h 0 line rfl, fun k next hnext => ?_⟩
    rw [Nat.add_right_comm]
    exact h (k + 1) next hnext
  · rintro ⟨hline, hlines⟩ k next hnext
    cases k with
    | zero =>
        obtain rfl := Option.some.inj hnext
        exact hline
    | succ k =>
        rw [← Nat.add_assoc, Nat.add_right_comm]
        exact hlines k next hnext

/-- Lines that count on have the numbers from one on exactly when the first has it and no number is too large. -/
theorem CountsOn.haveNumbers_iff {before start : Nat} {lines : List (List Char)} (h : CountsOn before lines)
    (hlines : lines ≠ []) :
    HaveNumbers start lines ↔ start = nextNumber before ∧ start + lines.length ≤ UInt64.size := by
  induction lines generalizing before start with
  | nil => exact absurd rfl hlines
  | cons line lines ih =>
      obtain ⟨⟨-, rest, rfl⟩, hrest⟩ := h
      rw [haveNumbers_cons, number_begins_iff, List.length_cons]
      refine and_congr_right fun hstart => ?_
      have hword : start < UInt64.size := hstart ▸ Nat.mod_lt _ (by decide)
      cases lines with
      | nil => exact iff_of_true (fun _ _ hline => by simp at hline) hword
      | cons line lines =>
          rw [ih hrest (List.cons_ne_nil _ _), List.length_cons, ← hstart, nextNumber]
          constructor
          · omega
          · intro hlast
            rw [Nat.mod_eq_of_lt (by omega)]
            omega

/-- One below a number is counted on to it, unless it is zero. -/
theorem nextNumber_pred_iff {start count : Nat} :
    start = nextNumber (start - 1) ∧ start + (count + 1) ≤ UInt64.size ↔ 1 ≤ start ∧ start + count < UInt64.size := by
  unfold nextNumber
  constructor
  · rintro ⟨hstart, hlast⟩
    refine ⟨Nat.one_le_iff_ne_zero.mpr ?_, by omega⟩
    rintro rfl
    exact absurd hstart (by decide)
  · rintro ⟨hone, hlast⟩
    rw [Nat.sub_add_cancel hone, Nat.mod_eq_of_lt (by omega)]
    omega

/-! ## Lists with a start -/

/-- The item begins a list on the top level with a number. -/
def BeginsAt (start : Nat) (item : Paragraph) : Prop :=
  blockKind item = .item ∧ item.properties.numbering = some ⟨0, true, some start⟩

theorem BeginsAt.topLevelStart {start : Nat} (h : BeginsAt start paragraph) : topLevelStart paragraph = some start := by
  rw [Markdown.topLevelStart, h.2]
  rfl

theorem BeginsAt.isOrdered {start : Nat} (h : BeginsAt start paragraph) : isOrdered paragraph = true := by
  rw [Markdown.isOrdered, h.2]
  rfl

/-- Behind an item a list that gives its start begins with an empty line. -/
theorem itemGap_behind_item {front : List Element} {item : Paragraph} {start : Nat} {texts : List Char}
    {diagnostics : List Diagnostic} (hitem : blockKind item = .item) (hfirst : BeginsAt start paragraph)
    (h : elementsText settings doc {} (front ++ [.paragraph item]) = (.ok (texts, w), diagnostics)) :
    texts.getLast? = some '\n' ∧ (itemGap settings paragraph w).1 = ['\n'] := by
  obtain ⟨before, text, rfl, rfl⟩ := elementsText_concat h
  rw [elementText, item_written hitem]
  refine ⟨?_, itemGap_begins rfl rfl hfirst.topLevelStart⟩
  rw [← List.append_assoc, ← List.append_assoc, List.getLast?_concat]

/-- **The numbers of an ordered list.** A list that gives its start is written behind anything, each item as one line; if
the last element before it is an item too, an empty line is between them. Its lines have the numbers from the start on
exactly when that is not zero and the numbers are words. -/
theorem list_numbers_iff {before : List Element} {first : Paragraph} {others : List Paragraph} {start : Nat}
    {texts : List Char} {diagnostics : List Diagnostic} (hfirst : BeginsAt start first) (hothers : GoesOn others)
    (hbefore : elementsText settings doc {} before = (.ok (texts, w), diagnostics)) :
    ∃ (gap : List Char) (lines : List (List Char)) (w' : Writing),
      elementsText settings doc {} (before ++ (first :: others).map .paragraph) =
        (.ok (texts ++ gap ++ lines.flatMap (· ++ ['\n']), w'), diagnostics) ∧
      lines.length = others.length + 1 ∧ (∀ line ∈ lines, '\n' ∉ line) ∧ Ended gap ∧
      (∀ front item, before = front ++ [.paragraph item] → blockKind item = .item →
        texts.getLast? = some '\n' ∧ gap = ['\n']) ∧
      (HaveNumbers start lines ↔ 1 ≤ start ∧ start + others.length < UInt64.size) := by
  have hwritten := @item_written settings doc w first hfirst.1
  have hnumber : numberBefore first w = start - 1 := by
    rw [numberBefore, hfirst.topLevelStart]
    rfl
  rw [hfirst.isOrdered, if_pos rfl, hnumber] at hwritten
  obtain ⟨lines, w', hlines, hlength, hcounts⟩ :=
    @items_written settings doc (paragraphText settings doc w first).2 others hothers (by rw [hwritten])
  rw [hwritten] at hlines hcounts
  let line := lineOfItem settings doc w.notes first (nextNumber (start - 1))
  have hall : CountsOn (start - 1) (line :: lines) := ⟨lineOfItem_ordered hfirst.isOrdered _ _, hcounts⟩
  refine ⟨(itemGap settings first w).1, line :: lines, w', ?_, congrArg (· + 1) hlength, hall.newline_not_mem,
    ended_itemGap settings first w, ?_, ?_⟩
  · rw [elementsText_append hbefore, List.map_cons, elementsText, hwritten]
    dsimp only
    rw [hlines, List.flatMap_cons]
    simp [Except.map, line, lineOfItem]
  · rintro front item rfl hitem
    exact itemGap_behind_item hitem hfirst hbefore
  · rw [hall.haveNumbers_iff (List.cons_ne_nil _ _), List.length_cons, hlength, nextNumber_pred_iff]

/-- A paragraph of an ordered list. -/
def orderedOf (start : Option Nat) (text : String) : Paragraph where
  properties := { numbering := some ⟨0, true, start⟩ }
  runs := [{ text }]

/-- A second list begins with its own number behind an empty line. -/
theorem list_numbers_iff_second :
    BeginsAt 5 (orderedOf (some 5) "b") ∧ GoesOn [orderedOf none "c"] ∧
      elementsText {} {} {} [.paragraph (orderedOf (some 1) "a")] =
        (.ok ("1. a\n".toList, { inList := true, counter := 1 }), []) ∧
      ∃ (lines : List (List Char)) (w' : Writing),
        elementsText {} {} {} [.paragraph (orderedOf (some 1) "a"), .paragraph (orderedOf (some 5) "b"),
          .paragraph (orderedOf none "c")] = (.ok ("1. a\n\n".toList ++ lines.flatMap (· ++ ['\n']), w'), []) ∧
        lines.length = 2 ∧ HaveNumbers 5 lines := by
  have hfirst : BeginsAt 5 (orderedOf (some 5) "b") := ⟨by decide, rfl⟩
  have hothers : GoesOn [orderedOf none "c"] := List.forall_mem_singleton.mpr ⟨by decide, rfl, rfl⟩
  have hbefore : elementsText {} {} {} [.paragraph (orderedOf (some 1) "a")] =
      (.ok ("1. a\n".toList, { inList := true, counter := 1 }), []) := by rfl
  obtain ⟨gap, lines, w', hwritten, hlength, -, -, hgap, hnumbers⟩ := list_numbers_iff hfirst hothers hbefore
  obtain ⟨-, rfl⟩ := hgap [] (orderedOf (some 1) "a") rfl (by decide)
  exact ⟨hfirst, hothers, hbefore, lines, w', hwritten, hlength, hnumbers.mpr (by decide)⟩

/-- A list that starts with zero is written from one on. -/
theorem list_numbers_zero :
    (elementsText {} {} {} [.paragraph (orderedOf (some 0) "a")]).1.map (·.1) = .ok "1. a\n".toList ∧
      ¬ HaveNumbers 0 ["1. a".toList] := by
  refine ⟨by rfl, fun h => ?_⟩
  exact absurd (h 0 _ rfl) (by decide)

end Folio.Markdown
