import Folio.Proofs.Json.Reads
import Mathlib.Data.List.Forall2

/-!
# Reading back whole values

* `Json.depth` : how many lists and objects are open at the deepest place of a value;
* `Json.Whole` : all numbers of a value are whole and small enough to be kept as they are;
* `itemsWith_reads`, `membersWith_reads` : lists and objects are read back when their items and members are;
* `value_reads` : a printed value is read back when it nests no deeper than the reader allows.
-/

namespace Folio.Json

mutual

/-- How many lists and objects are open at the deepest place of a value. -/
def depth : Json → Nat
  | .arr items => depthItems items + 1
  | .obj members => depthMembers members + 1
  | _ => 0

/-- The depth of the deepest item. -/
def depthItems : List Json → Nat
  | [] => 0
  | item :: items => max (depth item) (depthItems items)

/-- The depth of the deepest member. -/
def depthMembers : List (String × Json) → Nat
  | [] => 0
  | (_, value) :: members => max (depth value) (depthMembers members)

end

mutual

/-- All numbers of a value are whole and small enough to be kept as they are. -/
def Whole : Json → Prop
  | .nat n => n ≤ Reader.maxInteger
  | .neg _ => False
  | .real _ => False
  | .arr items => WholeItems items
  | .obj members => WholeMembers members
  | _ => True

/-- All items are whole. -/
def WholeItems : List Json → Prop
  | [] => True
  | item :: items => Whole item ∧ WholeItems items

/-- All members are whole. -/
def WholeMembers : List (String × Json) → Prop
  | [] => True
  | (_, value) :: members => Whole value ∧ WholeMembers members

end

theorem depth_le_of_mem_items {items : List Json} {item : Json} (h : item ∈ items) : depth item ≤ depthItems items := by
  induction items with
  | nil => cases h
  | cons x xs ih =>
      rw [depthItems]
      rcases List.mem_cons.mp h with rfl | h
      · exact Nat.le_max_left ..
      · exact Nat.le_trans (ih h) (Nat.le_max_right ..)

theorem depth_le_of_mem_members {members : List (String × Json)} {m : String × Json} (h : m ∈ members) :
    depth m.2 ≤ depthMembers members := by
  induction members with
  | nil => cases h
  | cons x xs ih =>
      rw [depthMembers]
      rcases List.mem_cons.mp h with rfl | h
      · exact Nat.le_max_left ..
      · exact Nat.le_trans (ih h) (Nat.le_max_right ..)

theorem wholeItems_iff {items : List Json} : WholeItems items ↔ ∀ item ∈ items, Whole item := by
  induction items with
  | nil => simp [WholeItems]
  | cons x xs ih => rw [WholeItems, ih, List.forall_mem_cons]

theorem wholeMembers_iff {members : List (String × Json)} : WholeMembers members ↔ ∀ m ∈ members, Whole m.2 := by
  induction members with
  | nil => simp [WholeMembers]
  | cons x xs ih => rw [WholeMembers, ih, List.forall_mem_cons]

namespace Reader

/-! ## The first character of a value -/

/-- The characters that a value begins with. -/
def opensValue (c : Char) : Bool := c.isDigit || c ∈ ['n', 't', 'f', '"', '[', '\x7b']

theorem printChars_head {json : Json} (h : Whole json) (depth : Nat) :
    ∃ c cs, printChars depth json = c :: cs ∧ opensValue c = true := by
  cases json with
  | null => exact ⟨_, _, rfl, rfl⟩
  | bool b => cases b <;> exact ⟨_, _, rfl, rfl⟩
  | nat n =>
      obtain ⟨d, ds, hds, digit⟩ := toDigits_eq_cons n
      exact ⟨d, ds, hds, by rw [opensValue, digit d List.mem_cons_self, Bool.true_or]⟩
  | neg n => exact absurd h id
  | real shown => exact absurd h id
  | str s => exact ⟨_, _, rfl, rfl⟩
  | arr items => cases items <;> exact ⟨_, _, rfl, rfl⟩
  | obj members =>
      rcases members with _ | ⟨⟨name, value⟩, members⟩ <;> exact ⟨_, _, rfl, rfl⟩

theorem opensValue_cases {c : Char} (h : opensValue c = true) : isSpace c = false ∧ c ≠ ',' ∧ c ≠ ']' ∧ c ≠ '\x7d' := by
  refine ⟨?_, ?_, ?_, ?_⟩
  · by_contra hs
    simp only [isSpace, Bool.not_eq_false, Bool.or_eq_true, decide_eq_true_eq] at hs
    rcases hs with ((rfl | rfl) | rfl) | rfl <;> exact absurd h (by decide)
  all_goals
    rintro rfl
    exact absurd h (by decide)

/-! ## Between the items of a list and the members of an object -/

theorem starts_cons {c : Char} (h : isSpace c = false) (cs : List Char) : Starts (c :: cs) := by
  intro d hd
  cases hd
  exact h

section Between
variable {c : Char} (depth : Nat) (rest : List Char)

/-- The token after the blanks at the beginning of a line. -/
theorem peekToken_newline (h : isSpace c = false) :
    Reads peekToken (newline depth ++ c :: rest) (some c) (c :: rest) :=
  peekToken_reads (fun _ => isSpace_of_mem_newline) (starts_cons h rest)

theorem moreItems_first (h : opensValue c = true) :
    Reads (moreItems true) (newline depth ++ c :: rest) true (c :: rest) := by
  obtain ⟨hs, hcomma, hlist, -⟩ := opensValue_cases h
  refine (peekToken_newline depth rest hs).bind ?_
  split
  · rename_i h
    cases h
  · rename_i h
    exact absurd (Option.some.inj h) hlist
  · rename_i h
    exact absurd (Option.some.inj h) hcomma
  · exact .pure true _

theorem moreItems_next (h : opensValue c = true) :
    Reads (moreItems false) (',' :: newline depth ++ c :: rest) true (c :: rest) := by
  obtain ⟨hs, -, hlist, -⟩ := opensValue_cases h
  refine (peekToken_here (starts_cons rfl _)).bind ?_
  refine (Reads.skip ',' _).bind ((peekToken_newline depth rest hs).bind ?_)
  split
  · rename_i h
    exact absurd (Option.some.inj h) hlist
  · exact .pure true _
  · rename_i h
    cases h

theorem moreItems_end (first : Bool) : Reads (moreItems first) (newline depth ++ ']' :: rest) false (']' :: rest) :=
  (peekToken_newline depth rest rfl).bind (.pure false _)

theorem moreItems_none : Reads (moreItems true) (']' :: rest) false (']' :: rest) :=
  (peekToken_here (starts_cons rfl _)).bind (.pure false _)

theorem endList_reads : Reads endList (']' :: rest) () rest :=
  (peekToken_here (starts_cons rfl _)).bind (.skip ']' rest)

theorem endList_newline : Reads endList (newline depth ++ ']' :: rest) () rest :=
  (peekToken_newline depth rest rfl).bind (.skip ']' rest)

theorem moreKeys_first (name : String) :
    Reads (moreKeys true) (newline depth ++ (Json.stringChars name ++ rest)) true (Json.stringChars name ++ rest) :=
  (peekToken_newline depth _ rfl).bind (.pure true _)

theorem moreKeys_next (name : String) :
    Reads (moreKeys false) (',' :: newline depth ++ (Json.stringChars name ++ rest)) true
      (Json.stringChars name ++ rest) :=
  (peekToken_here (starts_cons rfl _)).bind
    ((Reads.skip ',' _).bind ((peekToken_newline depth _ rfl).bind (.pure true _)))

theorem moreKeys_end (first : Bool) : Reads (moreKeys first) (newline depth ++ '\x7d' :: rest) false ('\x7d' :: rest) :=
  (peekToken_newline depth rest rfl).bind (.pure false _)

theorem moreKeys_none : Reads (moreKeys true) ('\x7d' :: rest) false ('\x7d' :: rest) :=
  (peekToken_here (starts_cons rfl _)).bind (.pure false _)

theorem endObject_reads : Reads endObject ('\x7d' :: rest) () rest :=
  (peekToken_here (starts_cons rfl _)).bind (.skip '\x7d' rest)

theorem key_reads (name : String) : Reads key (Json.stringChars name ++ rest) name rest := by
  rw [Json.stringChars, List.append_assoc]
  exact (Reads.skip '"' _).bind (stringBody_reads name rest)

theorem colon_reads : Reads colon (':' :: rest) () rest :=
  (peekToken_here (starts_cons rfl _)).bind (.skip ':' rest)

end Between

/-! ## Lists -/

/-- The reader gives `result` for the value printed at the depth, wherever a line or a member's name puts it. -/
def ReadsValue {α : Type} (reader : Reader α) (depth : Nat) (json : Json) (result : α) : Prop :=
  ∀ blanks rest, (∀ c ∈ blanks, isSpace c = true) → Ends rest →
    Reads reader (blanks ++ (printChars depth json ++ rest)) result rest

theorem ends_newline (depth : Nat) (rest : List Char) : Ends (newline depth ++ rest) := by
  intro c hc
  cases hc
  exact .inr rfl

theorem ends_comma (rest : List Char) : Ends (',' :: rest) := by
  intro c hc
  cases hc
  exact .inl rfl

/-- What stands between the brackets of a list. -/
def listBody (depth : Nat) : List Json → List Char
  | [] => []
  | item :: items =>
      newline (depth + 1) ++ (printChars (depth + 1) item ++ (printItems (depth + 1) items ++ newline depth))

theorem printChars_arr (depth : Nat) (items : List Json) :
    printChars depth (.arr items) = '[' :: (listBody depth items ++ [']']) := by
  cases items <;> simp [printChars, listBody]

theorem length_printItems (depth : Nat) (items : List Json) : items.length ≤ (printItems depth items).length := by
  induction items with
  | nil => exact Nat.le_refl 0
  | cons item items ih =>
      simp only [printItems, List.length_append, List.length_cons]
      omega

theorem length_listBody (depth : Nat) (items : List Json) : items.length ≤ (listBody depth items).length := by
  cases items with
  | nil => exact Nat.le_refl 0
  | cons item items =>
      have := length_printItems (depth + 1) items
      simp only [listBody, newline, List.length_append, List.length_cons]
      omega

section Items
variable {α : Type} {item : Reader α}

theorem ends_printItems (depth outer : Nat) (items : List Json) (rest : List Char) :
    Ends (printItems depth items ++ (newline outer ++ rest)) := by
  cases items with
  | nil => exact ends_newline outer rest
  | cons item items => exact ends_comma _

/-- The items after the first, up to the closing bracket. -/
theorem itemsWith_rest {depth : Nat} (outer : Nat) {items : List Json} {values : List α}
    (h : List.Forall₂ (ReadsValue item depth) items values) (hw : ∀ x ∈ items, Whole x) (rest : List Char) {fuel : Nat}
    (hf : items.length < fuel) :
    Reads (itemsWith item fuel false) (printItems depth items ++ (newline outer ++ ']' :: rest)) values
      (']' :: rest) := by
  induction h generalizing fuel with
  | nil =>
      obtain ⟨fuel, rfl⟩ := Nat.exists_eq_add_one.mpr (Nat.zero_lt_of_lt hf)
      exact (moreItems_end outer rest false).bind (.pure [] _)
  | @cons x v items values hx _ ih =>
      obtain ⟨fuel, rfl⟩ := Nat.exists_eq_add_one.mpr (Nat.zero_lt_of_lt hf)
      obtain ⟨c, cs, hc, ho⟩ := printChars_head (hw x List.mem_cons_self) depth
      have read := hx [] (printItems depth items ++ (newline outer ++ ']' :: rest)) (List.forall_mem_nil _)
        (ends_printItems depth outer items _)
      simp only [printItems, List.cons_append, List.append_assoc]
      simp only [hc, List.cons_append, List.nil_append] at read ⊢
      exact (moreItems_next depth _ ho).bind (read.bind
        ((ih (fun x hx => hw x (List.mem_cons_of_mem _ hx)) (Nat.lt_of_succ_lt_succ hf)).bind (.pure _ _)))

/-- The items of a list, up to the closing bracket. -/
theorem itemsWith_reads {depth : Nat} {items : List Json} {values : List α}
    (h : List.Forall₂ (ReadsValue item (depth + 1)) items values) (hw : ∀ x ∈ items, Whole x) (rest : List Char)
    {fuel : Nat} (hf : items.length < fuel) :
    Reads (itemsWith item fuel true) (listBody depth items ++ ']' :: rest) values (']' :: rest) := by
  obtain ⟨fuel, rfl⟩ := Nat.exists_eq_add_one.mpr (Nat.zero_lt_of_lt hf)
  cases h with
  | nil => exact (moreItems_none rest).bind (.pure [] _)
  | @cons x v items values hx hxs =>
      obtain ⟨c, cs, hc, ho⟩ := printChars_head (hw x List.mem_cons_self) (depth + 1)
      have read := hx [] (printItems (depth + 1) items ++ (newline depth ++ ']' :: rest)) (List.forall_mem_nil _)
        (ends_printItems (depth + 1) depth items _)
      simp only [listBody, List.append_assoc]
      simp only [hc, List.cons_append, List.nil_append] at read ⊢
      exact (moreItems_first (depth + 1) _ ho).bind (read.bind ((itemsWith_rest depth hxs
        (fun x hx => hw x (List.mem_cons_of_mem _ hx)) rest (Nat.lt_of_succ_lt_succ hf)).bind (.pure _ _)))

/-- A list from behind its opening bracket to behind its closing one. -/
theorem list_reads {depth : Nat} {items : List Json} {values : List α}
    (h : List.Forall₂ (ReadsValue item (depth + 1)) items values) (hw : ∀ x ∈ items, Whole x) (f : List α → Json)
    (rest : List Char) :
    Reads (thenEnd (do return f (← itemsWith item ((← remaining) + 1) true)) endList)
      (listBody depth items ++ (']' :: rest)) (f values) rest := by
  refine Reads.thenEnd ?_ (endList_reads rest)
  refine (Reads.remaining _).bind ((itemsWith_reads h hw rest ?_).bind (.pure (f values) _))
  have := length_listBody depth items
  rw [List.length_append]
  omega

end Items

/-! ## Objects -/

/-- What stands between the brackets of an object. -/
def objectBody (depth : Nat) : List (String × Json) → List Char
  | [] => []
  | (name, value) :: members =>
      newline (depth + 1) ++ (Json.stringChars name ++ (':' :: ' ' :: (printChars (depth + 1) value ++
        (printMembers (depth + 1) members ++ newline depth))))

theorem printChars_obj (depth : Nat) (members : List (String × Json)) :
    printChars depth (.obj members) = '\x7b' :: (objectBody depth members ++ ['\x7d']) := by
  rcases members with _ | ⟨⟨name, value⟩, members⟩ <;> simp [printChars, objectBody]

theorem length_printMembers (depth : Nat) (members : List (String × Json)) :
    members.length ≤ (printMembers depth members).length := by
  induction members with
  | nil => exact Nat.le_refl 0
  | cons m members ih =>
      simp only [printMembers, List.length_append, List.length_cons]
      omega

theorem length_objectBody (depth : Nat) (members : List (String × Json)) :
    members.length ≤ (objectBody depth members).length := by
  cases members with
  | nil => exact Nat.le_refl 0
  | cons m members =>
      have := length_printMembers (depth + 1) members
      simp only [objectBody, newline, List.length_append, List.length_cons]
      omega

theorem ends_printMembers (depth outer : Nat) (members : List (String × Json)) (rest : List Char) :
    Ends (printMembers depth members ++ (newline outer ++ rest)) := by
  cases members with
  | nil => exact ends_newline outer rest
  | cons m members => exact ends_comma _

/-- The blank between a name and its value. -/
theorem ReadsValue.afterColon {α : Type} {reader : Reader α} {depth : Nat} {json : Json} {result : α}
    (h : ReadsValue reader depth json result) {rest : List Char} (hr : Ends rest) :
    Reads reader (' ' :: (printChars depth json ++ rest)) result rest :=
  h [' '] rest (List.forall_mem_singleton.mpr (by decide)) hr

/-- The rest of an object whose members are read as they are, up to the closing bracket. -/
theorem membersWith_rest {reader : Reader Json} {depth : Nat} (outer : Nat) {members : List (String × Json)}
    (h : ∀ m ∈ members, ReadsValue reader depth m.2 m.2) (rest : List Char) {fuel : Nat} (hf : members.length < fuel) :
    Reads (membersWith (fun _ => do colon; reader) fuel false)
      (printMembers depth members ++ (newline outer ++ '\x7d' :: rest)) members ('\x7d' :: rest) := by
  induction members generalizing fuel with
  | nil =>
      obtain ⟨fuel, rfl⟩ := Nat.exists_eq_add_one.mpr (Nat.zero_lt_of_lt hf)
      exact (moreKeys_end outer rest false).bind (.pure [] _)
  | cons m members ih =>
      obtain ⟨fuel, rfl⟩ := Nat.exists_eq_add_one.mpr (Nat.zero_lt_of_lt hf)
      have value := (h m List.mem_cons_self).afterColon (ends_printMembers depth outer members ('\x7d' :: rest))
      have more := ih (fun m hm => h m (List.mem_cons_of_mem _ hm)) (Nat.lt_of_succ_lt_succ hf)
      simp only [printMembers, List.cons_append, List.append_assoc, List.nil_append]
      exact (moreKeys_next depth _ m.1).bind ((key_reads _ m.1).bind (Reads.bind ((colon_reads _).bind value)
        (more.bind (.pure _ _))))

/-- The members of an object whose values are read as they are, up to the closing bracket. -/
theorem membersWith_reads {reader : Reader Json} {depth : Nat} {members : List (String × Json)}
    (h : ∀ m ∈ members, ReadsValue reader (depth + 1) m.2 m.2) (rest : List Char) {fuel : Nat}
    (hf : members.length < fuel) :
    Reads (membersWith (fun _ => do colon; reader) fuel true) (objectBody depth members ++ '\x7d' :: rest) members
      ('\x7d' :: rest) := by
  obtain ⟨fuel, rfl⟩ := Nat.exists_eq_add_one.mpr (Nat.zero_lt_of_lt hf)
  cases members with
  | nil => exact (moreKeys_none rest).bind (.pure [] _)
  | cons m members =>
      have value := (h m List.mem_cons_self).afterColon (ends_printMembers (depth + 1) depth members ('\x7d' :: rest))
      have more := membersWith_rest depth (fun m hm => h m (List.mem_cons_of_mem _ hm)) rest (Nat.lt_of_succ_lt_succ hf)
      simp only [objectBody, List.append_assoc, List.cons_append]
      exact (moreKeys_first (depth + 1) _ m.1).bind ((key_reads _ m.1).bind (Reads.bind ((colon_reads _).bind value)
        (more.bind (.pure _ _))))

/-! ## Values -/

/-- The value of a word, a number or a bracket is found by its first character. -/
theorem peekValue {depth : Nat} {json : Json} (h : Whole json) {blanks : List Char}
    (hb : ∀ c ∈ blanks, isSpace c = true) (rest : List Char) :
    Reads peekToken (blanks ++ (printChars depth json ++ rest)) (printChars depth json).head?
      (printChars depth json ++ rest) := by
  obtain ⟨c, cs, hc, ho⟩ := printChars_head h depth
  rw [hc]
  exact peekToken_reads hb (starts_cons (opensValue_cases ho).1 _)

/-- A value that is neither a list nor an object is read back at any depth. -/
theorem value_reads_leaf {json : Json} (h : Whole json) (hd : json.depth = 0) (levels depth : Nat) :
    ReadsValue (value levels) depth json json := by
  intro blanks rest hb hr
  unfold value
  refine Reads.located ((peekValue h hb rest).bind ?_)
  cases json with
  | null => exact (Reads.skip _ _).bind ((word_reads _ rest).bind (.pure _ rest))
  | bool b =>
      cases b with
      | false => exact (Reads.skip _ _).bind ((word_reads _ rest).bind (.pure _ rest))
      | true => exact (Reads.skip _ _).bind ((word_reads _ rest).bind (.pure _ rest))
  | nat n =>
      obtain ⟨d, ds, hds, digits⟩ := toDigits_eq_cons n
      have digit := digits d List.mem_cons_self
      have read := number_reads h hr
      simp only [printChars, hds, List.head?_cons] at read ⊢
      -- a digit is none of the characters that begin another kind of value
      split
      · rename_i heq
        cases heq
      all_goals
        rename_i heq
        first
        | rw [← Option.some.inj heq, if_pos digit]
          exact read
        | exact absurd digit (by rw [Option.some.inj heq]; decide)
  | neg n => exact absurd h id
  | real shown => exact absurd h id
  | str s =>
      have read := stringBody_reads s rest
      simp only [printChars, Json.stringChars, List.cons_append, List.append_assoc]
      exact (Reads.skip _ _).bind (read.bind (.pure _ rest))
  | arr items => exact absurd hd (Nat.succ_ne_zero _)
  | obj members => exact absurd hd (Nat.succ_ne_zero _)

/-- A printed value is read back when it nests no deeper than the reader allows. -/
theorem value_reads {json : Json} (h : Whole json) {levels : Nat} (hl : json.depth ≤ levels) (depth : Nat) :
    ReadsValue (value levels) depth json json := by
  induction levels generalizing json depth with
  | zero => exact value_reads_leaf h (Nat.le_zero.mp hl) 0 depth
  | succ levels ih =>
      cases json with
      | arr items =>
          intro blanks rest hb hr
          unfold value
          refine Reads.located ((peekValue h hb rest).bind ?_)
          have hw := wholeItems_iff.mp h
          have read : ∀ item ∈ items, ReadsValue (value levels) (depth + 1) item item := fun item hi =>
            ih (hw item hi) (Nat.le_trans (depth_le_of_mem_items hi) (Nat.le_of_succ_le_succ hl)) _
          rw [printChars_arr, List.cons_append, List.append_assoc]
          exact (Reads.skip _ _).bind (list_reads (List.forall₂_same.mpr read) hw .arr rest)
      | obj members =>
          intro blanks rest hb hr
          unfold value
          refine Reads.located ((peekValue h hb rest).bind ?_)
          have hw := wholeMembers_iff.mp h
          have read : ∀ m ∈ members, ReadsValue (value levels) (depth + 1) m.2 m.2 := fun m hm =>
            ih (hw m hm) (Nat.le_trans (depth_le_of_mem_members hm) (Nat.le_of_succ_le_succ hl)) _
          rw [printChars_obj, List.cons_append, List.append_assoc]
          refine (Reads.skip _ _).bind (Reads.thenEnd ?_ (endObject_reads rest))
          refine (Reads.remaining _).bind ((membersWith_reads read rest ?_).bind (.pure _ _))
          have := length_objectBody depth members
          rw [List.length_append]
          omega
      | null => exact value_reads_leaf h rfl _ depth
      | bool b => exact value_reads_leaf h rfl _ depth
      | nat n => exact value_reads_leaf h rfl _ depth
      | neg n => exact value_reads_leaf h rfl _ depth
      | real shown => exact value_reads_leaf h rfl _ depth
      | str s => exact value_reads_leaf h rfl _ depth

end Reader
end Folio.Json
