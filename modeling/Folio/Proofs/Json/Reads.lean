import Folio.Json.Printer
import Folio.Json.Reader
import Mathlib.Tactic.Common

/-!
# Reading back what is printed: words, strings and numbers

* `Reads reader source value rest` : from any position in front of `source` the reader gives `value` and stops in front
  of `rest`;
* `Reads.bind`, `Reads.located`, `Reads.thenEnd` : how readers are put together;
* `stringBody_reads` : a string is read back whatever its characters are;
* `number_reads` : a whole number is read back as long as it is small enough to be kept as one.
-/

namespace Folio.Json.Reader

/-! ## Runs of a reader -/

/-- From any position in front of `source` the reader gives `value` and stops in front of `rest`. -/
def Reads {α : Type} (reader : Reader α) (source : List Char) (value : α) (rest : List Char) : Prop :=
  ∀ line column, ∃ line' column', reader ⟨source, line, column⟩ = (.ok value, ⟨rest, line', column'⟩)

section Combinators
variable {α β : Type} {source middle rest : List Char}

/-- A reader that gives a value from anywhere gives it at the beginning of a text. -/
theorem Reads.fromStart {reader : Reader α} {a : α} (h : Reads reader source a rest) :
    (reader { rest := source }).1 = .ok a := by
  obtain ⟨line, column, h⟩ := h 1 0
  exact congrArg Prod.fst h

theorem Reads.pure (value : α) (source : List Char) : Reads (pure value) source value source :=
  fun line column => ⟨line, column, rfl⟩

theorem Reads.bind {reader : Reader α} {next : α → Reader β} {a : α} {b : β} (h : Reads reader source a middle)
    (h' : Reads (next a) middle b rest) : Reads (reader >>= next) source b rest := by
  intro line column
  obtain ⟨line₁, column₁, h⟩ := h line column
  obtain ⟨line₂, column₂, h'⟩ := h' line₁ column₁
  refine ⟨line₂, column₂, ?_⟩
  show (ExceptT.bindCont next (reader ⟨source, line, column⟩).1 (reader ⟨source, line, column⟩).2 :
    Except Fault β × Cursor) = _
  rw [h]
  exact h'

/-- Two readers of one value before the same continuation. -/
theorem Reads.ite_bind {p : Prop} [Decidable p] {first second : Reader α} {next : α → Reader β} {a : α} {b : β}
    (h : p → Reads first source a middle) (h' : ¬p → Reads second source a middle) (k : Reads (next a) middle b rest) :
    Reads (if p then first >>= next else second >>= next) source b rest := by
  split_ifs with hp
  · exact (h hp).bind k
  · exact (h' hp).bind k

theorem Reads.peek (source : List Char) : Reads peek source source.head? source :=
  fun line column => ⟨line, column, rfl⟩

theorem Reads.remaining (source : List Char) : Reads remaining source source.length source :=
  fun line column => ⟨line, column, rfl⟩

/-- A reader that looks at the whole cursor. -/
theorem Reads.get {next : Cursor → Reader β} {b : β}
    (h : ∀ line column, Reads (next ⟨source, line, column⟩) source b rest) : Reads (get >>= next) source b rest :=
  fun line column => h line column line column

theorem Reads.set (cursor : Cursor) (source : List Char) : Reads (set cursor) source ⟨⟩ cursor.rest :=
  fun _ _ => ⟨cursor.line, cursor.column, rfl⟩

theorem rest_advance (cursor : Cursor) : cursor.advance.rest = cursor.rest.tail := by
  obtain ⟨source, line, column⟩ := cursor
  unfold Cursor.advance
  split <;> simp_all

theorem Reads.skip (c : Char) (rest : List Char) : Reads skip (c :: rest) () rest :=
  fun line column => ⟨_, _, Prod.ext rfl (congrArg (Cursor.mk · _ _) (rest_advance ⟨c :: rest, line, column⟩))⟩

theorem Reads.next (c : Char) (rest : List Char) : Reads next (c :: rest) (some c) rest :=
  (Reads.peek _).bind ((Reads.skip c rest).bind (.pure _ rest))

theorem Reads.located {reader : Reader α} {a : α} (h : Reads reader source a rest) :
    Reads (located reader) source a rest := by
  intro line column
  obtain ⟨line', column', h⟩ := h line column
  refine ⟨line', column', ?_⟩
  simp only [Reader.located, tryCatch, tryCatchThe, MonadExceptOf.tryCatch, ExceptT.tryCatch, ExceptT.mk, Bind.bind,
    StateT.bind]
  rw [h]
  rfl

theorem Reads.thenEnd {body : Reader α} {ending : Reader Unit} {a : α} (h : Reads body source a middle)
    (h' : Reads ending middle () rest) : Reads (thenEnd body ending) source a rest := by
  intro line column
  obtain ⟨line₁, column₁, h⟩ := h line column
  obtain ⟨line₂, column₂, h'⟩ := h' line₁ column₁
  refine ⟨line₂, column₂, ?_⟩
  rw [Reader.thenEnd, h]
  simp only
  rw [h']

end Combinators

/-! ## Blanks and words -/

/-- The next character begins a token: no blank stands in front of it. -/
def Starts (source : List Char) : Prop := ∀ c ∈ source.head?, isSpace c = false

theorem skipSpaces_reads {blanks source : List Char} (h : ∀ c ∈ blanks, isSpace c = true) (hs : Starts source)
    {fuel : Nat} (hf : blanks.length ≤ fuel) : Reads (skipSpaces fuel) (blanks ++ source) () source := by
  induction blanks generalizing fuel with
  | nil =>
      cases fuel with
      | zero => exact .pure () source
      | succ fuel =>
          refine (Reads.peek source).bind ?_
          cases source with
          | nil => exact .pure () []
          | cons c cs =>
              simp only [List.head?_cons, hs c rfl]
              exact .pure () _
  | cons b bs ih =>
      cases fuel with
      | zero => exact absurd hf (Nat.not_succ_le_zero _)
      | succ fuel =>
          refine (Reads.peek _).bind ?_
          simp only [List.cons_append, List.head?_cons, h b List.mem_cons_self]
          exact (Reads.skip b _).bind (ih (fun c hc => h c (List.mem_cons_of_mem b hc)) (Nat.le_of_succ_le_succ hf))

/-- The character after the blanks is found and not passed. -/
theorem peekToken_reads {blanks source : List Char} (h : ∀ c ∈ blanks, isSpace c = true) (hs : Starts source) :
    Reads peekToken (blanks ++ source) source.head? source := by
  refine (Reads.remaining _).bind ((skipSpaces_reads h hs ?_).bind (Reads.peek source))
  simp

theorem peekToken_here {source : List Char} (hs : Starts source) : Reads peekToken source source.head? source :=
  peekToken_reads (List.forall_mem_nil _) hs

theorem word_reads (expected rest : List Char) : Reads (word expected) (expected ++ rest) () rest := by
  induction expected with
  | nil => exact .pure () rest
  | cons c cs ih =>
      refine (Reads.next c _).bind ?_
      simp only [if_true]
      exact ih

/-- The blanks that begin a line are passed over. -/
theorem isSpace_of_mem_newline {depth : Nat} {c : Char} (h : c ∈ newline depth) : isSpace c = true := by
  rcases List.mem_cons.mp h with rfl | h
  · rfl
  · rw [List.eq_of_mem_replicate h]
    rfl

/-! ## Strings -/

/-- The digits of a number below the first blank give the number again. -/
theorem ofDigits?_hexDigit {n : Nat} (h : n < 32) :
    Text.ofDigits? 16 0 ['0', '0', hexDigit (n / 16), hexDigit (n % 16)] = some n := by
  have all : ∀ m < 32, Text.ofDigits? 16 0 ['0', '0', hexDigit (m / 16), hexDigit (m % 16)] = some m := by decide
  exact all n h

theorem utf8Size_hexDigit {n : Nat} (h : n < 16) : (hexDigit n).utf8Size = 1 := by
  have all : ∀ m < 16, (hexDigit m).utf8Size = 1 := by decide
  exact all n h

theorem hexEscape_reads {n : Nat} (h : n < 32) (rest : List Char) :
    Reads hexEscape ('0' :: '0' :: hexDigit (n / 16) :: hexDigit (n % 16) :: rest) n rest := by
  refine .get fun line column => ?_
  have bytes : (['0', '0', hexDigit (n / 16), hexDigit (n % 16)].foldl (fun n c => n + c.utf8Size) 0) = 4 := by
    simp only [List.foldl, utf8Size_hexDigit (show n / 16 < 16 by omega), utf8Size_hexDigit (show n % 16 < 16 by omega)]
    decide
  simp only [List.take, bytes, Nat.lt_irrefl, if_false, ofDigits?_hexDigit h]
  refine (Reads.set _ _).bind ?_
  simp only [rest_advance, List.tail_cons]
  exact .pure n rest

theorem unicodeEscape_reads {c : Char} (h : c.toNat < 32) (rest : List Char) :
    Reads unicodeEscape ('0' :: '0' :: hexDigit (c.toNat / 16) :: hexDigit (c.toNat % 16) :: rest) c rest := by
  refine (hexEscape_reads h rest).bind ?_
  rw [if_neg (by omega), if_pos (by omega), Char.ofNat_toNat]
  exact .pure c rest

theorem nextInString_reads (c : Char) (rest : List Char) : Reads nextInString (c :: rest) c rest :=
  (Reads.next c rest).bind (.pure c rest)

section Characters
variable {cs : List Char} {fuel : Nat} {source rest : List Char} (h : Reads (stringChars fuel) source cs rest)
include h

/-- An escape in front of the rest of a string. -/
theorem stringChars_escape {c : Char} {escaped : List Char} (he : Reads escape escaped c source) :
    Reads (stringChars (fuel + 1)) ('\\' :: escaped) (c :: cs) rest := by
  refine (Reads.peek _).bind ?_
  show Reads (do skip; let c ← escape; return c :: (← stringChars fuel)) _ _ _
  exact (Reads.skip _ _).bind (he.bind (h.bind (.pure _ rest)))

theorem stringChars_simple {e c : Char} (he : simpleEscape e = some c) :
    Reads (stringChars (fuel + 1)) ('\\' :: e :: source) (c :: cs) rest := by
  have read : Reads escape (e :: source) c source := by
    refine Reads.bind (nextInString_reads e source) ?_
    rw [he]
    exact .pure c source
  exact stringChars_escape h read

theorem stringChars_plain {c : Char} (hq : c ≠ '"') (hb : c ≠ '\\') (hc : ¬ c.toNat < 32) :
    Reads (stringChars (fuel + 1)) (c :: source) (c :: cs) rest := by
  refine (Reads.peek _).bind ?_
  simp only [List.head?_cons]
  refine (Reads.skip c source).bind ?_
  rw [if_neg hc]
  exact h.bind (.pure _ rest)

/-- Every character is read back, escaped or not. -/
theorem stringChar_reads (c : Char) : Reads (stringChars (fuel + 1)) (stringChar c ++ source) (c :: cs) rest := by
  unfold stringChar
  split
  · exact stringChars_simple h rfl
  · exact stringChars_simple h rfl
  · exact stringChars_simple h rfl
  · exact stringChars_simple h rfl
  · exact stringChars_simple h rfl
  · exact stringChars_simple h rfl
  · exact stringChars_simple h rfl
  · rename_i hq hb _ _ _ _ _
    split_ifs with hc
    · refine stringChars_escape h ((nextInString_reads 'u' _).bind ?_)
      exact (unicodeEscape_reads hc source)
    · exact stringChars_plain h hq hb hc

end Characters

theorem stringChars_reads (cs rest : List Char) {fuel : Nat} (hf : cs.length < fuel) :
    Reads (stringChars fuel) (cs.flatMap stringChar ++ '"' :: rest) cs rest := by
  induction cs generalizing fuel with
  | nil =>
      obtain ⟨fuel, rfl⟩ := Nat.exists_eq_add_one.mpr (Nat.zero_lt_of_lt hf)
      exact (Reads.peek _).bind ((Reads.skip _ _).bind (.pure [] rest))
  | cons c cs ih =>
      obtain ⟨fuel, rfl⟩ := Nat.exists_eq_add_one.mpr (Nat.zero_lt_of_lt hf)
      rw [List.flatMap_cons, List.append_assoc]
      exact stringChar_reads (ih (Nat.lt_of_succ_lt_succ hf)) c

theorem length_le_flatMap_stringChar (cs : List Char) : cs.length ≤ (cs.flatMap stringChar).length := by
  induction cs with
  | nil => exact Nat.le_refl 0
  | cons c cs ih =>
      have : 0 < (stringChar c).length := by
        unfold stringChar
        split <;> (try split_ifs) <;> simp
      rw [List.flatMap_cons, List.length_append, List.length_cons]
      omega

/-- A string is read back whatever its characters are. -/
theorem stringBody_reads (text : String) (rest : List Char) :
    Reads stringBody (text.toList.flatMap stringChar ++ '"' :: rest) text rest := by
  have hf := length_le_flatMap_stringChar text.toList
  refine (Reads.remaining _).bind ((stringChars_reads text.toList rest ?_).bind ?_)
  · rw [List.length_append]
    omega
  · rw [String.ofList_toList]
    exact .pure text rest

/-! ## Numbers -/

/-- A value is followed by a comma or by the end of its line. -/
def Ends (source : List Char) : Prop := ∀ c ∈ source.head?, c = ',' ∨ c = '\n'

theorem Ends.not_isDigit {source : List Char} (h : Ends source) : ∀ c ∈ source.head?, c.isDigit = false := by
  intro c hc
  rcases h c hc with rfl | rfl <;> rfl

theorem digits_reads {ds rest : List Char} (hd : ∀ d ∈ ds, d.isDigit = true) (hr : Ends rest) :
    Reads digits (ds ++ rest) ds rest := by
  have none : rest.takeWhile Char.isDigit = [] ∧ rest.dropWhile Char.isDigit = rest := by
    cases rest with
    | nil => exact ⟨rfl, rfl⟩
    | cons c cs => simp [hr.not_isDigit c rfl]
  refine .get fun line column => ?_
  simp only [List.takeWhile_append_of_pos hd, List.dropWhile_append_of_pos hd, none.1, none.2, List.append_nil]
  exact (Reads.set _ _).bind (.pure ds rest)

theorem le_ofDigitChars (n : Nat) (ds : List Char) : n ≤ Nat.ofDigitChars 10 ds n := by
  rw [Nat.ofDigitChars_eq_ofDigitChars_zero]
  calc n ≤ 10 ^ ds.length * n := Nat.le_mul_of_pos_left n (Nat.pow_pos (by decide))
    _ ≤ 10 ^ ds.length * n + Nat.ofDigitChars 10 ds 0 := Nat.le_add_right ..

/-- All digits are added while the number stays small enough to be kept exactly. -/
theorem addDigits_eq {n : Nat} {ds : List Char} (h : Nat.ofDigitChars 10 ds n ≤ maxInteger) :
    addDigits n ds = (Nat.ofDigitChars 10 ds n, ds.length) := by
  induction ds generalizing n with
  | nil => rfl
  | cons d ds ih =>
      rw [Nat.ofDigitChars_cons] at h ⊢
      have hm : n * 10 + (d.toNat - '0'.toNat) ≤ maxInteger := by
        have := le_ofDigitChars (10 * n + (d.toNat - '0'.toNat)) ds
        omega
      rw [addDigits, if_neg (Nat.not_lt.mpr hm), Nat.mul_comm n 10]
      simp only [ih h, List.length_cons]

/-- Only the number zero is printed with a zero in front. -/
theorem eq_zero_of_toDigits {n : Nat} {ds : List Char} (h : Nat.toDigits 10 n = '0' :: ds) : ds = [] := by
  have lead : ∀ m, 0 < m → (Nat.toDigits 10 m).head? ≠ some '0' := by
    intro m
    induction m using Nat.strongRecOn with
    | ind m ih =>
        intro hm
        rw [Nat.toDigits_eq_if (by decide)]
        split_ifs with hlt
        · have : ∀ k < 10, 0 < k → [Nat.digitChar k].head? ≠ some '0' := by decide
          exact this m hlt hm
        · rw [List.head?_append, Option.or_of_isSome (by simp [Nat.toDigits_ne_nil])]
          exact ih (m / 10) (by omega) (by omega)
  rcases Nat.eq_zero_or_pos n with rfl | hn
  · rw [Nat.toDigits_zero] at h
    exact (List.cons.inj h).2.symm
  · exact absurd (by rw [h]; rfl) (lead n hn)

/-- A number is printed as at least one digit. -/
theorem toDigits_eq_cons (n : Nat) : ∃ d ds, Nat.toDigits 10 n = d :: ds ∧ ∀ c ∈ d :: ds, c.isDigit = true := by
  obtain ⟨d, ds, hds⟩ := List.exists_cons_of_ne_nil (Nat.toDigits_ne_nil (n := n) (b := 10))
  exact ⟨d, ds, hds, fun c hc => Nat.isDigit_of_mem_toDigits (by decide) (Nat.le_refl 10) (hds ▸ hc)⟩

/-- A whole number is read back as long as it is small enough to be kept as one. -/
theorem number_reads {n : Nat} (hn : n ≤ maxInteger) {rest : List Char} (hr : Ends rest) :
    Reads (number false) (Nat.toDigits 10 n ++ rest) (.nat n) rest := by
  obtain ⟨d, ds, hds, digit⟩ := toDigits_eq_cons n
  have value : Nat.ofDigitChars 10 ds (d.toNat - '0'.toNat) = n := by
    have h := Nat.ofDigitChars_ten_toDigits (n := n)
    rw [hds, Nat.ofDigitChars_cons] at h
    rwa [Nat.mul_zero, Nat.zero_add] at h
  rw [hds, List.cons_append]
  refine (Reads.next d _).bind ?_
  simp only [digit d List.mem_cons_self, Bool.not_true, Bool.false_eq_true, if_false]
  have added := addDigits_eq (show Nat.ofDigitChars 10 ds (d.toNat - '0'.toNat) ≤ maxInteger from value ▸ hn)
  rw [value] at added
  -- what follows a number is none of the characters that would make it another one
  have follow : ∀ c ∈ rest.head?, c.isDigit = false ∧ c ≠ '.' ∧ c ≠ 'e' ∧ c ≠ 'E' := by
    intro c hc
    rcases hr c hc with rfl | rfl <;> decide
  have zero : d = '0' → Reads (pure []) (ds ++ rest) ds rest := by
    intro hd
    obtain rfl := eq_zero_of_toDigits (hd ▸ hds)
    exact .pure [] rest
  have digits : Reads digits (ds ++ rest) ds rest :=
    digits_reads (fun c hc => digit c (List.mem_cons_of_mem d hc)) hr
  refine Reads.ite_bind zero (fun _ => digits) ((Reads.peek rest).bind ?_)
  cases rest with
  | nil =>
      refine (Reads.peek []).bind ?_
      simp only [List.head?_nil, added, Nat.sub_self]
      exact .pure _ _
  | cons c cs =>
      obtain ⟨h1, h2, h3, h4⟩ := follow c rfl
      simp only [List.head?_cons, h1, Bool.false_eq_true, and_false, if_false]
      refine (Reads.peek (c :: cs)).bind ?_
      simp only [List.head?_cons, added, Nat.sub_self]
      split
      · rename_i h
        exact absurd (Option.some.inj h) h2
      · rename_i h
        exact absurd (Option.some.inj h) h3
      · rename_i h
        exact absurd (Option.some.inj h) h4
      · exact .pure _ _

end Folio.Json.Reader
