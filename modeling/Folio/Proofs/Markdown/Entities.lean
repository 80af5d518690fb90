import Folio.Proofs.Markdown.Escaping

/-!
# References that are escaped

A character can be written by its name or its number between an ampersand and a semicolon. Escaping does not look the
name up: it takes every word there for a name. So each ampersand that begins a reference is escaped.

* `entityName_of_codePoints?` : every name that stands for a character is a word;
* `entityName_of_reference?` : where a reference begins, an entity's name does to the writer;
* `reference?_eq_none` : behind a dead ampersand there is no reference.
-/

namespace Folio.Markdown
open Text (digitValue? hexValue?)

/-! ## Words -/

/-- The byte is a letter or a digit of ASCII. -/
def isWordByte (b : UInt8) : Bool :=
  (48 ≤ b.toNat && b.toNat ≤ 57) || (65 ≤ b.toNat && b.toNat ≤ 90) || (97 ≤ b.toNat && b.toNat ≤ 122)

/-- The bytes of the text are letters and digits, and there are some. -/
def isWord (text : String) : Bool := text.toByteArray.data.toList.all isWordByte && text.toByteArray.size != 0

theorem isAlphanum_iff (c : Char) :
    c.isAlphanum = true ↔ ((65 ≤ c.toNat ∧ c.toNat ≤ 90) ∨ (97 ≤ c.toNat ∧ c.toNat ≤ 122)) ∨
      (48 ≤ c.toNat ∧ c.toNat ≤ 57) := by
  change ((decide (c.val ≥ 65 ∧ c.val ≤ 90) || (decide (c.val ≥ 97) && decide (c.val ≤ 122))) ||
    (decide (c.val ≥ 48) && decide (c.val ≤ 57))) = true ↔ _
  simp only [Bool.or_eq_true, Bool.and_eq_true, decide_eq_true_eq, ge_iff_le, UInt32.le_iff_toNat_le]
  exact Iff.rfl

theorem isAlphanum_of_bytes {c : Char} (h : ∀ b ∈ String.utf8EncodeChar c, isWordByte b = true) :
    c.isAlphanum = true := by
  have hpoint : c.toNat = c.val.toNat := rfl
  rw [isAlphanum_iff]
  unfold String.utf8EncodeChar at h
  dsimp only at h
  split at h
  · have hbyte := h _ (List.mem_singleton_self _)
    simp only [isWordByte, UInt8.toNat_ofNat', Bool.or_eq_true, Bool.and_eq_true, decide_eq_true_eq] at hbyte
    omega
  · exfalso
    -- the first of several bytes is none of ASCII
    split at h
    · have hbyte := h _ List.mem_cons_self
      simp only [isWordByte, UInt8.toNat_ofNat', Bool.or_eq_true, Bool.and_eq_true, decide_eq_true_eq] at hbyte
      omega
    · split at h
      · have hbyte := h _ List.mem_cons_self
        simp only [isWordByte, UInt8.toNat_ofNat', Bool.or_eq_true, Bool.and_eq_true, decide_eq_true_eq] at hbyte
        omega
      · have hbyte := h _ List.mem_cons_self
        simp only [isWordByte, UInt8.toNat_ofNat', Bool.or_eq_true, Bool.and_eq_true, decide_eq_true_eq] at hbyte
        omega

theorem word_of_isWord {cs : List Char} (h : isWord (String.ofList cs) = true) :
    cs ≠ [] ∧ ∀ c ∈ cs, c.isAlphanum = true := by
  rw [isWord, Bool.and_eq_true, String.toByteArray_ofList, List.all_eq_true] at h
  obtain ⟨hbytes, hsize⟩ := h
  refine ⟨?_, fun c hc => isAlphanum_of_bytes fun b hb => hbytes b ?_⟩
  · rintro rfl
    cases hsize
  · rw [List.utf8Encode, List.data_toByteArray]
    exact List.mem_flatMap.mpr ⟨c, hc, hb⟩

/-! ## Names -/

/-- All names in the table are words. The table is looked through as it is stored, in bytes. -/
theorem isWord_of_mem_namesFrom (first : Char) :
    ∀ entry ∈ EntityNames.namesFrom first, isWord entry.1 = true := by
  have hall {names : List (String × Nat)} (h : (names.all fun entry => isWord entry.1) = true) :
      ∀ entry ∈ names, isWord entry.1 = true := List.all_eq_true.mp h
  unfold EntityNames.namesFrom
  split
  · exact hall (by decide +kernel)
  · split
    · exact hall (by decide +kernel)
    · split
      · exact hall (by decide +kernel)
      · split
        · exact hall (by decide +kernel)
        · exact hall (by decide +kernel)

theorem isWord_of_mem_pairNames : ∀ entry ∈ EntityNames.pairNames, isWord entry.1 = true :=
  List.all_eq_true.mp (by decide +kernel : (EntityNames.pairNames.all fun entry => isWord entry.1) = true)

theorem mem_of_lookup_eq_some {α : Type} {entries : List (String × α)} {key : String} {value : α}
    (h : entries.lookup key = some value) : (key, value) ∈ entries := by
  obtain ⟨front, back, rfl, -⟩ := List.lookup_eq_some_iff.mp h
  exact List.mem_append_right _ List.mem_cons_self

/-- Every name that stands for a character is a word. -/
theorem entityName_of_codePoints? {name : List Char} {points : List Nat}
    (h : EntityNames.codePoints? name = some points) : EntityName name := by
  refine .inl (word_of_isWord ?_)
  unfold EntityNames.codePoints? at h
  dsimp only at h
  split at h
  next point hpoint => exact isWord_of_mem_namesFrom _ _ (mem_of_lookup_eq_some hpoint)
  next =>
    obtain ⟨pair, hpair, -⟩ := Option.map_eq_some_iff.mp h
    exact isWord_of_mem_pairNames _ (mem_of_lookup_eq_some hpair)

/-! ## References -/

theorem isAlphanum_of_digitValue? {base : Nat} {c : Char} (h : (digitValue? base c).isSome = true) :
    c.isAlphanum = true := by
  have hhex : (hexValue? c).isSome = true := by
    obtain ⟨value, hvalue⟩ := Option.isSome_iff_exists.mp h
    rw [(Option.filter_eq_some_iff.mp hvalue).1]
    rfl
  unfold hexValue? at hhex
  simp only [Char.le_def, UInt32.le_iff_toNat_le] at hhex
  rw [isAlphanum_iff]
  split at hhex
  next h => exact .inr h
  next =>
    split at hhex
    next h => exact .inl (.inr ⟨h.1, h.2.trans (by decide)⟩)
    next =>
      split at hhex
      next h => exact .inl (.inl ⟨h.1, h.2.trans (by decide)⟩)
      next => cases hhex

/-- What stands before a semicolon is a word if it is a word up to the digits in front of the semicolon. -/
theorem exists_word_of_digits {cs : List Char} {lead base : Nat} (hlead : ∀ c ∈ cs.take lead, c.isAlphanum = true)
    (h : (cs.drop (lead + ((cs.drop lead).takeWhile fun c => (digitValue? base c).isSome).length)).head? = some ';') :
    ∃ number rest, cs = number ++ ';' :: rest ∧ ∀ c ∈ number, c.isAlphanum = true := by
  let digits := (cs.drop lead).takeWhile fun c => (digitValue? base c).isSome
  obtain ⟨rest, hrest⟩ := List.head?_eq_some_iff.mp h
  refine ⟨cs.take (lead + digits.length), rest, ?_, fun c hc => ?_⟩
  · rw [← hrest]
    exact (List.take_append_drop _ cs).symm
  · rw [List.take_add, ← List.prefix_iff_eq_take.mp (List.takeWhile_prefix _)] at hc
    rcases List.mem_append.mp hc with hc | hc
    · exact hlead c hc
    · have hdigit := List.mem_takeWhile_imp hc
      exact isAlphanum_of_digitValue? hdigit

/-- The number of a character, with the `x` in front of it if there is one, is a word. -/
theorem exists_word_of_numericReference? {cs : List Char} {c : Char} {length : Nat}
    (h : numericReference? cs = some (c, length)) :
    ∃ number rest, cs = number ++ ';' :: rest ∧ ∀ c ∈ number, c.isAlphanum = true := by
  have hmark {d : Char} (hd : d.isAlphanum = true) (hhead : cs.head? = some d) :
      ∀ c ∈ cs.take 1, c.isAlphanum = true := by
    obtain ⟨rest, rfl⟩ := List.head?_eq_some_iff.mp hhead
    intro c hc
    rwa [List.mem_singleton.mp hc]
  unfold numericReference? at h
  split at h
  next lead base hpair =>
    dsimp only at h
    split at h
    next hbounds =>
      refine exists_word_of_digits ?_ hbounds.2.2
      split at hpair
      next hhead =>
        obtain ⟨rfl, -⟩ := Prod.mk.inj hpair
        exact hmark (by decide) hhead
      next hhead =>
        obtain ⟨rfl, -⟩ := Prod.mk.inj hpair
        exact hmark (by decide) hhead
      next =>
        obtain ⟨rfl, -⟩ := Prod.mk.inj hpair
        exact nofun
    next => cases h

/-- Where a reference begins, an entity's name does to the writer. -/
theorem entityName_of_reference? {cs text : List Char} {length : Nat} (h : reference? cs = some (text, length)) :
    ∃ name rest, cs = name ++ ';' :: rest ∧ EntityName name := by
  unfold reference? at h
  split at h
  · obtain ⟨⟨c, n⟩, hnumeric, -⟩ := Option.map_eq_some_iff.mp h
    obtain ⟨number, rest, rfl, hnumber⟩ := exists_word_of_numericReference? hnumeric
    exact ⟨'#' :: number, rest, rfl, .inr ⟨number, rfl, hnumber⟩⟩
  · dsimp only at h
    split at h
    next hbounds =>
      obtain ⟨points, hpoints, -⟩ := Option.map_eq_some_iff.mp h
      have hsplit : cs = cs.takeWhile (· != ';') ++ cs.dropWhile (· != ';') := List.takeWhile_append_dropWhile.symm
      obtain ⟨d, rest, hrest⟩ : ∃ d rest, cs.dropWhile (· != ';') = d :: rest := by
        refine List.exists_cons_of_ne_nil fun hnil => ?_
        rw [hnil, List.append_nil] at hsplit
        exact absurd (congrArg List.length hsplit) hbounds.2.2.ne'
      have hsemi : d = ';' := by
        have hhead := List.head?_dropWhile_not (· != ';') cs
        rw [hrest] at hhead
        simpa using hhead
      subst hsemi
      rw [hrest] at hsplit
      exact ⟨_, rest, hsplit, entityName_of_codePoints? hpoints⟩
    next => cases h

/-- Behind a dead ampersand there is no reference. -/
theorem reference?_eq_none {cs : List Char} (h : ¬ Live '&' cs) : reference? cs = none := by
  rw [Option.eq_none_iff_forall_ne_some]
  rintro ⟨text, length⟩ href
  exact h (.inr (.inr (.inr ⟨rfl, entityName_of_reference? href⟩)))

end Folio.Markdown
