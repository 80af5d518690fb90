import Folio.Unicode.Alphanumeric
import Folio.Unicode.Lowercase

/-!
# Lower-case forms

Whatever a character becomes in lower case stays as it is when it is put into lower case again, and it is alphanumeric
if the character was, but for the dot above that the dotted capital I leaves behind.

* `runs_leadInto`, `runs_leadPast` : where the table of upper-case characters leads;
* `special_forms`, `lowercaseChar_eq` : the form of one character;
* `mem_lowercaseAfter` : the characters of a text in lower case;
* `lowercase_of_forall` : a text in lower case stays as it is.
-/

namespace Folio.Unicode

variable {c d : Char}

/-! ## Characters apart from the table -/

theorem toLower_ascii : ∀ code < 128, let form := (Char.ofNat code).toLower
    lowercaseChar form = [form] ∧ (isAlphanumeric (Char.ofNat code) = true → isAlphanumeric form = true) := by
  decide +kernel

theorem lowercaseChar_ascii (h : c.toNat < 128) : lowercaseChar c = [c.toLower] := if_pos h

/-- The dotted capital I leaves a dot above behind. -/
theorem lowercaseChar_dottedCapital : lowercaseChar '\u0130' = ['i', '\u0307'] := by
  rw [lowercaseChar, if_neg (by decide), if_pos rfl]

/-- The dot above and the sigmas. -/
theorem special_forms : lowercaseChar '\u0307' = ['\u0307'] ∧ lowercaseChar 'Σ' = ['σ'] ∧ lowercaseChar 'ς' = ['ς'] ∧
    isAlphanumeric 'ς' = true ∧ isAlphanumeric '\u0307' = false ∧ isAlphanumeric '\u0130' = true := by
  decide +kernel

/-! ## The table -/

/-- Letters and digits that the table leads to: the small letters of ASCII, and what lies beyond ASCII. -/
def letterRanges : Ranges := (0x61, 0x7A) :: alphanumericRanges

/-- The letters and digits of the table are characters; those of ASCII are small letters. -/
theorem letterRanges_valid : ∀ range ∈ letterRanges, 0x61 ≤ range.1 ∧ (range.2 < 0x7B ∨ 0x80 ≤ range.1) ∧
    (range.2 < 0xD800 ∨ (0xDFFF < range.1 ∧ range.2 < 0x110000)) := by
  have h : (letterRanges.all fun range => Nat.ble 0x61 range.1 && (range.2.blt 0x7B || Nat.ble 0x80 range.1) &&
      (range.2.blt 0xD800 || (Nat.blt 0xDFFF range.1 && range.2.blt 0x110000))) = true := by decide +kernel
  simpa [Bool.and_assoc, and_assoc] using h

/-- A run of the table: first and last code point, the step, and the distance to the lower-case form. -/
abbrev LowercaseRun := Nat × Nat × Nat × Int

namespace LowercaseRun

/-- The code point is that of a member of the run. -/
def Has (run : LowercaseRun) (code : Nat) : Prop := run.1 ≤ code ∧ code ≤ run.2.1 ∧ (code - run.1) % run.2.2.1 = 0

/-- Where a code point of the run leads. -/
def lowered (run : LowercaseRun) (code : Nat) : Nat := (code + run.2.2.2).toNat

/-- The run leads to code points of the range. -/
def leadsInto (run : LowercaseRun) (range : Nat × Nat) : Bool :=
  (run.lowered run.2.1).ble range.2 && range.1.ble (run.lowered run.1)

/-- The run leads to no member of the other run: they lie apart, or every second code point belongs to each. -/
def leadsPast (run other : LowercaseRun) : Bool :=
  (run.lowered run.2.1).blt other.1 || other.2.1.blt (run.lowered run.1) ||
    (other.2.2.1 == 2 && (run.2.2.1 == 2 || run.1 == run.2.1) && (run.lowered run.1 + other.1) % 2 == 1)

variable {run other : LowercaseRun} {range : Nat × Nat} {code : Nat}

theorem mem_range_of_leadsInto (h : run.leadsInto range = true) (hcode : run.Has code) :
    range.1 ≤ run.lowered code ∧ run.lowered code ≤ range.2 := by
  obtain ⟨hlow, hhigh, -⟩ := hcode
  simp only [leadsInto, lowered, Bool.and_eq_true, Nat.ble_eq] at h ⊢
  omega

theorem not_has_of_leadsPast (h : run.leadsPast other = true) (hpositive : 0 < run.lowered run.1)
    (hcode : run.Has code) : ¬ other.Has (run.lowered code) := by
  rintro ⟨hlow, hhigh, hstep⟩
  obtain ⟨hfirst, hlast, hmember⟩ := hcode
  simp only [leadsPast, lowered, Bool.or_eq_true, Bool.and_eq_true, Nat.blt_eq, beq_iff_eq] at h hpositive hlow hhigh hstep
  rcases h with (h | h) | ⟨⟨hother, hrun⟩, hparity⟩
  · omega
  · omega
  · rw [hother] at hstep
    rcases hrun with hrun | hrun
    · rw [hrun] at hmember
      omega
    · omega

end LowercaseRun

open LowercaseRun

theorem runs_leadInto : ∀ run ∈ lowercaseRuns, ∃ range ∈ letterRanges, leadsInto run range = true := by
  have h : (lowercaseRuns.all fun run => letterRanges.any (leadsInto run)) = true := by decide +kernel
  simpa using h

/-- The dotted capital I is no member of a run, and no run leads to it. -/
theorem runs_leadPast :
    ∀ run ∈ lowercaseRuns, ∀ other ∈ (0x130, 0x130, 1, 0) :: lowercaseRuns, leadsPast run other = true := by
  have h : (lowercaseRuns.all fun run => ((0x130, 0x130, 1, 0) :: lowercaseRuns).all (leadsPast run)) = true := by
    decide +kernel
  simp only [List.all_eq_true] at h
  exact h

/-! ## One character -/

theorem isAlphanumeric_of_mem_range {range : Nat × Nat} (h : range ∈ letterRanges) (hlow : range.1 ≤ c.toNat)
    (hhigh : c.toNat ≤ range.2) : isAlphanumeric c = true := by
  obtain ⟨hsmall, hascii, -⟩ := letterRanges_valid range h
  by_cases hlt : c.toNat < 128
  · have hlower : c.isLower = true := by
      have hbetween : 97 ≤ c.toNat ∧ c.toNat ≤ 122 := by omega
      exact Bool.and_eq_true_iff.mpr ⟨decide_eq_true hbetween.1, decide_eq_true hbetween.2⟩
    rw [isAlphanumeric_of_lt hlt]
    change ((c.isUpper || c.isLower) || c.isDigit) = true
    rw [hlower, Bool.or_true, Bool.true_or]
  · rw [isAlphanumeric, if_neg hlt, Ranges.covers_iff]
    rcases List.mem_cons.mp h with rfl | h
    · dsimp only at hhigh
      omega
    · exact ⟨range, h, hlow, hhigh⟩

/-- A character that is not among the capitals stays as it is. -/
theorem lowercaseChar_of_not_has (hascii : c.toNat < 128 → 0x61 ≤ c.toNat)
    (hruns : ∀ run ∈ (0x130, 0x130, 1, 0) :: lowercaseRuns, ¬ Has run c.toNat) : lowercaseChar c = [c] := by
  unfold lowercaseChar
  split
  next hlt =>
    have hupper : ¬ (c.val ≥ 'A'.val ∧ c.val ≤ 'Z'.val) := by
      rintro ⟨-, hhigh⟩
      have hhigh : c.toNat ≤ 90 := hhigh
      have hlow := hascii hlt
      omega
    have hsame : c.toLower = c := dif_neg hupper
    rw [hsame]
  next =>
    have hdotted : c ≠ '\u0130' := by
      rintro rfl
      exact hruns _ List.mem_cons_self ⟨by decide, by decide, by decide⟩
    rw [if_neg hdotted]
    split
    next hfound =>
      have hhas := List.find?_some hfound
      simp only [Bool.and_eq_true, decide_eq_true_eq, beq_iff_eq] at hhas
      have hrun := List.mem_of_find?_eq_some hfound
      exact absurd ⟨hhas.1.1, hhas.1.2, hhas.2⟩ (hruns _ (List.mem_cons_of_mem _ hrun))
    next => rfl

/-- The form that a member of the table leads to is alphanumeric and stays as it is. -/
theorem lowercaseChar_lowered {run : LowercaseRun} (hrun : run ∈ lowercaseRuns) {code : Nat} (hcode : Has run code) :
    let form := Char.ofNat (lowered run code)
    lowercaseChar form = [form] ∧ isAlphanumeric form = true := by
  intro form
  obtain ⟨range, hrange, hleads⟩ := runs_leadInto run hrun
  obtain ⟨hlow, hhigh⟩ := mem_range_of_leadsInto hleads hcode
  obtain ⟨hsmall, -, hvalid⟩ := letterRanges_valid range hrange
  have hchar : (lowered run code).isValidChar := by
    rcases hvalid with h | h
    · exact .inl (by omega)
    · exact .inr ⟨by omega, by omega⟩
  have hform : form.toNat = lowered run code := by
    rw [show form = Char.ofNatAux _ hchar from dif_pos hchar]
    rfl
  have hpositive : 0 < lowered run run.1 := by
    simp only [leadsInto, Bool.and_eq_true, Nat.ble_eq] at hleads
    omega
  refine ⟨lowercaseChar_of_not_has (fun _ => by omega) fun other hother => ?_,
    isAlphanumeric_of_mem_range hrange (hform ▸ hlow) (hform ▸ hhigh)⟩
  rw [hform]
  exact not_has_of_leadsPast (runs_leadPast run hrun other hother) hpositive hcode

/-- But for the dotted capital I, a character has one form in lower case, which stays as it is and is alphanumeric if
the character is. -/
theorem lowercaseChar_eq (h : c ≠ '\u0130') : ∃ form, lowercaseChar c = [form] ∧ lowercaseChar form = [form] ∧
    (isAlphanumeric c = true → isAlphanumeric form = true) := by
  by_cases hlt : c.toNat < 128
  · have hascii := toLower_ascii c.toNat hlt
    rw [Char.ofNat_toNat] at hascii
    exact ⟨c.toLower, lowercaseChar_ascii hlt, hascii⟩
  · unfold lowercaseChar
    rw [if_neg hlt, if_neg h]
    split
    next hfound =>
      have hhas := List.find?_some hfound
      simp only [Bool.and_eq_true, decide_eq_true_eq, beq_iff_eq] at hhas
      obtain ⟨hlower, hletter⟩ :=
        lowercaseChar_lowered (List.mem_of_find?_eq_some hfound) ⟨hhas.1.1, hhas.1.2, hhas.2⟩
      exact ⟨_, rfl, hlower, fun _ => hletter⟩
    next hnone =>
      refine ⟨c, rfl, ?_, id⟩
      rw [if_neg hlt, if_neg h, hnone]

/-- What a character becomes in lower case stays as it is. -/
theorem lowercaseChar_of_mem (h : d ∈ lowercaseChar c) : lowercaseChar d = [d] := by
  by_cases hdotted : c = '\u0130'
  · subst hdotted
    rw [lowercaseChar_dottedCapital] at h
    rcases List.mem_cons.mp h with rfl | h
    · exact lowercaseChar_ascii (by decide)
    · obtain rfl := List.mem_singleton.mp h
      exact special_forms.1
  · obtain ⟨form, hform, hlower, -⟩ := lowercaseChar_eq hdotted
    rw [hform, List.mem_singleton] at h
    rw [h]
    exact hlower

/-! ## Texts -/

variable {cs : List Char}

/-- What stands in a text in lower case is a form of one of its characters, or the final sigma for a sigma. -/
theorem mem_lowercaseAfter {before : List Char} (h : d ∈ lowercaseAfter before cs) :
    ∃ c ∈ cs, d ∈ lowercaseChar c ∨ c = 'Σ' ∧ d = 'ς' := by
  induction cs generalizing before with
  | nil => cases h
  | cons c cs ih =>
      unfold lowercaseAfter at h
      rcases List.mem_append.mp h with hform | hrest
      · refine ⟨c, List.mem_cons_self, ?_⟩
        split at hform
        next hsigma =>
          subst hsigma
          split at hform
          · exact .inr ⟨rfl, List.mem_singleton.mp hform⟩
          · obtain rfl := List.mem_singleton.mp hform
            rw [special_forms.2.1]
            exact .inl (List.mem_singleton_self _)
        next => exact .inl hform
      · obtain ⟨other, hother, hd⟩ := ih hrest
        exact ⟨other, List.mem_cons_of_mem _ hother, hd⟩

/-- The forms of a character other than the sigma stand in the text in lower case. -/
theorem mem_lowercaseAfter_of_mem {before : List Char} (hc : c ∈ cs) (hsigma : c ≠ 'Σ') (hd : d ∈ lowercaseChar c) :
    d ∈ lowercaseAfter before cs := by
  induction cs generalizing before with
  | nil => cases hc
  | cons other cs ih =>
      unfold lowercaseAfter
      rw [List.mem_append]
      rcases List.mem_cons.mp hc with rfl | hc
      · rw [if_neg hsigma]
        exact .inl hd
      · exact .inr (ih hc)

/-- A text whose characters stay as they are in lower case stays as it is. -/
theorem lowercaseAfter_of_forall {before : List Char} (h : ∀ c ∈ cs, lowercaseChar c = [c]) :
    lowercaseAfter before cs = cs := by
  induction cs generalizing before with
  | nil => rfl
  | cons c cs ih =>
      obtain ⟨hc, hcs⟩ := List.forall_mem_cons.mp h
      have hsigma : c ≠ 'Σ' := by
        rintro rfl
        exact absurd (special_forms.2.1.symm.trans hc) (by decide)
      rw [lowercaseAfter, if_neg hsigma, hc, ih hcs]
      rfl

theorem lowercase_of_forall (h : ∀ c ∈ cs, lowercaseChar c = [c]) : lowercase cs = cs := lowercaseAfter_of_forall h

/-- The characters of a text in lower case stay as they are. -/
theorem lowercaseChar_of_mem_lowercase (h : d ∈ lowercase cs) : lowercaseChar d = [d] := by
  obtain ⟨c, -, hform | ⟨-, rfl⟩⟩ := mem_lowercaseAfter h
  · exact lowercaseChar_of_mem hform
  · exact special_forms.2.2.1

/-- Alphanumeric characters other than the dotted capital I are alphanumeric in lower case. -/
theorem isAlphanumeric_of_mem_lowercase (hcs : ∀ c ∈ cs, isAlphanumeric c = true) (hdotted : '\u0130' ∉ cs)
    (h : d ∈ lowercase cs) : isAlphanumeric d = true := by
  obtain ⟨c, hc, hform | ⟨-, rfl⟩⟩ := mem_lowercaseAfter h
  · obtain ⟨form, hforms, -, hletter⟩ := lowercaseChar_eq (c := c) (by rintro rfl; exact hdotted hc)
    rw [hforms, List.mem_singleton] at hform
    rw [hform]
    exact hletter (hcs c hc)
  · exact special_forms.2.2.2.1

theorem lowercase_ne_nil (h : cs ≠ []) : lowercase cs ≠ [] := by
  obtain ⟨c, cs, rfl⟩ := List.exists_cons_of_ne_nil h
  unfold lowercase lowercaseAfter
  intro hnil
  have hform := (List.append_eq_nil_iff.mp hnil).1
  split at hform
  · split at hform <;> cases hform
  · by_cases hdotted : c = '\u0130'
    · subst hdotted
      rw [lowercaseChar_dottedCapital] at hform
      cases hform
    · obtain ⟨form, hforms, -⟩ := lowercaseChar_eq hdotted
      rw [hforms] at hform
      cases hform

end Folio.Unicode
