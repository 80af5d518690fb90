import Folio.Proofs.Text.Slugs
import Folio.Text.Digits
import Folio.Proofs.Unicode.LowerForms

/-!
# The words of a slug

A slug is made of words of letters and digits with single hyphens between them, and a text of that form is its own slug
when its letters are small. The slug of a title has that form unless a dotted capital I stands in the title: the dot
above that it leaves behind is neither a letter nor a digit, and takes the word apart when the slug is made into a slug
again.

* `IsSlug` : words of letters and digits, joined by single hyphens;
* `fields_join` : such a text has the words that it was put together from;
* `isSlug_slugChars_iff` : the titles whose slugs have that form;
* `slugChars_eq_self_iff` : the texts that are their own slugs;
* `slugify_fixed_iff` : all of it, and the slugs with a suffix that a registry asks for.
-/

namespace Folio.Text
open Unicode (isAlphanumeric lowercase lowercaseChar lowercaseChar_ascii lowercaseChar_dottedCapital special_forms)

/-- Words of letters and digits with single hyphens between them; there may be none. -/
def IsSlug (cs : List Char) : Prop :=
  ∃ words, (∀ word ∈ words, word ≠ [] ∧ ∀ c ∈ word, isAlphanumeric c = true) ∧ cs = join ['-'] words

variable {cs : List Char} {c : Char}

/-! ## Words -/

theorem mem_fields {sep : Char → Bool} {word : List Char} (h : word ∈ fields sep cs) :
    word ≠ [] ∧ ∀ c ∈ word, sep c = false ∧ c ∈ cs := by
  obtain ⟨hpiece, hne⟩ := List.mem_filter.mp h
  refine ⟨by simpa using hne, fun c hc => ⟨?_, mem_of_mem_piece hc hpiece⟩⟩
  induction cs using pieceInduction sep with
  | last piece hpieces =>
      rw [splitWhen_of_forall hpieces, List.mem_singleton] at hpiece
      exact hpieces c (hpiece ▸ hc)
  | more piece d rest hpieces hd ih =>
      rw [splitWhen_append hpieces hd, List.mem_cons] at hpiece
      rcases hpiece with rfl | hpiece
      · exact hpieces c hc
      · exact ih (List.mem_filter.mpr ⟨hpiece, hne⟩) hpiece

/-- A character that separates nothing is in one of the words. -/
theorem exists_mem_fields {sep : Char → Bool} (hc : sep c = false) (hmem : c ∈ cs) : ∃ word ∈ fields sep cs, c ∈ word := by
  have hkept : c ∈ (fields sep cs).flatten := by
    rw [flatten_fields, List.mem_filter, hc]
    exact ⟨hmem, rfl⟩
  exact List.mem_flatten.mp hkept

/-- Words that are put together with a separator are the words of the text that they make. -/
theorem fields_join {sep : Char → Bool} (hc : sep c = true) {words : List (List Char)}
    (h : ∀ word ∈ words, word ≠ [] ∧ ∀ d ∈ word, sep d = false) : fields sep (join [c] words) = words := by
  unfold fields
  by_cases hne : words = []
  · subst hne
    rfl
  · rw [splitWhen_join hc hne fun word hword => (h word hword).2, List.filter_eq_self]
    intro word hword
    simpa using (h word hword).1

/-! ## Slugs -/

/-- The characters of a slug are those of the title's words in lower case, and hyphens. -/
theorem mem_slugChars (h : c ∈ slugChars cs) :
    c = '-' ∨ ∃ word ∈ fields (!isAlphanumeric ·) cs, c ∈ lowercase word := by
  rcases (mem_join_iff _).mp h with ⟨form, hform, hc⟩ | ⟨hc, -⟩
  · obtain ⟨word, hword, rfl⟩ := List.mem_map.mp hform
    exact .inr ⟨word, hword, hc⟩
  · exact .inl (List.mem_singleton.mp hc)

theorem mem_slugChars_of_mem {word : List Char} (hword : word ∈ fields (!isAlphanumeric ·) cs)
    (hc : c ∈ lowercase word) : c ∈ slugChars cs :=
  (mem_join_iff _).mpr (.inl ⟨_, List.mem_map_of_mem hword, hc⟩)

/-- The characters of a slug stay as they are in lower case. -/
theorem lowercaseChar_of_mem_slugChars (h : c ∈ slugChars cs) : lowercaseChar c = [c] := by
  rcases mem_slugChars h with rfl | ⟨word, -, hc⟩
  · exact lowercaseChar_ascii (by decide)
  · exact Unicode.lowercaseChar_of_mem_lowercase hc

/-- The dot above is neither a letter nor a digit, and no hyphen. -/
theorem dotAbove_not_mem_of_isSlug (h : IsSlug cs) : '\u0307' ∉ cs := by
  obtain ⟨words, hwords, rfl⟩ := h
  rw [mem_join_iff]
  rintro (⟨word, hword, hmem⟩ | ⟨hmem, -⟩)
  · have hletter := (hwords word hword).2 _ hmem
    rw [special_forms.2.2.2.2.1] at hletter
    cases hletter
  · exact absurd hmem (by decide)

/-- A dotted capital I leaves its dot in the slug. -/
theorem dotAbove_mem_slugChars (h : '\u0130' ∈ cs) : '\u0307' ∈ slugChars cs := by
  have hletter : (!isAlphanumeric '\u0130') = false := by rw [special_forms.2.2.2.2.2, Bool.not_true]
  have hform : '\u0307' ∈ lowercaseChar '\u0130' := by
    rw [lowercaseChar_dottedCapital]
    decide
  obtain ⟨word, hword, hmem⟩ := @exists_mem_fields cs _ (!isAlphanumeric ·) hletter h
  exact mem_slugChars_of_mem hword (Unicode.mem_lowercaseAfter_of_mem hmem (by decide) hform)

/-- A slug has no dotted capital I. -/
theorem dottedCapital_not_mem_slugChars (cs : List Char) : '\u0130' ∉ slugChars cs := fun h =>
  absurd (lowercaseChar_dottedCapital.symm.trans (lowercaseChar_of_mem_slugChars h)) (by decide)

/-- The slug of a title is made of words of letters and digits exactly when the title has no dotted capital I. -/
theorem isSlug_slugChars_iff (cs : List Char) : IsSlug (slugChars cs) ↔ '\u0130' ∉ cs := by
  constructor
  · exact fun h hmem => dotAbove_not_mem_of_isSlug h (dotAbove_mem_slugChars hmem)
  · refine fun h => ⟨_, fun form hform => ?_, rfl⟩
    obtain ⟨word, hword, rfl⟩ := List.mem_map.mp hform
    obtain ⟨hne, hword⟩ := mem_fields hword
    refine ⟨Unicode.lowercase_ne_nil hne, fun c hc => ?_⟩
    exact Unicode.isAlphanumeric_of_mem_lowercase (fun d hd => by simpa using (hword d hd).1)
      (fun hmem => h (hword _ hmem).2) hc

/-- The texts that are their own slugs are those of words in lower case. -/
theorem slugChars_eq_self_iff (cs : List Char) : slugChars cs = cs ↔ IsSlug cs ∧ ∀ c ∈ cs, lowercaseChar c = [c] := by
  constructor
  · intro hfixed
    rw [← hfixed]
    refine ⟨(isSlug_slugChars_iff cs).mpr fun hmem => ?_, fun c hc => lowercaseChar_of_mem_slugChars hc⟩
    exact dottedCapital_not_mem_slugChars cs (hfixed.symm ▸ hmem)
  · rintro ⟨⟨words, hwords, rfl⟩, hlower⟩
    have hfields : fields (!isAlphanumeric ·) (join ['-'] words) = words := by
      refine fields_join (by decide) fun word hword => ⟨(hwords word hword).1, fun d hd => ?_⟩
      rw [(hwords word hword).2 d hd]
      rfl
    have hsame : ∀ word ∈ words, lowercase word = word := fun word hword =>
      Unicode.lowercase_of_forall fun d hd => hlower d ((mem_join_iff _).mpr (.inl ⟨word, hword, hd⟩))
    unfold slugChars
    rw [hfields, List.map_congr_left hsame, List.map_id']

/-- The slug of a title is its own slug exactly when the title has no dotted capital I. -/
theorem slugChars_slugChars_iff (cs : List Char) : slugChars (slugChars cs) = slugChars cs ↔ '\u0130' ∉ cs := by
  rw [slugChars_eq_self_iff, isSlug_slugChars_iff]
  exact and_iff_left fun c hc => lowercaseChar_of_mem_slugChars hc

/-! ## Suffixes -/

/-- A word behind a hyphen goes on a slug that is not empty. -/
theorem IsSlug.append_word (h : IsSlug cs) (hcs : cs ≠ []) {word : List Char} (hne : word ≠ [])
    (hword : ∀ c ∈ word, isAlphanumeric c = true) : IsSlug (cs ++ '-' :: word) := by
  obtain ⟨words, hwords, rfl⟩ := h
  have hsome : words ≠ [] := by
    rintro rfl
    exact hcs rfl
  refine ⟨words ++ [word], List.forall_mem_append.mpr ⟨hwords, by simpa using ⟨hne, hword⟩⟩, ?_⟩
  rw [join_append _ hsome (List.cons_ne_nil _ _), List.append_assoc]
  simp [join]

namespace SlugRegistry

theorem toList_suffixed (slug : String) (n : Nat) :
    (suffixed slug n).toList = slug.toList ++ '-' :: n.repr.toList := by
  rw [suffixed, String.toList_append, String.toList_append, List.append_assoc]
  rfl

theorem toList_wanted (title : String) :
    (wanted title).toList = if slugChars title.toList = [] then "section".toList else slugChars title.toList := by
  have hempty : (slugify title).isEmpty = true ↔ slugChars title.toList = [] := by
    rw [String.isEmpty_iff, slugify, String.ofList_eq_empty_iff]
  unfold wanted
  simp only [hempty]
  split
  · rfl
  · exact String.toList_ofList

theorem lowercaseChar_of_mem_wanted {title : String} (h : c ∈ (wanted title).toList) : lowercaseChar c = [c] := by
  rw [toList_wanted] at h
  split at h
  · have hsection : ("section".toList.all fun c => lowercaseChar c == [c]) = true := by decide
    exact eq_of_beq (List.all_eq_true.mp hsection c h)
  · exact lowercaseChar_of_mem_slugChars h

theorem isSlug_wanted_iff (title : String) : IsSlug (wanted title).toList ↔ '\u0130' ∉ title.toList := by
  rw [toList_wanted]
  split
  next hempty =>
    have hnone : '\u0130' ∉ title.toList := fun hmem => List.not_mem_nil (hempty ▸ dotAbove_mem_slugChars hmem)
    have hword : "section".toList.all isAlphanumeric = true := by decide
    have hsection : IsSlug "section".toList :=
      ⟨["section".toList], List.forall_mem_singleton.mpr ⟨by decide, List.all_eq_true.mp hword⟩, rfl⟩
    exact iff_of_true hsection hnone
  next => exact isSlug_slugChars_iff title.toList

/-- The slug that a title asks for is still a slug with the number of a repetition behind it, and its own one, exactly
when the title has no dotted capital I. -/
theorem slugChars_suffixed_iff (title : String) (n : Nat) :
    slugChars (suffixed (wanted title) n).toList = (suffixed (wanted title) n).toList ↔ '\u0130' ∉ title.toList := by
  rw [slugChars_eq_self_iff, toList_suffixed]
  constructor
  · rintro ⟨hslug, -⟩ hmem
    have hwanted : '\u0307' ∈ (wanted title).toList := by
      have hdot := dotAbove_mem_slugChars hmem
      rw [toList_wanted, if_neg (List.ne_nil_of_mem hdot)]
      exact hdot
    exact dotAbove_not_mem_of_isSlug hslug (List.mem_append_left _ hwanted)
  · intro hnone
    have hwanted : (wanted title).toList ≠ [] := fun h => wanted_ne_empty title (String.toList_eq_nil_iff.mp h)
    have hdigits : ∀ c ∈ n.repr.toList, c.isDigit = true := fun c hc => isDigit_of_mem_repr hc
    have hnumber : n.repr.toList ≠ [] := by
      rw [Nat.toList_repr]
      exact Nat.toDigits_ne_nil
    refine ⟨((isSlug_wanted_iff title).mpr hnone).append_word hwanted hnumber
      fun c hc => isAlphanumeric_of_isDigit (hdigits c hc), fun c hc => ?_⟩
    rcases List.mem_append.mp hc with hc | hc
    · exact lowercaseChar_of_mem_wanted hc
    rcases List.mem_cons.mp hc with rfl | hc
    · exact lowercaseChar_ascii (by decide)
    · exact lowercaseChar_of_isDigit (hdigits c hc)

end SlugRegistry

/-! ## Titles -/

open SlugRegistry (suffixed wanted)

theorem slugify_eq_self_iff (title : String) : slugify title = title ↔ slugChars title.toList = title.toList := by
  rw [slugify, ← String.toList_inj, String.toList_ofList]

/-- **Slugs of slugs.** The slug of a title is made of words of letters and digits with single hyphens between them, it
is its own slug, and so it is with the number of a repetition behind it, exactly when no dotted capital I stands in the
title. The slug of a slug always has that form, and is its own slug. -/
theorem slugify_fixed_iff (title : String) :
    (IsSlug (slugify title).toList ↔ '\u0130' ∉ title.toList) ∧
      (slugify (slugify title) = slugify title ↔ '\u0130' ∉ title.toList) ∧
      (∀ n, slugify (suffixed (wanted title) n) = suffixed (wanted title) n ↔ '\u0130' ∉ title.toList) ∧
      IsSlug (slugify (slugify title)).toList ∧ slugify (slugify (slugify title)) = slugify (slugify title) := by
  have hslug : (slugify title).toList = slugChars title.toList := String.toList_ofList
  have hnone : '\u0130' ∉ (slugify title).toList := hslug ▸ dottedCapital_not_mem_slugChars title.toList
  have hagain : (slugify (slugify title)).toList = slugChars (slugify title).toList := String.toList_ofList
  refine ⟨?_, ?_, fun n => ?_, ?_, ?_⟩
  · rw [hslug]
    exact isSlug_slugChars_iff title.toList
  · rw [slugify_eq_self_iff, hslug]
    exact slugChars_slugChars_iff title.toList
  · rw [slugify_eq_self_iff]
    exact SlugRegistry.slugChars_suffixed_iff title n
  · rw [hagain]
    exact (isSlug_slugChars_iff _).mpr hnone
  · rw [slugify_eq_self_iff, hagain]
    exact (slugChars_slugChars_iff _).mpr hnone

/-- The dot above that the dotted capital I leaves behind is dropped from the slug of the slug. -/
theorem slugify_dottedCapital :
    slugify "\u0130" = "i\u0307" ∧ isAlphanumeric '\u0307' = false ∧ slugify "i\u0307" = "i" ∧
      ¬ (slugify (slugify "\u0130") = slugify "\u0130") := by
  decide +kernel

end Folio.Text
