import Folio.Text.Slug
import Mathlib.Data.List.Flatten

/-!
# A slug of its own for every title

A registry that gives out slugs asks for a suffixed slug in turn when that one is taken. A suffix adds a digit, and
making a slug of a text takes no digit away, so every slug asked for has more digits than the one before: the registry,
which knows of finitely many, runs out of taken ones.

* `le_digitCount_slugChars` : a slug has the digits of its title;
* `Gives` : what a registry gives to a title, however many slugs it has to ask for;
* `gives_unique` : a registry gives a slug to every title;
* `Gives.new` : the slug given is one that the registry did not know, and it knows it from then on;
* `GivesAll.nodup` : the slugs given to titles in a row differ from one another.
-/

namespace Folio.Text
open Unicode (isAlphanumeric lowercase lowercaseAfter lowercaseChar)

/-! ## Digits -/

/-- The number of digits in a text. -/
def digitCount (cs : List Char) : Nat := cs.countP Char.isDigit

theorem toNat_of_isDigit {c : Char} (h : c.isDigit = true) : 48 ≤ c.toNat ∧ c.toNat ≤ 57 := by
  obtain ⟨hlow, hhigh⟩ := Bool.and_eq_true_iff.mp h
  exact ⟨of_decide_eq_true hlow, of_decide_eq_true hhigh⟩

theorem isAlphanumeric_of_isDigit {c : Char} (h : c.isDigit = true) : isAlphanumeric c = true := by
  have hrange := toNat_of_isDigit h
  rw [Unicode.isAlphanumeric_of_lt (by omega), Char.isAlphanum, h, Bool.or_true]

theorem lowercaseChar_of_isDigit {c : Char} (h : c.isDigit = true) : lowercaseChar c = [c] := by
  have hrange := toNat_of_isDigit h
  have hupper : ¬ (c.val ≥ 'A'.val ∧ c.val ≤ 'Z'.val) := by
    rintro ⟨hlow, -⟩
    have hlow : 65 ≤ c.toNat := hlow
    omega
  have hlower : c.toLower = c := dif_neg hupper
  rw [lowercaseChar, if_pos (by omega), hlower]

theorem le_digitCount_lowercaseAfter (before cs : List Char) :
    digitCount cs ≤ digitCount (lowercaseAfter before cs) := by
  induction cs generalizing before with
  | nil => exact Nat.zero_le _
  | cons c cs ih =>
      have hrest := ih (c :: before)
      unfold digitCount at hrest ⊢
      rw [lowercaseAfter, List.countP_append, List.countP_cons]
      by_cases hdigit : c.isDigit = true
      · have hsigma : c ≠ 'Σ' := by
          rintro rfl
          exact absurd hdigit (by decide)
        rw [if_neg hsigma, lowercaseChar_of_isDigit hdigit, if_pos hdigit, List.countP_singleton, if_pos hdigit]
        omega
      · rw [if_neg hdigit]
        omega

theorem le_digitCount_lowercase (cs : List Char) : digitCount cs ≤ digitCount (lowercase cs) :=
  le_digitCount_lowercaseAfter [] cs

/-- The fields of a text put together are the text without its separators. -/
theorem flatten_fields (sep : Char → Bool) (cs : List Char) : (fields sep cs).flatten = cs.filter (!sep ·) := by
  have hempty : ∀ pieces : List (List Char), (pieces.filter (!·.isEmpty)).flatten = pieces.flatten := by
    intro pieces
    induction pieces with
    | nil => rfl
    | cons piece pieces ih => cases piece <;> simp [ih]
  have hkept : ∀ piece : List Char, (∀ c ∈ piece, sep c = false) → piece.filter (!sep ·) = piece := by
    intro piece h
    rw [List.filter_eq_self]
    intro c hc
    rw [h c hc]
    rfl
  unfold fields
  rw [hempty]
  induction cs using pieceInduction sep with
  | last piece h => rw [splitWhen_of_forall h, List.flatten_singleton, hkept piece h]
  | more piece c rest h hc ih =>
      rw [splitWhen_append h hc, List.flatten_cons, ih, List.filter_append, List.filter_cons, hc, hkept piece h]
      rfl

theorem sublist_intersperse {α : Type} (sep : α) (xs : List α) : xs.Sublist (xs.intersperse sep) := by
  induction xs with
  | nil => exact List.Sublist.refl _
  | cons x xs ih =>
      cases xs with
      | nil => exact List.Sublist.refl _
      | cons y xs => exact (ih.cons sep).cons_cons x

theorem digitCount_flatten_map_le {f : List Char → List Char} (h : ∀ cs, digitCount cs ≤ digitCount (f cs))
    (pieces : List (List Char)) : digitCount pieces.flatten ≤ digitCount (pieces.map f).flatten := by
  unfold digitCount at h ⊢
  induction pieces with
  | nil => exact Nat.le_refl _
  | cons piece pieces ih =>
      rw [List.map_cons, List.flatten_cons, List.flatten_cons, List.countP_append, List.countP_append]
      exact Nat.add_le_add (h piece) ih

/-- A slug has the digits of its title. -/
theorem le_digitCount_slugChars (cs : List Char) : digitCount cs ≤ digitCount (slugChars cs) := by
  have hwords : digitCount (fields (!isAlphanumeric ·) cs).flatten = digitCount cs := by
    rw [flatten_fields]
    unfold digitCount
    rw [List.countP_filter]
    refine List.countP_congr fun c _ => ?_
    rw [Bool.and_eq_true, Bool.not_not]
    exact ⟨fun h => h.1, fun h => ⟨h, isAlphanumeric_of_isDigit h⟩⟩
  calc digitCount cs = digitCount (fields (!isAlphanumeric ·) cs).flatten := hwords.symm
    _ ≤ digitCount ((fields (!isAlphanumeric ·) cs).map lowercase).flatten :=
        digitCount_flatten_map_le le_digitCount_lowercase _
    _ ≤ digitCount (slugChars cs) := (sublist_intersperse _ _).flatten.countP_le

namespace SlugRegistry

theorem le_digitCount_wanted (title : String) : digitCount title.toList ≤ digitCount (wanted title).toList := by
  have h := le_digitCount_slugChars title.toList
  have hslug : (slugify title).toList = slugChars title.toList := String.toList_ofList
  rw [← hslug] at h
  unfold wanted
  dsimp only
  split
  next hempty =>
    rw [String.isEmpty_iff.mp hempty] at h
    exact Nat.le_trans h (Nat.zero_le _)
  next => exact h

theorem wanted_ne_empty (title : String) : wanted title ≠ "" := by
  unfold wanted
  dsimp only
  split
  next => decide
  next hempty => exact fun h => hempty (String.isEmpty_iff.mpr h)

/-- The slug with the number of a repetition behind it. -/
def suffixed (slug : String) (n : Nat) : String := slug ++ "-" ++ n.repr

/-- A suffix adds a digit. -/
theorem lt_digitCount_suffixed (slug : String) (n : Nat) :
    digitCount slug.toList < digitCount (suffixed slug n).toList := by
  obtain ⟨c, hc⟩ := List.exists_mem_of_ne_nil _ (Nat.toDigits_ne_nil (n := n) (b := 10))
  have hdigit : c.isDigit = true := Nat.isDigit_of_mem_toDigits (by decide) (Nat.le_refl 10) hc
  have hpos : 0 < digitCount (Nat.toDigits 10 n) := List.countP_pos_iff.mpr ⟨c, hc, hdigit⟩
  unfold digitCount at hpos ⊢
  rw [suffixed, String.toList_append, String.toList_append, Nat.toList_repr, List.countP_append, List.countP_append]
  omega

theorem suffixed_ne_empty (slug : String) (n : Nat) : suffixed slug n ≠ "" := by
  intro h
  have hlt := lt_digitCount_suffixed slug n
  rw [h] at hlt
  exact absurd hlt (Nat.not_lt_zero _)

/-! ## What a registry knows -/

/-- Every slug that the registry knows has been asked for. -/
def Sound (registry : SlugRegistry) : Prop := ∀ entry ∈ registry.counts, 1 ≤ entry.2

theorem sound_empty : Sound {} := fun _ h => absurd h List.not_mem_nil

variable {registry : SlugRegistry} {slug : String}

theorem contains_iff (registry : SlugRegistry) (slug : String) :
    registry.contains slug = true ↔ slug ∈ registry.counts.map Prod.fst := by
  unfold contains
  simp [List.any_eq_true]

/-- One more title adds the slug it asks for to those known. -/
theorem map_fst_tally (registry : SlugRegistry) (slug : String) :
    (registry.tally slug).counts.map Prod.fst =
      registry.counts.map Prod.fst ++ if registry.contains slug then [] else [slug] := by
  unfold tally
  cases registry.contains slug with
  | true =>
      simp only [if_true]
      rw [List.append_nil, List.map_map]
      refine List.map_congr_left fun entry _ => ?_
      dsimp only [Function.comp]
      split <;> rfl
  | false =>
      simp only [Bool.false_eq_true, if_false]
      exact List.map_append

theorem contains_tally (registry : SlugRegistry) (slug other : String) :
    (registry.tally slug).contains other = true ↔ registry.contains other = true ∨ other = slug := by
  rw [contains_iff, map_fst_tally, List.mem_append, ← contains_iff]
  by_cases hknown : registry.contains slug = true
  · rw [if_pos hknown]
    refine ⟨fun h => h.imp_right fun h => absurd h List.not_mem_nil, ?_⟩
    rintro (h | rfl)
    · exact .inl h
    · exact .inl hknown
  · rw [if_neg hknown, List.mem_singleton]

theorem Sound.tally (h : registry.Sound) (slug : String) : (registry.tally slug).Sound := by
  unfold SlugRegistry.tally
  intro entry hentry
  split at hentry
  · obtain ⟨old, hold, rfl⟩ := List.mem_map.mp hentry
    have hcount := h old hold
    dsimp only
    split
    · exact Nat.le_succ_of_le hcount
    · exact hcount
  · rcases List.mem_append.mp hentry with hentry | hentry
    · exact h entry hentry
    · obtain rfl := List.mem_singleton.mp hentry
      exact Nat.le_refl 1

theorem lookup_of_not_mem {counts : List (String × Nat)} (h : slug ∉ counts.map Prod.fst) :
    counts.lookup slug = none := by
  rw [List.lookup_eq_none_iff]
  intro entry hentry
  rw [bne_iff_ne]
  rintro rfl
  exact h (List.mem_map_of_mem hentry)

/-- A slug that was not known has been asked for once, a known one more often. -/
theorem count_tally_eq_one_iff (h : registry.Sound) (slug : String) :
    (registry.tally slug).count slug = 1 ↔ registry.contains slug = false := by
  unfold count SlugRegistry.tally
  cases hknown : registry.contains slug with
  | false =>
      have hnot : slug ∉ registry.counts.map Prod.fst := by
        rw [← contains_iff, hknown]
        exact Bool.false_ne_true
      simp [List.lookup_append, lookup_of_not_mem hnot]
  | true =>
      have hmem := (contains_iff _ _).mp hknown
      unfold Sound at h
      simp only [if_true, Bool.true_eq_false, iff_false]
      generalize registry.counts = counts at h hmem
      induction counts with
      | nil => exact absurd hmem List.not_mem_nil
      | cons entry counts ih =>
          obtain ⟨key, n⟩ := entry
          obtain ⟨hn, hrest⟩ := List.forall_mem_cons.mp h
          rw [List.map_cons, List.lookup_cons]
          by_cases hkey : key = slug
          · subst hkey
            simp only [beq_self_eq_true, if_true, Option.getD_some]
            dsimp only at hn
            omega
          · have hne : (slug == key) = false := beq_eq_false_iff_ne.mpr (Ne.symm hkey)
            rw [if_neg (by simpa using hkey)]
            simp only [hne]
            refine ih hrest ?_
            rcases List.mem_cons.mp hmem with rfl | hmem
            · exact absurd rfl hkey
            · exact hmem

/-! ## What a registry gives -/

/-- The registry gives the slug to the title and is the other one from then on. A suffixed slug that is taken is asked
for in turn, without a bound on the number of turns. -/
inductive Gives : SlugRegistry → String → String → SlugRegistry → Prop
  | bare {registry : SlugRegistry} {title : String}
      (first : (registry.tally (wanted title)).count (wanted title) = 1) :
      Gives registry title (wanted title) (registry.tally (wanted title))
  | suffixed {registry : SlugRegistry} {title : String} {n : Nat}
      (repeated : (registry.tally (wanted title)).count (wanted title) = n) (more : n ≠ 1)
      (free : (registry.tally (wanted title)).contains (SlugRegistry.suffixed (wanted title) (n - 1)) = false) :
      Gives registry title (SlugRegistry.suffixed (wanted title) (n - 1))
        ((registry.tally (wanted title)).tally (SlugRegistry.suffixed (wanted title) (n - 1)))
  | again {registry after : SlugRegistry} {title slug : String} {n : Nat}
      (repeated : (registry.tally (wanted title)).count (wanted title) = n) (more : n ≠ 1)
      (taken : (registry.tally (wanted title)).contains (SlugRegistry.suffixed (wanted title) (n - 1)) = true)
      (next : Gives (registry.tally (wanted title)) (SlugRegistry.suffixed (wanted title) (n - 1)) slug after) :
      Gives registry title slug after

/-- The registry gives the slugs to the titles, one after the other. -/
inductive GivesAll : SlugRegistry → List String → List String → Prop
  | nil (registry : SlugRegistry) : GivesAll registry [] []
  | cons {registry after : SlugRegistry} {title slug : String} {titles slugs : List String}
      (first : Gives registry title slug after) (rest : GivesAll after titles slugs) :
      GivesAll registry (title :: titles) (slug :: slugs)

/-- How many of the slugs known have as many digits as the text. -/
def rivals (registry : SlugRegistry) (text : String) : Nat :=
  (registry.counts.map Prod.fst).countP fun slug => digitCount text.toList ≤ digitCount slug.toList

/-- A known slug is a rival of itself, and of no text that has more digits. -/
theorem rivals_lt {text : String} (hknown : registry.contains slug = true)
    (hmore : digitCount slug.toList < digitCount text.toList) : registry.rivals text < registry.rivals slug := by
  obtain ⟨before, after, hsplit⟩ := List.append_of_mem ((contains_iff _ _).mp hknown)
  unfold rivals
  rw [hsplit, List.countP_append, List.countP_append, List.countP_cons, List.countP_cons]
  have hle : ∀ slugs : List String, (slugs.countP fun other => digitCount text.toList ≤ digitCount other.toList) ≤
      slugs.countP fun other => digitCount slug.toList ≤ digitCount other.toList := by
    intro slugs
    refine List.countP_mono_left fun other _ h => ?_
    have h := of_decide_eq_true h
    exact decide_eq_true (by omega)
  have hbefore := hle before
  have hafter := hle after
  rw [if_neg (by simpa using hmore), if_pos (by simp)]
  omega

/-- A title that asks for a known slug adds no rival. -/
theorem rivals_tally (hknown : registry.contains slug = true) (text : String) :
    (registry.tally slug).rivals text = registry.rivals text := by
  unfold rivals
  rw [map_fst_tally, if_pos hknown, List.append_nil]

theorem uniqueWithin_of_first {title : String}
    (h : (registry.tally (wanted title)).count (wanted title) = 1) (fuel : Nat) :
    registry.uniqueWithin fuel title = (wanted title, registry.tally (wanted title)) := by
  cases fuel <;> exact if_pos h

theorem uniqueWithin_of_free {title : String} {n : Nat}
    (hcount : (registry.tally (wanted title)).count (wanted title) = n) (hmore : n ≠ 1)
    (hfree : (registry.tally (wanted title)).contains (suffixed (wanted title) (n - 1)) = false) (fuel : Nat) :
    registry.uniqueWithin fuel title = (suffixed (wanted title) (n - 1),
      (registry.tally (wanted title)).tally (suffixed (wanted title) (n - 1))) := by
  subst hcount
  cases fuel with
  | zero => exact if_neg hmore
  | succ fuel => exact (if_neg hmore).trans (if_neg (Bool.eq_false_iff.mp hfree))

theorem uniqueWithin_of_taken {title : String} {n : Nat}
    (hcount : (registry.tally (wanted title)).count (wanted title) = n) (hmore : n ≠ 1)
    (htaken : (registry.tally (wanted title)).contains (suffixed (wanted title) (n - 1)) = true) (fuel : Nat) :
    registry.uniqueWithin (fuel + 1) title =
      (registry.tally (wanted title)).uniqueWithin fuel (suffixed (wanted title) (n - 1)) := by
  subst hcount
  exact (if_neg hmore).trans (if_pos htaken)

/-- With a turn for every slug known that has as many digits as the one asked for, the turns are enough. -/
theorem gives_uniqueWithin (h : registry.Sound) {fuel : Nat} {title : String}
    (hfuel : registry.rivals (wanted title) ≤ fuel) :
    Gives registry title (registry.uniqueWithin fuel title).1 (registry.uniqueWithin fuel title).2 := by
  induction fuel generalizing registry title with
  | zero =>
      have hunknown : registry.contains (wanted title) = false := by
        rw [Bool.eq_false_iff]
        intro hknown
        have hself : 0 < registry.rivals (wanted title) :=
          List.countP_pos_iff.mpr ⟨_, (contains_iff _ _).mp hknown, by simp⟩
        omega
      have hfirst := (count_tally_eq_one_iff h _).mpr hunknown
      rw [uniqueWithin_of_first hfirst]
      dsimp only
      exact .bare hfirst
  | succ fuel ih =>
      obtain ⟨n, hcount⟩ : ∃ n, (registry.tally (wanted title)).count (wanted title) = n := ⟨_, rfl⟩
      by_cases hmore : n = 1
      · have hfirst := hcount.trans hmore
        rw [uniqueWithin_of_first hfirst]
        dsimp only
        exact .bare hfirst
      · have hknown : registry.contains (wanted title) = true := by
          rw [← Bool.not_eq_false]
          exact fun hunknown => hmore (hcount.symm.trans ((count_tally_eq_one_iff h _).mpr hunknown))
        cases htaken : (registry.tally (wanted title)).contains (suffixed (wanted title) (n - 1)) with
        | true =>
            rw [uniqueWithin_of_taken hcount hmore htaken]
            refine .again hcount hmore htaken (ih (h.tally _) ?_)
            -- the candidate has more digits than the slug that was asked for, which is known
            have hdigits := Nat.lt_of_lt_of_le (lt_digitCount_suffixed (wanted title) (n - 1)) (le_digitCount_wanted _)
            rw [rivals_tally hknown]
            exact Nat.le_of_lt_succ (Nat.lt_of_lt_of_le (rivals_lt hknown hdigits) hfuel)
        | false =>
            rw [uniqueWithin_of_free hcount hmore htaken]
            dsimp only
            exact .suffixed hcount hmore htaken

/-- A registry gives a slug to every title. -/
theorem gives_unique (h : registry.Sound) (title : String) :
    Gives registry title (registry.unique title).1 (registry.unique title).2 := by
  refine gives_uniqueWithin h ?_
  have hle : registry.rivals (wanted title) ≤ (registry.counts.map Prod.fst).length := List.countP_le_length
  rw [List.length_map] at hle
  omega

/-! ## What is given -/

/-- The slug is not empty, the registry did not know it, and the later one knows it and all that was known before. -/
structure New (registry : SlugRegistry) (slug : String) (after : SlugRegistry) : Prop where
  nonempty : slug ≠ ""
  unknown : registry.contains slug = false
  known : after.contains slug = true
  keeps : ∀ other, registry.contains other = true → after.contains other = true
  sound : after.Sound

theorem Gives.new {after : SlugRegistry} {title : String} (h : Gives registry title slug after)
    (hsound : registry.Sound) : New registry slug after := by
  induction h with
  | bare first =>
      exact ⟨wanted_ne_empty _, (count_tally_eq_one_iff hsound _).mp first, (contains_tally _ _ _).mpr (.inr rfl),
        fun other hother => (contains_tally _ _ _).mpr (.inl hother), hsound.tally _⟩
  | @suffixed registry title n _ _ free =>
      have hkeeps : ∀ other, registry.contains other = true → (registry.tally (wanted title)).contains other = true :=
        fun other hother => (contains_tally _ _ _).mpr (.inl hother)
      refine ⟨suffixed_ne_empty _ _, ?_, (contains_tally _ _ _).mpr (.inr rfl),
        fun other hother => (contains_tally _ _ _).mpr (.inl (hkeeps other hother)), (hsound.tally _).tally _⟩
      rw [Bool.eq_false_iff]
      intro hknown
      exact Bool.noConfusion ((hkeeps _ hknown).symm.trans free)
  | @again registry after title slug n _ _ _ _ ih =>
      obtain ⟨hnonempty, hunknown, hknown, hkeeps, hafter⟩ := ih (hsound.tally _)
      have hmore : ∀ other, registry.contains other = true → (registry.tally (wanted title)).contains other = true :=
        fun other hother => (contains_tally _ _ _).mpr (.inl hother)
      refine ⟨hnonempty, ?_, hknown, fun other hother => hkeeps other (hmore other hother), hafter⟩
      rw [Bool.eq_false_iff]
      intro hother
      exact Bool.noConfusion ((hmore _ hother).symm.trans hunknown)

theorem givesAll_uniqueAll (h : registry.Sound) (titles : List String) :
    GivesAll registry titles (registry.uniqueAll titles) := by
  induction titles generalizing registry with
  | nil => exact .nil registry
  | cons title titles ih =>
      have hgives := gives_unique h title
      exact .cons hgives (ih (hgives.new h).sound)

theorem GivesAll.ne_empty {titles slugs : List String} (h : GivesAll registry titles slugs) (hsound : registry.Sound) :
    "" ∉ slugs := by
  induction h with
  | nil => exact List.not_mem_nil
  | cons first _ ih =>
      obtain ⟨hnonempty, -, -, -, hafter⟩ := first.new hsound
      rw [List.mem_cons, not_or]
      exact ⟨Ne.symm hnonempty, ih hafter⟩

/-- The slugs given are not known before, and differ from one another. -/
theorem GivesAll.nodup {titles slugs : List String} (h : GivesAll registry titles slugs) (hsound : registry.Sound) :
    (∀ slug ∈ slugs, registry.contains slug = false) ∧ slugs.Nodup := by
  induction h with
  | nil => exact ⟨fun _ h => absurd h List.not_mem_nil, List.nodup_nil⟩
  | @cons registry after title slug titles slugs first _ ih =>
      obtain ⟨-, hunknown, hknown, hkeeps, hafter⟩ := first.new hsound
      obtain ⟨hrest, hnodup⟩ := ih hafter
      refine ⟨List.forall_mem_cons.mpr ⟨hunknown, fun other hother => ?_⟩, List.nodup_cons.mpr ⟨fun hmem => ?_, hnodup⟩⟩
      · rw [Bool.eq_false_iff]
        intro hbefore
        exact Bool.noConfusion ((hkeeps other hbefore).symm.trans (hrest other hother))
      · exact Bool.noConfusion (hknown.symm.trans (hrest slug hmem))

/-- A title may spell out a suffixed slug, and a title without words asks for one as well. -/
example : uniqueAll {} ["Intro", "Intro 1", "Intro", "!!", "İ", "İ"] =
    ["intro", "intro-1", "intro-1-1", "section", "i̇", "i̇-1"] := by decide +kernel

end SlugRegistry
end Folio.Text
