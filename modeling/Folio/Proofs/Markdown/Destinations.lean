import Folio.Markdown.Grammar.Inline
import Mathlib.Data.List.DropRight
import Mathlib.Data.List.Infix
import Mathlib.Data.List.TakeWhile
import Mathlib.Tactic.Common

/-!
# Destinations without angle brackets

A destination in parentheses may stand without angle brackets if it has no spaces and no control characters and its own
parentheses close in pairs. What it means is what is written, its references and escapes resolved, and never longer.

* `openAfter` : the pairs that are open behind a text;
* `Bare`, `bare?_eq_some_iff` : what is read as a bare destination, where there are no backslashes;
* `length_cleanDestination_le` : what a destination means is no longer than what is written;
* `IsDestination`, `inlineTarget?_of_isDestination`, `isDestination_of_inlineTarget?` : the texts that are read in
  parentheses as the destinations that they are.
-/

namespace Folio.Markdown
open Unicode (isAsciiBlank isAsciiMark)

/-! ## Pairs -/

/-- The pairs that are open behind a text when `depth` of them are open in front of it; none if one is closed that is
not open. -/
def openAfter (opening closing : Char) : Nat → List Char → Option Nat
  | depth, [] => some depth
  | depth, c :: cs =>
    if c = opening then openAfter opening closing (depth + 1) cs
    else if c = closing then if depth = 0 then none else openAfter opening closing (depth - 1) cs
    else openAfter opening closing depth cs

theorem openAfter_append (opening closing : Char) (depth : Nat) (front back : List Char) :
    openAfter opening closing depth (front ++ back) =
      (openAfter opening closing depth front).bind fun depth => openAfter opening closing depth back := by
  induction front generalizing depth with
  | nil => rfl
  | cons c front ih =>
      rw [List.cons_append, openAfter, openAfter]
      split
      · exact ih _
      · split
        · split
          · rfl
          · exact ih _
        · exact ih _

/-- What is neither opens nor closes anything. -/
theorem openAfter_plain {opening closing : Char} {cs : List Char} (h : ∀ c ∈ cs, c ≠ opening ∧ c ≠ closing)
    (depth : Nat) : openAfter opening closing depth cs = some depth := by
  induction cs with
  | nil => rfl
  | cons c cs ih =>
      obtain ⟨hc, hcs⟩ := List.forall_mem_cons.mp h
      rw [openAfter, if_neg hc.1, if_neg hc.2, ih hcs]

/-! ## Bare destinations -/

/-- The text is a bare destination, with `depth` parentheses open in front of it. -/
structure Bare (depth : Nat) (cs : List Char) : Prop where
  plain : ∀ c ∈ cs, 32 < c.toNat ∧ c.toNat ≠ 127
  closed : openAfter '(' ')' depth cs = some 0
  shallow : ∀ front, front <+: cs → ∀ n ∈ openAfter '(' ')' depth front, n ≤ maxParentheses

-- the characters are gone through by the list: as a finite type they would be gone through one and all
instance (depth : Nat) (cs : List Char) : Decidable (Bare depth cs) :=
  decidable_of_iff ((cs.all fun c => 32 < c.toNat ∧ c.toNat ≠ 127) = true ∧ openAfter '(' ')' depth cs = some 0 ∧
      ∀ front ∈ cs.inits, ∀ n ∈ openAfter '(' ')' depth front, n ≤ maxParentheses)
    ⟨fun ⟨hplain, hclosed, hshallow⟩ =>
        ⟨fun c hc => of_decide_eq_true (List.all_eq_true.mp hplain c hc), hclosed,
          fun front hfront => hshallow front ((List.mem_inits ..).mpr hfront)⟩,
      fun h => ⟨List.all_eq_true.mpr fun c hc => decide_eq_true (h.plain c hc), h.closed,
        fun front hfront => h.shallow front ((List.mem_inits ..).mp hfront)⟩⟩

theorem bare_nil_iff {depth : Nat} : Bare depth [] ↔ depth = 0 := by
  refine ⟨fun h => Option.some.inj h.closed, ?_⟩
  rintro rfl
  refine ⟨nofun, rfl, fun front hfront n hn => ?_⟩
  rw [List.prefix_nil.mp hfront] at hn
  obtain rfl := Option.some.inj hn
  exact Nat.zero_le _

/-- A bare destination goes on from its first character with the parentheses that are open behind that. -/
theorem bare_cons_iff {depth : Nat} (hdepth : depth ≤ maxParentheses) {c : Char} {cs : List Char} :
    Bare depth (c :: cs) ↔
      (32 < c.toNat ∧ c.toNat ≠ 127) ∧
        ∃ next ≤ maxParentheses, openAfter '(' ')' depth [c] = some next ∧ Bare next cs := by
  have hstep {next : Nat} (hnext : openAfter '(' ')' depth [c] = some next) (front : List Char) :
      openAfter '(' ')' depth (c :: front) = openAfter '(' ')' next front := by
    have hfrom := openAfter_append '(' ')' depth [c] front
    rwa [List.singleton_append, hnext] at hfrom
  constructor
  · intro h
    obtain ⟨hc, hcs⟩ := List.forall_mem_cons.mp h.plain
    have hclosed := openAfter_append '(' ')' depth [c] cs
    rw [List.singleton_append, h.closed] at hclosed
    obtain ⟨next, hnext, hrest⟩ := Option.bind_eq_some_iff.mp hclosed.symm
    refine ⟨hc, next, h.shallow [c] ⟨cs, rfl⟩ next hnext, hnext, hcs, hrest, fun front hfront => ?_⟩
    rw [← hstep hnext]
    exact h.shallow (c :: front) (List.cons_prefix_cons.mpr ⟨rfl, hfront⟩)
  · rintro ⟨hc, next, -, hnext, hrest⟩
    refine ⟨List.forall_mem_cons.mpr ⟨hc, hrest.plain⟩, (hstep hnext cs).trans hrest.closed, fun front hfront => ?_⟩
    cases front with
    | nil =>
        rintro n hn
        obtain rfl := Option.some.inj hn
        exact hdepth
    | cons d front =>
        obtain ⟨rfl, hmore⟩ := List.cons_prefix_cons.mp hfront
        rw [hstep hnext]
        exact hrest.shallow front hmore

/-- A destination ends before the closing parenthesis of its surroundings, white space or a control character. -/
def EndsBare (c : Char) : Prop := c = ')' ∨ c.toNat ≤ 32 ∨ c.toNat = 127

instance (c : Char) : Decidable (EndsBare c) :=
  inferInstanceAs (Decidable (c = ')' ∨ c.toNat ≤ 32 ∨ c.toNat = 127))

/-- A character that is no backslash ends the destination, or belongs to it, or keeps it from being one. -/
theorem bare?_cons {depth : Nat} (hdepth : depth ≤ maxParentheses) {c : Char} {cs : List Char} (hslash : c ≠ '\\') :
    bare? depth (c :: cs) =
      if depth = 0 ∧ EndsBare c then some ([], c :: cs)
      else if 32 < c.toNat ∧ c.toNat ≠ 127 then
        ((openAfter '(' ')' depth [c]).filter fun next => decide (next ≤ maxParentheses)).bind fun next =>
          (bare? next cs).map fun (text, rest) => (c :: text, rest)
      else none := by
  by_cases hopen : c = '('
  · subst hopen
    have hnext : openAfter '(' ')' depth ['('] = some (depth + 1) := rfl
    have hplain : 32 < '('.toNat ∧ '('.toNat ≠ 127 := by decide
    rw [if_neg fun h => absurd h.2 (by decide), bare?, if_pos hplain, hnext, Option.filter_some]
    by_cases hdeep : depth = maxParentheses
    · rw [if_pos hdeep, if_neg (by simp [hdeep])]
      rfl
    · rw [if_neg hdeep, if_pos (by simpa using by omega)]
      rfl
  · by_cases hclose : c = ')'
    · subst hclose
      rw [bare?]
      by_cases hzero : depth = 0
      · rw [if_pos hzero, if_pos ⟨hzero, .inl rfl⟩]
      · have hnext : openAfter '(' ')' depth [')'] = some (depth - 1) := by
          rw [openAfter, if_neg (by decide), if_pos rfl, if_neg hzero]
          rfl
        rw [if_neg hzero, if_neg fun h => hzero h.1, if_pos (by decide), hnext, Option.filter_some,
          if_pos (by simpa using by omega)]
        rfl
    · have hnext : openAfter '(' ')' depth [c] = some depth :=
        openAfter_plain (List.forall_mem_singleton.mpr ⟨hopen, hclose⟩) depth
      rw [bare?]
      · by_cases hend : c.toNat ≤ 32 ∨ c.toNat = 127
        · have hplain : ¬ (32 < c.toNat ∧ c.toNat ≠ 127) := by omega
          rw [if_pos hend, if_neg hplain]
          by_cases hzero : depth = 0
          · rw [if_pos hzero, if_pos ⟨hzero, .inr hend⟩]
          · rw [if_neg hzero, if_neg fun h => hzero h.1]
        · have hplain : 32 < c.toNat ∧ c.toNat ≠ 127 := by omega
          rw [if_neg hend, if_neg fun h => hend (h.2.resolve_left hclose), if_pos hplain, hnext, Option.filter_some,
            if_pos (by simpa using hdepth)]
          rfl
      · exact fun _ _ h _ => hslash h
      · exact hopen
      · exact hclose

/-- Without backslashes, what is read as a destination is the bare one that the text begins with. -/
theorem bare?_eq_some_iff {depth : Nat} (hdepth : depth ≤ maxParentheses) {cs destination rest : List Char}
    (hslash : '\\' ∉ cs) :
    bare? depth cs = some (destination, rest) ↔
      cs = destination ++ rest ∧ Bare depth destination ∧ ∃ c ∈ rest.head?, EndsBare c := by
  induction cs generalizing depth destination with
  | nil =>
      refine iff_of_false (fun h => by cases h) ?_
      rintro ⟨heq, -, c, hc, -⟩
      rw [(List.append_eq_nil_iff.mp heq.symm).2] at hc
      cases hc
  | cons c cs ih =>
      obtain ⟨hc, hcs⟩ := not_or.mp (mt List.mem_cons.mpr hslash)
      rw [bare?_cons hdepth (Ne.symm hc)]
      constructor
      · intro h
        split at h
        next hend =>
          obtain ⟨rfl, rfl⟩ := Prod.mk.inj (Option.some.inj h)
          exact ⟨rfl, bare_nil_iff.mpr hend.1, c, rfl, hend.2⟩
        next =>
          split at h
          next hplain =>
            obtain ⟨next, hnext, hread⟩ := Option.bind_eq_some_iff.mp h
            obtain ⟨hnext, hshallow⟩ := Option.filter_eq_some_iff.mp hnext
            have hshallow := of_decide_eq_true hshallow
            obtain ⟨⟨text, behind⟩, htext, hpair⟩ := Option.map_eq_some_iff.mp hread
            obtain ⟨rfl, rfl⟩ := Prod.mk.inj hpair
            obtain ⟨rfl, hbare, hend⟩ := (ih hshallow hcs).mp htext
            exact ⟨rfl, (bare_cons_iff hdepth).mpr ⟨hplain, next, hshallow, hnext, hbare⟩, hend⟩
          next => cases h
      · rintro ⟨heq, hbare, hend⟩
        cases destination with
        | nil =>
            rw [List.nil_append] at heq
            subst heq
            obtain ⟨d, hd, hend⟩ := hend
            obtain rfl := Option.some.inj hd
            rw [if_pos ⟨bare_nil_iff.mp hbare, hend⟩]
        | cons d text =>
            obtain ⟨rfl, rfl⟩ := List.cons.inj heq
            obtain ⟨hplain, next, hshallow, hnext, htext⟩ := (bare_cons_iff hdepth).mp hbare
            have hgoes : ¬ (depth = 0 ∧ EndsBare c) := by
              rintro ⟨rfl, rfl | hcontrol⟩
              · cases hnext
              · omega
            have hread := (ih hshallow hcs).mpr ⟨rfl, htext, hend⟩
            rw [if_neg hgoes, if_pos hplain, hnext, Option.filter_some, if_pos (by simpa using hshallow),
              Option.bind_some, hread]
            rfl

/-! ## What is meant -/

theorem length_trimSpace_le (cs : List Char) : (trimSpace cs).length ≤ cs.length :=
  ((Text.dropWhileEnd_isPrefixOf _ _).length_le).trans (List.dropWhile_suffix _).length_le

theorem length_codePoints?_le {name : List Char} {points : List Nat} (h : EntityNames.codePoints? name = some points) :
    points.length ≤ 2 := by
  unfold EntityNames.codePoints? at h
  dsimp only at h
  split at h
  · obtain rfl := Option.some.inj h
    exact Nat.le_succ 1
  · obtain ⟨pair, -, rfl⟩ := Option.map_eq_some_iff.mp h
    exact Nat.le_refl 2

/-- A reference stands for two characters at most. -/
theorem length_reference?_le {cs text : List Char} {length : Nat} (h : reference? cs = some (text, length)) :
    text.length ≤ 2 ∧ 1 ≤ length ∧ cs ≠ [] := by
  unfold reference? at h
  split at h
  · obtain ⟨⟨c, n⟩, -, hpair⟩ := Option.map_eq_some_iff.mp h
    obtain ⟨rfl, rfl⟩ := Prod.mk.inj hpair
    exact ⟨Nat.le_succ 1, Nat.succ_le_succ (Nat.zero_le n), List.cons_ne_nil _ _⟩
  · dsimp only at h
    split at h
    next hbounds =>
      obtain ⟨points, hpoints, hpair⟩ := Option.map_eq_some_iff.mp h
      obtain ⟨rfl, rfl⟩ := Prod.mk.inj hpair
      have htwo := length_codePoints?_le hpoints
      refine ⟨by rwa [List.length_map], Nat.succ_le_succ (Nat.zero_le _), ?_⟩
      rintro rfl
      exact absurd hbounds.2.2 (Nat.not_lt_zero _)
    next => cases h

theorem length_decodeReferencesFrom_le (skip : Nat) (cs : List Char) :
    (decodeReferencesFrom skip cs).length ≤ cs.length - skip := by
  induction cs generalizing skip with
  | nil => exact (Nat.zero_le _)
  | cons c cs ih =>
      rw [List.length_cons]
      cases skip with
      | succ skip =>
          have hrest := ih skip
          rw [decodeReferencesFrom]
          omega
      | zero =>
          by_cases hc : c = '&'
          · subst hc
            rw [decodeReferencesFrom]
            split
            next text length href =>
              obtain ⟨htext, hlength, hcs⟩ := length_reference?_le href
              have hrest := ih length
              have hpos := List.length_pos_iff.mpr hcs
              rw [List.length_append]
              omega
            next =>
              have hrest := ih 0
              rw [List.length_cons]
              omega
          · have hrest := ih 0
            rw [decodeReferencesFrom, List.length_cons]
            · omega
            · exact hc

theorem length_unescapeMarks_le (cs : List Char) : (unescapeMarks cs).length ≤ cs.length := by
  fun_induction unescapeMarks cs with
  | case1 c rest hmark ih => simp only [List.length_cons] at ih ⊢; omega
  | case2 c rest hmark ih => simp only [List.length_cons] at ih ⊢; omega
  | case3 c rest _ ih => simp only [List.length_cons] at ih ⊢; omega
  | case4 => exact Nat.le_refl 0

/-- A text that has lost no character has lost no backslash. -/
theorem unescapeMarks_of_length {cs : List Char} (h : (unescapeMarks cs).length = cs.length) :
    unescapeMarks cs = cs := by
  fun_induction unescapeMarks cs with
  | case1 c rest hmark ih =>
      have hle := length_unescapeMarks_le rest
      simp only [List.length_cons] at h
      omega
  | case2 c rest hmark ih => rw [ih (Nat.succ.inj h)]
  | case3 c rest _ ih => rw [ih (Nat.succ.inj h)]
  | case4 => rfl

/-- What a destination means is no longer than what is written. -/
theorem length_cleanDestination_le (cs : List Char) : (cleanDestination cs).length ≤ cs.length := by
  rw [cleanDestination, String.length_ofList]
  exact (length_unescapeMarks_le _).trans ((length_decodeReferencesFrom_le 0 _).trans (length_trimSpace_le cs))

/-! ## Targets in parentheses -/

/-- In parentheses the text is read as the destination that it is. -/
structure IsDestination (link : List Char) : Prop where
  bare : Bare 0 link
  angle : link.head? ≠ some '<'
  references : decodeReferences link = link

instance (link : List Char) : Decidable (IsDestination link) :=
  decidable_of_iff (Bare 0 link ∧ link.head? ≠ some '<' ∧ decodeReferences link = link)
    ⟨fun ⟨hbare, hangle, href⟩ => ⟨hbare, hangle, href⟩, fun h => ⟨h.bare, h.angle, h.references⟩⟩

theorem not_isAsciiBlank {c : Char} (h : 32 < c.toNat) : isAsciiBlank c = false := by
  have hspace : c ≠ ' ' := by
    rintro rfl
    exact absurd h (by decide)
  unfold isAsciiBlank
  rw [decide_eq_false hspace, Bool.false_or, Bool.and_eq_false_iff]
  exact .inr (decide_eq_false (by omega))

theorem destination?_of_head? {cs : List Char} (h : cs.head? ≠ some '<') : destination? cs = bare? 0 cs := by
  unfold destination?
  split
  next => exact absurd rfl h
  next => rfl

theorem trimSpace_of_plain {cs : List Char} (h : ∀ c ∈ cs, 32 < c.toNat) : trimSpace cs = cs := by
  have hwhite : ∀ c ∈ cs, ¬ c.isWhitespace = true := by
    intro c hc hwhite
    have hplain := h c hc
    simp only [Char.isWhitespace, Bool.or_eq_true, decide_eq_true_eq] at hwhite
    rcases hwhite with ((rfl | rfl) | rfl) | rfl <;> exact absurd hplain (by decide)
  have hfront : cs.dropWhile Char.isWhitespace = cs := by
    cases cs with
    | nil => rfl
    | cons c cs => exact List.dropWhile_cons_of_neg (hwhite c List.mem_cons_self)
  unfold trimSpace trimSpaceEnd
  rw [hfront]
  exact List.rdropWhile_eq_self_iff.mpr fun hne => hwhite _ (List.getLast_mem hne)

theorem cleanDestination_of_isDestination {link : List Char} (h : IsDestination link) (hslash : '\\' ∉ link) :
    cleanDestination link = String.ofList link := by
  unfold cleanDestination
  rw [trimSpace_of_plain fun c hc => (h.bare.plain c hc).1, h.references,
    unescapeMarks_of_forall_ne fun c hc heq => hslash (heq ▸ hc)]

theorem inlineTarget?_of_isDestination {link : List Char} (h : IsDestination link) (hslash : '\\' ∉ link) :
    inlineTarget? ('(' :: (link ++ [')'])) = some (⟨String.ofList link, ""⟩, []) := by
  have hplain : ∀ c ∈ (link ++ [')']).head?, 32 < c.toNat ∧ c ≠ '<' := by
    cases link with
    | nil =>
        rintro _ ⟨⟩
        decide
    | cons c link =>
        rintro _ ⟨⟩
        exact ⟨(h.bare.plain c List.mem_cons_self).1, fun hc => h.angle (congrArg some hc)⟩
  have hdrop : (link ++ [')']).dropWhile isAsciiBlank = link ++ [')'] := by
    cases hcons : link ++ [')'] with
    | nil => rfl
    | cons c rest =>
        have hc := hplain c (by rw [hcons]; rfl)
        exact List.dropWhile_cons_of_neg (by rw [not_isAsciiBlank hc.1]; exact Bool.false_ne_true)
  have hbare : bare? 0 (link ++ [')']) = some (link, [')']) := by
    refine (bare?_eq_some_iff (Nat.zero_le _) ?_).mpr ⟨rfl, h.bare, ')', rfl, .inl rfl⟩
    rw [List.mem_append, not_or]
    exact ⟨hslash, by decide⟩
  have hread : destination? ((link ++ [')']).dropWhile isAsciiBlank) = some (link, [')']) := by
    rw [hdrop, destination?_of_head? fun hhead => (hplain '<' hhead).2 rfl, hbare]
  rw [← cleanDestination_of_isDestination h hslash]
  change Option.bind (destination? ((link ++ [')']).dropWhile isAsciiBlank)) _ = _
  rw [hread]
  rfl

/-- What is read before a character goes on in what is read from it. -/
theorem append_of_map (front : List Char) {cs text rest closing : List Char}
    {read : Option (List Char × List Char)}
    (h : (read.map fun (text, rest) => (front ++ text, rest)) = some (text, rest))
    (hread : ∀ {text rest}, read = some (text, rest) → cs = text ++ (closing ++ rest)) :
    front ++ cs = text ++ (closing ++ rest) := by
  obtain ⟨⟨inner, after⟩, hinner, hpair⟩ := Option.map_eq_some_iff.mp h
  obtain ⟨rfl, rfl⟩ := Prod.mk.inj hpair
  rw [hread hinner, List.append_assoc]

theorem append_of_angled? {cs : List Char} :
    ∀ {text rest : List Char}, angled? cs = some (text, rest) → cs = text ++ (['>'] ++ rest) := by
  fun_induction angled? cs with
  | case1 rest =>
      intro text behind h
      obtain ⟨rfl, rfl⟩ := Prod.mk.inj (Option.some.inj h)
      rfl
  | case2 c rest ih => exact fun h => append_of_map ['\\', c] h ih
  | case3 => exact fun h => by cases h
  | case4 c rest _ _ _ ih => exact fun h => append_of_map [c] h ih
  | case5 => exact fun h => by cases h

theorem append_of_bare? {depth : Nat} {cs : List Char} :
    ∀ {text rest : List Char}, bare? depth cs = some (text, rest) → cs = text ++ ([] ++ rest) := by
  fun_induction bare? depth cs with
  | case1 depth c rest _ ih => exact fun h => append_of_map ['\\', c] h ih
  | case2 depth c rest _ ih => exact fun h => append_of_map ['\\'] h ih
  | case3 => exact fun h => by cases h
  | case4 depth rest _ ih => exact fun h => append_of_map ['('] h ih
  | case5 rest =>
      intro text behind h
      obtain ⟨rfl, rfl⟩ := Prod.mk.inj (Option.some.inj h)
      rfl
  | case6 depth rest _ ih => exact fun h => append_of_map [')'] h ih
  | case7 =>
      intro text behind h
      obtain ⟨rfl, rfl⟩ := Prod.mk.inj (Option.some.inj h)
      rfl
  | case8 => exact fun h => by cases h
  | case9 depth c rest _ _ _ _ ih => exact fun h => append_of_map [c] h ih
  | case10 => exact fun h => by cases h

/-- A destination is what a text begins with; angle brackets around it are no part of it. -/
theorem length_destination?_le {cs destination behind : List Char}
    (h : destination? cs = some (destination, behind)) :
    destination.length + behind.length ≤ cs.length ∧
      (cs.head? = some '<' → destination.length + behind.length < cs.length) := by
  unfold destination? at h
  split at h
  next inside =>
    have hlength := congrArg List.length (append_of_angled? h)
    simp only [List.length_append, List.length_cons, List.length_nil] at hlength ⊢
    omega
  next hhead =>
    have hlength := congrArg List.length (append_of_bare? h)
    simp only [List.length_append, List.length_nil] at hlength
    refine ⟨by omega, fun hangle => ?_⟩
    obtain ⟨rest, rfl⟩ := List.head?_eq_some_iff.mp hangle
    exact absurd rfl (hhead rest)

theorem isSuffix_of_title? {cs title rest : List Char} (h : title? cs = some (title, rest)) : rest <:+ cs := by
  unfold title? at h
  split at h
  · obtain ⟨n, -, hpair⟩ := Option.map_eq_some_iff.mp h
    obtain ⟨-, rfl⟩ := Prod.mk.inj hpair
    exact List.drop_suffix ..
  · cases h

/-- What is read as a target in parentheses: a destination, and a title behind it if there is one. -/
theorem exists_of_inlineTarget? {cs rest : List Char} {target : Target} (h : inlineTarget? cs = some (target, rest)) :
    ∃ inside destination between, cs = '(' :: inside ∧
      destination? (inside.dropWhile isAsciiBlank) = some (destination, between ++ ')' :: rest) ∧
      target.destination = cleanDestination destination := by
  unfold inlineTarget? at h
  split at h
  next inside =>
    obtain ⟨⟨destination, behind⟩, hread, hrest⟩ := Option.bind_eq_some_iff.mp h
    dsimp only at hrest
    split at hrest
    next after hafter =>
      obtain ⟨rfl, rfl⟩ := Prod.mk.inj (Option.some.inj hrest)
      have hsuffix : ')' :: after <:+ behind := by
        rw [← hafter]
        refine (List.dropWhile_suffix _).trans ?_
        split
        · exact List.suffix_refl _
        · refine List.IsSuffix.trans ?_ (List.dropWhile_suffix isAsciiBlank)
          cases htitle : title? (behind.dropWhile isAsciiBlank) with
          | none => exact List.suffix_refl _
          | some pair => exact isSuffix_of_title? htitle
      obtain ⟨between, hbetween⟩ := hsuffix
      exact ⟨inside, destination, between, rfl, by rw [hread, hbetween], rfl⟩
    next => cases hrest
  next => cases h

/-- A destination in parentheses is shorter than what it is read from, by the parentheses at least. -/
theorem length_of_inlineTarget? {cs rest : List Char} {target : Target} (h : inlineTarget? cs = some (target, rest)) :
    target.destination.length + rest.length + 2 ≤ cs.length := by
  obtain ⟨inside, destination, between, rfl, hread, htarget⟩ := exists_of_inlineTarget? h
  have hclean := length_cleanDestination_le destination
  have hlength := (length_destination?_le hread).1
  have hdrop := (List.dropWhile_suffix (l := inside) isAsciiBlank).length_le
  rw [htarget]
  simp only [List.length_append, List.length_cons] at hlength ⊢
  omega

/-- A destination that is no shorter than all that can be read has had nothing taken off its ends. -/
theorem bare_of_destination? {link destination behind : List Char} (hslash : '\\' ∉ link)
    (hread : destination? ((link ++ [')']).dropWhile isAsciiBlank) = some (destination, behind)) (hbehind : behind ≠ [])
    (hlong : link.length ≤ destination.length) :
    destination = link ∧ Bare 0 link ∧ link.head? ≠ some '<' := by
  obtain ⟨hlength, hangle⟩ := length_destination?_le hread
  have hsuffix := List.dropWhile_suffix (l := link ++ [')']) isAsciiBlank
  have hdrop := hsuffix.length_le
  have hpos := List.length_pos_iff.mpr hbehind
  rw [List.length_append, List.length_singleton] at hdrop
  have hsame : (link ++ [')']).dropWhile isAsciiBlank = link ++ [')'] := by
    apply hsuffix.eq_of_length
    rw [List.length_append, List.length_singleton]
    omega
  rw [hsame] at hread hangle
  have hhead : (link ++ [')']).head? ≠ some '<' := by
    intro hopen
    have hlt := hangle hopen
    rw [List.length_append, List.length_singleton] at hlt
    omega
  have hplain : '\\' ∉ link ++ [')'] := by
    rw [List.mem_append, not_or]
    exact ⟨hslash, by decide⟩
  rw [destination?_of_head? hhead] at hread
  obtain ⟨heq, hbare, -⟩ := (bare?_eq_some_iff (Nat.zero_le _) hplain).mp hread
  have hlast : link.length = destination.length := by
    have htotal := congrArg List.length heq
    rw [List.length_append, List.length_append, List.length_singleton] at htotal
    omega
  obtain ⟨rfl, -⟩ := List.append_inj heq hlast
  exact ⟨rfl, hbare, fun hopen => hhead (by rw [List.head?_append, hopen, Option.some_or])⟩

/-- A destination that means what is written has no references in it. -/
theorem decodeReferences_of_cleanDestination {link : List Char} (hbare : Bare 0 link)
    (hmeant : cleanDestination link = String.ofList link) : decodeReferences link = link := by
  have hmeans := String.ofList_injective hmeant
  rw [trimSpace_of_plain fun c hc => (hbare.plain c hc).1] at hmeans
  have hlength := congrArg List.length hmeans
  have hunescaped := length_unescapeMarks_le (decodeReferences link)
  have hdecoded : (decodeReferences link).length ≤ link.length := length_decodeReferencesFrom_le 0 link
  exact (unescapeMarks_of_length (by omega)).symm.trans hmeans

/-- What is read in parentheses as the destination that it is. -/
theorem isDestination_of_inlineTarget? {link rest : List Char} {target : Target} (hslash : '\\' ∉ link)
    (h : inlineTarget? ('(' :: (link ++ [')'])) = some (target, rest))
    (htarget : target.destination = String.ofList link) : IsDestination link := by
  obtain ⟨inside, destination, between, hcons, hread, hmeant⟩ := exists_of_inlineTarget? h
  obtain rfl := (List.cons.inj hcons).2
  have hclean := length_cleanDestination_le destination
  rw [← hmeant, htarget, String.length_ofList] at hclean
  obtain ⟨rfl, hbare, hangle⟩ := bare_of_destination? hslash hread (by simp) hclean
  exact ⟨hbare, hangle, decodeReferences_of_cleanDestination hbare (hmeant.symm.trans htarget)⟩

end Folio.Markdown
