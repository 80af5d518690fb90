import Folio.Proofs.Markdown.CodeContents
import Folio.Proofs.Markdown.RunMarkers

/-!
# A span of code, read back

Code goes from the row of backticks that it begins with to the first row behind it that is exactly as long. What stands
between the two loses one space on each side if it has one on each and is not all spaces.

* `readCode?` : the code that a text begins with, and what is behind it;
* `readCode?_eq_some_iff` : the rule of it in terms of rows of backticks;
* `enclosed_padded`, `tidyCode_padded` : the code that is written has no row as long as those around it, and gets spaces
  exactly where they are taken away again;
* `codeSpan_read_back` : code without line feeds that does not begin blank is read back, and nothing is left behind it.
-/

namespace Folio.Markdown
open Unicode (isBlank)

/-- The code that a text begins with, and what is behind it. -/
def readCode? (cs : List Char) : Option (List Char × List Char) :=
  let n := countLeading '`' cs
  let inside := cs.drop n
  if n = 0 then none
  else (findRow n 0 0 {} inside).1.map fun place => (tidyCode (inside.take place), inside.drop (place + n))

/-! ## The rule -/

theorem readCode?_replicate {inside : List Char} (h : inside.head? ≠ some '`') (k : Nat) :
    readCode? (List.replicate (k + 1) '`' ++ inside) =
      (findRow (k + 1) 0 0 {} inside).1.map fun place =>
        (tidyCode (inside.take place), inside.drop (place + (k + 1))) := by
  have hdrop : (List.replicate (k + 1) '`' ++ inside).drop (k + 1) = inside := by
    rw [List.drop_append_of_le_length (by simp), List.drop_of_length_le (by simp), List.nil_append]
  unfold readCode?
  dsimp only
  rw [countLeading_row h, hdrop, if_neg (Nat.succ_ne_zero k)]

/-- A text begins with code when it begins with a row of backticks and has another of the same length further on; the
first of these ends the code. -/
theorem readCode?_eq_some_iff {cs content rest : List Char} :
    readCode? cs = some (content, rest) ↔
      ∃ k inner, cs = List.replicate (k + 1) '`' ++ (inner ++ (List.replicate (k + 1) '`' ++ rest)) ∧
        Enclosed (k + 1) inner ∧ rest.head? ≠ some '`' ∧ content = tidyCode inner := by
  constructor
  · intro h
    by_cases htick : cs.head? = some '`'
    · obtain ⟨k, inside, rfl, hinside⟩ := exists_row htick
      rw [readCode?_replicate hinside] at h
      by_cases hrow : k + 1 ∈ tickRows 0 inside
      · obtain ⟨inner, behind, rfl, hlast, hrows, hbehind⟩ := exists_closing (Nat.succ_ne_zero k) hrow
        have hne : inner ≠ [] := by
          rintro rfl
          exact hinside rfl
        have henclosed : Enclosed (k + 1) inner := ⟨hne, head?_append_left hne _ ▸ hinside, hlast, hrows⟩
        rw [findRow_enclosed henclosed hbehind, Option.map_some, List.take_left, ← List.append_assoc] at h
        obtain ⟨rfl, rfl⟩ := Prod.mk.inj (Option.some.inj h)
        refine ⟨k, inner, ?_, henclosed, ?_, rfl⟩
        all_goals rw [List.drop_left' (by simp)]
        exact hbehind
      · rw [findRow_none (Nat.succ_ne_zero k) hrow] at h
        cases h
    · have hnone : countLeading '`' cs = 0 := countLeading_row htick 0
      unfold readCode? at h
      rw [hnone] at h
      cases h
  · rintro ⟨k, inner, rfl, henclosed, hrest, rfl⟩
    have hinside : (inner ++ (List.replicate (k + 1) '`' ++ rest)).head? ≠ some '`' := by
      rw [head?_append_left henclosed.nonempty]
      exact henclosed.head
    rw [readCode?_replicate hinside, findRow_enclosed henclosed hrest, Option.map_some, List.take_left,
      ← List.append_assoc, List.drop_left' (by simp)]

/-! ## What is written -/

/-- No row is longer than the longest. -/
theorem le_longestBackticks_of_mem {n longest run : Nat} (hrun : run ≤ longest) {cs : List Char}
    (h : n ∈ tickRows run cs) : n ≤ longestBackticks longest run cs := by
  induction cs generalizing longest run with
  | nil =>
      rw [tickRows] at h
      split at h
      · cases h
      · rw [List.mem_singleton.mp h]
        exact hrun
  | cons c cs ih =>
      rw [tickRows] at h
      rw [longestBackticks]
      split at h
      next hc =>
        rw [if_pos hc]
        exact ih (Nat.le_max_right ..) h
      next hc =>
        rw [if_neg hc]
        rcases List.mem_append.mp h with h | h
        · split at h
          · cases h
          · rw [List.mem_singleton.mp h]
            exact hrun.trans (le_longestBackticks ..)
        · exact ih (Nat.zero_le _) h

/-- The code between its rows: no row in it is as long, and none goes on with them. -/
theorem enclosed_padded {code : List Char} (hne : code ≠ []) :
    Enclosed (longestBackticks 0 0 code + 1) (padded code) := by
  obtain ⟨⟨c, hhead, hc⟩, hlast⟩ := edges_padded hne
  refine ⟨?_, ?_, hlast, fun hmem => ?_⟩
  · intro hnil
    rw [hnil] at hhead
    cases hhead
  · rw [hhead]
    exact fun heq => hc (Option.some.inj heq)
  · have hle := le_longestBackticks_of_mem (Nat.le_refl 0) hmem
    rw [longestBackticks_padded] at hle
    omega

/-- The spaces at the edges are taken away where they have been put, and nowhere else. -/
theorem tidyCode_padded {code : List Char} (hne : code ≠ []) (hhead : ∀ c ∈ code.head?, isBlank c = false)
    (hfeed : '\n' ∉ code) : tidyCode (padded code) = code := by
  obtain ⟨c, rest, rfl⟩ := List.exists_cons_of_ne_nil hne
  have hc : c ≠ ' ' := by
    rintro rfl
    exact absurd (hhead ' ' rfl) (by decide)
  have hkept : (c :: rest).map (fun d => if d = '\n' then ' ' else d) = c :: rest := by
    refine (List.map_congr_left fun d hd => if_neg ?_).trans (List.map_id _)
    rintro rfl
    exact hfeed hd
  unfold tidyCode padded
  dsimp only
  split
  next =>
    have hmap : ([' '] ++ (c :: rest) ++ [' ']).map (fun d => if d = '\n' then ' ' else d) =
        ' ' :: ((c :: rest) ++ [' ']) := by
      rw [List.map_append, List.map_append, hkept]
      rfl
    rw [hmap, if_pos]
    · rw [List.drop_one, List.tail_cons, List.dropLast_concat]
    · refine ⟨rfl, ?_, ?_⟩
      · rw [← List.cons_append, List.getLast?_concat]
      · simp [hc]
  next =>
    rw [List.nil_append, List.append_nil, hkept, if_neg]
    exact fun h => hc (Option.some.inj h.1)

/-- **Code is read back.** The row that begins a span of code is closed by the one at its end, and what stands between
them is read as the code, if that has no line feed and does not begin blank. How it ends does not matter: the code loses
a space there only if it loses one in front. -/
theorem codeSpan_read_back {code : List Char} (hne : code ≠ []) (hhead : ∀ c ∈ code.head?, isBlank c = false)
    (hfeed : '\n' ∉ code) : readCode? (codeSpan code) = some (code, []) := by
  refine readCode?_eq_some_iff.mpr ⟨longestBackticks 0 0 code, padded code, ?_, enclosed_padded hne, nofun, ?_⟩
  · rw [codeSpan_eq, wrap, List.append_nil, List.append_assoc]
  · exact (tidyCode_padded hne hhead hfeed).symm

/-- Rows of backticks at both edges and inside. -/
theorem codeSpan_read_back_rows :
    ("`a``b`".toList ≠ [] ∧ '\n' ∉ "`a``b`".toList ∧ codeSpan "`a``b`".toList = "``` `a``b` ```".toList) ∧
      readCode? (codeSpan "`a``b`".toList) = some ("`a``b`".toList, []) :=
  ⟨by decide, codeSpan_read_back (by decide) (fun _ hc => Option.some.inj hc ▸ rfl) (by decide)⟩

end Folio.Markdown
