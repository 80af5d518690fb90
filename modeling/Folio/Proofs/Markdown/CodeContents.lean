import Folio.Proofs.Markdown.Tokens

/-!
# The code in a text

Code goes from a row of backticks to the next row of the same length, whatever stands between them; a backslash in front
takes a backtick out of its row, but only outside code. So what is code depends on the rows of backticks and on the
backslashes, and on nothing else in the text.

* `tickRows` : the lengths of the rows of backticks in a text;
* `codesIn` : the contents of the code in a text, as a reader of its marks finds them;
* `Codes` : the same as a judgment, with one rule for each thing that a text begins with;
* `codes_codesIn`, `Codes.eq_codesIn` : each text is judged in one way, which is how it is read;
* `codesIn_append_plain` : what stands behind a text and has neither backticks nor backslashes is no code.
-/

namespace Folio.Markdown
open Unicode (isAsciiMark)

/-- The lengths of the rows of backticks in a text, in order, when `run` backticks stand before it. -/
def tickRows (run : Nat) : List Char → List Nat
  | [] => if run = 0 then [] else [run]
  | c :: rest => if c = '`' then tickRows (run + 1) rest else (if run = 0 then [] else [run]) ++ tickRows 0 rest

/-- The content of a token of code. -/
def Token.code? : Token → Option (List Char)
  | .code _ content => some content
  | _ => none

/-- The contents of the code in a text, in order. -/
def codesIn (cs : List Char) : List (List Char) := (scan 0 cs).filterMap Token.code?

/-- The text can stand between two rows of `n` backticks. -/
structure Enclosed (n : Nat) (content : List Char) : Prop where
  nonempty : content ≠ []
  head : content.head? ≠ some '`'
  last : content.getLast? ≠ some '`'
  rows : n ∉ tickRows 0 content

/-- The text has the code with the contents, in order. -/
inductive Codes : List Char → List (List Char) → Prop
  | nil : Codes [] []
  | text {c : Char} {cs : List Char} {contents : List (List Char)} (tick : c ≠ '`') (slash : c ≠ '\\')
      (rest : Codes cs contents) : Codes (c :: cs) contents
  | escaped {c : Char} {cs : List Char} {contents : List (List Char)} (mark : isAsciiMark c = true)
      (rest : Codes cs contents) : Codes ('\\' :: c :: cs) contents
  | slash {cs : List Char} {contents : List (List Char)} (next : ∀ c ∈ cs.head?, isAsciiMark c = false)
      (rest : Codes cs contents) : Codes ('\\' :: cs) contents
  /-- No row closes what this one would open. -/
  | row {k : Nat} {cs : List Char} {contents : List (List Char)} (head : cs.head? ≠ some '`')
      (rows : k + 1 ∉ tickRows 0 cs) (rest : Codes cs contents) :
      Codes (List.replicate (k + 1) '`' ++ cs) contents
  | code {k : Nat} {content cs : List Char} {contents : List (List Char)} (enclosed : Enclosed (k + 1) content)
      (head : cs.head? ≠ some '`') (rest : Codes cs contents) :
      Codes (List.replicate (k + 1) '`' ++ (content ++ (List.replicate (k + 1) '`' ++ cs))) (content :: contents)

/-! ## Rows -/

/-- What stands behind a text does not change its beginning. -/
theorem head?_append_left {cs : List Char} (h : cs ≠ []) (rest : List Char) : (cs ++ rest).head? = cs.head? := by
  obtain ⟨c, cs, rfl⟩ := List.exists_cons_of_ne_nil h
  rfl

/-- What stands before a text does not change its end. -/
theorem getLast?_append_right {rest : List Char} (h : rest ≠ []) (cs : List Char) :
    (cs ++ rest).getLast? = rest.getLast? := by
  rw [List.getLast?_append, List.getLast?_eq_some_getLast h, Option.some_or]

theorem tickRows_row (run k : Nat) (cs : List Char) :
    tickRows run (List.replicate k '`' ++ cs) = tickRows (run + k) cs := by
  induction k generalizing run with
  | zero => rfl
  | succ k ih =>
      rw [List.replicate_succ, List.cons_append, tickRows, if_pos rfl, ih]
      congr 1
      omega

/-- A row ends where no backtick follows. -/
theorem tickRows_stop {cs : List Char} (h : cs.head? ≠ some '`') {run : Nat} (hrun : run ≠ 0) :
    tickRows run cs = run :: tickRows 0 cs := by
  cases cs with
  | nil => rw [tickRows, if_neg hrun, tickRows, if_pos rfl]
  | cons c cs =>
      have hc : c ≠ '`' := fun heq => h (congrArg some heq)
      rw [tickRows, if_neg hc, if_neg hrun, tickRows, if_neg hc, if_pos rfl]
      rfl

theorem tickRows_cons {c : Char} (hc : c ≠ '`') (cs : List Char) : tickRows 0 (c :: cs) = tickRows 0 cs := by
  rw [tickRows, if_neg hc, if_pos rfl, List.nil_append]

/-- A row in front. -/
theorem tickRows_replicate {cs : List Char} (h : cs.head? ≠ some '`') (k : Nat) :
    tickRows 0 (List.replicate (k + 1) '`' ++ cs) = (k + 1) :: tickRows 0 cs := by
  rw [tickRows_row, Nat.zero_add, tickRows_stop h (Nat.succ_ne_zero k)]

/-- Where a text does not end in a row, the rows behind it are apart. -/
theorem tickRows_append {content : List Char} (hlast : content.getLast? ≠ some '`') {run : Nat}
    (hrun : content = [] → run = 0) (cs : List Char) :
    tickRows run (content ++ cs) = tickRows run content ++ tickRows 0 cs := by
  induction content generalizing run with
  | nil =>
      rw [hrun rfl]
      rfl
  | cons c content ih =>
      have hrest : content.getLast? ≠ some '`' := fun h => by
        rw [List.getLast?_cons, h] at hlast
        exact hlast rfl
      rw [List.cons_append, tickRows, tickRows]
      by_cases hc : c = '`'
      · rw [if_pos hc, if_pos hc]
        refine ih hrest ?_
        rintro rfl
        exact absurd (congrArg some hc) hlast
      · rw [if_neg hc, if_neg hc, ih hrest fun _ => rfl, List.append_assoc]

/-- A text that has a row of some length has it behind a text without one. -/
theorem exists_closing {n : Nat} (hn : n ≠ 0) {cs : List Char} (h : n ∈ tickRows 0 cs) :
    ∃ content after, cs = content ++ (List.replicate n '`' ++ after) ∧ content.getLast? ≠ some '`' ∧
      n ∉ tickRows 0 content ∧ after.head? ≠ some '`' := by
  induction hlen : cs.length using Nat.strongRecOn generalizing cs with
  | ind size ih =>
      subst hlen
      by_cases htick : cs.head? = some '`'
      · obtain ⟨k, after, rfl, hafter⟩ := exists_row htick
        by_cases hk : n = k + 1
        · subst hk
          exact ⟨[], after, rfl, nofun, List.not_mem_nil, hafter⟩
        · rw [tickRows_replicate hafter, List.mem_cons, or_iff_right hk] at h
          obtain ⟨content, behind, rfl, hlast, hrows, hbehind⟩ := ih after.length (by simp) h rfl
          obtain ⟨c, content, rfl⟩ : ∃ c rest, content = c :: rest := by
            refine List.exists_cons_of_ne_nil ?_
            rintro rfl
            obtain ⟨m, rfl⟩ := Nat.exists_eq_succ_of_ne_zero hn
            exact hafter rfl
          refine ⟨List.replicate (k + 1) '`' ++ c :: content, behind, ?_, ?_, ?_, hbehind⟩
          · rw [List.append_assoc]
          · rw [getLast?_append_right (List.cons_ne_nil _ _)]
            exact hlast
          · rw [tickRows_replicate (by exact hafter), List.mem_cons, not_or]
            exact ⟨hk, hrows⟩
      · cases cs with
        | nil => cases h
        | cons c cs =>
            have hc : c ≠ '`' := fun heq => htick (congrArg some heq)
            rw [tickRows_cons hc] at h
            obtain ⟨content, behind, rfl, hlast, hrows, hbehind⟩ := ih cs.length (Nat.lt_succ_self _) h rfl
            refine ⟨c :: content, behind, rfl, ?_, ?_, hbehind⟩
            · rw [List.getLast?_cons]
              cases hcontent : content.getLast? with
              | none => exact fun heq => hc (Option.some.inj heq)
              | some d => exact hcontent ▸ hlast
            · rwa [tickRows_cons hc]

/-! ## Looking for the end of code -/

/-- Where there is no row of the length, none is found. -/
theorem findRow_none {n run place : Nat} {rows : RowsSeen} {cs : List Char} (hn : n ≠ 0)
    (h : n ∉ tickRows run cs) : (findRow n run place rows cs).1 = none := by
  induction cs generalizing run place rows with
  | nil =>
      have hrun : run ≠ n := by
        rintro rfl
        exact h (by rw [tickRows, if_neg hn]; exact List.mem_singleton_self _)
      rw [findRow, if_neg hrun]
  | cons c cs ih =>
      by_cases hc : c = '`'
      · subst hc
        rw [findRow]
        exact ih h
      · rw [tickRows, if_neg hc, List.mem_append, not_or] at h
        rw [findRow]
        · by_cases hrun : run = 0
          · rw [if_pos hrun]
            exact ih h.2
          · have hne : run ≠ n := by
              rintro rfl
              rw [if_neg hrun] at h
              exact h.1 (List.mem_singleton_self _)
            rw [if_neg hrun]
            dsimp only
            rw [if_neg hne]
            exact ih h.2
        · exact hc

/-- A text without a row of the length is passed over. -/
theorem findRow_pass {n : Nat} {content : List Char} (hlast : content.getLast? ≠ some '`') {run : Nat}
    (hrows : n ∉ tickRows run content) (hrun : content = [] → run = 0) (place : Nat) (rows : RowsSeen)
    (cs : List Char) :
    ∃ seen, findRow n run place rows (content ++ cs) = findRow n 0 (place + content.length) seen cs := by
  induction content generalizing run place rows with
  | nil => exact ⟨rows, by rw [hrun rfl]; rfl⟩
  | cons c content ih =>
      have hrest : content.getLast? ≠ some '`' := fun h => by
        rw [List.getLast?_cons, h] at hlast
        exact hlast rfl
      have hplace : place + (c :: content).length = place + 1 + content.length := by
        rw [List.length_cons]
        omega
      rw [List.cons_append, hplace]
      by_cases hc : c = '`'
      · subst hc
        rw [findRow]
        refine ih hrest hrows ?_ (place + 1) rows
        rintro rfl
        exact absurd rfl hlast
      · rw [tickRows, if_neg hc, List.mem_append, not_or] at hrows
        rw [findRow]
        · by_cases hzero : run = 0
          · rw [if_pos hzero]
            exact ih hrest hrows.2 (fun _ => rfl) (place + 1) rows
          · have hne : run ≠ n := by
              rintro rfl
              rw [if_neg hzero] at hrows
              exact hrows.1 (List.mem_singleton_self _)
            rw [if_neg hzero]
            dsimp only
            rw [if_neg hne]
            exact ih hrest hrows.2 (fun _ => rfl) (place + 1) _
        · exact hc

/-- Enclosed text ends where the row behind it begins. -/
theorem findRow_enclosed {k : Nat} {content cs : List Char} (enclosed : Enclosed (k + 1) content)
    (head : cs.head? ≠ some '`') :
    (findRow (k + 1) 0 0 {} (content ++ (List.replicate (k + 1) '`' ++ cs))).1 = some content.length := by
  obtain ⟨seen, hseen⟩ := findRow_pass enclosed.last enclosed.rows (fun _ => rfl) 0 {}
    (List.replicate (k + 1) '`' ++ cs)
  rw [hseen, findRow_row, Nat.zero_add, Nat.zero_add, findRow_end (Nat.succ_pos k) head, Nat.add_sub_cancel]

/-! ## What is read -/

/-- A character that is neither a backtick nor a backslash is no code. -/
theorem codesIn_text {c : Char} (tick : c ≠ '`') (slash : c ≠ '\\') (cs : List Char) :
    codesIn (c :: cs) = codesIn cs := by
  unfold codesIn
  by_cases hrow : c ∈ rowMarks
  · by_cases hnext : cs.head? = some c
    · obtain ⟨k, after, rfl, hafter⟩ := exists_row hnext
      have hlong := scan_row hrow tick (k + 1) hafter
      rw [List.replicate_succ, List.cons_append] at hlong
      rw [hlong, scan_row hrow tick k hafter]
      rfl
    · have hone := scan_row hrow tick 0 hnext
      rw [List.replicate_one, List.singleton_append] at hone
      rw [hone]
      rfl
  · rw [scan_text slash hrow]
    rfl

theorem codesIn_escaped {c : Char} (mark : isAsciiMark c = true) (cs : List Char) :
    codesIn ('\\' :: c :: cs) = codesIn cs := by
  rw [codesIn, scan_escaped mark]
  rfl

/-- A backslash stands for itself where no mark is behind it. -/
theorem scan_slash {cs : List Char} (next : ∀ c ∈ cs.head?, isAsciiMark c = false) :
    scan 0 ('\\' :: cs) = .text '\\' :: scan 0 cs := by
  have hfirst : firstToken '\\' cs = (.text '\\', 0) := by
    unfold firstToken
    rw [if_pos rfl]
    cases cs with
    | nil => rfl
    | cons c cs =>
        dsimp only
        rw [next c rfl]
        rfl
  rw [scan, hfirst]

/-- A row of backticks stands for itself where no other of its length is behind it. -/
theorem scan_unclosed {k : Nat} {cs : List Char} (head : cs.head? ≠ some '`') (rows : k + 1 ∉ tickRows 0 cs) :
    scan 0 (List.replicate (k + 1) '`' ++ cs) = .row '`' (k + 1) :: scan 0 cs := by
  have hfirst : firstToken '`' (List.replicate k '`' ++ cs) = (.row '`' (k + 1), (List.replicate k '`').length) := by
    rw [firstToken_backticks head, findRow_none (Nat.succ_ne_zero k) rows, List.length_replicate]
  rw [List.replicate_succ, List.cons_append, scan_cons hfirst]

theorem scan_enclosed {k : Nat} {content cs : List Char} (enclosed : Enclosed (k + 1) content)
    (head : cs.head? ≠ some '`') :
    scan 0 (List.replicate (k + 1) '`' ++ (content ++ (List.replicate (k + 1) '`' ++ cs))) =
      .code (k + 1) content :: scan 0 cs := by
  have hinside : (content ++ (List.replicate (k + 1) '`' ++ cs)).head? ≠ some '`' := by
    rw [head?_append_left enclosed.nonempty]
    exact enclosed.head
  have hplace := findRow_enclosed enclosed head
  let passed := List.replicate k '`' ++ (content ++ List.replicate (k + 1) '`')
  have hpassed : List.replicate k '`' ++ (content ++ (List.replicate (k + 1) '`' ++ cs)) = passed ++ cs := by
    simp only [passed, List.append_assoc]
  have hfirst : firstToken '`' (passed ++ cs) = (.code (k + 1) content, passed.length) := by
    rw [← hpassed, firstToken_backticks hinside, hplace]
    dsimp only
    rw [List.take_left, List.length_append, List.length_append, List.length_replicate, List.length_replicate]
  rw [List.replicate_succ, List.cons_append, ← List.replicate_succ, hpassed, scan_cons hfirst]

theorem codesIn_slash {cs : List Char} (next : ∀ c ∈ cs.head?, isAsciiMark c = false) :
    codesIn ('\\' :: cs) = codesIn cs := by
  rw [codesIn, scan_slash next]
  rfl

theorem codesIn_row {k : Nat} {cs : List Char} (head : cs.head? ≠ some '`') (rows : k + 1 ∉ tickRows 0 cs) :
    codesIn (List.replicate (k + 1) '`' ++ cs) = codesIn cs := by
  rw [codesIn, scan_unclosed head rows]
  rfl

theorem codesIn_code {k : Nat} {content cs : List Char} (enclosed : Enclosed (k + 1) content)
    (head : cs.head? ≠ some '`') :
    codesIn (List.replicate (k + 1) '`' ++ (content ++ (List.replicate (k + 1) '`' ++ cs))) =
      content :: codesIn cs := by
  rw [codesIn, scan_enclosed enclosed head]
  rfl

/-- The judgment is how the text is read. -/
theorem Codes.eq_codesIn {cs : List Char} {contents : List (List Char)} (h : Codes cs contents) :
    contents = codesIn cs := by
  induction h with
  | nil => rfl
  | text tick slash _ ih => rw [codesIn_text tick slash, ih]
  | escaped mark _ ih => rw [codesIn_escaped mark, ih]
  | slash next _ ih => rw [codesIn_slash next, ih]
  | row head rows _ ih => rw [codesIn_row head rows, ih]
  | code enclosed head _ ih => rw [codesIn_code enclosed head, ih]

/-- Each text is judged. -/
theorem codes_codesIn (cs : List Char) : Codes cs (codesIn cs) := by
  suffices h : ∃ contents, Codes cs contents by
    obtain ⟨contents, hcodes⟩ := h
    exact hcodes.eq_codesIn ▸ hcodes
  induction hlen : cs.length using Nat.strongRecOn generalizing cs with
  | ind size ih =>
      subst hlen
      cases cs with
      | nil => exact ⟨[], .nil⟩
      | cons c cs =>
          by_cases htick : c = '`'
          · subst htick
            obtain ⟨k, after, heq, hafter⟩ := exists_row (show ('`' :: cs).head? = some '`' from rfl)
            rw [heq] at ih ⊢
            by_cases hrow : k + 1 ∈ tickRows 0 after
            · obtain ⟨content, behind, rfl, hlast, hrows, hbehind⟩ := exists_closing (Nat.succ_ne_zero k) hrow
              have hne : content ≠ [] := by
                rintro rfl
                exact hafter rfl
              rw [head?_append_left hne] at hafter
              obtain ⟨contents, hcodes⟩ := ih behind.length (by simp; omega) behind rfl
              exact ⟨_, .code ⟨hne, hafter, hlast, hrows⟩ hbehind hcodes⟩
            · obtain ⟨contents, hcodes⟩ := ih after.length (by simp) after rfl
              exact ⟨_, .row hafter hrow hcodes⟩
          · obtain ⟨contents, hcodes⟩ := ih cs.length (Nat.lt_succ_self _) cs rfl
            by_cases hslash : c = '\\'
            · subst hslash
              by_cases hnext : ∀ d ∈ cs.head?, isAsciiMark d = false
              · exact ⟨_, .slash hnext hcodes⟩
              · cases cs with
                | nil => exact absurd (fun d hd => nomatch hd) hnext
                | cons d cs =>
                    have hmark : isAsciiMark d = true := by simpa using hnext
                    have hshorter : cs.length < ('\\' :: d :: cs).length := by
                      rw [List.length_cons, List.length_cons]
                      omega
                    obtain ⟨contents, hcodes⟩ := ih cs.length hshorter cs rfl
                    exact ⟨_, .escaped hmark hcodes⟩
            · exact ⟨_, .text htick hslash hcodes⟩

/-- The contents of code are parts of the text. -/
theorem Codes.isInfix {cs : List Char} {contents : List (List Char)} (h : Codes cs contents) :
    ∀ content ∈ contents, content <:+: cs := by
  induction h with
  | nil => exact fun _ hmem => absurd hmem List.not_mem_nil
  | text _ _ _ ih => exact fun content hmem => (ih content hmem).trans (List.suffix_cons ..).isInfix
  | escaped _ _ ih =>
      exact fun content hmem => (ih content hmem).trans ((List.suffix_cons ..).trans (List.suffix_cons ..)).isInfix
  | slash _ _ ih => exact fun content hmem => (ih content hmem).trans (List.suffix_cons ..).isInfix
  | row _ _ _ ih => exact fun content hmem => (ih content hmem).trans (List.suffix_append ..).isInfix
  | @code k content cs _ _ _ _ ih =>
      intro other hmem
      rcases List.mem_cons.mp hmem with rfl | hmem
      · exact ⟨List.replicate (k + 1) '`', List.replicate (k + 1) '`' ++ cs, by simp⟩
      · refine (ih other hmem).trans (List.IsSuffix.isInfix ?_)
        exact ⟨List.replicate (k + 1) '`' ++ (content ++ List.replicate (k + 1) '`'), by simp⟩

/-- A text without backticks and backslashes has no code. -/
theorem codesIn_of_plain {cs : List Char} (h : ∀ c ∈ cs, c ≠ '`' ∧ c ≠ '\\') : codesIn cs = [] := by
  induction cs with
  | nil => rfl
  | cons c cs ih =>
      obtain ⟨hc, hcs⟩ := List.forall_mem_cons.mp h
      rw [codesIn_text hc.1 hc.2, ih hcs]

theorem codesIn_plain_append {front : List Char} (h : ∀ c ∈ front, c ≠ '`' ∧ c ≠ '\\') (cs : List Char) :
    codesIn (front ++ cs) = codesIn cs := by
  induction front with
  | nil => rfl
  | cons c front ih =>
      obtain ⟨hc, hfront⟩ := List.forall_mem_cons.mp h
      rw [List.cons_append, codesIn_text hc.1 hc.2, ih hfront]

/-- A text without backticks has no row of them. -/
theorem tickRows_of_not_mem {cs : List Char} (h : '`' ∉ cs) : tickRows 0 cs = [] := by
  induction cs with
  | nil => rfl
  | cons c cs ih =>
      rw [List.mem_cons, not_or] at h
      rw [tickRows_cons (Ne.symm h.1), ih h.2]

/-- The rows of a text with others behind it that has none. -/
theorem tickRows_append_plain {back : List Char} (h : '`' ∉ back) (run : Nat) (cs : List Char) :
    tickRows run (cs ++ back) = tickRows run cs := by
  induction cs generalizing run with
  | nil =>
      cases back with
      | nil => rfl
      | cons c back =>
          rw [List.mem_cons, not_or] at h
          simp [tickRows, Ne.symm h.1, tickRows_of_not_mem h.2]
  | cons c cs ih => rw [List.cons_append, tickRows, tickRows, ih, ih]

/-- Blanks and the like behind a text are no code and end none. -/
theorem codesIn_append_plain {back : List Char} (hback : ∀ c ∈ back, isAsciiMark c = false) (cs : List Char) :
    codesIn (cs ++ back) = codesIn cs := by
  have hplain : ∀ c ∈ back, c ≠ '`' ∧ c ≠ '\\' := by
    refine fun c hc => ⟨?_, ?_⟩ <;> (rintro rfl; exact absurd (hback _ hc) (by decide))
  have htick : '`' ∉ back := fun hmem => (hplain _ hmem).1 rfl
  have hhead {rest : List Char} (hrest : rest.head? ≠ some '`') : (rest ++ back).head? ≠ some '`' := by
    cases rest with
    | nil => exact fun heq => htick (List.mem_of_head? heq)
    | cons c rest => exact hrest
  suffices h : ∀ contents, Codes cs contents → codesIn (cs ++ back) = contents from h _ (codes_codesIn cs)
  intro contents hcodes
  induction hcodes with
  | nil => exact codesIn_of_plain hplain
  | text tick slash _ ih => rw [List.cons_append, codesIn_text tick slash, ih]
  | escaped mark _ ih => rw [List.cons_append, List.cons_append, codesIn_escaped mark, ih]
  | @slash cs _ next _ ih =>
      rw [List.cons_append, codesIn_slash, ih]
      cases cs with
      | nil => exact fun c hc => hback c (List.mem_of_head? hc)
      | cons d cs => exact next
  | row head rows _ ih => rw [List.append_assoc, codesIn_row (hhead head) (by rwa [tickRows_append_plain htick]), ih]
  | code enclosed head _ ih =>
      rw [List.append_assoc, List.append_assoc, List.append_assoc, codesIn_code enclosed (hhead head), ih]

end Folio.Markdown
