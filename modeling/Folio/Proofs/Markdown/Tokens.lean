import Folio.Markdown.Escape
import Folio.Markdown.Grammar.Inline
import Mathlib.Data.List.TakeWhile
import Mathlib.Tactic.Common

/-!
# The marks of a text

To a reader of its marks a text is characters, rows of marks and code: a backslash makes a character of the mark behind
it, a row goes as far as it can, and code goes from a row of backticks to the next of the same length. What is read of
a piece of text depends on what follows only by the row that it ends with.

* `Token`, `scan` : what a text is made of;
* `Reads` : a piece of text is read as some tokens, unless its last mark goes on behind it;
* `Reads.append` : pieces in a row;
* `reads_row`, `reads_code` : a row of marks, and code between rows longer than any in it.
-/

namespace Folio.Markdown
open Unicode (isAsciiMark)

/-! ## Tokens -/

/-- What a text is made of to a reader of its marks. -/
inductive Token where
  | text (c : Char)
  /-- A row of a mark, as long as it goes. -/
  | row (mark : Char) (length : Nat)
  /-- Code between two rows of backticks. -/
  | code (ticks : Nat) (content : List Char)
  deriving DecidableEq, Repr

/-- The marks that stand in rows. -/
def rowMarks : List Char := ['*', '_', '~', '`']

/-- The token that a text begins with, and the characters that belong to it after the first. A backslash makes text of
the mark behind it; a row of backticks opens code if there is a row of the same length to close it. -/
def firstToken (c : Char) (rest : List Char) : Token × Nat :=
  if c = '\\' then
    match rest with
    | d :: _ => if isAsciiMark d then (.text d, 1) else (.text c, 0)
    | [] => (.text c, 0)
  else if c ∈ rowMarks then
    let more := countLeading c rest
    let inside := rest.drop more
    match if c = '`' then (findRow (more + 1) 0 0 {} inside).1 else none with
    | some place => (.code (more + 1) (inside.take place), more + (place + (more + 1)))
    | none => (.row c (more + 1), more)
  else (.text c, 0)

/-- The tokens of a text without its first `skip` characters. -/
def scan (skip : Nat) : List Char → List Token
  | [] => []
  | c :: rest =>
    match skip with
    | skip + 1 => scan skip rest
    | 0 =>
      let (token, more) := firstToken c rest
      token :: scan more rest

theorem scan_append (passed rest : List Char) : scan passed.length (passed ++ rest) = scan 0 rest := by
  induction passed with
  | nil => rfl
  | cons c passed ih => exact ih

/-- The first token of a text is read, and then what is behind it. -/
theorem scan_cons {c : Char} {passed rest : List Char} {token : Token}
    (h : firstToken c (passed ++ rest) = (token, passed.length)) :
    scan 0 (c :: (passed ++ rest)) = token :: scan 0 rest := by
  rw [scan, h]
  dsimp only
  rw [scan_append]

/-- A character that is no mark of a row stands for itself. -/
theorem scan_text {c : Char} (hslash : c ≠ '\\') (hc : c ∉ rowMarks) (rest : List Char) :
    scan 0 (c :: rest) = .text c :: scan 0 rest := by
  have hfirst : firstToken c rest = (.text c, 0) := by
    unfold firstToken
    rw [if_neg hslash, if_neg hc]
  rw [scan, hfirst]

/-- A mark behind a backslash stands for itself. -/
theorem scan_escaped {c : Char} (mark : isAsciiMark c = true) (rest : List Char) :
    scan 0 ('\\' :: c :: rest) = .text c :: scan 0 rest := by
  have hfirst : firstToken '\\' (c :: rest) = (.text c, 1) := by
    unfold firstToken
    rw [if_pos rfl]
    exact if_pos mark
  rw [scan, hfirst]
  rfl

/-! ## Rows -/

theorem countLeading_row {mark : Char} {after : List Char} (h : after.head? ≠ some mark) (k : Nat) :
    countLeading mark (List.replicate k mark ++ after) = k := by
  have hstop : after.takeWhile (· == mark) = [] := by
    cases after with
    | nil => rfl
    | cons c after =>
        have hc : c ≠ mark := fun heq => h (congrArg some heq)
        exact List.takeWhile_cons_of_neg (by simpa using hc)
  unfold countLeading
  rw [List.takeWhile_append_of_pos fun c hc => beq_iff_eq.mpr (List.eq_of_mem_replicate hc), hstop, List.append_nil,
    List.length_replicate]

/-- A text that begins with a mark begins with a row of it. -/
theorem exists_row {mark : Char} {cs : List Char} (h : cs.head? = some mark) :
    ∃ k after, cs = List.replicate (k + 1) mark ++ after ∧ after.head? ≠ some mark := by
  induction cs with
  | nil => cases h
  | cons c cs ih =>
      obtain rfl := Option.some.inj h
      by_cases hnext : cs.head? = some c
      · obtain ⟨k, after, rfl, hafter⟩ := ih hnext
        exact ⟨k + 1, after, rfl, hafter⟩
      · exact ⟨0, cs, rfl, hnext⟩

/-- The first token of a row of marks that are no backticks is the row. -/
theorem scan_row {mark : Char} (hmark : mark ∈ rowMarks) (htick : mark ≠ '`') (k : Nat) {after : List Char}
    (h : after.head? ≠ some mark) :
    scan 0 (List.replicate (k + 1) mark ++ after) = .row mark (k + 1) :: scan 0 after := by
  have hslash : mark ≠ '\\' := by
    rintro rfl
    exact absurd hmark (by decide)
  rw [List.replicate_succ, List.cons_append]
  apply scan_cons
  unfold firstToken
  rw [if_neg hslash, if_pos hmark]
  dsimp only
  rw [if_neg htick, countLeading_row h, List.length_replicate]

/-- The first token of a row of backticks is the code up to the next row of its length, if there is one. -/
theorem firstToken_backticks {inside : List Char} (h : inside.head? ≠ some '`') (k : Nat) :
    firstToken '`' (List.replicate k '`' ++ inside) =
      match (findRow (k + 1) 0 0 {} inside).1 with
      | some place => (.code (k + 1) (inside.take place), k + (place + (k + 1)))
      | none => (.row '`' (k + 1), k) := by
  have hdrop : (List.replicate k '`' ++ inside).drop k = inside :=
    (congrArg (List.drop · _) List.length_replicate.symm).trans List.drop_left
  unfold firstToken
  rw [if_neg (by decide), if_pos (by decide)]
  dsimp only
  rw [if_pos rfl, countLeading_row h, hdrop]

/-! ## Looking for the end of code -/

theorem findRow_row (n run place k : Nat) (rows : RowsSeen) (cs : List Char) :
    findRow n run place rows (List.replicate k '`' ++ cs) = findRow n (run + k) (place + k) rows cs := by
  induction k generalizing run place with
  | zero => rfl
  | succ k ih =>
      rw [List.replicate_succ, List.cons_append, findRow, ih]
      congr 1 <;> omega

theorem le_longestBackticks (longest current : Nat) (cs : List Char) : longest ≤ longestBackticks longest current cs := by
  induction cs generalizing longest current with
  | nil => exact Nat.le_refl _
  | cons c cs ih =>
      unfold longestBackticks
      split
      · exact (Nat.le_max_left ..).trans (ih ..)
      · exact ih ..

/-- Rows that are too short are passed over. -/
theorem findRow_short {n : Nat} {content : List Char} (hlast : content.getLast? ≠ some '`') {longest run : Nat}
    (hshort : longestBackticks longest run content < n) (hrun : run ≤ longest) (hnil : content = [] → run = 0)
    (place : Nat) (rows : RowsSeen) (cs : List Char) :
    ∃ seen, findRow n run place rows (content ++ cs) = findRow n 0 (place + content.length) seen cs := by
  induction content generalizing longest run place rows with
  | nil => exact ⟨rows, by rw [hnil rfl]; rfl⟩
  | cons c content ih =>
      have hrest : content.getLast? ≠ some '`' := by
        intro h
        rw [List.getLast?_cons, h] at hlast
        exact hlast rfl
      have hplace : place + (c :: content).length = place + 1 + content.length := by
        rw [List.length_cons]
        omega
      rw [List.cons_append, hplace]
      by_cases hc : c = '`'
      · subst hc
        rw [longestBackticks, if_pos rfl] at hshort
        have hne : content = [] → run + 1 = 0 := by
          rintro rfl
          exact absurd rfl hlast
        rw [findRow]
        exact ih hrest hshort (Nat.le_max_right ..) hne (place + 1) rows
      · rw [longestBackticks, if_neg hc] at hshort
        have hlt : longest < n := (le_longestBackticks ..).trans_lt hshort
        rw [findRow]
        · split
          next => exact ih hrest hshort (Nat.zero_le _) (fun _ => rfl) (place + 1) rows
          next =>
            dsimp only
            rw [if_neg (by omega)]
            exact ih hrest hshort (Nat.zero_le _) (fun _ => rfl) (place + 1) _
        · exact hc

/-- A row that is long enough ends where no backtick follows. -/
theorem findRow_end {n : Nat} (hn : 0 < n) {cs : List Char} (h : cs.head? ≠ some '`') (place : Nat) (rows : RowsSeen) :
    (findRow n n place rows cs).1 = some (place - n) := by
  cases cs with
  | nil =>
      rw [findRow]
      rw [if_pos rfl]
  | cons c cs =>
      have hc : c ≠ '`' := fun heq => h (congrArg some heq)
      rw [findRow]
      · rw [if_neg (by omega)]
        dsimp only
        rw [if_pos rfl]
      · exact hc

/-- No row is found before the one that the reader is in. -/
theorem le_of_findRow {n run place : Nat} {rows : RowsSeen} {cs : List Char} {found : Nat}
    (h : (findRow n run place rows cs).1 = some found) : place - run ≤ found := by
  induction cs generalizing run place rows with
  | nil =>
      rw [findRow] at h
      split at h
      · exact (Option.some.inj h).le
      · cases h
  | cons c cs ih =>
      by_cases hc : c = '`'
      · subst hc
        rw [findRow] at h
        have := ih h
        omega
      · rw [findRow] at h
        · split at h
          · have := ih h
            omega
          · dsimp only at h
            split at h
            · exact (Option.some.inj h).le
            · have := ih h
              omega
        · exact hc

/-- A row that is too long is not the one looked for. -/
theorem lt_of_findRow {n run place : Nat} {rows : RowsSeen} {cs : List Char} {found : Nat} (hlong : n < run)
    (hcs : cs.head? ≠ some '`') (h : (findRow n run place rows cs).1 = some found) : place < found := by
  cases cs with
  | nil =>
      rw [findRow] at h
      rw [if_neg (by omega)] at h
      cases h
  | cons c cs =>
      have hc : c ≠ '`' := fun heq => hcs (congrArg some heq)
      rw [findRow] at h
      · rw [if_neg (by omega)] at h
        dsimp only at h
        rw [if_neg (by omega)] at h
        have := le_of_findRow h
        omega
      · exact hc

/-! ## Pieces of text -/

/-- The piece is read as the tokens in front of any text, unless its last mark goes on there; then it is not. -/
structure Reads (last : Option Char) (piece : List Char) (tokens : List Token) : Prop where
  apart : ∀ rest, (∀ mark ∈ last, rest.head? ≠ some mark) → scan 0 (piece ++ rest) = tokens ++ scan 0 rest
  fused : ∀ rest, ∀ mark ∈ last, rest.head? = some mark → ∀ more, scan 0 (piece ++ rest) ≠ tokens ++ more

/-- A text without marks is read as it is wherever it stands. -/
theorem Reads.of_scan {piece : List Char} {tokens : List Token}
    (h : ∀ rest, scan 0 (piece ++ rest) = tokens ++ scan 0 rest) : Reads none piece tokens where
  apart := fun rest _ => h rest
  fused := fun _ _ hmark => by cases hmark

theorem Reads.append {first last : Option Char} {piece next : List Char} {tokens others : List Token}
    (h : Reads first piece tokens) (hnext : Reads last next others)
    (hhead : ∀ mark ∈ first, ∃ c ∈ next.head?, c ≠ mark) : Reads last (piece ++ next) (tokens ++ others) := by
  have hscan : ∀ rest, scan 0 (piece ++ next ++ rest) = tokens ++ scan 0 (next ++ rest) := by
    intro rest
    rw [List.append_assoc]
    apply h.apart
    intro mark hmark
    obtain ⟨c, hc, hne⟩ := hhead mark hmark
    rw [List.head?_append, Option.mem_def.mp hc, Option.some_or]
    exact fun heq => hne (Option.some.inj heq)
  constructor
  · intro rest hrest
    rw [hscan, hnext.apart rest hrest, List.append_assoc]
  · intro rest mark hmark hrest more hmore
    rw [hscan, List.append_assoc] at hmore
    exact hnext.fused rest mark hmark hrest more (List.append_cancel_left hmore)

theorem reads_row {mark : Char} (hmark : mark ∈ rowMarks) (htick : mark ≠ '`') (k : Nat) :
    Reads (some mark) (List.replicate (k + 1) mark) [.row mark (k + 1)] where
  apart := fun rest hrest => scan_row hmark htick k (hrest mark rfl)
  fused := by
    intro rest other hother hrest more
    obtain rfl := Option.some.inj hother
    obtain ⟨j, after, rfl, hafter⟩ := exists_row hrest
    have hlong : List.replicate (k + 1) mark ++ (List.replicate (j + 1) mark ++ after) =
        List.replicate (k + j + 1 + 1) mark ++ after := by
      rw [← List.append_assoc, List.replicate_append_replicate]
      congr 2
      omega
    rw [hlong, scan_row hmark htick _ hafter]
    intro heq
    have hlength := (Token.row.inj (List.cons.inj heq).1).2
    omega

/-- Code is read between rows that are longer than any in it. -/
theorem reads_code {n : Nat} {content : List Char} (hn : longestBackticks 0 0 content < n)
    (hhead : ∃ c ∈ content.head?, c ≠ '`') (hlast : content.getLast? ≠ some '`') :
    Reads (some '`') (List.replicate n '`' ++ content ++ List.replicate n '`') [.code n content] := by
  obtain ⟨k, rfl⟩ : ∃ k, n = k + 1 := ⟨n - 1, by omega⟩
  obtain ⟨c, hc, htick⟩ := hhead
  have hinside : ∀ cs, (content ++ cs).head? ≠ some '`' := by
    intro cs
    rw [List.head?_append, Option.mem_def.mp hc, Option.some_or]
    exact fun heq => htick (Option.some.inj heq)
  have hsplit : ∀ rest, List.replicate (k + 1) '`' ++ content ++ List.replicate (k + 1) '`' ++ rest =
      '`' :: (List.replicate k '`' ++ (content ++ (List.replicate (k + 1) '`' ++ rest))) := by
    intro rest
    rw [List.append_assoc, List.append_assoc, List.replicate_succ]
    rfl
  have hfind : ∀ rest, ∃ seen, findRow (k + 1) 0 0 {} (content ++ (List.replicate (k + 1) '`' ++ rest)) =
      findRow (k + 1) (k + 1) (content.length + (k + 1)) seen rest := by
    intro rest
    obtain ⟨seen, hseen⟩ := findRow_short hlast hn (Nat.le_refl 0) (fun _ => rfl) 0 {}
      (List.replicate (k + 1) '`' ++ rest)
    rw [findRow_row, Nat.zero_add, Nat.zero_add] at hseen
    exact ⟨seen, hseen⟩
  constructor
  · intro rest hrest
    obtain ⟨seen, hseen⟩ := hfind rest
    have hplace : (findRow (k + 1) 0 0 {} (content ++ (List.replicate (k + 1) '`' ++ rest))).1 = some content.length := by
      rw [hseen, findRow_end (Nat.succ_pos k) (hrest '`' rfl), Nat.add_sub_cancel]
    have hpassed : List.replicate k '`' ++ (content ++ (List.replicate (k + 1) '`' ++ rest)) =
        (List.replicate k '`' ++ (content ++ List.replicate (k + 1) '`')) ++ rest := by
      rw [List.append_assoc, List.append_assoc]
    rw [hsplit, hpassed]
    apply scan_cons
    rw [← hpassed, firstToken_backticks (hinside _), hplace]
    dsimp only
    rw [List.take_left, List.length_append, List.length_append, List.length_replicate, List.length_replicate]
  · intro rest mark hmark hrest more hmore
    obtain rfl := Option.some.inj hmark
    obtain ⟨seen, hseen⟩ := hfind rest
    obtain ⟨j, after, rfl, hafter⟩ := exists_row hrest
    rw [hsplit, scan, firstToken_backticks (hinside _)] at hmore
    split at hmore
    next token skip hfirst =>
      obtain ⟨rfl, -⟩ := List.cons.inj hmore
      split at hfirst
      next place hplace =>
        -- the row that is found is behind the one meant to close the code, so more than the code is inside
        rw [hseen, findRow_row] at hplace
        have hbehind := lt_of_findRow (by omega) hafter hplace
        have hcode := congrArg List.length (Token.code.inj (Prod.mk.inj hfirst).1).2
        rw [List.length_take, List.length_append, List.length_append, List.length_replicate] at hcode
        omega
      next => cases (Prod.mk.inj hfirst).1

end Folio.Markdown
