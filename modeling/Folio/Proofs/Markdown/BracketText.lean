import Folio.Proofs.Markdown.Destinations
import Folio.Proofs.Markdown.Entities

/-!
# Text in brackets

Text in which nothing is live is read as it is behind an opening bracket, up to the bracket that closes what is written
around it. Brackets in the text open and close on the way and become text again, for no target follows them; one that
closes more than was opened in the text takes the bracket in front of the text with it.

* `Quiet` : text in which nothing is live;
* `textIn`, `heldText` : the text of what has been read, in the innermost open bracket and outside of it;
* `Walking` : what has been read is text, and its brackets are those that are open in it;
* `stepsOn_readInline`, `exists_walking_readAll` : each step of the reading keeps to that, and so the reading gets to
  the bracket that closes what is written around the text.
-/

namespace Folio.Markdown

/-! ## Quiet text -/

/-- Behind an opening bracket nothing in the text is live, it has no line feed, and if it has a closing bracket, behind
which bare web addresses may be links, none begins in it. -/
structure Quiet (features : Features) (cs : List Char) : Prop where
  escaped : escapeInline ('[' :: cs) = '[' :: cs
  feed : '\n' ∉ cs
  address : features.gfm = true → ']' ∈ cs → ¬ "://".toList <:+: cs ∧ ¬ "www.".toList <:+: cs

instance (features : Features) (cs : List Char) : Decidable (Quiet features cs) :=
  decidable_of_iff (escapeInline ('[' :: cs) = '[' :: cs ∧ '\n' ∉ cs ∧
      (features.gfm = true → ']' ∈ cs → ¬ "://".toList <:+: cs ∧ ¬ "www.".toList <:+: cs))
    ⟨fun ⟨hescaped, hfeed, haddress⟩ => ⟨hescaped, hfeed, haddress⟩, fun h => ⟨h.escaped, h.feed, h.address⟩⟩

theorem length_le_escapeInline (cs : List Char) : cs.length ≤ (escapeInline cs).length := by
  induction cs with
  | nil => exact Nat.zero_le _
  | cons c cs ih =>
      rw [escapeInline, List.length_append, List.length_cons]
      split
      · simp only [List.length_cons, List.length_nil]
        omega
      · simp only [List.length_cons, List.length_nil]
        omega

/-- Nothing is live in a text that escaping does not change. -/
theorem dead_of_escapeInline {cs : List Char} (h : escapeInline cs = cs) {c : Char} {after : List Char}
    (hsuffix : c :: after <:+ cs) : c ≠ '\\' ∧ ¬ Live c after := by
  induction cs with
  | nil => exact absurd (List.suffix_nil.mp hsuffix) (List.cons_ne_nil _ _)
  | cons d cs ih =>
      have hdead : ¬ (d = '\\' ∨ Live d cs) := by
        intro hlive
        rw [escapeInline_live hlive] at h
        have hlength := congrArg List.length h
        have hle := length_le_escapeInline cs
        simp only [List.length_cons] at hlength
        omega
      obtain ⟨hslash, hdead⟩ := not_or.mp hdead
      rw [escapeInline_dead hslash hdead] at h
      rcases List.suffix_cons_iff.mp hsuffix with heq | hsuffix
      · obtain ⟨rfl, rfl⟩ := List.cons.inj heq
        exact ⟨hslash, hdead⟩
      · exact ih (List.cons.inj h).2 hsuffix

theorem Quiet.dead {features : Features} {front back : List Char} {c : Char} (h : Quiet features (front ++ c :: back))
    (after : List Char) : c ≠ '\\' ∧ ¬ Live c (back ++ ']' :: after) := by
  have hsuffix : c :: back <:+ '[' :: (front ++ c :: back) := ⟨'[' :: front, rfl⟩
  obtain ⟨hslash, hdead⟩ := dead_of_escapeInline h.escaped hsuffix
  exact ⟨hslash, mt (Live.of_append (by decide)) hdead⟩

theorem Quiet.ne_newline {features : Features} {front back : List Char} {c : Char}
    (h : Quiet features (front ++ c :: back)) : c ≠ '\n' := by
  rintro rfl
  exact h.feed (List.mem_append_right _ List.mem_cons_self)

/-- What begins in the text with a piece that has no closing bracket is all of the piece. -/
theorem isInfix_of_isPrefix {piece front back after : List Char} (hpiece : ']' ∉ piece)
    (h : piece <+: back ++ ']' :: after) : piece <:+: front ++ back := by
  have hback : back <+: back ++ ']' :: after := List.prefix_append ..
  have hwithin : piece <+: back := by
    rcases List.prefix_or_prefix_of_prefix h hback with hwithin | ⟨more, rfl⟩
    · exact hwithin
    · cases more with
      | nil => rw [List.append_nil]
      | cons c more =>
          obtain ⟨rfl, -⟩ := List.cons_prefix_cons.mp ((List.prefix_append_right_inj back).mp h)
          exact absurd (List.mem_append_right back List.mem_cons_self) hpiece
  exact hwithin.isInfix.trans (List.suffix_append front back).isInfix

/-! ## What has been read -/

/-- The text of pieces given newest first, as far as they are text. -/
def textIn (pieces : List Piece) : List Char := (pieces.reverse.filterMap Piece.source?).flatten

/-- The piece is text, and not empty. -/
def Piece.IsText (piece : Piece) : Prop :=
  ∃ text line column, text ≠ [] ∧ piece = .node (textNode text line column)

/-- The mark of an open bracket. -/
def Bracket.mark (bracket : Bracket) : List Char := if bracket.image then ['!', '['] else ['[']

theorem Bracket.exists_mark (bracket : Bracket) : ∃ front, bracket.mark = front ++ ['['] := by
  unfold Bracket.mark
  split
  · exact ⟨['!'], rfl⟩
  · exact ⟨[], rfl⟩

theorem Bracket.length_mark_pos (bracket : Bracket) : 0 < bracket.mark.length := by
  obtain ⟨front, hmark⟩ := bracket.exists_mark
  rw [hmark, List.length_append]
  exact Nat.succ_pos _

/-- The text outside of the innermost of the brackets, with their marks. -/
def heldText : List Bracket → List Char
  | [] => []
  | bracket :: outer => heldText outer ++ textIn bracket.before ++ bracket.mark

theorem textIn_append (newer older : List Piece) :
    textIn (newer ++ older) = textIn older ++ textIn newer := by
  unfold textIn
  rw [List.reverse_append, List.filterMap_append, List.flatten_append]

theorem source?_textNode (text : List Char) (line column : Nat) :
    (Piece.node (textNode text line column)).source? = some text := by
  simp [Piece.source?, textNode]

theorem textIn_text (text : List Char) (line column : Nat) (pieces : List Piece) :
    textIn (.node (textNode text line column) :: pieces) = textIn pieces ++ text := by
  rw [← List.singleton_append, textIn_append]
  simp [textIn, source?_textNode]

theorem textIn_release (bracket : Bracket) (pieces : List Piece) :
    textIn (bracket.release pieces) = textIn bracket.before ++ bracket.mark ++ textIn pieces := by
  change textIn (pieces ++ .node (textNode bracket.mark bracket.line bracket.column) :: bracket.before) = _
  rw [textIn_append, textIn_text]

/-- The brackets that are open around another one. -/
def outerBrackets : List Bracket → List Bracket
  | bracket :: rest => { bracket with followed := true } :: rest
  | [] => []

/-- The pieces when the innermost bracket has become text. -/
def fallenPieces (s : InlineState) : List Piece :=
  match s.brackets with
  | bracket :: _ => bracket.release s.pieces
  | [] => s.pieces

theorem heldText_outerBrackets (brackets : List Bracket) : heldText (outerBrackets brackets) = heldText brackets := by
  cases brackets with
  | nil => rfl
  | cons bracket rest => rfl

theorem heldText_append (inner outer : List Bracket) :
    heldText (inner ++ outer) = heldText outer ++ heldText inner := by
  induction inner with
  | nil => rw [List.nil_append, heldText, List.append_nil]
  | cons bracket inner ih =>
      rw [List.cons_append, heldText, heldText, ih]
      simp only [List.append_assoc]

theorem length_le_heldText (brackets : List Bracket) : brackets.length ≤ (heldText brackets).length := by
  induction brackets with
  | nil => exact Nat.zero_le _
  | cons bracket outer ih =>
      have hmark := bracket.length_mark_pos
      rw [heldText, List.length_append, List.length_append, List.length_cons]
      omega

/-- The open brackets are those that a text leaves open behind the one of an image; if it has closed that one as well,
all that was read up to then is in front of the brackets that are open. -/
def LeftOpen (depth : Option Nat) (brackets : List Bracket) : Prop :=
  match depth with
  | some n => ∃ inner first, brackets = inner ++ [first] ∧ inner.length = n ∧ first.image = true ∧ first.before = []
  | none => ∀ bracket ∈ brackets.getLast?, 3 ≤ (textIn bracket.before).length

theorem exists_of_mem_outerBrackets {outer : Bracket} {brackets : List Bracket} (h : outer ∈ outerBrackets brackets) :
    ∃ bracket ∈ brackets, outer.before = bracket.before := by
  cases brackets with
  | nil => cases h
  | cons bracket rest =>
      rcases List.mem_cons.mp h with rfl | h
      · exact ⟨bracket, List.mem_cons_self, rfl⟩
      · exact ⟨outer, List.mem_cons_of_mem _ h, rfl⟩

theorem LeftOpen.outer {depth : Option Nat} {brackets : List Bracket} (h : LeftOpen depth brackets) :
    LeftOpen depth (outerBrackets brackets) := by
  cases depth with
  | some n =>
      obtain ⟨inner, first, rfl, hlength, himage, hfirst⟩ := h
      cases inner with
      | nil => exact ⟨[], _, rfl, hlength, himage, hfirst⟩
      | cons bracket inner => exact ⟨_ :: inner, first, rfl, hlength, himage, hfirst⟩
  | none =>
      match brackets with
      | [] => exact h
      | [bracket] =>
          rintro _ ⟨⟩
          exact h bracket rfl
      | bracket :: next :: rest => exact h

/-- A bracket opens; if the one in front of the text has been closed, it must have all of that in front of it. -/
theorem LeftOpen.opened {depth : Option Nat} {bracket : Bracket} {brackets : List Bracket}
    (h : LeftOpen depth brackets)
    (hfirst : depth = none → brackets = [] → 3 ≤ (textIn bracket.before).length) :
    LeftOpen (depth.bind fun depth => openAfter '[' ']' depth bracket.mark) (bracket :: brackets) := by
  cases depth with
  | some n =>
      obtain ⟨inner, first, rfl, rfl, himage, hbefore⟩ := h
      have hdepth : openAfter '[' ']' inner.length bracket.mark = some (inner.length + 1) := by
        unfold Bracket.mark
        split <;> rfl
      rw [Option.bind_some, hdepth]
      exact ⟨bracket :: inner, first, rfl, rfl, himage, hbefore⟩
  | none =>
      cases brackets with
      | nil =>
          rintro _ ⟨⟩
          exact hfirst rfl rfl
      | cons outer rest => exact h

/-- A bracket closes, and with it the innermost one that is open. -/
theorem LeftOpen.closed {depth : Option Nat} {brackets : List Bracket} (h : LeftOpen depth brackets) :
    LeftOpen (depth.bind fun depth => openAfter '[' ']' depth [']']) brackets.tail := by
  cases depth with
  | some n =>
      obtain ⟨inner, first, rfl, rfl, himage, hbefore⟩ := h
      cases inner with
      | nil => exact nofun
      | cons bracket inner => exact ⟨inner, first, rfl, rfl, himage, hbefore⟩
  | none =>
      match brackets with
      | [] => exact nofun
      | [_] => exact nofun
      | bracket :: outer :: rest => exact h

/-- Behind the opening bracket of an image the text `done` has been read as text. -/
structure Walking (s : InlineState) (done : List Char) : Prop where
  total : heldText s.brackets ++ textIn s.pieces = '!' :: '[' :: done
  pieces : ∀ piece ∈ s.pieces, piece.IsText
  before : ∀ bracket ∈ s.brackets, ∀ piece ∈ bracket.before, piece.IsText
  leftOpen : LeftOpen (openAfter '[' ']' 0 done) s.brackets
  address : s.inBrackets = true ∨ ']' ∈ done

section Walking
variable {s next : InlineState} {done : List Char}

/-- More text goes to the innermost bracket. -/
theorem Walking.text (h : Walking s done) {text : List Char} (hne : text ≠ [])
    (hplain : ∀ c ∈ text, c ≠ '[' ∧ c ≠ ']') {line column : Nat}
    (hpieces : next.pieces = .node (textNode text line column) :: s.pieces) (hbrackets : next.brackets = s.brackets)
    (haddress : next.inBrackets = s.inBrackets) : Walking next (done ++ text) where
  total := by
    rw [hpieces, hbrackets, textIn_text, ← List.append_assoc, h.total, List.cons_append, List.cons_append]
  pieces := by
    rw [hpieces]
    exact List.forall_mem_cons.mpr ⟨⟨text, line, column, hne, rfl⟩, h.pieces⟩
  before := by
    rw [hbrackets]
    exact h.before
  leftOpen := by
    have hdepth : (fun depth => openAfter '[' ']' depth text) = some := funext (openAfter_plain hplain)
    rw [hbrackets, openAfter_append, hdepth, Option.bind_fun_some]
    exact h.leftOpen
  address := by
    rw [haddress]
    exact h.address.imp_right (List.mem_append_left _)

/-- A bracket opens. -/
theorem Walking.opened (h : Walking s done) (bracket : Bracket) (hbefore : bracket.before = s.pieces)
    (hpieces : next.pieces = []) (hbrackets : next.brackets = bracket :: outerBrackets s.brackets)
    (haddress : next.inBrackets = true) : Walking next (done ++ bracket.mark) where
  total := by
    have hnone : textIn [] = [] := rfl
    rw [hpieces, hbrackets, heldText, heldText_outerBrackets, hbefore, hnone, List.append_nil, h.total,
      List.cons_append, List.cons_append]
  pieces := by
    rw [hpieces]
    exact nofun
  before := by
    rw [hbrackets]
    refine List.forall_mem_cons.mpr ⟨hbefore ▸ h.pieces, fun outer houter => ?_⟩
    obtain ⟨same, hsame, hpiecesBefore⟩ := exists_of_mem_outerBrackets houter
    rw [hpiecesBefore]
    exact h.before same hsame
  leftOpen := by
    rw [hbrackets, openAfter_append]
    refine h.leftOpen.outer.opened fun hopen hnil => ?_
    have hne : done ≠ [] := by
      rintro rfl
      cases hopen
    have hpos := List.length_pos_iff.mpr hne
    have htotal := congrArg List.length h.total
    rw [← heldText_outerBrackets, hnil] at htotal
    rw [hbefore]
    simp only [heldText, List.nil_append, List.length_cons] at htotal
    omega
  address := .inl haddress

/-- A bracket closes, and it and the one that it closes are text. -/
theorem Walking.closed (h : Walking s done) {line column : Nat}
    (hpieces : next.pieces = .node (textNode [']'] line column) :: fallenPieces s)
    (hbrackets : next.brackets = s.brackets.tail) :
    Walking next (done ++ [']']) where
  total := by
    rw [hpieces, hbrackets, textIn_text, fallenPieces, ← List.append_assoc, ← List.cons_append, ← List.cons_append,
      ← h.total]
    cases s.brackets with
    | nil => rfl
    | cons bracket rest =>
        rw [List.tail_cons, textIn_release, heldText]
        simp only [List.append_assoc]
  pieces := by
    rw [hpieces]
    refine List.forall_mem_cons.mpr ⟨⟨[']'], line, column, List.cons_ne_nil _ _, rfl⟩, ?_⟩
    unfold fallenPieces
    cases hopen : s.brackets with
    | nil => exact h.pieces
    | cons bracket rest =>
        have hmark : bracket.mark ≠ [] := List.length_pos_iff.mp bracket.length_mark_pos
        refine List.forall_mem_append.mpr ⟨h.pieces, List.forall_mem_cons.mpr ⟨?_, ?_⟩⟩
        · exact ⟨bracket.mark, bracket.line, bracket.column, hmark, rfl⟩
        · exact h.before bracket (by rw [hopen]; exact List.mem_cons_self)
  before := by
    rw [hbrackets]
    exact fun bracket hbracket => h.before bracket (List.mem_of_mem_tail hbracket)
  leftOpen := by
    rw [hbrackets, openAfter_append]
    exact h.leftOpen.closed
  address := .inr (List.mem_append_right _ List.mem_cons_self)

/-- If the text closes all that it opens, only the bracket in front of it is open. -/
theorem Walking.alone (h : Walking s done) (hclosed : openAfter '[' ']' 0 done = some 0) :
    ∃ first, s.brackets = [first] ∧ first.image = true ∧ first.before = [] ∧ textIn s.pieces = done := by
  have hleft := h.leftOpen
  rw [hclosed] at hleft
  obtain ⟨inner, first, hbrackets, hlength, himage, hbefore⟩ := hleft
  rw [List.length_eq_zero_iff.mp hlength, List.nil_append] at hbrackets
  have htotal := h.total
  rw [hbrackets, heldText, hbefore, Bracket.mark, himage] at htotal
  exact ⟨first, hbrackets, himage, hbefore, (List.cons.inj (List.cons.inj htotal).2).2⟩

/-- If all of the text is in the innermost bracket, the text has closed all that it has opened. -/
theorem Walking.openAfter_eq (h : Walking s done) (hopen : s.brackets ≠ []) (hshown : textIn s.pieces = done) :
    openAfter '[' ']' 0 done = some 0 := by
  have hlength := congrArg List.length h.total
  have hleft := h.leftOpen
  obtain ⟨inner, first, hbrackets⟩ : ∃ inner first, s.brackets = inner ++ [first] :=
    ⟨_, _, (List.dropLast_append_getLast hopen).symm⟩
  have hinner := length_le_heldText inner
  rw [hshown, hbrackets, heldText_append] at hlength
  simp only [heldText, List.nil_append, List.length_append, List.length_cons] at hlength
  cases hdepth : openAfter '[' ']' 0 done with
  | some n =>
      rw [hdepth] at hleft
      obtain ⟨inner', first', hbrackets', rfl, himage, -⟩ := hleft
      obtain ⟨rfl, heq⟩ := List.append_inj' (hbrackets.symm.trans hbrackets') rfl
      obtain rfl := List.singleton_inj.mp heq
      have hmark : first.mark.length = 2 := by rw [Bracket.mark, himage]; rfl
      congr 1
      omega
  | none =>
      rw [hdepth, hbrackets] at hleft
      have hbefore := hleft first List.getLast?_concat
      have hmark := first.length_mark_pos
      omega

end Walking

/-! ## Brackets that fall -/

theorem rest_advance {s : InlineState} {c : Char} {tail : List Char} (hrest : s.rest = c :: tail) :
    (s.advance 1).rest = tail := by
  change s.rest.drop 1 = tail
  rw [hrest]
  rfl

/-- Without definitions only a target in parentheses is one. -/
theorem targetOf?_eq_none {ctx : InlineContext} (hreferences : ctx.references = {}) {s : InlineState}
    (htarget : inlineTarget? s.rest = none) (bracket : Bracket) (inside : List Char) :
    targetOf? ctx s bracket inside = none := by
  unfold targetOf?
  rw [htarget, hreferences]
  cases referenceLabel? bracket inside s.rest with
  | none => rfl
  | some found => rfl

theorem footnoteLabel?_eq_none {pieces : List Piece} (htexts : ∀ piece ∈ pieces, piece.IsText)
    (hhead : (textIn pieces).head? ≠ some '^') : footnoteLabel? pieces.reverse = none := by
  unfold textIn at hhead
  cases hall : pieces.reverse with
  | nil => rfl
  | cons first rest =>
      obtain ⟨text, line, column, hne, rfl⟩ := htexts first (by
        rw [← List.mem_reverse, hall]
        exact List.mem_cons_self)
      obtain ⟨c, text, rfl⟩ := List.exists_cons_of_ne_nil hne
      rw [hall, List.filterMap_cons_some (source?_textNode _ _ _)] at hhead
      have hc : c ≠ '^' := fun heq => hhead (congrArg some heq)
      unfold footnoteLabel?
      dsimp only
      rw [source?_textNode]
      split
      next heq => exact absurd (List.cons.inj (Option.some.inj heq)).1 hc
      next => rfl

/-- A closing bracket with no target behind it is text, and so is the one that it closes. -/
theorem closeBracket_fallen {ctx : InlineContext} (hreferences : ctx.references = {}) {s : InlineState}
    {tail : List Char} (hrest : s.rest = ']' :: tail) (htarget : inlineTarget? tail = none)
    (hlabel : footnoteLabel? s.pieces.reverse = none) :
    (closeBracket ctx s).rest = tail ∧ (closeBracket ctx s).brackets = s.brackets.tail ∧
      ∃ line column, (closeBracket ctx s).pieces = .node (textNode [']'] line column) :: fallenPieces s := by
  have hnext := rest_advance hrest
  have hmark : (if ctx.features.footnotes then footnoteLabel? s.pieces.reverse else none) = none := by
    rw [hlabel, ite_self]
  unfold closeBracket fallenPieces
  dsimp only
  rw [show (s.advance 1).brackets = s.brackets from rfl, show (s.advance 1).pieces = s.pieces from rfl, hmark]
  cases s.brackets with
  | nil => exact ⟨hnext, rfl, s.line, _, rfl⟩
  | cons bracket outer =>
      dsimp only
      rw [targetOf?_eq_none hreferences (by rw [hnext, htarget])]
      split
      · exact ⟨hnext, rfl, s.line, _, rfl⟩
      · exact ⟨hnext, rfl, s.line, _, rfl⟩

/-- What has been read in the innermost bracket does not begin as the mark of a footnote does. -/
theorem Walking.head?_ne {s : InlineState} {done : List Char} (h : Walking s done) {features : Features}
    {back : List Char} (hquiet : Quiet features (done ++ back)) : (textIn s.pieces).head? ≠ some '^' := by
  intro hhead
  obtain ⟨text, htext⟩ := List.head?_eq_some_iff.mp hhead
  have htotal := h.total
  rw [htext] at htotal
  cases hopen : s.brackets with
  | nil =>
      rw [hopen] at htotal
      exact absurd (List.cons.inj htotal).1 (by decide)
  | cons bracket outer =>
      obtain ⟨front, hfront⟩ := bracket.exists_mark
      rw [hopen, heldText, hfront, ← List.append_assoc, List.append_assoc, List.singleton_append] at htotal
      have hsuffix : '[' :: '^' :: (text ++ back) <:+ '!' :: '[' :: (done ++ back) :=
        ⟨_, by rw [← List.cons_append, ← List.cons_append, ← List.append_assoc, htotal]; rfl⟩
      have hlater := (List.suffix_cons_iff.mp hsuffix).resolve_left fun heq => absurd (List.cons.inj heq).1 (by decide)
      exact (dead_of_escapeInline hquiet.escaped hlater).2 (.inr (.inl ⟨rfl, rfl⟩))

/-! ## Steps -/

/-- The reading goes on to `next` by some of the text that is left in front of the closing bracket. -/
def StepsOn (next : InlineState) (done left after : List Char) : Prop :=
  ∃ piece more, left = piece ++ more ∧ piece ≠ [] ∧ next.rest = more ++ ']' :: after ∧ Walking next (done ++ piece)

section Steps
variable {ctx : InlineContext} {s : InlineState} {done rest after : List Char} {c : Char}

theorem stepsOn_plain (h : Walking s done) (hrest : s.rest = c :: rest ++ ']' :: after) (hplain : c ≠ '[' ∧ c ≠ ']') :
    StepsOn (s.plain ctx 1) done (c :: rest) after := by
  have hpieces : (s.plain ctx 1).pieces = .node (textNode [c] s.line (s.columnOf ctx s.position)) :: s.pieces := by
    change .node (textNode (s.rest.take 1) s.line (s.columnOf ctx s.position)) :: s.pieces = _
    rw [hrest]
    rfl
  exact ⟨[c], rest, rfl, List.cons_ne_nil _ _, rest_advance hrest,
    h.text (List.cons_ne_nil _ _) (List.forall_mem_singleton.mpr hplain) hpieces rfl rfl⟩

theorem stepsOn_openBracket (h : Walking s done) (image : Bool) {mark : List Char}
    (hmark : mark = if image then ['!', '['] else ['[']) (hrest : s.rest = mark ++ rest ++ ']' :: after) :
    StepsOn (openBracket ctx s image) done (mark ++ rest) after := by
  refine ⟨mark, rest, rfl, ?_, ?_, ?_⟩
  · rw [hmark]
    split <;> exact List.cons_ne_nil _ _
  · change s.rest.drop (if image then 2 else 1) = _
    rw [hrest, hmark]
    cases image <;> rfl
  · rw [hmark]
    exact h.opened ⟨image, s.line, s.columnOf ctx s.position, s.pieces, _, false⟩ rfl rfl rfl rfl

/-- Text behind text, in front of something other than the end of a line, is taken as it stands. -/
theorem pieces_readText {n : Nat} (hlength : ((s.rest.drop 1).takeWhile (!isSpecial ctx.features ·)).length = n)
    (hfeed : (s.rest.drop (n + 1)).head? ≠ some '\n') (htexts : ∀ piece ∈ s.pieces, piece.IsText) :
    (readText ctx s).pieces = (s.pushText ctx s.position (s.rest.take (n + 1))).pieces := by
  subst hlength
  unfold readText
  dsimp only
  rw [show (s.advance _).rest.head? = (s.rest.drop _).head? from rfl, if_neg hfeed]
  split
  next heq =>
    obtain ⟨text, line, column, -, hpiece⟩ := htexts _ (heq ▸ List.mem_cons_self)
    cases hpiece
  next => rfl

theorem stepsOn_readText (h : Walking s done) (hquiet : Quiet ctx.features (done ++ c :: rest))
    (hrest : s.rest = c :: rest ++ ']' :: after) (hplain : c ≠ '[' ∧ c ≠ ']') :
    StepsOn (readText ctx s) done (c :: rest) after := by
  have hstop (d : Char) (hd : d ∈ ['[', ']', '\n']) : (!isSpecial ctx.features d) = false := by
    simp only [List.mem_cons, List.not_mem_nil, or_false] at hd
    rcases hd with rfl | rfl | rfl <;> rfl
  obtain ⟨word, more, rfl, hword⟩ : ∃ word more, rest = word ++ more ∧
      rest.takeWhile (!isSpecial ctx.features ·) = word :=
    ⟨_, _, List.takeWhile_append_dropWhile.symm, rfl⟩
  have hlength : ((s.rest.drop 1).takeWhile (!isSpecial ctx.features ·)).length = word.length := by
    rw [hrest, List.cons_append, List.drop_one, List.tail_cons, takeWhile_stop (hstop _ (by decide)), hword]
  have htake : s.rest.take (word.length + 1) = c :: word := by simp [hrest]
  have hdrop : s.rest.drop (word.length + 1) = more ++ ']' :: after := by simp [hrest]
  have hfeed : (s.rest.drop (word.length + 1)).head? ≠ some '\n' := by
    rw [hdrop]
    cases more with
    | nil => exact fun heq => absurd (Option.some.inj heq) (by decide)
    | cons d more =>
        have hmore := hquiet
        rw [← List.cons_append, ← List.append_assoc] at hmore
        exact fun heq => hmore.ne_newline (Option.some.inj heq)
  have hpieces : (readText ctx s).pieces =
      .node (textNode (c :: word) s.line (s.columnOf ctx s.position)) :: s.pieces := by
    rw [pieces_readText hlength hfeed h.pieces, htake]
    rfl
  refine ⟨c :: word, more, rfl, List.cons_ne_nil _ _, ?_, h.text (List.cons_ne_nil _ _) ?_ hpieces rfl rfl⟩
  · change s.rest.drop (((s.rest.drop 1).takeWhile (!isSpecial ctx.features ·)).length + 1) = _
    rw [hlength, hdrop]
  · refine List.forall_mem_cons.mpr ⟨hplain, fun d hd => ?_⟩
    have hpass := List.mem_takeWhile_imp (hword ▸ hd)
    have hne (e : Char) (he : e ∈ ['[', ']', '\n']) : d ≠ e := by
      rintro rfl
      rw [hstop _ he] at hpass
      cases hpass
    exact ⟨hne '[' (by decide), hne ']' (by decide)⟩

theorem stepsOn_closeBracket (hreferences : ctx.references = {}) (h : Walking s done)
    (hquiet : Quiet ctx.features (done ++ ']' :: rest)) (hrest : s.rest = ']' :: rest ++ ']' :: after) :
    StepsOn (closeBracket ctx s) done (']' :: rest) after := by
  have htarget : inlineTarget? (rest ++ ']' :: after) = none := by
    have hdead := (hquiet.dead after).2
    unfold inlineTarget?
    split
    next heq => exact absurd (.inr (.inr (.inl ⟨rfl, '(', by decide, by rw [heq]; rfl⟩))) hdead
    next => rfl
  obtain ⟨hnext, hbrackets, line, column, hpieces⟩ := closeBracket_fallen hreferences hrest htarget
    (footnoteLabel?_eq_none h.pieces (h.head?_ne hquiet))
  exact ⟨[']'], rest, rfl, List.cons_ne_nil _ _, hnext, h.closed hpieces hbrackets⟩

theorem stepsOn_readAmpersand (h : Walking s done) (hquiet : Quiet ctx.features (done ++ '&' :: rest))
    (hrest : s.rest = '&' :: rest ++ ']' :: after) : StepsOn (readAmpersand ctx s) done ('&' :: rest) after := by
  have hnone : reference? (s.rest.drop 1) = none := by
    rw [hrest]
    exact reference?_eq_none (hquiet.dead after).2
  unfold readAmpersand
  rw [hnone]
  exact stepsOn_plain h hrest (by decide)

theorem stepsOn_readExclamation (h : Walking s done) (hquiet : Quiet ctx.features (done ++ '!' :: rest))
    (hrest : s.rest = '!' :: rest ++ ']' :: after) : StepsOn (readExclamation ctx s) done ('!' :: rest) after := by
  have hbehind : s.rest.drop 1 = rest ++ ']' :: after := rest_advance hrest
  unfold readExclamation
  rw [hbehind]
  split
  next behind heq =>
    cases rest with
    | nil => exact absurd (List.cons.inj heq).1 (by decide)
    | cons d rest =>
        obtain ⟨rfl, hafter⟩ := List.cons.inj heq
        rw [← List.singleton_append, ← List.append_assoc] at hquiet
        have hhead : behind.head? ≠ some '^' := fun hhead =>
          (hquiet.dead after).2 (.inr (.inl ⟨rfl, (congrArg List.head? hafter).trans hhead⟩))
        rw [if_neg hhead]
        exact stepsOn_openBracket h true rfl hrest
  next => exact stepsOn_plain h hrest (by decide)

theorem stepsOn_readColon (h : Walking s done) (hquiet : Quiet ctx.features (done ++ ':' :: rest))
    (hgfm : ctx.features.gfm = true) (hrest : s.rest = ':' :: rest ++ ']' :: after) :
    StepsOn (readColon ctx s) done (':' :: rest) after := by
  have hnone : (if s.inBrackets then none else webAddress? s.before s.rest) = none := by
    split
    next => rfl
    next hbehind =>
      have hclosed : ']' ∈ done := h.address.resolve_left hbehind
      unfold webAddress?
      split
      next host heq =>
        have hprefix : "://".toList <+: ':' :: rest ++ ']' :: after := ⟨host, by rw [← hrest, heq]; rfl⟩
        exact absurd (isInfix_of_isPrefix (by decide) hprefix) (hquiet.address hgfm (List.mem_append_left _ hclosed)).1
      next => rfl
  unfold readColon
  rw [hnone]
  exact stepsOn_plain h hrest (by decide)

theorem stepsOn_readHostLetter (h : Walking s done) (hquiet : Quiet ctx.features (done ++ 'w' :: rest))
    (hgfm : ctx.features.gfm = true) (hrest : s.rest = 'w' :: rest ++ ']' :: after) :
    StepsOn (readHostLetter ctx s) done ('w' :: rest) after := by
  have hnone : (if s.inBrackets then none else hostAddress? s.before s.rest) = none := by
    split
    next => rfl
    next hbehind =>
      have hclosed : ']' ∈ done := h.address.resolve_left hbehind
      refine if_neg fun ⟨_, hprefix, _⟩ => ?_
      rw [hrest, List.isPrefixOf_iff_prefix] at hprefix
      exact absurd (isInfix_of_isPrefix (by decide) hprefix) (hquiet.address hgfm (List.mem_append_left _ hclosed)).2
  unfold readHostLetter
  rw [hnone]
  exact stepsOn_plain h hrest (by decide)

/-- **Each step reads text.** -/
theorem stepsOn_readInline (hreferences : ctx.references = {}) (h : Walking s done)
    (hquiet : Quiet ctx.features (done ++ c :: rest)) (hrest : s.rest = c :: rest ++ ']' :: after) :
    StepsOn (readInline ctx s c) done (c :: rest) after := by
  obtain ⟨hslash, hdead⟩ := hquiet.dead after
  have hlive (hmem : c ∈ ['*', '_', '`', '<', '~', '$']) : False := hdead (.of_mem hmem _)
  unfold readInline
  split
  next => exact absurd rfl hquiet.ne_newline
  next => exact (hlive (by decide)).elim
  next => exact absurd rfl hslash
  next => exact stepsOn_readAmpersand h hquiet hrest
  next => exact (hlive (by decide)).elim
  next => exact (hlive (by decide)).elim
  next => exact (hlive (by decide)).elim
  next => exact stepsOn_openBracket h false rfl hrest
  next => exact stepsOn_closeBracket hreferences h hquiet hrest
  next => exact stepsOn_readExclamation h hquiet hrest
  next => exact stepsOn_plain h hrest (by decide)
  next => exact stepsOn_plain h hrest (by decide)
  next => exact stepsOn_plain h hrest (by decide)
  next => exact stepsOn_plain h hrest (by decide)
  next => exact (hlive (by decide)).elim
  next =>
    split
    next hgfm => exact stepsOn_readColon h hquiet hgfm hrest
    next => exact stepsOn_plain h hrest (by decide)
  next =>
    split
    next hgfm => exact stepsOn_readHostLetter h hquiet hgfm hrest
    next => exact stepsOn_readText h hquiet hrest (by decide)
  next => exact (hlive (by decide)).elim
  next hopen hclose _ _ _ _ _ _ _ _ _ => exact stepsOn_readText h hquiet hrest ⟨hopen, hclose⟩

theorem readAll_of_shorter {tail : List Char} (hrest : s.rest = c :: tail)
    (hshorter : (readInline ctx s c).rest.length < s.rest.length) :
    readAll ctx s = readAll ctx (readInline ctx s c) := by
  rw [readAll]
  split
  next hnil => rw [hnil] at hrest; cases hrest
  next d _ hcons =>
    obtain ⟨rfl, -⟩ := List.cons.inj (hcons.symm.trans hrest)
    exact if_pos hshorter

/-- **The reading gets to the bracket that closes what is written around the text.** -/
theorem exists_walking_readAll (hreferences : ctx.references = {}) {left : List Char} (h : Walking s done)
    (hquiet : Quiet ctx.features (done ++ left)) (hrest : s.rest = left ++ ']' :: after) :
    ∃ last, readAll ctx s = readAll ctx last ∧ last.rest = ']' :: after ∧ Walking last (done ++ left) := by
  induction hlength : left.length using Nat.strong_induction_on generalizing s done left with
  | _ n ih =>
  subst hlength
  cases left with
  | nil => exact ⟨s, rfl, hrest, by rwa [List.append_nil]⟩
  | cons c rest =>
      obtain ⟨piece, more, hleft, hne, hnext, hwalking⟩ := stepsOn_readInline hreferences h hquiet hrest
      have hshorter : more.length < (c :: rest).length := by
        rw [hleft, List.length_append]
        have := List.length_pos_iff.mpr hne
        omega
      rw [hleft, ← List.append_assoc] at hquiet ⊢
      obtain ⟨last, hall, hlast, hdone⟩ := ih more.length hshorter hwalking hquiet hnext rfl
      refine ⟨last, ?_, hlast, hdone⟩
      rw [← hall, readAll_of_shorter hrest]
      rw [hnext, hrest, List.length_append, List.length_append]
      omega

end Steps

end Folio.Markdown
