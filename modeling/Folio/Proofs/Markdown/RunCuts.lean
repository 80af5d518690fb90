import Folio.Proofs.Markdown.RunMarkers
import Mathlib.Data.List.Induction

/-!
# A text cut into runs

Runs in formattings without markers are escaped one by one, and whether a mark is escaped depends on the text behind it.
A mark at the end of a run may begin nothing there and yet begin a construct with the text of the next run.

* `Straddles` : a construct begins in one text and takes in some of the text behind it;
* `straddles_iff_live` : a mark that is dead at the end of the first text is live in front of both;
* `escapeInline_append_iff` : two texts in a row are escaped as one exactly when no construct straddles the cut;
* `flatMap_escapeInline_iff` : so are texts in a row;
* `inlineText_cut_iff` : so are runs.
-/

namespace Folio.Markdown
open Unicode (isAsciiMark isBlank)
open Text (Edges)

/-- A construct begins at the end of the first text and takes in the beginning of the second: a footnote's mark, the
second part of a link, or an entity. -/
def Straddles (before behind : List Char) : Prop :=
  (before.getLast? = some '[' ∧ behind.head? = some '^') ∨
    (before.getLast? = some ']' ∧ ∃ next ∈ ['(', '[', ':'], behind.head? = some next) ∨
    ∃ front name more rest, before = front ++ '&' :: name ∧ behind = more ++ ';' :: rest ∧ EntityName (name ++ more)

/-- The run is text in a formatting that adds no markers. -/
def isUnmarked (settings : ExportSettings) (run : Run) : Bool :=
  isTextRun run && !run.properties.isBold && !run.properties.isItalic && !run.properties.isStrike &&
    !isCode settings run.properties

theorem isTextRun_of_isUnmarked {settings : ExportSettings} {run : Run} (h : isUnmarked settings run = true) :
    isTextRun run = true := by
  simp only [isUnmarked, Bool.and_eq_true] at h
  exact h.1.1.1.1

/-! ## Marks that come to life behind a cut -/

/-- A construct straddles a cut exactly when some mark begins nothing within the first text, but begins something
before both. -/
theorem straddles_iff_live {before behind : List Char} :
    Straddles before behind ↔
      ∃ front c after, before = front ++ c :: after ∧ ¬ Live c after ∧ Live c (after ++ behind) := by
  constructor
  · rintro (⟨hlast, hhead⟩ | ⟨hlast, hnext⟩ | ⟨front, name, more, rest, rfl, rfl, hname⟩)
    · obtain ⟨front, rfl⟩ := List.getLast?_eq_some_iff.mp hlast
      refine ⟨front, '[', [], rfl, ?_, .inr (.inl ⟨rfl, hhead⟩)⟩
      rintro (h | ⟨-, h⟩ | ⟨h, -⟩ | ⟨h, -⟩)
      · exact absurd h (by decide)
      · cases h
      · cases h
      · cases h
    · obtain ⟨front, rfl⟩ := List.getLast?_eq_some_iff.mp hlast
      refine ⟨front, ']', [], rfl, ?_, .inr (.inr (.inl ⟨rfl, hnext⟩))⟩
      rintro (h | ⟨h, -⟩ | ⟨-, next, -, h⟩ | ⟨h, -⟩)
      · exact absurd h (by decide)
      · cases h
      · cases h
      · cases h
    · have hsemi : ';' ∉ name ++ more := hname.not_mem (by decide) (by decide)
      refine ⟨front, '&', name, rfl, ?_, ?_⟩
      · rintro (h | ⟨h, -⟩ | ⟨h, -⟩ | ⟨-, other, after, rfl, -⟩)
        · exact absurd h (by decide)
        · cases h
        · cases h
        · exact hsemi (by simp)
      · exact .inr (.inr (.inr ⟨rfl, name ++ more, rest, (List.append_assoc ..).symm, hname⟩))
  · rintro ⟨front, c, after, rfl, hdead, hlive⟩
    -- a mark that needs one character behind it stands last, for else it would be live before the cut
    have hend : ∀ next, (after ++ behind).head? = some next → (after.head? = some next → Live c after) →
        (front ++ c :: after).getLast? = some c ∧ behind.head? = some next := by
      intro next hhead hbefore
      cases after with
      | nil => exact ⟨List.getLast?_concat, hhead⟩
      | cons d after => exact absurd (hbefore hhead) hdead
    rcases hlive with h | ⟨rfl, hhead⟩ | ⟨rfl, next, hnext, hhead⟩ | ⟨rfl, name, rest, heq, hname⟩
    · exact absurd (Live.of_mem h after) hdead
    · exact .inl (hend '^' hhead fun h => .inr (.inl ⟨rfl, h⟩))
    · obtain ⟨hlast, hhead⟩ := hend next hhead fun h => .inr (.inr (.inl ⟨rfl, next, hnext, h⟩))
      exact .inr (.inl ⟨hlast, next, hnext, hhead⟩)
    · refine .inr (.inr ?_)
      rcases List.append_eq_append_iff.mp heq with ⟨more, rfl, hbehind⟩ | ⟨piece, rfl, hrest⟩
      · exact ⟨front, after, more, rest, rfl, hbehind, hname⟩
      · cases piece with
        | nil =>
            rw [List.append_nil]
            exact ⟨front, name, [], rest, rfl, hrest.symm, by rwa [List.append_nil]⟩
        | cons d piece =>
            obtain ⟨rfl, -⟩ := List.cons.inj hrest
            exact absurd (.inr (.inr (.inr ⟨rfl, name, piece, rfl, hname⟩))) hdead

theorem not_straddles_nil (behind : List Char) : ¬ Straddles [] behind := by
  rw [straddles_iff_live]
  rintro ⟨front, c, after, h, -⟩
  exact absurd (congrArg List.length h) (by simp)

theorem straddles_cons_iff {c : Char} {before behind : List Char} :
    Straddles (c :: before) behind ↔ (¬ Live c before ∧ Live c (before ++ behind)) ∨ Straddles before behind := by
  rw [straddles_iff_live, straddles_iff_live]
  constructor
  · rintro ⟨front, d, after, heq, hdead, hlive⟩
    cases front with
    | nil =>
        obtain ⟨rfl, rfl⟩ := List.cons.inj heq
        exact .inl ⟨hdead, hlive⟩
    | cons e front =>
        obtain ⟨rfl, rfl⟩ := List.cons.inj heq
        exact .inr ⟨front, d, after, rfl, hdead, hlive⟩
  · rintro (⟨hdead, hlive⟩ | ⟨front, d, after, rfl, hdead, hlive⟩)
    · exact ⟨[], c, before, rfl, hdead, hlive⟩
    · exact ⟨c :: front, d, after, rfl, hdead, hlive⟩

instance (c : Char) (after : List Char) : Decidable (Live c after) :=
  decidable_of_iff (c ≠ '\\' ∧ startsInline c after = true) <| by
    rw [startsInline_iff]
    constructor
    · rintro ⟨hother, rfl | hlive⟩
      · exact absurd rfl hother
      · exact hlive
    · intro hlive
      refine ⟨?_, .inr hlive⟩
      rintro rfl
      exact absurd hlive.mem (by decide)

instance decidableStraddles (behind : List Char) : (before : List Char) → Decidable (Straddles before behind)
  | [] => .isFalse (not_straddles_nil behind)
  | _ :: before =>
    have := decidableStraddles behind before
    decidable_of_iff _ straddles_cons_iff.symm

/-- A construct straddles a cut behind a longer text when it does behind the text's end. -/
theorem Straddles.prepend {before behind : List Char} (h : Straddles before behind) (text : List Char) :
    Straddles (text ++ before) behind := by
  induction text with
  | nil => exact h
  | cons c text ih => exact straddles_cons_iff.mpr (.inr ih)

/-- A construct that straddles a cut begins before an earlier cut, which it straddles as well, or behind it. -/
theorem Straddles.of_append {text before behind : List Char} (h : Straddles (text ++ before) behind) :
    Straddles text (before ++ behind) ∨ Straddles before behind := by
  induction text with
  | nil => exact .inr h
  | cons c text ih =>
      rcases straddles_cons_iff.mp h with ⟨hdead, hlive⟩ | h
      · refine .inl (straddles_cons_iff.mpr (.inl ⟨mt (·.append before) hdead, ?_⟩))
        rwa [← List.append_assoc]
      · exact (ih h).imp_left fun hlater => straddles_cons_iff.mpr (.inr hlater)

/-! ## Texts in a row -/

/-- A cut leaves out backslashes and adds none. -/
theorem escapeInline_append_sublist (before behind : List Char) :
    (escapeInline before ++ escapeInline behind).Sublist (escapeInline (before ++ behind)) := by
  induction before with
  | nil => exact List.Sublist.refl _
  | cons c before ih =>
      rw [List.cons_append]
      by_cases hbefore : c = '\\' ∨ Live c before
      · rw [escapeInline_live hbefore, escapeInline_live (hbefore.imp_right (·.append behind))]
        exact (ih.cons_cons c).cons_cons '\\'
      · obtain ⟨hother, hdead⟩ := not_or.mp hbefore
        rw [escapeInline_dead hother hdead]
        by_cases hlive : Live c (before ++ behind)
        · rw [escapeInline_live (.inr hlive)]
          exact (ih.cons_cons c).cons '\\'
        · rw [escapeInline_dead hother hlive]
          exact ih.cons_cons c

/-- Two texts in a row are escaped as one exactly when no construct straddles the cut between them. -/
theorem escapeInline_append_iff (before behind : List Char) :
    escapeInline before ++ escapeInline behind = escapeInline (before ++ behind) ↔ ¬ Straddles before behind := by
  induction before with
  | nil => exact ⟨fun _ => not_straddles_nil behind, fun _ => rfl⟩
  | cons c before ih =>
      rw [List.cons_append, straddles_cons_iff, not_or, ← ih]
      by_cases hbefore : c = '\\' ∨ Live c before
      · have hsame : ¬ (¬ Live c before ∧ Live c (before ++ behind)) := by
          rintro ⟨hdead, hlive⟩
          rcases hbefore with rfl | h
          · exact absurd hlive.mem (by decide)
          · exact hdead h
        rw [escapeInline_live hbefore, escapeInline_live (hbefore.imp_right (·.append behind)), List.cons_append,
          List.cons_append, List.cons_inj_right, List.cons_inj_right]
        exact (and_iff_right hsame).symm
      · obtain ⟨hother, hdead⟩ := not_or.mp hbefore
        rw [escapeInline_dead hother hdead]
        by_cases hlive : Live c (before ++ behind)
        · rw [escapeInline_live (.inr hlive), List.cons_append]
          refine ⟨fun h => absurd (List.cons.inj h).1 hother, ?_⟩
          rintro ⟨hsame, -⟩
          exact absurd ⟨hdead, hlive⟩ hsame
        · rw [escapeInline_dead hother hlive, List.cons_append, List.cons_inj_right]
          exact (and_iff_right fun h => hlive h.2).symm

theorem flatMap_escapeInline_sublist (texts : List (List Char)) :
    (texts.flatMap escapeInline).Sublist (escapeInline texts.flatten) := by
  induction texts with
  | nil => exact List.Sublist.refl _
  | cons text texts ih =>
      rw [List.flatMap_cons, List.flatten_cons]
      exact ((List.Sublist.refl _).append ih).trans (escapeInline_append_sublist text _)

/-- Texts in a row are escaped as one exactly when no construct straddles a cut between them. -/
theorem flatMap_escapeInline_iff (texts : List (List Char)) :
    texts.flatMap escapeInline = escapeInline texts.flatten ↔
      ∀ front back, texts = front ++ back → ¬ Straddles front.flatten back.flatten := by
  induction texts with
  | nil =>
      refine ⟨fun _ front back h => ?_, fun _ => rfl⟩
      obtain ⟨rfl, rfl⟩ := List.append_eq_nil_iff.mp h.symm
      exact not_straddles_nil _
  | cons text texts ih =>
      have hfirst := escapeInline_append_iff text texts.flatten
      have hcut := escapeInline_append_sublist text texts.flatten
      have hrest := (List.Sublist.refl (escapeInline text)).append (flatMap_escapeInline_sublist texts)
      rw [List.flatMap_cons, List.flatten_cons]
      constructor
      · intro h front back hsplit
        -- neither the first cut nor the later ones leave out a backslash
        rw [h] at hrest
        have hwhole := hcut.eq_of_length_le hrest.length_le
        have hlater := ih.mp (List.append_cancel_left (h.trans hwhole.symm))
        cases front with
        | nil => exact not_straddles_nil _
        | cons other front =>
            obtain ⟨rfl, rfl⟩ := List.cons.inj hsplit
            intro hstraddles
            rcases hstraddles.of_append with h | h
            · rw [← List.flatten_append] at h
              exact hfirst.mp hwhole h
            · exact hlater front back rfl h
      · intro h
        have hlater : texts.flatMap escapeInline = escapeInline texts.flatten := by
          refine ih.mpr fun front back hsplit hstraddles => ?_
          exact h (text :: front) back (congrArg (text :: ·) hsplit) (hstraddles.prepend text)
        rw [hlater]
        refine hfirst.mpr ?_
        have hcuts := h [text] texts rfl
        rwa [List.flatten_singleton] at hcuts

/-! ## White space at a cut -/

theorem not_isBlank_of_isAsciiMark {c : Char} (h : isAsciiMark c = true) : isBlank c = false := by
  simp only [isAsciiMark, Bool.and_eq_true, decide_eq_true_eq] at h
  obtain ⟨⟨hlow, hhigh⟩, -⟩ := h
  exact Unicode.isBlank_of_graphic hlow hhigh

theorem not_mark_of_isBlank {c : Char} (h : isBlank c = true) : c ∉ '\\' :: liveMarks := by
  have hnone : ('\\' :: liveMarks).any isBlank = false := by decide
  exact fun hmark => List.any_eq_false.mp hnone c hmark h

theorem escapeInline_blank {cs : List Char} (h : ∀ c ∈ cs, isBlank c = true) : escapeInline cs = cs :=
  escapeInline_of_not_mem fun c hc => not_mark_of_isBlank (h c hc)

/-- No construct begins in white space. -/
theorem not_straddles_of_blank {before : List Char} (h : ∀ c ∈ before, isBlank c = true) (behind : List Char) :
    ¬ Straddles before behind := by
  rw [straddles_iff_live]
  rintro ⟨front, c, after, rfl, -, hlive⟩
  exact not_mark_of_isBlank (h c (by simp)) (List.mem_cons_of_mem _ hlive.mem)

/-- No construct goes on into white space that is all there is. -/
theorem not_straddles_blank {behind : List Char} (h : ∀ c ∈ behind, isBlank c = true) (before : List Char) :
    ¬ Straddles before behind := by
  have hmark : ∀ c, isAsciiMark c = true → c ∉ behind := by
    intro c hc hmem
    have hblank := h c hmem
    rw [not_isBlank_of_isAsciiMark hc] at hblank
    cases hblank
  rintro (⟨-, hhead⟩ | ⟨-, next, hnext, hhead⟩ | ⟨front, name, more, rest, -, rfl, -⟩)
  · exact hmark '^' (by decide) (List.mem_of_head? hhead)
  · refine hmark next ?_ (List.mem_of_head? hhead)
    simp only [List.mem_cons, List.not_mem_nil, or_false] at hnext
    rcases hnext with rfl | rfl | rfl <;> decide
  · exact hmark ';' (by decide) (by simp)

/-! ## Runs -/

/-- The characters of runs in a row. -/
def charsOf (runs : List Run) : List Char := runs.flatMap (·.text.toList)

theorem mergeAfter_of_ne {last run : Run} (h : last.properties ≠ run.properties) (rest : List Run) :
    mergeAfter last (run :: rest) = last :: mergeAfter run rest := by
  have hkeep : ¬ (isTextRun run && isTextRun last && last.properties == run.properties) = true := by
    rw [Bool.and_eq_true, beq_iff_eq]
    exact fun hmerge => h hmerge.2
  rw [mergeAfter, if_neg hkeep]

theorem mergeAfter_of_eq {last run : Run} (hlast : isTextRun last = true) (hrun : isTextRun run = true)
    (h : last.properties = run.properties) (rest : List Run) :
    mergeAfter last (run :: rest) = mergeAfter { last with text := last.text ++ run.text } rest := by
  have hmerge : (isTextRun run && isTextRun last && last.properties == run.properties) = true := by
    rw [hlast, hrun, h, Bool.and_self, Bool.true_and, beq_self_eq_true]
  rw [mergeAfter, if_pos hmerge]

theorem charsOf_mergeAfter (last : Run) (rest : List Run) :
    charsOf (mergeAfter last rest) = charsOf (last :: rest) := by
  induction rest generalizing last with
  | nil => rfl
  | cons run rest ih =>
      rw [mergeAfter]
      split
      · rw [ih]
        simp only [charsOf, List.flatMap_cons, String.toList_append, List.append_assoc]
      · rw [charsOf, List.flatMap_cons]
        exact congrArg (last.text.toList ++ ·) (ih run)

theorem charsOf_mergeRuns (runs : List Run) : charsOf (mergeRuns runs) = charsOf runs := by
  cases runs with
  | nil => rfl
  | cons run rest => exact charsOf_mergeAfter run rest

/-- Runs are written with the characters of their texts and of their markers, and with those that escape. -/
theorem mem_flatMap_formatRun {settings : ExportSettings} {runs : List Run} {c : Char}
    (h : c ∈ (mergeRuns runs).flatMap (formatRun settings)) :
    c ∈ charsOf runs ∨
      ((∃ run ∈ mergeRuns runs, emphasisLength run.properties ≠ 0) ∧ c = settings.emphasisMarker) ∨
      c ∈ ['\\', '`', ' ', '~'] := by
  obtain ⟨run, hrun, hmem⟩ := List.mem_flatMap.mp h
  rw [← charsOf_mergeRuns]
  rcases mem_formatRun hmem with htext | ⟨hsome, hc⟩ | hmark
  · exact .inl (List.mem_flatMap.mpr ⟨run, hrun, htext⟩)
  · exact .inr (.inl ⟨⟨run, hrun, hsome⟩, hc⟩)
  · exact .inr (.inr hmark)

/-- Runs are merged apart on the two sides of a change of formatting. -/
theorem mergeAfter_cut {before behind : Run} (h : before.properties ≠ behind.properties) (last : Run)
    (front back : List Run) :
    mergeAfter last (front ++ before :: behind :: back) =
      mergeAfter last (front ++ [before]) ++ mergeAfter behind back := by
  induction front generalizing last with
  | nil =>
      rw [List.nil_append, List.nil_append]
      by_cases hmerge : (isTextRun before && isTextRun last && last.properties == before.properties) = true
      · obtain ⟨⟨hbefore, hlast⟩, hsame⟩ : (isTextRun before = true ∧ isTextRun last = true) ∧
            last.properties = before.properties := by simpa using hmerge
        have hmerged : ({ last with text := last.text ++ before.text } : Run).properties ≠ behind.properties :=
          hsame.trans_ne h
        rw [mergeAfter_of_eq hlast hbefore hsame, mergeAfter_of_eq hlast hbefore hsame, mergeAfter_of_ne hmerged]
        rfl
      · rw [mergeAfter, if_neg hmerge, mergeAfter_of_ne h, mergeAfter, if_neg hmerge]
        rfl
  | cons run front ih =>
      rw [List.cons_append, List.cons_append, mergeAfter, mergeAfter]
      split
      · exact ih _
      · rw [ih, List.cons_append]

theorem mergeRuns_cut {before behind : Run} (h : before.properties ≠ behind.properties) (front back : List Run) :
    mergeRuns (front ++ before :: behind :: back) = mergeRuns (front ++ [before]) ++ mergeRuns (behind :: back) := by
  cases front with
  | nil => exact mergeAfter_of_ne h back
  | cons run front => exact mergeAfter_cut h run front back

/-- Runs of text that are left apart where they are merged are runs in different formattings. -/
theorem cut_of_mergeAfter {last : Run} {rest front back : List Run} (htext : ∀ run ∈ last :: rest, isTextRun run = true)
    (h : mergeAfter last rest = front ++ back) (hfront : front ≠ []) (hback : back ≠ []) :
    ∃ first before behind others, last :: rest = first ++ before :: behind :: others ∧
      before.properties ≠ behind.properties ∧ charsOf (first ++ [before]) = charsOf front ∧
      charsOf (behind :: others) = charsOf back := by
  induction rest generalizing last front with
  | nil =>
      obtain ⟨run, front, rfl⟩ := List.exists_cons_of_ne_nil hfront
      have hlength := congrArg List.length h
      have hpos := List.length_pos_iff.mpr hback
      simp only [mergeAfter, List.length_cons, List.length_nil, List.length_append] at hlength
      omega
  | cons run rest ih =>
      obtain ⟨hlast, hrun, hothersText⟩ :
          isTextRun last = true ∧ isTextRun run = true ∧ ∀ run ∈ rest, isTextRun run = true := by simpa using htext
      by_cases hsame : last.properties = run.properties
      · -- the two runs become one, and its cuts are those behind the second of them
        rw [mergeAfter_of_eq hlast hrun hsame] at h
        have hmerged : ∀ other ∈ { last with text := last.text ++ run.text } :: rest, isTextRun other = true :=
          List.forall_mem_cons.mpr ⟨hlast, hothersText⟩
        obtain ⟨first, before, behind, others, hsplit, hne, hchars, hothers⟩ := ih hmerged h hfront
        cases first with
        | nil =>
            obtain ⟨rfl, rfl⟩ := List.cons.inj hsplit
            refine ⟨[last], run, behind, others, rfl, hsame ▸ hne, ?_, hothers⟩
            rw [← hchars]
            simp [charsOf]
        | cons merged first =>
            obtain ⟨rfl, rfl⟩ := List.cons.inj hsplit
            refine ⟨last :: run :: first, before, behind, others, rfl, hne, ?_, hothers⟩
            rw [← hchars]
            simp [charsOf]
      · rw [mergeAfter_of_ne hsame] at h
        obtain ⟨other, front, rfl⟩ := List.exists_cons_of_ne_nil hfront
        obtain ⟨rfl, hrest⟩ := List.cons.inj h
        by_cases hnil : front = []
        · subst hnil
          refine ⟨[], last, run, rest, rfl, hsame, rfl, ?_⟩
          rw [← charsOf_mergeAfter]
          exact congrArg charsOf hrest
        · obtain ⟨first, before, behind, others, hsplit, hne, hchars, hothers⟩ :=
            ih (List.forall_mem_cons.mpr ⟨hrun, hothersText⟩) hrest hnil
          refine ⟨last :: first, before, behind, others, congrArg (last :: ·) hsplit, hne, ?_, hothers⟩
          exact congrArg (last.text.toList ++ ·) hchars

/-- A text is escaped as a whole when its edges are left out of it. -/
theorem edges_escapeInline (cs : List Char) :
    (Edges.ofText cs).lead ++ escapeInline (Edges.ofText cs).core ++ (Edges.ofText cs).trail = escapeInline cs := by
  have hlead : ∀ c ∈ (Edges.ofText cs).lead, isBlank c = true := fun c => Edges.blank_lead c
  have htrail : ∀ c ∈ (Edges.ofText cs).trail, isBlank c = true := fun c => Edges.blank_trail c
  have hfront := (escapeInline_append_iff _ (Edges.ofText cs).core).mpr (not_straddles_of_blank hlead _)
  have hback := (escapeInline_append_iff ((Edges.ofText cs).lead ++ (Edges.ofText cs).core) _).mpr
    (not_straddles_blank htrail _)
  rw [Edges.ofText_append, ← hfront, escapeInline_blank hlead, escapeInline_blank htrail] at hback
  exact hback

theorem formatRun_of_isUnmarked {settings : ExportSettings} {run : Run} (h : isUnmarked settings run = true) :
    formatRun settings run = escapeInline run.text.toList := by
  rw [← edges_escapeInline]
  by_cases hcore : (Edges.ofText run.text.toList).core = []
  · have hblank := Edges.blank_of_core_eq_nil hcore
    rw [edges_escapeInline, escapeInline_blank hblank, formatRun]
    dsimp only
    rw [hcore]
    rfl
  · have hplain : coreText settings run.properties (Edges.ofText run.text.toList).core =
        escapeInline (Edges.ofText run.text.toList).core := by
      simp only [isUnmarked, Bool.and_eq_true, Bool.not_eq_true'] at h
      obtain ⟨⟨⟨⟨-, hbold⟩, hitalic⟩, hstrike⟩, hcode⟩ := h
      simp [coreText, wrap, strikeLength, emphasisLength, hbold, hitalic, hstrike, hcode]
    rw [formatRun_eq hcore, hplain]

theorem inlineText_of_isUnmarked {settings : ExportSettings} {runs : List Run}
    (h : ∀ run ∈ runs, isUnmarked settings run = true) (doc : Document) (order : NoteOrder) :
    (inlineText settings doc order runs).1 =
      breakLines (((mergeRuns runs).map (·.text.toList)).flatMap escapeInline) := by
  have hmerged : ∀ run ∈ mergeRuns runs, isUnmarked settings run = true := forall_mergeRuns (fun _ _ hkept => hkept) h
  have htext : ∀ run ∈ mergeRuns runs, isTextRun run = true := fun run hrun =>
    isTextRun_of_isUnmarked (hmerged run hrun)
  change breakLines (runTexts settings doc order (mergeRuns runs)).1 = _
  rw [runTexts_of_text settings doc order htext, List.flatMap_map, List.flatMap_def, List.flatMap_def]
  have hescaped := List.map_congr_left fun run hrun => formatRun_of_isUnmarked (hmerged run hrun)
  rw [hescaped]

/-- Hard breaks hide nothing: what is before a line feed tells the text. -/
theorem breakLines_injective {cs ds : List Char} (h : breakLines cs = breakLines ds) : cs = ds := by
  induction cs using List.reverseRecOn generalizing ds with
  | nil =>
      have hlast := congrArg List.getLast? h
      rw [getLast?_breakLines, getLast?_breakLines] at hlast
      exact (List.getLast?_eq_none_iff.mp hlast.symm).symm
  | append_singleton cs c ih =>
      have hlast := congrArg List.getLast? h
      rw [getLast?_breakLines, getLast?_breakLines, List.getLast?_concat] at hlast
      obtain ⟨front, rfl⟩ := List.getLast?_eq_some_iff.mp hlast.symm
      rw [breakLines_append, breakLines_append] at h
      rw [ih (List.append_cancel_right h)]

/-- **Runs without markers are written as one run of their whole text exactly when no construct straddles a change of
formatting.** -/
theorem inlineText_cut_iff (settings : ExportSettings) (doc : Document) (order : NoteOrder) {runs : List Run}
    {whole : Run} (hruns : ∀ run ∈ runs, isUnmarked settings run = true) (hwhole : isUnmarked settings whole = true)
    (htext : whole.text.toList = charsOf runs) :
    (inlineText settings doc order runs).1 = (inlineText settings doc order [whole]).1 ↔
      ∀ front before behind back, runs = front ++ before :: behind :: back → before.properties ≠ behind.properties →
        ¬ Straddles (charsOf (front ++ [before])) (charsOf (behind :: back)) := by
  have htexts : ∀ runs : List Run, (runs.map (·.text.toList)).flatten = charsOf runs := fun runs =>
    List.flatMap_def.symm
  have hone : ((mergeRuns [whole]).map (·.text.toList)).flatMap escapeInline = escapeInline (charsOf runs) := by
    rw [← htext]
    exact List.append_nil _
  have hcuts := flatMap_escapeInline_iff ((mergeRuns runs).map (·.text.toList))
  rw [htexts, charsOf_mergeRuns] at hcuts
  rw [inlineText_of_isUnmarked hruns, inlineText_of_isUnmarked (List.forall_mem_singleton.mpr hwhole), hone]
  constructor
  · rintro h front before behind back rfl hne
    have hclean := hcuts.mp (breakLines_injective h) _ _
      ((congrArg (List.map _) (mergeRuns_cut hne front back)).trans List.map_append)
    rwa [htexts, htexts, charsOf_mergeRuns, charsOf_mergeRuns] at hclean
  · intro h
    refine congrArg breakLines (hcuts.mpr fun front back hsplit => ?_)
    obtain ⟨first, others, hmerged, rfl, rfl⟩ := List.map_eq_append_iff.mp hsplit
    rw [htexts, htexts]
    by_cases hfirst : first = []
    · rw [hfirst]
      exact not_straddles_nil _
    by_cases hothers : others = []
    · rw [hothers]
      exact not_straddles_blank (fun c hc => absurd hc List.not_mem_nil) _
    cases runs with
    | nil => exact absurd (List.append_eq_nil_iff.mp hmerged.symm).1 hfirst
    | cons run rest =>
        have htext : ∀ other ∈ run :: rest, isTextRun other = true := fun other hother =>
          isTextRun_of_isUnmarked (hruns other hother)
        obtain ⟨before', before, behind, behind', hruns', hne, hbefore, hbehind⟩ :=
          cut_of_mergeAfter htext hmerged hfirst hothers
        rw [← hbefore, ← hbehind]
        exact h before' before behind behind' hruns' hne

theorem inlineText_cut_emphasis :
    (inlineText {} {} [] [{ text := "2 * ", properties := { fontColor := some "FF0000" } }, { text := "a[b]" }]).1 =
      (inlineText {} {} [] [{ text := "2 * a[b]" }]).1 := by
  refine (inlineText_cut_iff {} {} [] (by decide) (by decide) (by decide)).mpr ?_
  intro front before behind back hsplit hne
  cases front with
  | nil =>
      obtain ⟨rfl, hrest⟩ := List.cons.inj hsplit
      obtain ⟨rfl, rfl⟩ := List.cons.inj hrest
      decide
  | cons run front =>
      have hlength := congrArg List.length hsplit
      simp only [List.length_cons, List.length_append, List.length_nil] at hlength
      omega

/-- The cut stands within an entity, which neither run has as a whole. -/
theorem inlineText_cut_entity :
    isUnmarked {} { text := "&", properties := { fontColor := some "FF0000" } } = true ∧
      isUnmarked {} { text := "amp;" } = true ∧ isUnmarked {} { text := "&amp;" } = true ∧
      String.ofList (inlineText {} {} [] [{ text := "&", properties := { fontColor := some "FF0000" } },
        { text := "amp;" }]).1 = "&amp;" ∧
      String.ofList (inlineText {} {} [] [{ text := "&amp;" }]).1 = "\\&amp;" := by decide

end Folio.Markdown
