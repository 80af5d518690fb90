import Folio.Proofs.Math.Constructs
import Folio.Proofs.Text.Backslashes
import Mathlib.Data.List.Chain
import Mathlib.Logic.ExistsUnique

/-!
# The commands of a text

A text is characters and commands in a row: a backslash with as many letters as there are, or with one other character.
It can be cut in no other way, and each command is replaced on its own.

* `Lexeme` : a character or a command;
* `Apart`, `textOf` : no name goes on with the character behind it; the text that lexemes make;
* `takeLexeme` : what a text begins with is told by the text alone;
* `substitute_lexemes` : lexemes are replaced one by one, and every text is made of lexemes in one way unless its last
  backslash is left without a character.
-/

namespace Folio.Math
open Text (Paired paired_nil paired_singleton paired_escape paired_of_getLast?)

/-- What a text is made of. -/
inductive Lexeme where
  /-- A character that stands for itself. -/
  | char (c : Char) (plain : c ≠ '\\')
  /-- A backslash and a name. -/
  | word (name : List Char) (nonempty : name ≠ []) (letters : ∀ c ∈ name, c.isAlpha = true)
  /-- A backslash and a character that is no letter. -/
  | sign (c : Char) (other : c.isAlpha = false)

/-- The lexeme as it is written. -/
def Lexeme.text : Lexeme → List Char
  | .char c _ => [c]
  | .word name _ _ => '\\' :: name
  | .sign c _ => ['\\', c]

/-- What the lexeme is replaced by: a character stays, and so does a command without a symbol. -/
def Lexeme.replacement : Lexeme → List Char
  | .char c _ => [c]
  | .word name _ _ => (lookupSymbol (String.ofList ('\\' :: name))).elim ('\\' :: name) String.toList
  | .sign c _ => (lookupSymbol (String.ofList ['\\', c])).elim ['\\', c] String.toList

/-- No name goes on with a letter behind it. -/
def Lexeme.Apart : Lexeme → Lexeme → Prop
  | .word _ _ _, .char c _ => c.isAlpha = false
  | _, _ => True

/-- The text that lexemes make. -/
def textOf (lexemes : List Lexeme) : List Char := lexemes.flatMap Lexeme.text

/-! ## What a text begins with -/

/-- What stands for the first lexeme of a text, and what is behind it. -/
def takeLexeme : List Char → List Char × List Char
  | [] => ([], [])
  | c :: cs => if c = '\\' then readCommand c cs else ([c], cs)

theorem readCommand_append_sign {c : Char} (hc : c.isAlpha = false) (cs : List Char) :
    readCommand '\\' (c :: cs) = (['\\', c], cs) := by
  unfold readCommand readName
  rw [List.takeWhile_cons_of_neg (by simp [hc])]
  rfl

/-- Behind a name stands no letter. -/
theorem head?_textOf {name : List Char} {nonempty : name ≠ []} {letters : ∀ c ∈ name, c.isAlpha = true}
    {rest : List Lexeme} (h : (Lexeme.word name nonempty letters :: rest).IsChain Lexeme.Apart) :
    ∀ c ∈ (textOf rest).head?, c.isAlpha = false := by
  intro c hc
  cases rest with
  | nil => cases hc
  | cons next rest =>
      have hapart := (List.isChain_cons.mp h).1 next rfl
      cases next with
      | char d plain =>
          cases hc
          exact hapart
      | word | sign =>
          cases hc
          decide

theorem textOf_cons (lexeme : Lexeme) (rest : List Lexeme) : textOf (lexeme :: rest) = lexeme.text ++ textOf rest :=
  List.flatMap_cons

/-- The text tells its first lexeme. -/
theorem takeLexeme_textOf {lexeme : Lexeme} {rest : List Lexeme} (h : (lexeme :: rest).IsChain Lexeme.Apart) :
    takeLexeme (textOf (lexeme :: rest)) = (lexeme.text, textOf rest) := by
  rw [textOf_cons]
  cases lexeme with
  | char c plain => exact if_neg plain
  | word name nonempty letters => exact readCommand_append_name nonempty letters (head?_textOf h)
  | sign c other => exact readCommand_append_sign other (textOf rest)

theorem Lexeme.text_ne_nil (lexeme : Lexeme) : lexeme.text ≠ [] := by
  cases lexeme <;> exact List.cons_ne_nil _ _

/-- A lexeme is what is written. -/
theorem Lexeme.text_injective : Function.Injective Lexeme.text := by
  have hsign : ∀ {c : Char} {name : List Char}, (∀ d ∈ name, d.isAlpha = true) → c.isAlpha = false → name ≠ [c] := by
    rintro c name hletters hc rfl
    rw [hletters c (List.mem_singleton_self c)] at hc
    cases hc
  intro first second h
  cases first with
  | char c plain =>
      cases second with
      | char d _ =>
          obtain ⟨rfl, -⟩ := List.cons.inj h
          rfl
      | word | sign => exact absurd (List.cons.inj h).1 plain
  | word name nonempty letters =>
      cases second with
      | char d plain => exact absurd (List.cons.inj h).1.symm plain
      | word other _ _ =>
          obtain ⟨-, rfl⟩ := List.cons.inj h
          rfl
      | sign d hd => exact absurd (List.cons.inj h).2 (hsign letters hd)
  | sign c hc =>
      cases second with
      | char d plain => exact absurd (List.cons.inj h).1.symm plain
      | word other _ letters => exact absurd (List.cons.inj h).2.symm (hsign letters hc)
      | sign d _ =>
          obtain ⟨-, htail⟩ := List.cons.inj h
          obtain ⟨rfl, -⟩ := List.cons.inj htail
          rfl

/-- A text is made of lexemes in at most one way. -/
theorem textOf_inj {first second : List Lexeme} (hfirst : first.IsChain Lexeme.Apart)
    (hsecond : second.IsChain Lexeme.Apart) (h : textOf first = textOf second) : first = second := by
  have hnil : ∀ (lexeme : Lexeme) (rest : List Lexeme), textOf (lexeme :: rest) ≠ [] := by
    intro lexeme rest hempty
    exact lexeme.text_ne_nil (List.append_eq_nil_iff.mp hempty).1
  induction first generalizing second with
  | nil =>
      cases second with
      | nil => rfl
      | cons lexeme rest => exact absurd h.symm (hnil lexeme rest)
  | cons lexeme rest ih =>
      cases second with
      | nil => exact absurd h (hnil lexeme rest)
      | cons other others =>
          have hboth := congrArg takeLexeme h
          rw [takeLexeme_textOf hfirst, takeLexeme_textOf hsecond] at hboth
          obtain ⟨htext, hbehind⟩ := Prod.mk.inj hboth
          rw [Lexeme.text_injective htext, ih (List.isChain_cons.mp hfirst).2 (List.isChain_cons.mp hsecond).2 hbehind]

/-! ## Where a text can be cut -/

/-- The backslashes of a lexeme are paired, for the last character of a command belongs to its backslash. -/
theorem Lexeme.paired_text (lexeme : Lexeme) : Paired lexeme.text := by
  cases lexeme with
  | char c plain => exact paired_singleton plain
  | word name nonempty letters =>
      apply paired_of_getLast?
      intro hlast
      have hmem : '\\' ∈ name := by
        rw [Lexeme.text, List.getLast?_cons, List.getLast?_eq_some_getLast nonempty, Option.getD_some] at hlast
        exact Option.some.inj hlast ▸ List.getLast_mem nonempty
      exact absurd (letters _ hmem) (by decide)
  | sign c _ => exact paired_escape c

theorem paired_textOf (lexemes : List Lexeme) : Paired (textOf lexemes) := by
  induction lexemes with
  | nil => exact paired_nil
  | cons lexeme rest ih =>
      rw [textOf_cons]
      exact (lexeme.paired_text.append_iff _).mpr ih

/-- A text whose backslashes are paired begins with a lexeme, whose name does not go on behind it. -/
theorem exists_lexeme {c : Char} {cs : List Char} (h : Paired (c :: cs)) :
    ∃ (lexeme : Lexeme) (rest : List Char), c :: cs = lexeme.text ++ rest ∧
      ∀ next others, textOf (next :: others) = rest → lexeme.Apart next := by
  by_cases hc : c = '\\'
  · subst hc
    cases cs with
    | nil => exact absurd h (by decide)
    | cons d cs =>
        cases hletter : d.isAlpha with
        | false => exact ⟨.sign d hletter, cs, rfl, fun _ _ _ => trivial⟩
        | true =>
            have hname : (d :: cs).takeWhile Char.isAlpha ≠ [] := by
              rw [List.takeWhile_cons_of_pos hletter]
              exact List.cons_ne_nil _ _
            refine ⟨.word _ hname fun e he => List.mem_takeWhile_imp he, (d :: cs).dropWhile Char.isAlpha, ?_, ?_⟩
            · exact congrArg ('\\' :: ·) List.takeWhile_append_dropWhile.symm
            · intro next others hrest
              have hhead := List.head?_dropWhile_not Char.isAlpha (d :: cs)
              rw [← hrest] at hhead
              cases next with
              | char e plain => exact hhead
              | word | sign => trivial
  · exact ⟨.char c hc, cs, rfl, fun _ _ _ => trivial⟩

theorem exists_lexemes {cs : List Char} (h : Paired cs) :
    ∃ lexemes : List Lexeme, lexemes.IsChain Lexeme.Apart ∧ textOf lexemes = cs := by
  induction hlength : cs.length using Nat.strongRecOn generalizing cs with
  | ind n ih =>
      subst hlength
      cases cs with
      | nil => exact ⟨[], .nil, rfl⟩
      | cons c cs =>
          obtain ⟨lexeme, rest, hcut, hapart⟩ := exists_lexeme h
          have hshorter : rest.length < (c :: cs).length := by
            have hpos := List.length_pos_iff.mpr lexeme.text_ne_nil
            rw [hcut, List.length_append]
            omega
          rw [hcut, lexeme.paired_text.append_iff] at h
          obtain ⟨lexemes, hchain, htext⟩ := ih _ hshorter h rfl
          refine ⟨lexeme :: lexemes, ?_, ?_⟩
          · refine List.isChain_cons.mpr ⟨fun next hnext => ?_, hchain⟩
            obtain ⟨others, rfl⟩ := List.head?_eq_some_iff.mp hnext
            exact hapart next others htext
          · rw [textOf_cons, htext, hcut]

/-! ## Replacement -/

theorem symbolOrSelf_eq (command : List Char) :
    symbolOrSelf command = (lookupSymbol (String.ofList command)).elim command String.toList := by
  unfold symbolOrSelf
  cases lookupSymbol (String.ofList command) <;> rfl

/-- A command is replaced, and then what is behind it. -/
theorem substitute_command {command cs rest : List Char} (h : readCommand '\\' cs = (command, rest)) :
    substitute ('\\' :: cs) =
      (lookupSymbol (String.ofList command)).elim command String.toList ++ substitute rest := by
  rw [substitute, if_pos rfl, h, symbolOrSelf_eq]

theorem substitute_textOf {lexemes : List Lexeme} (h : lexemes.IsChain Lexeme.Apart) :
    substitute (textOf lexemes) = lexemes.flatMap Lexeme.replacement := by
  induction lexemes with
  | nil =>
      rw [textOf, List.flatMap_nil, List.flatMap_nil, substitute]
  | cons lexeme rest ih =>
      have hrest := ih (List.isChain_cons.mp h).2
      rw [textOf_cons, List.flatMap_cons, ← hrest]
      cases lexeme with
      | char c plain =>
          rw [Lexeme.text, List.singleton_append, substitute, if_neg plain]
          rfl
      | word name nonempty letters =>
          exact substitute_command (readCommand_append_name nonempty letters (head?_textOf h))
      | sign c other => exact substitute_command (readCommand_append_sign other (textOf rest))

/-- Lexemes in a row, no name of them going on in a letter, are replaced one by one. A text is made of such lexemes in
exactly one way if the backslashes at its end are paired, and in no way otherwise. -/
theorem substitute_lexemes :
    (∀ lexemes : List Lexeme, lexemes.IsChain Lexeme.Apart →
      substitute (textOf lexemes) = lexemes.flatMap Lexeme.replacement) ∧
    ∀ cs : List Char, Paired cs ↔ ∃! lexemes : List Lexeme, lexemes.IsChain Lexeme.Apart ∧ textOf lexemes = cs := by
  refine ⟨fun lexemes h => substitute_textOf h, fun cs => ⟨fun h => ?_, ?_⟩⟩
  · obtain ⟨lexemes, hchain, htext⟩ := exists_lexemes h
    exact ⟨lexemes, ⟨hchain, htext⟩, fun others hothers =>
      textOf_inj hothers.1 hchain (hothers.2.trans htext.symm)⟩
  · rintro ⟨lexemes, ⟨-, rfl⟩, -⟩
    exact paired_textOf lexemes

/-- A name ends at a backslash, and a sign takes one character whatever follows. -/
theorem substitute_lexemes_mixed :
    let lexemes : List Lexeme := [.word "alpha".toList (by decide) (List.all_eq_true.mp rfl), .sign '\\' rfl,
      .char 'i' (by decide), .char 'n' (by decide), .word "in".toList (by decide) (List.all_eq_true.mp rfl),
      .word "foo".toList (by decide) (List.all_eq_true.mp rfl)]
    lexemes.IsChain Lexeme.Apart ∧ textOf lexemes = "\\alpha\\\\in\\in\\foo".toList ∧
      substitute (textOf lexemes) = "α\\\\in∈\\foo".toList := by
  intro lexemes
  have hchain : lexemes.IsChain Lexeme.Apart := by
    refine .cons_cons trivial (.cons_cons trivial (.cons_cons trivial (.cons_cons trivial (.cons_cons trivial ?_))))
    exact .singleton _
  exact ⟨hchain, rfl, (substitute_lexemes.1 lexemes hchain).trans (by decide)⟩

end Folio.Math
