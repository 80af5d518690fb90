import Folio.Math.Symbols

/-!
# Commands in running text

A command is a backslash followed by as many ASCII letters as there are or, when there is none, by
one other character. Commands are matched by their full name, so a short name never fires inside a
longer one; commands without a known symbol stay as they are written.

* `readCommand_append`: the command and the rest in a row are the text that was read.
-/

namespace Folio.Math

/-- The text a command stands for. -/
def lookupSymbol (command : String) : Option String := Symbols.all.lookup command

/-- The name of the command after its backslash, and the rest of the text. -/
def readName (cs : List Char) : List Char × List Char :=
  match cs.takeWhile Char.isAlpha with
  | [] => (cs.take 1, cs.drop 1)
  | name => (name, cs.dropWhile Char.isAlpha)

/-- The command that begins with `first`, which is its backslash, and the rest of the text. -/
def readCommand (first : Char) (cs : List Char) : List Char × List Char :=
  let (name, rest) := readName cs
  (first :: name, rest)

theorem readName_append (cs : List Char) : (readName cs).1 ++ (readName cs).2 = cs := by
  unfold readName
  split
  · exact List.take_append_drop 1 cs
  · exact List.takeWhile_append_dropWhile

theorem readCommand_append (c : Char) (cs : List Char) :
    (readCommand c cs).1 ++ (readCommand c cs).2 = c :: cs := by
  simp [readCommand, readName_append]

theorem length_readCommand_le (c : Char) (cs : List Char) :
    (readCommand c cs).2.length ≤ cs.length := by
  have h := congrArg List.length (readName_append cs)
  simp only [List.length_append] at h
  simp only [readCommand]
  omega

/-- What a command is replaced by: its symbol, or itself when it has none. -/
def symbolOrSelf (command : List Char) : List Char :=
  match lookupSymbol (String.ofList command) with
  | some symbol => symbol.toList
  | none => command

/-- The text with every known command replaced by its symbol. -/
def substitute : List Char → List Char
  | [] => []
  | c :: cs =>
    if c = '\\' then
      symbolOrSelf (readCommand c cs).1 ++ substitute (readCommand c cs).2
    else c :: substitute cs
  termination_by cs => cs.length
  decreasing_by
    · have := length_readCommand_le c cs
      simp; omega
    · simp

end Folio.Math
