import Folio.Text.Edges
import Folio.Text.Lines

/-!
# Front matter

A metadata block stands between two delimiter lines at the start of a text. Each of its lines is a
key and a value with a colon between them; a value may stand in quotes. Blank lines, comments and
the delimiters say nothing.
-/

namespace Folio.Markdown.FrontMatter
open Text (trim)

/-- The line before and after a metadata block. -/
def delimiter : List Char := ['-', '-', '-']

/-- A value without the quotes that stand around it. -/
def unquoted (quote : Char) (value : List Char) : Option (List Char) :=
  match value with
  | c :: rest => if c = quote ∧ rest.getLast? = some quote then some rest.dropLast else none
  | [] => none

/-- A value without its quotes, double or single. -/
def unquote (value : List Char) : List Char :=
  match unquoted '"' value with
  | some inner => inner
  | none => (unquoted '\'' value).getD value

/-- The key and the value on a line. -/
def entry? (line : List Char) : Option (List Char × List Char) :=
  let line := trim line
  if line.isEmpty || line == delimiter || line.head? == some '#' then none
  else
    match line.dropWhile (· != ':') with
    | ':' :: value =>
      let key := trim (line.takeWhile (· != ':'))
      if key.isEmpty then none else some (key, unquote (trim value))
    | _ => none

/-- The entries of a metadata block, in order. -/
def entries (raw : List Char) : List (List Char × List Char) := (Text.lines raw).filterMap entry?

end Folio.Markdown.FrontMatter
