import Folio.Config.Value
import Folio.Text.Digits

/-!
# Paths to configuration values

A path such as `export.code_fonts[0]` names a value inside tables and lists. Setting a value makes
the tables and lists on the way to it, in place of anything else that is there. Keys are told apart
without regard to case. A table that is set is merged into the one that is there.
-/

namespace Folio.Config

/-- One step of a path. -/
inductive Step where
  | key (name : String)
  /-- An item of a list; from the end, if the index is negative. -/
  | item (index : Int)
  deriving DecidableEq, Repr

/-- A path to a value: a key of the whole table, then steps inside. -/
structure KeyPath where
  first : String
  steps : List Step := []
  deriving DecidableEq, Repr

namespace KeyPath

/-- A character of a key in a path. -/
def isKeyChar (c : Char) : Bool := c.isAlphanum || c == ' ' || c == '_' || c == '-'

/-- The index between two brackets, with blanks around it. -/
def index? (cs : List Char) : Option (Int × List Char) :=
  let isSpace (c : Char) := c == ' ' || c == '\t'
  let cs := cs.dropWhile isSpace
  let (negative, cs) := match cs with
    | '-' :: rest => (true, rest)
    | _ => (false, cs)
  let digits := cs.takeWhile Char.isDigit
  match digits, (cs.dropWhile Char.isDigit).dropWhile isSpace with
  | _ :: _, ']' :: rest =>
    let n : Int := (Text.ofDigits? 10 0 digits).getD 0
    let n := if negative then -n else n
    if -0x8000000000000000 ≤ n ∧ n ≤ 0x7FFFFFFFFFFFFFFF then some (n, rest) else none
  | _, _ => none

/-- The steps that a text goes on with, at most `fuel` of them. -/
def steps? : Nat → List Char → Option (List Step)
  | _, [] => some []
  | fuel + 1, '.' :: cs =>
    match cs.takeWhile isKeyChar with
    | [] => none
    | name => (steps? fuel (cs.dropWhile isKeyChar)).map (.key (String.ofList name) :: ·)
  | fuel + 1, '[' :: cs =>
    match index? cs with
    | some (index, rest) => (steps? fuel rest).map (.item index :: ·)
    | none => none
  | _, _ :: _ => none

/-- The path that a text writes. -/
def ofText? (text : String) : Option KeyPath :=
  let cs := text.toList
  match cs.takeWhile isKeyChar with
  | [] => none
  | first => (steps? cs.length (cs.dropWhile isKeyChar)).map fun steps =>
      { first := String.ofList first, steps }

end KeyPath

/-- The form in which keys are told apart. -/
def foldKey (key : String) : String := String.ofList (Unicode.lowercase key.toList)

namespace Table

/-- The table with a value under a key. -/
def assign (table : Table) (key : String) (value : Value) : Table :=
  match table with
  | [] => [(key, value)]
  | (name, old) :: rest =>
    if name = key then (key, value) :: rest else (name, old) :: assign rest key value

end Table

/-- The members of a value, of which only a table has any. -/
def Value.members : Value → Table
  | .table members => members
  | _ => []

/-- The items of a value, of which only a list has any. -/
def Value.items : Value → List Value
  | .list items => items
  | _ => []

mutual
/-- Puts a value under a key; a table is merged into what is there. -/
def Table.put (table : Table) (key : String) : Value → Table
  | .table members =>
    let target := (List.lookup (foldKey key) table).getD (.table [])
    table.assign (foldKey key) (Value.mergeMembers target members)
  | .nothing => table.assign (foldKey key) .nothing
  | .flag value => table.assign (foldKey key) (.flag value)
  | .integer value => table.assign (foldKey key) (.integer value)
  | .real value => table.assign (foldKey key) (.real value)
  | .text value => table.assign (foldKey key) (.text value)
  | .list items => table.assign (foldKey key) (.list items)

/-- Puts members into a value, which becomes a table if there are any. -/
def Value.mergeMembers (target : Value) : List (String × Value) → Value
  | [] => target
  | (key, value) :: rest => Value.mergeMembers (.table (Table.put target.members key value)) rest
end

/-- The place in a list of the given length that an index means. -/
def placeOf (index : Int) (length : Nat) : Nat :=
  if 0 ≤ index then index.toNat else length - index.natAbs

/-- Changes an item of a list, which is filled up to it. -/
def changeItem (items : List Value) (index : Int) (f : Value → Value) : List Value :=
  let place := placeOf index items.length
  let filled := items ++ List.replicate (place + 1 - items.length) .nothing
  filled.modify place f

/-- Sets a value at the end of some steps. -/
def Value.setAt (value : Value) (new : Value) : List Step → Value
  | [] => new
  | [.key name] => .table (value.members.put name new)
  | .key name :: rest =>
    let key := foldKey name
    let inner := (List.lookup key value.members).getD .nothing
    .table (value.members.assign key (inner.setAt new rest))
  | .item index :: rest => .list (changeItem value.items index (·.setAt new rest))

/-- Sets a value at a path. -/
def Table.set (table : Table) (path : KeyPath) (new : Value) : Table :=
  ((Value.table table).setAt new (.key path.first :: path.steps)).members

/-- The table with the members of another one set in it; a key that is no path is a key as it is. -/
def Table.overlay (table : Table) (above : List (String × Value)) : Table :=
  above.foldl (fun table (key, value) =>
    table.set ((KeyPath.ofText? key).getD { first := key }) value) table

end Folio.Config
