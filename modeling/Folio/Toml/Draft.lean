import Folio.Toml.Value

/-!
# Tables under construction

The parts of a TOML text add to one table. What has been put in place may not be put again: a key
has one value, a header opens a table once, and a table made by a dotted key belongs to the table
that the key stands in. A table that only the headers of its own tables have told of may still be
opened.
-/

namespace Folio.Toml

/-- How a table came about. -/
inductive Origin where
  /-- By a header of its own. -/
  | header
  /-- By the header of a table inside it. -/
  | implied
  /-- By a dotted key. -/
  | dotted
  deriving DecidableEq, Repr

/-- What stands under a key so far. -/
inductive Draft where
  | value (value : Toml)
  | table (origin : Origin) (members : List (String × Draft))
  /-- The tables that equal headers have opened one after the other. -/
  | rows (tables : List (List (String × Draft)))
  deriving Inhabited

/-- A table under construction. -/
abbrev Members := List (String × Draft)

namespace Members

/-- What stands under a key. -/
def find? (members : Members) (key : String) : Option Draft := List.lookup key members

/-- The members with another draft under a key. -/
def put (members : Members) (key : String) (draft : Draft) : Members :=
  match members with
  | [] => [(key, draft)]
  | (name, old) :: rest =>
    if name = key then (key, draft) :: rest else (name, old) :: put rest key draft

/-- Changes what stands under a key, unless that is refused. -/
def change (members : Members) (key : String) (f : Option Draft → Option Draft) :
    Option Members :=
  (f (members.find? key)).map (members.put key)

/-- Gives a value to a dotted key: the tables on the way may not have been opened by a header, and
the last one belongs to dotted keys alone. -/
def insert : List String → String → Toml → Members → Option Members
  | [], key, value, members =>
    members.change key fun
      | none => some (.value value)
      | some _ => none
  | step :: path, key, value, members =>
    members.change step fun
      | none => (insert path key value []).map (.table .dotted)
      | some (.table .dotted inner) => (insert path key value inner).map (.table .dotted)
      | some (.table .implied inner) =>
        if path.isEmpty then none else (insert path key value inner).map (.table .implied)
      | some (.rows tables) =>
        match path, tables.getLast? with
        | _ :: _, some inner =>
          (insert path key value inner).map fun inner => .rows (tables.dropLast ++ [inner])
        | _, _ => none
      | some (.table .header _) => none
      | some (.value _) => none

/-- Gives values to dotted keys in turn. -/
def insertAll (members : Members) (entries : List (List String × String × Toml)) :
    Option Members :=
  entries.foldlM (fun members (path, key, value) => members.insert path key value) members

/-- Changes what stands under a header's key; the last of several equal tables is the one meant. -/
def changeAt : List String → String → (Option Draft → Option Draft) → Members → Option Members
  | [], key, f, members => members.change key f
  | step :: path, key, f, members =>
    members.change step fun
      | none => (changeAt path key f []).map (.table .implied)
      | some (.table origin inner) => (changeAt path key f inner).map (.table origin)
      | some (.rows tables) =>
        match tables.getLast? with
        | some inner => (changeAt path key f inner).map fun inner => .rows (tables.dropLast ++ [inner])
        | none => none
      | some (.value _) => none

end Members

mutual
/-- The value that a draft has become. -/
def Draft.finish : Draft → Toml
  | .value value => value
  | .table _ members => .table (finishMembers members)
  | .rows tables => .list (finishRows tables)

/-- The members of a table once it is complete. -/
def finishMembers : List (String × Draft) → List (String × Toml)
  | [] => []
  | (key, draft) :: rest => (key, draft.finish) :: finishMembers rest

/-- The tables of a list once they are complete. -/
def finishRows : List (List (String × Draft)) → List Toml
  | [] => []
  | members :: rest => .table (finishMembers members) :: finishRows rest
end

end Folio.Toml
