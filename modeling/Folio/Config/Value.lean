import Folio.Decimal.Nearest
import Folio.Toml.Value
import Folio.Text.Digits
import Folio.Unicode.Lowercase

/-!
# Configuration values

A value of a configuration comes from a file or from a command line, where everything is a text; so
a value is taken for what is wanted of it as far as it can be: flags are also told by numbers and
words, numbers by texts and flags, texts by numbers and flags.
-/

namespace Folio.Config

/-- Why there is no configuration. -/
inductive Fault where
  /-- A key is no path to a value. -/
  | malformedKey (key : String)
  /-- A file cannot be read. -/
  | unreadableFile (path : String)
  /-- A file is not TOML. -/
  | malformedFile (path : String)
  /-- A value cannot be taken for what is wanted. -/
  | unsuitable (expected : String)
  /-- A value is not built as is wanted. -/
  | misshapen (expected : String)
  | missing (key : String)
  deriving DecidableEq, Repr

/-- The wording of a fault. -/
def Fault.message : Fault → String
  | .malformedKey key => "malformed configuration key '" ++ key ++ "'"
  | .unreadableFile path => "configuration file '" ++ path ++ "' cannot be read"
  | .malformedFile path => "configuration file '" ++ path ++ "' is not TOML"
  | .unsuitable expected => "invalid value, expected " ++ expected
  | .misshapen expected => "invalid type, expected " ++ expected
  | .missing key => "missing configuration key '" ++ key ++ "'"

/-- A configuration value. -/
inductive Value where
  /-- What fills a list up to an item that is set. -/
  | nothing
  | flag (value : Bool)
  | integer (value : Int)
  | real (value : Float)
  | text (value : String)
  | list (items : List Value)
  | table (members : List (String × Value))
  deriving Repr, Inhabited

/-- The members of a configuration table. -/
abbrev Table := List (String × Value)

namespace Value

mutual
/-- The configuration value of a TOML value; dates and times are texts. -/
def ofToml : Toml → Value
  | .text value => .text value
  | .integer value => .integer value
  | .real value => .real value
  | .bool value => .flag value
  | .moment shown => .text shown
  | .list items => .list (ofTomlItems items)
  | .table members => .table (ofTomlMembers members)

/-- The configuration values of the items of a list. -/
def ofTomlItems : List Toml → List Value
  | [] => []
  | item :: rest => ofToml item :: ofTomlItems rest

/-- The configuration values of the members of a table. -/
def ofTomlMembers : List (String × Toml) → Table
  | [] => []
  | (key, value) :: rest => (key, ofToml value) :: ofTomlMembers rest
end

/-! ## Taking values for what is wanted -/

/-- The words for a flag, in any case. -/
def flagWord? (word : String) : Option Bool :=
  match String.ofList (Unicode.lowercase word.toList) with
  | "true" | "on" | "yes" => some true
  | "false" | "off" | "no" => some false
  | _ => none

/-- The words and digits for a flag. -/
def flagText? (text : String) : Option Bool :=
  match text with
  | "1" => some true
  | "0" => some false
  | _ => flagWord? text

/-- A flag. -/
def toFlag : Value → Except Fault Bool
  | .flag value => .ok value
  | .integer value => .ok (value != 0)
  | .real value => .ok (value != 0.0)
  | .text value =>
    match flagText? value with
    | some told => .ok told
    | none => .error (.unsuitable "a boolean")
  | .nothing | .list _ | .table _ => .error (.unsuitable "a boolean")

/-- The number that a text of decimal digits writes, which may begin with a plus. -/
def naturalText? (text : String) : Option Nat :=
  let digits := match text.toList with
    | '+' :: digits => digits
    | digits => digits
  if digits.isEmpty then none else Text.ofDigits? 10 0 digits

/-- The whole number nearest to a number, at least zero and below `2^64`. -/
def nearestNatural (x : Float) : Nat := x.round.toUInt64.toNat

/-- A number up to a limit. -/
def toNatural (limit : Nat) (value : Value) : Except Fault Nat :=
  let found : Option Nat := match value with
    | .integer value => if value < 0 then none else some value.toNat
    | .flag value => some value.toNat
    | .real value => some (nearestNatural value)
    | .text value => (flagWord? value).elim (naturalText? value) (some ·.toNat)
    | .nothing | .list _ | .table _ => none
  match found with
  | some n => if n ≤ limit then .ok n else .error (.unsuitable "a smaller integer")
  | none => .error (.unsuitable "an unsigned integer")

/-- A text. -/
def toText : Value → Except Fault String
  | .text value => .ok value
  | .flag value => .ok (if value then "true" else "false")
  | .integer value => .ok value.repr
  | .real value => .ok (Decimal.showPositional value)
  | .nothing | .list _ | .table _ => .error (.unsuitable "a string")

/-- A single character, which only a text can be. -/
def toChar : Value → Except Fault Char
  | .text value =>
    match value.toList with
    | [c] => .ok c
    | _ => .error (.misshapen "a character")
  | _ => .error (.misshapen "a character")

/-- A list of texts. -/
def toTexts : Value → Except Fault (List String)
  | .list items => items.mapM toText
  | _ => .error (.misshapen "a sequence")

/-- A value that may be left out. -/
def toOption (decode : Value → Except Fault α) : Value → Except Fault (Option α)
  | .nothing => .ok none
  | value => some <$> decode value

/-- The members that a record is read from; a list gives them in the order of their keys. -/
def toRecord (keys : List String) : Value → Except Fault Table
  | .table members => .ok members
  | .list items => .ok (keys.zip items)
  | _ => .error (.misshapen "a table")

end Value

/-- The value of a key, if it is there. -/
def Table.field? (table : Table) (key : String) (decode : Value → Except Fault α) :
    Except Fault (Option α) :=
  match List.lookup key table with
  | some value => some <$> decode value
  | none => .ok none

/-- The value of a key that has to be there. -/
def needed (key : String) : Option α → Except Fault α
  | some value => .ok value
  | none => .error (.missing key)

end Folio.Config
