import Folio.Text.Quoted

/-!
# JSON values and faults

The value of a JSON text, and the faults that reading one can find. A fault is about the text
itself (a missing bracket, a bad escape) or about what was found where something else was expected;
its position is the line and the number of bytes before it on that line.
-/

namespace Folio

/-- A JSON value. Numbers that are not integers are kept as they are shown. -/
inductive Json where
  | null
  | bool (value : Bool)
  | nat (value : Nat)
  /-- The integer `-value`. -/
  | neg (value : Nat)
  | real (shown : String)
  | str (value : String)
  | arr (items : List Json)
  | obj (members : List (String × Json))
  deriving Repr, Inhabited

namespace Json

/-- What was found in place of what was expected. -/
inductive Found where
  | null
  | bool (value : Bool)
  | integer (value : Int)
  | real (shown : String)
  | text (value : String)
  | sequence
  | map
  deriving DecidableEq, Repr

/-- The wording of what was found. -/
def Found.message : Found → String
  | .null => "null"
  | .bool true => "boolean `true`"
  | .bool false => "boolean `false`"
  | .integer value => "integer `" ++ toString value ++ "`"
  | .real shown => "floating point `" ++ shown ++ "`"
  | .text value => "string " ++ Text.quote value
  | .sequence => "sequence"
  | .map => "map"

/-- What a value is, for a fault about it. -/
def found : Json → Found
  | .null => .null
  | .bool value => .bool value
  | .nat value => .integer value
  | .neg value => .integer (-value)
  | .real shown => .real shown
  | .str value => .text value
  | .arr _ => .sequence
  | .obj _ => .map

/-- Why a text is no JSON value of the kind wanted. -/
inductive Reason where
  | endInList
  | endInObject
  | endInString
  | endInValue
  | expectedColon
  | expectedListCommaOrEnd
  | expectedObjectCommaOrEnd
  | expectedIdent
  | expectedValue
  | invalidEscape
  | invalidNumber
  | numberOutOfRange
  | controlCharacter
  | keyMustBeString
  | loneSurrogate
  | trailingComma
  | trailingCharacters
  | unexpectedEndOfEscape
  | recursionLimit
  | invalidType (found : Found) (expected : String)
  | invalidValue (found : Found) (expected : String)
  | invalidLength (length : Nat) (expected : String)
  | missingField (name : String)
  | duplicateField (name : String)
  | unknownVariant (name : String) (known : List String)
  deriving DecidableEq, Repr

/-- The text between grave accents. -/
def ticked (name : String) : String := "`" ++ name ++ "`"

/-- The names known, for a fault about an unknown one. -/
def oneOf : List String → String
  | [] => "there are no variants"
  | [a] => "expected " ++ ticked a
  | [a, b] => "expected " ++ ticked a ++ " or " ++ ticked b
  | names => "expected one of " ++ String.intercalate ", " (names.map ticked)

/-- The wording of a reason. -/
def Reason.message : Reason → String
  | .endInList => "EOF while parsing a list"
  | .endInObject => "EOF while parsing an object"
  | .endInString => "EOF while parsing a string"
  | .endInValue => "EOF while parsing a value"
  | .expectedColon => "expected `:`"
  | .expectedListCommaOrEnd => "expected `,` or `]`"
  | .expectedObjectCommaOrEnd => "expected `,` or `\x7d`"
  | .expectedIdent => "expected ident"
  | .expectedValue => "expected value"
  | .invalidEscape => "invalid escape"
  | .invalidNumber => "invalid number"
  | .numberOutOfRange => "number out of range"
  | .controlCharacter => "control character (\\u0000-\\u001F) found while parsing a string"
  | .keyMustBeString => "key must be a string"
  | .loneSurrogate => "lone leading surrogate in hex escape"
  | .trailingComma => "trailing comma"
  | .trailingCharacters => "trailing characters"
  | .unexpectedEndOfEscape => "unexpected end of hex escape"
  | .recursionLimit => "recursion limit exceeded"
  | .invalidType found expected => "invalid type: " ++ found.message ++ ", expected " ++ expected
  | .invalidValue found expected => "invalid value: " ++ found.message ++ ", expected " ++ expected
  | .invalidLength length expected =>
    "invalid length " ++ length.repr ++ ", expected " ++ expected
  | .missingField name => "missing field " ++ ticked name
  | .duplicateField name => "duplicate field " ++ ticked name
  | .unknownVariant name known => "unknown variant " ++ ticked name ++ ", " ++ oneOf known

/-- A place in a text: the line, from one, and the number of bytes before the place on it. -/
structure Position where
  line : Nat
  column : Nat
  deriving DecidableEq, Repr

/-- A fault; one about what was found gets its position from where the value ends. -/
structure Fault where
  reason : Reason
  position : Option Position := none
  deriving DecidableEq, Repr

/-- The fault at a position, unless it has one already. -/
def Fault.at (fault : Fault) (position : Position) : Fault :=
  match fault.position with
  | some _ => fault
  | none => { fault with position := some position }

/-- The wording of a fault with its position. -/
def Fault.message (fault : Fault) : String :=
  match fault.position with
  | some p =>
    fault.reason.message ++ " at line " ++ p.line.repr ++ " column " ++ p.column.repr
  | none => fault.reason.message

end Json
end Folio
