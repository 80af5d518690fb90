import Folio.Json.Value

/-!
# A place in a JSON text

Reading keeps the rest of the text and the position reached. A fault does not undo what has been
read: what follows it (such as the closing bracket of the list it stands in) may move its position.
-/

namespace Folio.Json

/-- The rest of a text with the position it begins at. -/
structure Cursor where
  rest : List Char
  line : Nat := 1
  column : Nat := 0
  deriving Repr

/-- The position reached. -/
def Cursor.position (cursor : Cursor) : Position := ⟨cursor.line, cursor.column⟩

/-- The cursor after the next character. -/
def Cursor.advance (cursor : Cursor) : Cursor :=
  match cursor.rest with
  | [] => cursor
  | '\n' :: rest => { rest, line := cursor.line + 1, column := 0 }
  | c :: rest => { rest, line := cursor.line, column := cursor.column + c.utf8Size }

/-- The position one byte on, which names the next character. -/
def Cursor.nextPosition (cursor : Cursor) : Position :=
  match cursor.rest with
  | [] => cursor.position
  | '\n' :: _ => ⟨cursor.line + 1, 0⟩
  | _ :: _ => ⟨cursor.line, cursor.column + 1⟩

/-- The position `count` bytes on. -/
def Cursor.positionAfter (cursor : Cursor) : Nat → Position
  | 0 => cursor.position
  | count + 1 =>
    match cursor.rest with
    | [] => cursor.position
    | c :: _ =>
      if count + 1 ≤ c.utf8Size then
        if c = '\n' then ⟨cursor.line + 1, 0⟩ else ⟨cursor.line, cursor.column + (count + 1)⟩
      else cursor.advance.positionAfter (count + 1 - c.utf8Size)
  termination_by count => count
  decreasing_by
    have := c.utf8Size_pos
    omega

/-- Reading moves a cursor and ends with a value or a fault. -/
abbrev Reader := ExceptT Fault (StateM Cursor)

namespace Reader

/-- The next character. -/
def peek : Reader (Option Char) := return (← get).rest.head?

/-- Passes the next character. -/
def skip : Reader Unit := modify Cursor.advance

/-- Passes the next character and gives it. -/
def next : Reader (Option Char) := do
  let c ← peek
  skip
  return c

/-- A fault at the position reached. -/
def failHere {α : Type} (reason : Reason) : Reader α := do
  let cursor ← get
  throw ⟨reason, some cursor.position⟩

/-- A fault at the next character. -/
def failNext {α : Type} (reason : Reason) : Reader α := do
  let cursor ← get
  throw ⟨reason, some cursor.nextPosition⟩

/-- Gives a fault without a position the position reached at the end of the reading. -/
def located {α : Type} (reader : Reader α) : Reader α := do
  tryCatch reader fun fault => do
    let cursor ← get
    throw (fault.at cursor.position)

/-- The number of characters left, which bounds every loop over them. -/
def remaining : Reader Nat := return (← get).rest.length

/-- The blanks between the tokens of a JSON text. -/
def isSpace (c : Char) : Bool := c = ' ' || c = '\n' || c = '\t' || c = '\r'

/-- Passes at most `fuel` blanks. -/
def skipSpaces : Nat → Reader Unit
  | 0 => pure ()
  | fuel + 1 => do
    match ← peek with
    | some c => if isSpace c then do skip; skipSpaces fuel else pure ()
    | none => pure ()

/-- Passes the blanks and gives the character after them. -/
def peekToken : Reader (Option Char) := do
  skipSpaces (← remaining)
  peek

/-- Runs the first reader and then the second, even after a fault of the first, which comes
before a fault of the second. -/
def thenEnd {α : Type} (body : Reader α) (ending : Reader Unit) : Reader α := fun cursor =>
  match body cursor with
  | (.ok value, cursor) =>
    match ending cursor with
    | (.ok (), cursor) => (.ok value, cursor)
    | (.error fault, cursor) => (.error fault, cursor)
  | (.error fault, cursor) => (.error fault, (ending cursor).2)

end Reader
end Folio.Json
