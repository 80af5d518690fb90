import Folio.Decimal.Shortest
import Folio.Json.Cursor
import Folio.Text.Digits

/-!
# Reading JSON

Words, numbers, strings and whole values are read from the place that a cursor has reached. Lists
and objects nest up to `maxNesting` levels. A value that nobody wants is passed over instead: its
brackets have to match, but it may nest at will, its escapes need not name characters and its
numbers may be of any size.
-/

namespace Folio.Json

/-- How many lists and objects may be open at once. -/
def maxNesting : Nat := 127

namespace Reader

/-- Passes the rest of a word. -/
def word : List Char → Reader Unit
  | [] => pure ()
  | expected :: rest => do
    match ← next with
    | none => failHere .endInValue
    | some c => if c = expected then word rest else failHere .expectedIdent

/-! ## Strings -/

/-- The four digits of an escape by code unit. Four bytes are taken whatever they are. -/
def hexEscape : Reader Nat := do
  let cursor ← get
  let bytes := (cursor.rest.take 4).foldl (fun n c => n + c.utf8Size) 0
  if bytes < 4 then
    let cursor := cursor.advance.advance.advance.advance
    set cursor
    failHere .endInString
  else
    match Text.ofDigits? 16 0 (cursor.rest.take 4) with
    | some n =>
      set cursor.advance.advance.advance.advance
      return n
    | none => throw ⟨.invalidEscape, some (cursor.positionAfter 4)⟩

/-- The next character of an unfinished string. -/
def nextInString : Reader Char := do
  match ← next with
  | some c => return c
  | none => failHere .endInString

/-- Passes a character that has to follow the first half of a surrogate pair. -/
def expectInPair (expected : Char) : Reader Unit := do
  match ← peek with
  | none => failHere .endInString
  | some c =>
    skip
    if c = expected then pure () else failHere .unexpectedEndOfEscape

/-- The character of an escape by code unit; code points past the first plane take two. -/
def unicodeEscape : Reader Char := do
  let high ← hexEscape
  if 0xDC00 ≤ high ∧ high ≤ 0xDFFF then failHere .loneSurrogate
  else if high < 0xD800 ∨ 0xDBFF < high then return Char.ofNat high
  else
    expectInPair '\\'
    expectInPair 'u'
    let low ← hexEscape
    if low < 0xDC00 ∨ 0xDFFF < low then failHere .loneSurrogate
    else return Char.ofNat ((high - 0xD800) * 0x400 + (low - 0xDC00) + 0x10000)

/-- The character that a letter after a backslash stands for. -/
def simpleEscape : Char → Option Char
  | '"' => some '"'
  | '\\' => some '\\'
  | '/' => some '/'
  | 'b' => some '\x08'
  | 'f' => some '\x0c'
  | 'n' => some '\n'
  | 'r' => some '\r'
  | 't' => some '\t'
  | _ => none

/-- The character of the escape after a backslash. -/
def escape : Reader Char := do
  let c ← nextInString
  match simpleEscape c with
  | some plain => return plain
  | none => if c = 'u' then unicodeEscape else failHere .invalidEscape

/-- The characters up to the closing quote, at most `fuel` of them. -/
def stringChars : Nat → Reader (List Char)
  | 0 => failHere .endInString
  | fuel + 1 => do
    match ← peek with
    | none => failHere .endInString
    | some '"' => skip; return []
    | some '\\' =>
      skip
      let c ← escape
      return c :: (← stringChars fuel)
    | some c =>
      skip
      if c.toNat < 32 then failHere .controlCharacter
      else return c :: (← stringChars fuel)

/-- The string whose opening quote has been passed. -/
def stringBody : Reader String := do
  return String.ofList (← stringChars ((← remaining) + 1))

/-- Passes the characters up to the closing quote, at most `fuel` of them. -/
def skipStringChars : Nat → Reader Unit
  | 0 => failHere .endInString
  | fuel + 1 => do
    match ← peek with
    | none => failHere .endInString
    | some '"' => skip
    | some '\\' =>
      skip
      let c ← nextInString
      if (simpleEscape c).isSome then skipStringChars fuel
      else if c = 'u' then do
        let _ ← hexEscape
        skipStringChars fuel
      else failHere .invalidEscape
    | some c =>
      if c.toNat < 32 then failHere .controlCharacter
      else do skip; skipStringChars fuel

/-- Passes the string whose opening quote has been passed. -/
def skipString : Reader Unit := do skipStringChars ((← remaining) + 1)

/-! ## Numbers -/

/-- The largest integer that is kept as one. -/
def maxInteger : Nat := 0xFFFFFFFFFFFFFFFF

/-- The digits at the place reached. -/
def digits : Reader (List Char) := do
  let cursor ← get
  let ds := cursor.rest.takeWhile Char.isDigit
  set ({ cursor with
    rest := cursor.rest.dropWhile Char.isDigit, column := cursor.column + ds.length } : Cursor)
  return ds

/-- Adds digits to a number as long as it can be kept exactly, and counts the digits added. -/
def addDigits (n : Nat) : List Char → Nat × Nat
  | [] => (n, 0)
  | d :: ds =>
    let m := n * 10 + (d.toNat - '0'.toNat)
    if maxInteger < m then (n, 0)
    else
      let (total, count) := addDigits m ds
      (total, count + 1)

/-- The floating-point number `significand · 10^exponent`, multiplied or divided out in steps. -/
def scaleFloat : Nat → Float → Int → Reader Float
  | 0, f, _ => return f
  | fuel + 1, f, exponent =>
    if exponent.natAbs ≤ 308 then
      let power := Float.ofScientific 1 false exponent.natAbs
      if 0 ≤ exponent then
        let f := f * power
        if f.isInf then failHere .numberOutOfRange else return f
      else return f / power
    else if f == 0.0 then return f
    else if 0 ≤ exponent then failHere .numberOutOfRange
    else scaleFloat fuel (f / Float.ofScientific 1 false 308) (exponent + 308)

/-- The floating-point number with the given sign and parts. -/
def floatOfParts (negative : Bool) (significand : Nat) (exponent : Int) : Reader Json := do
  let f ← scaleFloat (exponent.natAbs / 308 + 2) significand.toUInt64.toFloat exponent
  return .real (Decimal.showFloat (if negative then -f else f))

/-- The largest exponent that is kept. -/
def maxExponent : Nat := 0x7FFFFFFF

/-- The number whose exponent mark has been reached. -/
def exponentPart (negative : Bool) (significand : Nat) (exponent : Int) : Reader Json := do
  skip
  let below ← match ← peek with
    | some '+' => do skip; pure false
    | some '-' => do skip; pure true
    | _ => pure false
  match ← next with
  | none => failHere .endInValue
  | some d =>
    if !d.isDigit then failHere .invalidNumber
    else
      let first := d.toNat - '0'.toNat
      let before ← get
      let more ← digits
      let size := more.foldl (fun n c => n * 10 + (c.toNat - '0'.toNat)) first
      if maxExponent < size then
        if significand ≠ 0 ∧ !below then
          -- the fault stands at the digit that is one too many
          throw ⟨.numberOutOfRange, some ⟨before.line, before.column + overflowAt first more⟩⟩
        else return .real (Decimal.showFloat (if negative then -0.0 else 0.0))
      else
        let total := if below then exponent - size else exponent + size
        floatOfParts negative significand total
where
  /-- How many digits are read up to the one that makes the exponent too large. -/
  overflowAt (n : Nat) : List Char → Nat
    | [] => 0
    | d :: ds =>
      let m := n * 10 + (d.toNat - '0'.toNat)
      if maxExponent < m then 1 else overflowAt m ds + 1

/-- The number whose decimal point has been reached. -/
def fractionPart (negative : Bool) (significand : Nat) (exponent : Int) : Reader Json := do
  skip
  let ds ← digits
  if ds.isEmpty then
    match ← peek with
    | some _ => failNext .invalidNumber
    | none => failNext .endInValue
  else
    let (significand, count) := addDigits significand ds
    let exponent := exponent - count
    match ← peek with
    | some 'e' | some 'E' => exponentPart negative significand exponent
    | _ => floatOfParts negative significand exponent

/-- The number whose sign has been passed. -/
def number (negative : Bool) : Reader Json := do
  match ← next with
  | none => failHere .endInValue
  | some d =>
    if !d.isDigit then failHere .invalidNumber
    else
      let more ← if d = '0' then pure [] else digits
      match ← peek with
      | some c => if d = '0' ∧ c.isDigit then failNext .invalidNumber else pure ()
      | none => pure ()
      let (significand, count) := addDigits (d.toNat - '0'.toNat) more
      let dropped := more.length - count
      match ← peek with
      | some '.' => fractionPart negative significand dropped
      | some 'e' | some 'E' => exponentPart negative significand dropped
      | _ =>
        if dropped ≠ 0 then floatOfParts negative significand dropped
        else if !negative then return .nat significand
        else if significand = 0 ∨ 0x8000000000000000 < significand then
          return .real (Decimal.showFloat (-significand.toUInt64.toFloat))
        else return .neg significand

/-- Passes the digits after an exponent mark. -/
def skipExponent : Reader Unit := do
  skip
  match ← peek with
  | some '+' | some '-' => skip
  | _ => pure ()
  match ← peek with
  | some d =>
    skip
    if d.isDigit then do
      let _ ← digits
      pure ()
    else failHere .invalidNumber
  | none => failHere .invalidNumber

/-- Passes the number whose sign has been passed. -/
def skipNumber : Reader Unit := do
  match ← peek with
  | none => failHere .invalidNumber
  | some d =>
    skip
    if !d.isDigit then failHere .invalidNumber
    else
      if d = '0' then
        match ← peek with
        | some c => if c.isDigit then failNext .invalidNumber else pure ()
        | none => pure ()
      else
        let _ ← digits
      match ← peek with
      | some '.' =>
        skip
        let ds ← digits
        if ds.isEmpty then failNext .invalidNumber
        else
          match ← peek with
          | some 'e' | some 'E' => skipExponent
          | _ => pure ()
      | some 'e' | some 'E' => skipExponent
      | _ => pure ()

/-! ## Lists and objects -/

/-- Passes the colon between a key and its value. -/
def colon : Reader Unit := do
  match ← peekToken with
  | some ':' => skip
  | some _ => failNext .expectedColon
  | none => failNext .endInObject

/-- Whether a list goes on with another item; `first` says that none has been read. -/
def moreItems (first : Bool) : Reader Bool := do
  match ← peekToken with
  | none => failNext .endInList
  | some ']' => return false
  | some ',' =>
    if first then return true
    else
      skip
      match ← peekToken with
      | some ']' => failNext .trailingComma
      | some _ => return true
      | none => failNext .endInValue
  | some _ => if first then return true else failNext .expectedListCommaOrEnd

/-- Whether an object goes on with another key; `first` says that none has been read. -/
def moreKeys (first : Bool) : Reader Bool := do
  match ← peekToken with
  | none => failNext .endInObject
  | some '\x7d' => return false
  | some c =>
    if first then
      if c = '"' then return true else failNext .keyMustBeString
    else if c = ',' then
      skip
      match ← peekToken with
      | some '"' => return true
      | some '\x7d' => failNext .trailingComma
      | some _ => failNext .keyMustBeString
      | none => failNext .endInValue
    else failNext .expectedObjectCommaOrEnd

/-- The key at the place reached. -/
def key : Reader String := do
  skip
  stringBody

/-- The end of a list. -/
def endList : Reader Unit := do
  match ← peekToken with
  | some ']' => skip
  | some ',' =>
    skip
    match ← peekToken with
    | some ']' => failNext .trailingComma
    | _ => failNext .trailingCharacters
  | some _ => failNext .trailingCharacters
  | none => failNext .endInList

/-- The end of an object. -/
def endObject : Reader Unit := do
  match ← peekToken with
  | some '\x7d' => skip
  | some ',' => failNext .trailingComma
  | some _ => failNext .trailingCharacters
  | none => failNext .endInObject

/-! ## Whole values -/

/-- An open bracket of a value that is passed over. -/
inductive Frame where
  | list
  | object
  deriving DecidableEq

/-- Passes a key and its colon. -/
def skipKey : Reader Unit := do
  match ← peekToken with
  | some '"' => skip; skipString; colon
  | some _ => failNext .keyMustBeString
  | none => failNext .endInObject

mutual

/-- Passes a value inside the brackets that are open. -/
def skipValueIn (frames : List Frame) : Nat → Reader Unit
  | 0 => pure ()
  | fuel + 1 => do
    match ← peekToken with
    | none => failNext .endInValue
    | some 'n' => skip; word ['u', 'l', 'l']; skipRest true frames fuel
    | some 't' => skip; word ['r', 'u', 'e']; skipRest true frames fuel
    | some 'f' => skip; word ['a', 'l', 's', 'e']; skipRest true frames fuel
    | some '-' => skip; skipNumber; skipRest true frames fuel
    | some '"' => skip; skipString; skipRest true frames fuel
    | some '[' => skip; skipRest false (.list :: frames) fuel
    | some '\x7b' => skip; skipRest false (.object :: frames) fuel
    | some c =>
      if c.isDigit then do skipNumber; skipRest true frames fuel
      else failNext .expectedValue

/-- Passes what follows a value (`after`) or an opening bracket. -/
def skipRest (after : Bool) (frames : List Frame) : Nat → Reader Unit
  | 0 => pure ()
  | fuel + 1 =>
    match frames with
    | [] => pure ()
    | frame :: outer => do
      match ← peekToken with
      | none => failNext (if frame = .list then .endInList else .endInObject)
      | some c =>
        if after ∧ c = ',' then do
          skip
          if frame = .object then skipKey else pure ()
          skipValueIn frames fuel
        else if c = (if frame = .list then ']' else '\x7d') then do
          skip
          skipRest true outer fuel
        else if after then
          failNext (if frame = .list then .expectedListCommaOrEnd else .expectedObjectCommaOrEnd)
        else do
          if frame = .object then skipKey else pure ()
          skipValueIn frames fuel

end

/-- Passes a value. -/
def skipValue : Reader Unit := do skipValueIn [] (3 * (← remaining) + 3)

/-- The items of a list, each read by `item`. -/
def itemsWith {α : Type} (item : Reader α) : Nat → Bool → Reader (List α)
  | 0, _ => return []
  | fuel + 1, first => do
    if ← moreItems first then
      let value ← item
      return value :: (← itemsWith item fuel false)
    else return []

/-- The members of an object, each value read by `member`, which is told the key. -/
def membersWith {α : Type} (member : String → Reader α) : Nat → Bool → Reader (List (String × α))
  | 0, _ => return []
  | fuel + 1, first => do
    if ← moreKeys first then
      let k ← key
      let value ← member k
      return (k, value) :: (← membersWith member fuel false)
    else return []

/-- A value, which may hold lists and objects below the given number of levels. -/
def value (levels : Nat) : Reader Json :=
  located do
    match ← peekToken with
    | none => failNext .endInValue
    | some 'n' => skip; word ['u', 'l', 'l']; return .null
    | some 't' => skip; word ['r', 'u', 'e']; return .bool true
    | some 'f' => skip; word ['a', 'l', 's', 'e']; return .bool false
    | some '-' => skip; number true
    | some '"' => skip; return .str (← stringBody)
    | some '[' =>
      match levels with
      | 0 => failNext .recursionLimit
      | levels + 1 =>
        skip
        thenEnd (do return .arr (← itemsWith (value levels) ((← remaining) + 1) true)) endList
    | some '\x7b' =>
      match levels with
      | 0 => failNext .recursionLimit
      | levels + 1 =>
        skip
        thenEnd (do
          let member (_ : String) : Reader Json := do colon; value levels
          return .obj (← membersWith member ((← remaining) + 1) true)) endObject
    | some c => if c.isDigit then number false else failNext .expectedValue

end Reader
end Folio.Json
