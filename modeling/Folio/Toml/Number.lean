import Folio.Decimal.Nearest
import Folio.Text.Digits
import Folio.Toml.Scanner
import Folio.Toml.Value

/-!
# Numbers, dates and times

Digits may be grouped by single underscores. A whole number has no leading zero unless it is written
in base sixteen, eight or two, and fits in 64 bits. A date and a time of day are joined by a letter
or a blank; an offset follows only a date with a time.
-/

namespace Folio.Toml.Scanner

/-! ## Numbers -/

/-- Digits with single underscores between them. -/
def groupedDigits (isDigit : Char → Bool) : Scanner (List Char) := do
  let run ← many1 fun c => isDigit c || c == '_'
  let groups := Text.splitOn '_' run
  if groups.any (·.isEmpty) then failure else return groups.flatten

/-- Plus or minus; a minus is `true`. -/
def sign : Scanner Bool := do
  let c ← satisfy fun c => c == '+' || c == '-'
  return c == '-'

/-- The digits of a whole number: no zero comes first but a zero alone. -/
def wholeDigits : Scanner (List Char) := do
  let digits ← groupedDigits Char.isDigit
  if digits.head? == some '0' && 1 < digits.length then failure else return digits

/-- The number that decimal digits write. -/
def decimalValue (digits : List Char) : Nat := (Text.ofDigits? 10 0 digits).getD 0

/-- The whole number fits in 64 bits with a sign. -/
def fits (n : Int) : Bool :=
  decide (-0x8000000000000000 ≤ n) && decide (n ≤ 0x7FFFFFFFFFFFFFFF)

/-- A whole number in a base other than ten, after its mark. -/
def basedInteger (mark : List Char) (base : Nat) : Scanner Int := do
  word mark
  let digits ← groupedDigits fun c => (Text.digitValue? base c).isSome
  match Text.ofDigits? base 0 digits with
  | some n => if fits n then return n else failure
  | none => failure

/-- A whole number in base ten. -/
def decimalInteger : Scanner Int := do
  let negative := (← optional sign).getD false
  let n : Int := decimalValue (← wholeDigits)
  let n := if negative then -n else n
  if fits n then return n else failure

/-- A whole number. -/
def integer : Scanner Int :=
  basedInteger ['0', 'x'] 16 <|> basedInteger ['0', 'o'] 8 <|> basedInteger ['0', 'b'] 2 <|>
    decimalInteger

/-- The digits after a point. -/
def places : Scanner (List Char) := do
  char '.'
  groupedDigits Char.isDigit

/-- The exponent of a number. -/
def exponent : Scanner Int := do
  let _ ← satisfy fun c => c == 'e' || c == 'E'
  let negative := (← optional sign).getD false
  let n : Int := decimalValue (← groupedDigits Char.isDigit)
  return if negative then -n else n

/-- A number with places, with an exponent, or with both; it may not be too large. -/
def fraction : Scanner Float := do
  let negative := (← optional sign).getD false
  let whole ← wholeDigits
  let behind ← optional places
  let power ← optional exponent
  if behind.isNone && power.isNone then failure
  else
    let digits := behind.getD []
    let x := Decimal.nearest (decimalValue (whole ++ digits)) (power.getD 0 - digits.length)
    if x.isInf && !negative then failure else return if negative then -x else x

/-- Infinity or no number at all. -/
def specialNumber : Scanner Float := do
  let negative := (← optional sign).getD false
  let x ← (do word ['i', 'n', 'f']; return 1.0 / 0.0) <|> (do word ['n', 'a', 'n']; return 0.0 / 0.0)
  return if negative then -x else x

/-! ## Dates and times -/

/-- A number of exactly so many digits between two bounds. -/
def numeral (count low high : Nat) : Scanner Nat := do
  let n := decimalValue (← exactly count Char.isDigit)
  if low ≤ n ∧ n ≤ high then return n else failure

/-- The text of a number with at least so many digits. -/
def padded (count n : Nat) : List Char :=
  let digits := n.repr.toList
  List.replicate (count - digits.length) '0' ++ digits

/-- The number of days in a month. -/
def daysInMonth (year month : Nat) : Nat :=
  if month = 2 then
    if year % 4 = 0 ∧ (year % 100 ≠ 0 ∨ year % 400 = 0) then 29 else 28
  else if month = 4 ∨ month = 6 ∨ month = 9 ∨ month = 11 then 30
  else 31

/-- A day in the calendar. -/
def date : Scanner (List Char) := do
  let year ← numeral 4 0 9999
  char '-'
  let month ← numeral 2 1 12
  char '-'
  let day ← numeral 2 1 (daysInMonth year month)
  return padded 4 year ++ '-' :: padded 2 month ++ '-' :: padded 2 day

/-- The fraction of a second, up to nine places, without the zeros at its end. -/
def secondPlaces : Scanner (List Char) := do
  char '.'
  let digits ← many1 Char.isDigit
  let kept := ((digits.take 9).reverse.dropWhile (· == '0')).reverse
  return if kept.isEmpty then [] else '.' :: kept

/-- A time of day. -/
def timeOfDay : Scanner (List Char) := do
  let hour ← numeral 2 0 23
  char ':'
  let minute ← numeral 2 0 59
  char ':'
  let second ← numeral 2 0 60
  let part := (← optional secondPlaces).getD []
  return padded 2 hour ++ ':' :: padded 2 minute ++ ':' :: padded 2 second ++ part

/-- The distance from universal time; none has no sign of its own. -/
def offset : Scanner (List Char) := do
  match ← optional (satisfy fun c => c == 'Z' || c == 'z') with
  | some _ => return ['Z']
  | none =>
    let negative ← sign
    let hour ← numeral 2 0 23
    char ':'
    let minute ← numeral 2 0 59
    let mark := if negative && (hour != 0 || minute != 0) then '-' else '+'
    return mark :: padded 2 hour ++ ':' :: padded 2 minute

/-- What follows the date when there is a time. -/
def timeAfterDate : Scanner (List Char) := do
  let _ ← satisfy fun c => c == 'T' || c == 't' || c == ' '
  let time ← timeOfDay
  let shift := (← optional offset).getD []
  return 'T' :: time ++ shift

/-- A date, a time, or both, in normal form. -/
def moment : Scanner String := do
  match ← optional date with
  | some day => return String.ofList (day ++ (← optional timeAfterDate).getD [])
  | none => return String.ofList (← timeOfDay)

/-- A number, a date or a time. -/
def number : Scanner Toml :=
  Toml.moment <$> moment <|> Toml.real <$> fraction <|> Toml.real <$> specialNumber <|>
    Toml.integer <$> integer

end Folio.Toml.Scanner
