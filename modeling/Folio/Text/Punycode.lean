/-!
# Punycode

A label of a domain name can be written in ASCII alone: the ASCII characters come first, then a
hyphen, then digits that say which other characters are inserted where. Each insertion is a number in
which the place of the character and its distance from the one inserted before it are combined; how
many digits the number takes adapts to the numbers before it.

* `readNumber_length`: a number takes at least one digit.
-/

namespace Folio.Text.Punycode

/-- The value of a digit: letters, then decimal digits. -/
def digitValue? (c : Char) : Option Nat :=
  if c.isLower then some (c.toNat - 'a'.toNat)
  else if c.isDigit then some (c.toNat - '0'.toNat + 26)
  else none

/-- The number of digits there are. -/
def base : Nat := 36

/-- A digit below this value ends a number, when `position` grows by the base with each digit. -/
def threshold (bias position : Nat) : Nat := max 1 (min 26 (position - bias))

/-- How many more digits than one a number of some size takes, as a bias. -/
def scaled (bias delta : Nat) : Nat :=
  if 455 < delta then scaled (bias + base) (delta / 35) else bias + base * delta / (delta + 38)
  termination_by delta

/-- The bias after a number that made a text of `length` characters; the first number counts less. -/
def adapt (isFirst : Bool) (delta length : Nat) : Nat :=
  let delta := if isFirst then delta / 700 else delta / 2
  scaled 0 (delta + delta / length)

/-- Numbers are below this one. -/
def limit : Nat := 0x100000000

/-- The number at the beginning of the digits added to `sum`, and the digits after it; `weight` is the
value of one in the first digit. -/
def readNumber (bias position weight sum : Nat) : List Char → Option (Nat × List Char)
  | [] => none
  | c :: rest =>
    match digitValue? c with
    | none => none
    | some digit =>
      let sum := sum + digit * weight
      let stop := threshold bias position
      if limit ≤ sum then none
      else if digit < stop then some (sum, rest)
      else
        let weight := weight * (base - stop)
        if limit ≤ weight then none else readNumber bias (position + base) weight sum rest

theorem readNumber_length {bias position weight sum : Nat} {cs : List Char}
    {found : Nat × List Char} (h : readNumber bias position weight sum cs = some found) :
    found.2.length < cs.length := by
  induction cs generalizing position weight sum with
  | nil => simp [readNumber] at h
  | cons c cs ih =>
      unfold readNumber at h
      split at h
      · simp at h
      · simp only at h
        split at h
        · simp at h
        · split at h
          · cases h; simp
          · split at h
            · simp at h
            · have := ih h
              simp only [List.length_cons]
              omega

/-- A text in which characters are inserted. -/
structure Insertion where
  text : List Char
  /-- The number of the character inserted last. -/
  point : Nat := 128
  /-- The place after the character inserted last. -/
  place : Nat := 0
  bias : Nat := 72

/-- The text with one more character, told by the sum of the place and a number. -/
def Insertion.insert? (state : Insertion) (sum : Nat) : Option Insertion :=
  let length := state.text.length + 1
  let point := state.point + sum / length
  let place := sum % length
  if point.isValidChar then
    some {
      text := state.text.insertIdx place (Char.ofNat point)
      point
      place := place + 1
      bias := adapt (state.place == 0) (sum - state.place) length }
  else none

/-- The text with the characters inserted that the digits tell. -/
def Insertion.run? (state : Insertion) (cs : List Char) : Option (List Char) :=
  if cs.isEmpty then some state.text
  else
    match _h : readNumber state.bias base 1 state.place cs with
    | none => none
    | some (sum, rest) =>
      match state.insert? sum with
      | none => none
      | some next => next.run? rest
  termination_by cs.length
  decreasing_by exact readNumber_length _h

/-- The text that is written in ASCII. -/
def decode? (cs : List Char) : Option (List Char) :=
  let digits := (cs.reverse.takeWhile (· != '-')).reverse
  let text := cs.take (cs.length - digits.length - 1)
  let digits := if text.isEmpty then cs else digits
  if text.all (·.toNat < 128) then Insertion.run? { text } digits else none

end Folio.Text.Punycode
