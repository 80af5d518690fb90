import Folio.Math.Parser

/-!
# Parsing formulas in place

The same parser over one buffer that holds the whole source: what is read is a range of the buffer, a part is parsed
where it stands, and when a construct lacks an argument reading goes back to where it began. Every look at a character,
every move, every range that is taken out, every bracket that is counted off and every round of the loop over a source
is checked, and what must not happen is a `Fault`.
-/

namespace Folio.Math.InPlace
open Unicode (isAlphanumeric isBlank)

/-- What must not happen over a buffer. -/
inductive Fault where
  /-- A look at a character outside the buffer. -/
  | outside (index : Nat)
  /-- A move past the end of the range that is read. -/
  | past (index : Nat)
  /-- A range that ends before it starts, or outside the buffer. -/
  | range (start stop : Nat)
  /-- A bracket that closes more than was opened. -/
  | unopened (index : Nat)
  /-- A round of a loop that reads nothing. -/
  | idle (index : Nat)
  deriving DecidableEq, Repr

/-- The indices from `start` on and before `stop`. -/
structure Range where
  start : Nat
  stop : Nat
  deriving DecidableEq, Repr

section Buffer
variable (chars : List Char)

/-- The character at an index of the buffer. -/
def charAt (index : Nat) : Except Fault Char :=
  match chars[index]? with
  | some c => .ok c
  | none => .error (.outside index)

/-- The range lies in the buffer. -/
def checkRange (start stop : Nat) : Except Fault Unit :=
  if start ≤ stop ∧ stop ≤ chars.length then .ok () else .error (.range start stop)

/-- The characters of a range. -/
def slice (start stop : Nat) : Except Fault (List Char) := do
  checkRange chars start stop
  return (chars.take stop).drop start

/-! ## Reading, up to the end of the range that is read -/

variable (stop : Nat)

/-- A move to an index, which is at most the end. -/
def move (index : Nat) : Except Fault Unit :=
  if index ≤ stop then .ok () else .error (.past index)

/-- The character at an index, if it is in front of the end. -/
def peek (index : Nat) : Except Fault (Option Char) :=
  if index < stop then return some (← charAt chars index) else return none

/-- The index behind the white space at an index. -/
def skipBlank (pos : Nat) : Except Fault Nat :=
  if pos < stop then do
    let c ← charAt chars pos
    if isBlank c then
      move stop (pos + 1)
      skipBlank (pos + 1)
    else return pos
  else return pos
  termination_by stop - pos

/-- The index behind the letters at an index. -/
def skipLetters (index : Nat) : Except Fault Nat :=
  if index < stop then do
    let c ← charAt chars index
    if c.isAlpha then skipLetters (index + 1) else return index
  else return index
  termination_by stop - index

/-- The command whose backslash stands at an index, and the index behind it. -/
def readCommand (pos : Nat) : Except Fault (List Char × Nat) := do
  checkRange chars 0 stop
  let letters ← skipLetters chars stop (pos + 1)
  let next := if letters = pos + 1 ∧ letters < stop then letters + 1 else letters
  let command ← slice chars pos next
  move stop next
  return (command, next)

/-- The character at an index carries a script. -/
def carriesScript (c : Char) (pos : Nat) : Except Fault Bool :=
  if isAlphanumeric c then return (← peek chars stop (pos + 1)).any isScriptMarker else return false

/-- The index behind the plain text at an index. -/
def skipPlain (pos : Nat) : Except Fault Nat :=
  if pos < stop then do
    let c ← charAt chars pos
    if isPlain c then
      if ← carriesScript chars stop c pos then return pos
      else
        move stop (pos + 1)
        skipPlain (pos + 1)
    else return pos
  else return pos
  termination_by stop - pos

/-- The plain text at an index, or the one character there when it is not plain. -/
def readText (pos : Nat) : Except Fault (List Char × Nat) := do
  let last ← skipPlain chars stop pos
  let next := if last = pos then pos + 1 else last
  move stop next
  return (← slice chars pos next, next)

/-- The range from `start` to the bracket that closes the `depth` brackets open so far, and the index behind the
bracket; without such a bracket, the range to the end. A backslash hides the character after it. -/
def findClosing (opening closing : Char) (start depth index : Nat) : Except Fault (Range × Nat) :=
  if index < stop then do
    let c ← charAt chars index
    if c = '\\' then findClosing opening closing start depth (index + 2)
    else if c = opening then findClosing opening closing start (depth + 1) (index + 1)
    else if c = closing then
      if depth = 0 then throw (.unopened index)
      else if depth - 1 = 0 then
        move stop (index + 1)
        return (⟨start, index⟩, index + 1)
      else findClosing opening closing start (depth - 1) (index + 1)
    else findClosing opening closing start depth (index + 1)
  else return (⟨min start stop, stop⟩, stop)
  termination_by stop - index

/-- The inside of the bracketed part at an index, if there is one, and the index behind the part. -/
def readPart (opening closing : Char) (pos : Nat) : Except Fault (Option (Range × Nat)) := do
  if (← peek chars stop pos) = some opening then
    return some (← findClosing chars stop opening closing (pos + 1) 0 pos)
  else return none

/-! ## Constructs

`parseInside` parses the inside of the part that opens at an index. -/

variable (parseInside : Nat → Range → Except Fault (List Formula))

/-- The argument of a script marker. -/
def parseArgument (pos : Nat) : Except Fault (Option (Formula × Nat)) := do
  match ← peek chars stop pos with
  | none => return none
  | some c =>
    if c = '\x7b' then
      match ← readPart chars stop '\x7b' '\x7d' pos with
      | some (inner, next) => return some (.ofParts (← parseInside pos inner), next)
      | none => return none
    else if c = '\\' then
      let (command, next) ← readCommand chars stop pos
      return some (.run (String.ofList command), next)
    else if isScriptMarker c || c = '\x7d' then return none
    else
      move stop (pos + 1)
      return some (.run (String.ofList [c]), pos + 1)

/-- The character at an index with its scripts. -/
def parseScripted (pos : Nat) : Except Fault (Option (Formula × Nat)) := do
  let some base ← peek chars stop pos | return none
  move stop (pos + 1)
  let some marker ← peek chars stop (pos + 1) | return none
  move stop (pos + 2)
  let some (first, next) ← parseArgument chars stop parseInside (pos + 2) | return none
  let other := if marker = '_' then '^' else '_'
  if (← peek chars stop next) = some other then
    move stop (next + 1)
    if let some (second, behind) ← parseArgument chars stop parseInside (next + 1) then
      return some (if marker = '_' then .subsup base first second else .subsup base second first, behind)
  return some (if marker = '^' then .sup base first else .sub base first, next)

/-- The fraction whose arguments stand at an index. -/
def parseFraction (pos : Nat) : Except Fault (Option (Formula × Nat)) := do
  let numStart ← skipBlank chars stop pos
  let some (num, next) ← readPart chars stop '\x7b' '\x7d' numStart | return none
  let denStart ← skipBlank chars stop next
  let some (den, next) ← readPart chars stop '\x7b' '\x7d' denStart | return none
  return some (.frac (.ofParts (← parseInside numStart num)) (.ofParts (← parseInside denStart den)), next)

/-- The root whose arguments stand at an index. -/
def parseRadical (pos : Nat) : Except Fault (Option (Formula × Nat)) := do
  let degreeStart ← skipBlank chars stop pos
  let degree ← readPart chars stop '[' ']' degreeStart
  let radicandStart ← skipBlank chars stop (degree.elim degreeStart Prod.snd)
  let some (radicand, next) ← readPart chars stop '\x7b' '\x7d' radicandStart | return none
  match degree with
  | some (degree, _) =>
    return some (.root (.ofParts (← parseInside degreeStart degree))
      (.ofParts (← parseInside radicandStart radicand)), next)
  | none => return some (.sqrt (.ofParts (← parseInside radicandStart radicand)), next)

/-- The command at an index with its arguments; one that lacks them is literal text. -/
def parseCommand (pos : Nat) : Except Fault (Formula × Nat) := do
  let (command, resume) ← readCommand chars stop pos
  let construct ←
    if ["\\frac".toList, "\\dfrac".toList, "\\tfrac".toList].contains command then
      parseFraction chars stop parseInside resume
    else if command = "\\sqrt".toList then parseRadical chars stop parseInside resume
    else pure none
  return construct.getD (.run (String.ofList command), resume)

/-- The formulas of the item at an index that carries no scripts, and the index behind it. -/
def parseUnscripted (c : Char) (pos : Nat) : Except Fault (List Formula × Nat) :=
  if c = '\\' then do
    let (formula, next) ← parseCommand chars stop parseInside pos
    return ([formula], next)
  else if c = '\x7b' then do
    match ← readPart chars stop '\x7b' '\x7d' pos with
    | some (inner, next) => return (← parseInside pos inner, next)
    | none => return ([], pos)
  else do
    let (text, next) ← readText chars stop pos
    return ([.run (String.ofList text)], next)

/-- One round of the loop over a source: the formulas of the item at an index, and the index behind it. -/
def parseItem (pos : Nat) : Except Fault (List Formula × Nat) := do
  let c ← charAt chars pos
  let scripted ← if ← carriesScript chars stop c pos then parseScripted chars stop parseInside pos else pure none
  match scripted with
  | some (formula, next) => return ([formula], next)
  | none => parseUnscripted chars stop parseInside c pos

end Buffer

mutual

/-- The formulas of the range from an index to the end. Every round of the loop has to read something. -/
def parseRange (chars : List Char) (depth stop pos : Nat) : Except Fault (List Formula) :=
  if pos < stop then do
    let (formulas, next) ← parseItem chars stop (parseInside chars depth stop) pos
    if pos < next then return formulas ++ (← parseRange chars depth stop next) else throw (.idle pos)
  else return []
  termination_by (maxDepth - depth, stop - pos + 1)
  decreasing_by
    · exact Prod.Lex.right _ (Nat.succ_pos _)
    · exact Prod.Lex.right _ (by omega)

/-- The formulas of the part that opens at an index; a part that lies too deep stays literal. -/
def parseInside (chars : List Char) (depth stop opened : Nat) (inner : Range) : Except Fault (List Formula) :=
  if maxDepth ≤ depth then do
    let text ← slice chars opened (min (inner.stop + 1) stop)
    return [.run (String.ofList text)]
  else do
    checkRange chars inner.start inner.stop
    parseRange chars (depth + 1) inner.stop inner.start
  termination_by (maxDepth - depth, 0)
  decreasing_by exact Prod.Lex.left _ _ (by omega)

end

/-- The formula that a source holds. -/
def parse (source : String) : Except Fault Formula := do
  return .group (← parseRange source.toList 0 source.toList.length 0)

end Folio.Math.InPlace
