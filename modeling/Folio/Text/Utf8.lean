/-!
# Reading bytes as UTF-8

Bytes are read as characters until a sequence breaks the rules of UTF-8. The fault says where the
broken sequence begins and how many bytes of it could still have begun a character; a sequence
that is cut off by the end of the input is incomplete rather than invalid.
-/

namespace Folio.Text

/-- Why bytes are no UTF-8 text. -/
inductive Utf8Fault where
  /-- The `length` bytes at `index` begin no character. -/
  | invalid (index length : Nat)
  /-- The input ends inside the character that begins at `index`. -/
  | incomplete (index : Nat)
  deriving DecidableEq, Repr

/-- The wording of a fault. -/
def Utf8Fault.message : Utf8Fault → String
  | .invalid index length =>
    "invalid utf-8 sequence of " ++ length.repr ++ " bytes from index " ++ index.repr
  | .incomplete index => "incomplete utf-8 byte sequence from index " ++ index.repr

/-- Where the characters before a fault end. -/
def Utf8Fault.index : Utf8Fault → Nat
  | .invalid index _ => index
  | .incomplete index => index

/-- A continuation byte. -/
def isContinuation (b : UInt8) : Bool := 0x80 ≤ b && b ≤ 0xBF

/-- For a leading byte, the number of continuation bytes and the range of the first of them; the
ranges leave out overlong forms, surrogates and what lies past the last code point. -/
def continuations (b : UInt8) : Option (Nat × UInt8 × UInt8) :=
  if 0xC2 ≤ b && b ≤ 0xDF then some (1, 0x80, 0xBF)
  else if b == 0xE0 then some (2, 0xA0, 0xBF)
  else if b == 0xED then some (2, 0x80, 0x9F)
  else if 0xE1 ≤ b && b ≤ 0xEF then some (2, 0x80, 0xBF)
  else if b == 0xF0 then some (3, 0x90, 0xBF)
  else if 0xF1 ≤ b && b ≤ 0xF3 then some (3, 0x80, 0xBF)
  else if b == 0xF4 then some (3, 0x80, 0x8F)
  else none

/-- How far the sequence led by a byte goes on: the value with `need` continuation bytes read, or
the number of bytes accepted and whether the input ended there. -/
def continueWith : Nat → UInt8 → UInt8 → Nat → Nat → List UInt8 → Except (Nat × Bool) (Nat × List UInt8)
  | 0, _, _, value, _, rest => .ok (value, rest)
  | _ + 1, _, _, _, seen, [] => .error (seen, true)
  | need + 1, lo, hi, value, seen, b :: rest =>
    if lo ≤ b && b ≤ hi then
      continueWith need 0x80 0xBF (value * 64 + (b.toNat - 0x80)) (seen + 1) rest
    else .error (seen, false)

theorem length_continueWith {need : Nat} {lo hi : UInt8} {value seen : Nat} {bytes : List UInt8}
    {result : Nat × List UInt8}
    (h : continueWith need lo hi value seen bytes = .ok result) :
    result.2.length ≤ bytes.length := by
  induction need generalizing lo hi value seen bytes with
  | zero => simp [continueWith] at h; simp [← h]
  | succ n ih =>
      cases bytes with
      | nil => simp [continueWith] at h
      | cons b rest =>
          unfold continueWith at h
          split at h
          · exact Nat.le_succ_of_le (ih h)
          · simp at h

/-- The value bits of a leading byte with the given number of continuation bytes. -/
def leadBits (count : Nat) (b : UInt8) : Nat :=
  match count with
  | 1 => b.toNat - 0xC0
  | 2 => b.toNat - 0xE0
  | _ => b.toNat - 0xF0

/-- The characters of the bytes from `index` on. -/
def decodeFrom (index : Nat) (bytes : List UInt8) : Except Utf8Fault (List Char) :=
  match bytes with
  | [] => .ok []
  | b :: rest =>
    if b < 0x80 then do
      let cs ← decodeFrom (index + 1) rest
      return Char.ofNat b.toNat :: cs
    else
      match continuations b with
      | none => .error (.invalid index 1)
      | some (count, lo, hi) =>
        match h : continueWith count lo hi (leadBits count b) 1 rest with
        | .error (_, true) => .error (.incomplete index)
        | .error (seen, false) => .error (.invalid index seen)
        | .ok (value, rest') => do
          have := length_continueWith h
          let cs ← decodeFrom (index + 1 + count) rest'
          return Char.ofNat value :: cs
  termination_by bytes.length
  decreasing_by
    · simp
    · simp at this ⊢; omega

/-- The text of a sequence of bytes. -/
def decodeUtf8 (bytes : List UInt8) : Except Utf8Fault String :=
  (decodeFrom 0 bytes).map String.ofList

/-- The characters of the bytes; a sequence that begins no character counts as one replacement
character. -/
def decodeLossy (bytes : List UInt8) : List Char :=
  match bytes with
  | [] => []
  | b :: rest =>
    if b < 0x80 then Char.ofNat b.toNat :: decodeLossy rest
    else
      match continuations b with
      | none => '\ufffd' :: decodeLossy rest
      | some (count, lo, hi) =>
        match h : continueWith count lo hi (leadBits count b) 1 rest with
        | .error (_, true) => ['\ufffd']
        | .error (seen, false) => '\ufffd' :: decodeLossy (rest.drop (seen - 1))
        | .ok (value, rest') =>
          have := length_continueWith h
          Char.ofNat value :: decodeLossy rest'
  termination_by bytes.length
  decreasing_by
    all_goals
      simp only [List.length_cons, List.length_drop] at *
      omega

end Folio.Text
