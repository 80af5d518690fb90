import Folio.Decimal.Shortest

/-!
# The binary number nearest to a decimal, and plain positional text

A decimal `m · 10^k` is read as the nearest double-precision number. Numbers are also shown in
positional notation whatever their size, with no place after a whole number.
-/

namespace Folio.Decimal

/-- The number nearest to `m · 10^k`. Past the range of the doubles the exponent is of no account,
so it is cut before anything is computed with it. -/
def nearest (m : Nat) (k : Int) : Float :=
  let leading := (Nat.toDigits 10 m).length + k
  if m = 0 ∨ leading < -330 then 0.0
  else if 330 < leading then 1.0 / 0.0
  else if k < 0 then Float.ofScientific m true k.natAbs
  else Float.ofScientific m false k.natAbs

/-- The digits of `n · 10^k` in positional notation. -/
def positional (n : Nat) (k : Int) : List Char :=
  let digits := Nat.toDigits 10 n
  let point := (digits.length : Int) + k
  if n = 0 then ['0']
  else if 0 ≤ k then digits ++ List.replicate k.toNat '0'
  else if 0 < point then digits.take point.toNat ++ '.' :: digits.drop point.toNat
  else ['0', '.'] ++ List.replicate (-point).toNat '0' ++ digits

/-- The text of a number in positional notation, with the fewest digits that read back. -/
def showPositional (x : Float) : String :=
  if x.isNaN then "NaN"
  else if x.isInf then if x < 0.0 then "-inf" else "inf"
  else
    let (negative, n, k) := ofFloat x
    String.ofList (if negative then '-' :: positional n k else positional n k)

end Folio.Decimal
