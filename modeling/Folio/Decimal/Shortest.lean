/-!
# The shortest decimal of a binary fraction

A finite binary number is `m · 2^q`. The reals nearer to it than to its neighbours form an interval,
whose ends belong to it when `m` is even. Its shortest decimal is the decimal of fewest digits in
that interval and, of several, the one nearest to the number. For a given number of digits only the
two points of the decimal grid next to the number need to be looked at.
-/

namespace Folio.Decimal

/-- A positive fraction. -/
structure Fraction where
  num : Nat
  den : Nat

/-- A positive binary number with half the way to its neighbours on each side. -/
structure Rounding where
  /-- The number. -/
  value : Fraction
  /-- The least real that rounds to the number, up to `closed`. -/
  low : Fraction
  /-- The greatest real that rounds to the number, up to `closed`. -/
  high : Fraction
  /-- The two ends round to the number too. -/
  closed : Bool

/-- `m · 2^q` as a fraction. -/
def scaled (m : Nat) (q : Int) : Fraction :=
  if q < 0 then ⟨m, Nat.pow 2 q.natAbs⟩ else ⟨m * Nat.pow 2 q.natAbs, 1⟩

/-- The rounding interval of `m · 2^q`; below a power of two the neighbours are nearer. -/
def Rounding.ofParts (m : Nat) (q : Int) (nearBelow : Bool) : Rounding where
  value := scaled m q
  low := if nearBelow then scaled (4 * m - 1) (q - 2) else scaled (2 * m - 1) (q - 1)
  high := scaled (2 * m + 1) (q - 1)
  closed := m % 2 == 0

/-- Compares two fractions. -/
def Fraction.compare (a b : Fraction) : Ordering := Ord.compare (a.num * b.den) (b.num * a.den)

/-- `n · 10^k` as a fraction. -/
def decimal (n : Nat) (k : Int) : Fraction :=
  if k < 0 then ⟨n, Nat.pow 10 k.natAbs⟩ else ⟨n * Nat.pow 10 k.natAbs, 1⟩

/-- The decimal rounds to the number. -/
def Rounding.accepts (r : Rounding) (n : Nat) (k : Int) : Bool :=
  let d := decimal n k
  match d.compare r.low, d.compare r.high with
  | .gt, .lt => true
  | .eq, .lt => r.closed
  | .gt, .eq => r.closed
  | _, _ => false

/-- The whole part of the number divided by `10^k`. -/
def Fraction.onGrid (v : Fraction) (k : Int) : Nat :=
  if k < 0 then v.num * Nat.pow 10 k.natAbs / v.den else v.num / (v.den * Nat.pow 10 k.natAbs)

/-- The grid point below the number is at most as far away as the one above. -/
def Fraction.nearerBelow (v : Fraction) (n : Nat) (k : Int) : Bool :=
  let below := decimal (2 * n + 1) k
  (Fraction.compare ⟨2 * v.num, v.den⟩ below).isLE

/-- The exponent of the leading decimal digit of a positive fraction. -/
def Fraction.leading (v : Fraction) : Int :=
  let digits := (Nat.toDigits 10 (v.num * Nat.pow 10 400 / v.den)).length
  (digits : Int) - 401

/-- The shortest decimal among those of `count` digits or more, up to seventeen. -/
def Rounding.shortestFrom (r : Rounding) (leading : Int) : Nat → Nat → Nat × Int
  | 0, count => (r.value.onGrid (leading - count), leading - count)
  | fuel + 1, count =>
    let k := leading - count + 1
    let below := r.value.onGrid k
    match r.accepts below k, r.accepts (below + 1) k with
    | true, true => if r.value.nearerBelow below k then (below, k) else (below + 1, k)
    | true, false => (below, k)
    | false, true => (below + 1, k)
    | false, false => r.shortestFrom leading fuel (count + 1)

/-- Takes the zeros off the end of a decimal. -/
def stripZeros : Nat → Nat → Int → Nat × Int
  | 0, n, k => (n, k)
  | fuel + 1, n, k => if n % 10 == 0 && n != 0 then stripZeros fuel (n / 10) (k + 1) else (n, k)

/-- Digits and exponent of the shortest decimal of a positive number. -/
def Rounding.shortest (r : Rounding) : Nat × Int :=
  let (n, k) := r.shortestFrom r.value.leading 17 1
  stripZeros 20 n k

/-- The bit of the sign in a double-precision number. -/
def signBit : Nat := 0x8000000000000000

/-- The leading bit of the significand, which is not written, above the bits that are. -/
def hiddenBit : Nat := 0x10000000000000

/-- Sign, digits and exponent of the shortest decimal of a finite number. -/
def ofFloat (x : Float) : Bool × Nat × Int :=
  let bits := x.toBits.toNat
  let negative := bits / signBit == 1
  let exponent := bits / hiddenBit % 0x800
  let fraction := bits % hiddenBit
  if exponent = 0 ∧ fraction = 0 then (negative, 0, 0)
  else if exponent = 0 then
    let (n, k) := (Rounding.ofParts fraction (-1074) false).shortest
    (negative, n, k)
  else
    let r := Rounding.ofParts (fraction + hiddenBit) ((exponent : Int) - 1075)
      (fraction == 0 && exponent > 1)
    let (n, k) := r.shortest
    (negative, n, k)

/-- The text of a number in positional notation between `1e-5` and `1e16` and in scientific notation
elsewhere; a whole number keeps one place. -/
def showFloat (x : Float) : String :=
  let (negative, n, k) := ofFloat x
  let digits := Nat.toDigits 10 n
  let point := (digits.length : Int) + k
  let body :=
    if n = 0 then ['0', '.', '0']
    else if 0 ≤ k ∧ point ≤ 16 then digits ++ List.replicate k.toNat '0' ++ ['.', '0']
    else if 0 < point ∧ point ≤ 16 then
      digits.take point.toNat ++ ['.'] ++ digits.drop point.toNat
    else if -5 < point ∧ point ≤ 0 then
      ['0', '.'] ++ List.replicate (-point).toNat '0' ++ digits
    else
      let exponent := 'e' :: (toString (point - 1)).toList
      match digits with
      | [d] => d :: exponent
      | d :: rest => d :: '.' :: rest ++ exponent
      | [] => exponent
  String.ofList (if negative then '-' :: body else body)

end Folio.Decimal
