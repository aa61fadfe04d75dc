/-!
# Binary fractions and decimal text

A `Float` is taken apart into `m * 2 ^ q` and everything else is arithmetic of natural numbers, so
the digits written are those of the exact value.

* `nearest` goes from a quotient to the nearest float, ties to the even neighbour.
* `twoPlaces` writes two digits behind the point, again ties to even.
* `shortest` writes the fewest digits that no other float is nearer to.
-/

set_option autoImplicit false

namespace MarkupTex.Decimal

/-- The nearest whole number to `num / den`; a half goes to the even neighbour. -/
def roundDiv (num den : Nat) : Nat :=
  let low := num / den
  let twice := 2 * (num % den)
  if twice < den then low
  else if den < twice then low + 1
  else if low % 2 = 0 then low
  else low + 1

/-- What the 64 bits of a float stand for. -/
inductive Value where
  | notANumber
  | infinite (negative : Bool)
  /-- The number `m * 2 ^ q`, or its negative. -/
  | finite (negative : Bool) (m : Nat) (q : Int)
  deriving DecidableEq, Repr, Inhabited

def valueOfBits (bits : Nat) : Value :=
  let negative : Bool := bits / Nat.pow 2 63 % 2 = 1
  let field : Nat := bits / Nat.pow 2 52 % Nat.pow 2 11
  let fraction : Nat := bits % Nat.pow 2 52
  if field = 2047 then (if fraction = 0 then .infinite negative else .notANumber)
  else if field = 0 then .finite negative fraction (-1074)
  else .finite negative (Nat.pow 2 52 + fraction) (field - 1075)

def value (x : Float) : Value := valueOfBits x.toBits.toNat

def infinityBits : Nat := 2047 * Nat.pow 2 52

def infinity : Float := Float.ofBits (UInt64.ofNat infinityBits)

def notANumber : Float := Float.ofBits (UInt64.ofNat (infinityBits + Nat.pow 2 51))

/-- Turns the sign bit round, of zero and infinity as well. -/
def negate (x : Float) : Float := Float.ofBits (x.toBits ^^^ 0x8000000000000000)

/-- `num * 2 ^ e` as a quotient of natural numbers. -/
def shiftQuotient (num den : Nat) (e : Int) : Nat × Nat :=
  if e < 0 then (num, den * Nat.pow 2 (-e).toNat) else (num * Nat.pow 2 e.toNat, den)

/-- The bits of the nearest float to `num / den`.

The exponent is chosen so that the rounded quotient has 53 bits, or fewer where the exponent is the
least there is.  A quotient that rounds up to `2 ^ 53` carries into the exponent field, which is
what the addition does. -/
def nearestBits (num den : Nat) : Nat :=
  if num = 0 || den = 0 then 0
  else
    let guess : Int := (num.log2 : Int) - den.log2
    let (a, b) := shiftQuotient num den (-guess)
    let top := if b ≤ a then guess else guess - 1
    let q : Int := max (top - 52) (-1074)
    let (c, d) := shiftQuotient num den (-q)
    let m := roundDiv c d
    let bits := if m < Nat.pow 2 52 then m else (q + 1074).toNat * Nat.pow 2 52 + m
    min bits infinityBits

def nearest (num den : Nat) : Float := Float.ofBits (UInt64.ofNat (nearestBits num den))

/-- How many decimal digits `n` has; zero has one. -/
def digitCount (n : Nat) : Nat := (Nat.toDigits 10 n).length

/-- The nearest float to `m * 10 ^ k`.  Numbers of more than 310 digits are infinite and those
below `10 ^ (-330)` are zero, so the power of ten stays small whatever `k` is. -/
def nearestScaled (m : Nat) (k : Int) : Float :=
  if m = 0 then nearest 0 1
  else
    let size := (digitCount m : Int) + k
    if 310 < size then infinity
    else if size < -330 then nearest 0 1
    else if k < 0 then nearest m (Nat.pow 10 (-k).toNat)
    else nearest (m * Nat.pow 10 k.toNat) 1

def digits (n : Nat) : String := String.ofList (Nat.toDigits 10 n)

def sign (negative : Bool) : String := if negative then "-" else ""

/-- Hundredths with a point before the last two digits. -/
def hundredths (n : Nat) : String :=
  let cents := n % 100
  digits (n / 100) ++ "." ++ (if cents < 10 then "0" else "") ++ digits cents

/-- The exact value, rounded to two places behind the point. -/
def twoPlaces (x : Float) : String :=
  match value x with
  | .notANumber => "NaN"
  | .infinite negative => sign negative ++ "inf"
  | .finite negative m q =>
    let (num, den) := shiftQuotient (100 * m) 1 q
    sign negative ++ hundredths (roundDiv num den)

/-- A positive number `num / den` with the numbers that round to it: those within `below / den` on
one side and `above / den` on the other, the ends included if `closed`. -/
structure Interval where
  num : Nat
  den : Nat
  below : Nat
  above : Nat
  closed : Bool

/-- The numbers that are nearer to `m * 2 ^ q` than to any other float.  Below a power of two the
next float is only half as far away. -/
def Interval.ofParts (m : Nat) (q : Int) : Interval :=
  let narrow : Bool := m = Nat.pow 2 52 && -1074 < q
  let (num, den) := shiftQuotient (4 * m) 4 q
  let unit := num / m
  { num, den, below := if narrow then unit / 4 else unit / 2, above := unit / 2,
    closed := m % 2 = 0 }

/-- Whether `n / scale` lies in the interval. -/
def Interval.holds (i : Interval) (n scale : Nat) : Bool :=
  let point := n * i.den
  let low := (i.num - i.below) * scale
  let high := (i.num + i.above) * scale
  if i.closed then low ≤ point && point ≤ high else low < point && point < high

/-- The multiple of `10 ^ k` next to the number that lies in the interval, divided by `10 ^ k`.
Of two the nearer is taken, and the larger if they are equally near. -/
def Interval.onGrid (i : Interval) (k : Int) : Option Nat :=
  let step := if k < 0 then 1 else Nat.pow 10 k.toNat
  let scale := if k < 0 then Nat.pow 10 (-k).toNat else 1
  let low := i.num * scale / (i.den * step)
  let lowIn := 0 < low && i.holds (low * step) scale
  let highIn := i.holds ((low + 1) * step) scale
  let twice := 2 * (i.num * scale % (i.den * step))
  if highIn && (!lowIn || i.den * step ≤ twice) then some (low + 1)
  else if lowIn then some low
  else none

/-- Tries the grids from `10 ^ k` downwards; the first with a hit gives the fewest digits. -/
def Interval.search (i : Interval) (k : Int) : Nat → Nat × Int
  | 0 => (0, 0)
  | fuel + 1 =>
    match i.onGrid k with
    | some n => (n, k)
    | none => i.search (k - 1) fuel

/-- Digits and power of ten of the shortest numeral for `m * 2 ^ q`.  The first grid tried has a
step above the number and the last one tried is finer than the floats are there. -/
def shortestScaled (m : Nat) (q : Int) : Nat × Int :=
  let i := Interval.ofParts m q
  let top : Int := (digitCount (i.num / i.den) : Int) + 1
  let (n, k) := i.search top (if q < 0 then 1100 else 20)
  if n % 10 = 0 && n ≠ 0 then (n / 10, k + 1) else (n, k)

/-- Digits with a point in the right place, and at least one digit behind it. -/
def positional (n : Nat) (k : Int) : String :=
  if 0 ≤ k then digits (n * Nat.pow 10 k.toNat) ++ ".0"
  else
    let ds := Nat.toDigits 10 n
    let places := (-k).toNat
    let padded := List.replicate (places + 1 - ds.length) '0' ++ ds
    let whole := padded.length - places
    String.ofList (padded.take whole) ++ "." ++ String.ofList (padded.drop whole)

/-- One digit before the point, the rest behind it, and the power of ten. -/
def scientific (n : Nat) (k : Int) : String :=
  match Nat.toDigits 10 n with
  | [] => ""
  | d :: ds =>
    let tail := if ds.isEmpty then "" else "." ++ String.ofList ds
    let e := k + ds.length
    String.singleton d ++ tail ++ "e" ++ (if e < 0 then "-" else "") ++ digits e.natAbs

/-- The fewest digits that stand for this float and no other.  From `10 ^ 16` on, and below
`10 ^ (-4)`, a power of ten is written. -/
def shortest (x : Float) : String :=
  match value x with
  | .notANumber => "NaN"
  | .infinite negative => sign negative ++ "inf"
  | .finite negative m q =>
    if m = 0 then sign negative ++ "0.0"
    else
      let (n, k) := shortestScaled m q
      let size := (digitCount n : Int) + k
      sign negative ++ (if 16 < size || size < -3 then scientific n k else positional n k)

end MarkupTex.Decimal
