import MarkupTex.Text.Blank
import MarkupTex.Decimal
/-!
# Reading numbers

Whole numbers are an optional sign and at least one ASCII digit, and they must lie in the range that
the place asks for: a numeral beyond it is no number at all, rather than the nearest one.

Decimal numbers are read to the nearest binary fraction of 64 bits, ties to even, whatever their
length.
-/

set_option autoImplicit false

namespace MarkupTex.Text

/-- The value of a row of ASCII digits, the first being the most significant. -/
def natOfDigits (cs : List Char) : Nat := cs.foldl (fun n c => 10 * n + (c.toNat - '0'.toNat)) 0

def digits? (cs : List Char) : Option Nat :=
  if cs.isEmpty || !cs.all Char.isDigit then none else some (natOfDigits cs)

/-- The value of a hexadecimal digit of either case. -/
def hexDigit? (c : Char) : Option Nat :=
  if c.isDigit then some (c.toNat - '0'.toNat)
  else if 'a' ≤ c && c ≤ 'f' then some (c.toNat - 'a'.toNat + 10)
  else if 'A' ≤ c && c ≤ 'F' then some (c.toNat - 'A'.toNat + 10)
  else none

/-- The value of a row of digits to a base of at most 16; that of an empty row is zero. -/
def natOfBase? (base : Nat) (cs : List Char) : Option Nat :=
  cs.foldl
    (fun acc c => acc.bind fun n => (hexDigit? c).bind fun d =>
      if d < base then some (base * n + d) else none)
    (some 0)

/-- A sign may stand in front of the digits. -/
def integerList? : List Char → Option Int
  | '+' :: cs => (digits? cs).map fun n => (n : Int)
  | '-' :: cs => (digits? cs).map fun n => -(n : Int)
  | cs => (digits? cs).map fun n => (n : Int)

/-- The whole number that `s` writes, if it has one and lies between `low` and `high`. -/
def integerBetween? (low high : Int) (s : String) : Option Int :=
  (integerList? s.toList).filter fun n => low ≤ n && n ≤ high

/-- A whole number of 64 bits with sign. -/
def int64? (s : String) : Option Int := integerBetween? (-9223372036854775808) 9223372036854775807 s

/-- A whole number of 32 bits with sign. -/
def int32? (s : String) : Option Int := integerBetween? (-2147483648) 2147483647 s

/-- A natural number of 32 bits.  A minus sign is refused, also in front of a zero. -/
def nat32? (s : String) : Option Nat :=
  match s.toList with
  | '+' :: cs => (digits? cs).filter (· ≤ 4294967295)
  | cs => (digits? cs).filter (· ≤ 4294967295)

/-- The exponent at the end of a decimal numeral: nothing, or `e`, a sign and digits. -/
def exponent? : List Char → Option Int
  | [] => some 0
  | c :: cs => if c = 'e' || c = 'E' then integerList? cs else none

/-- Digits with a point among them or around them, at least one digit in all, then an exponent.
The answer `(m, k)` stands for `m * 10 ^ k`. -/
def scaled? (cs : List Char) : Option (Nat × Int) :=
  let whole := cs.takeWhile Char.isDigit
  match cs.dropWhile Char.isDigit with
  | '.' :: rest =>
    let fraction := rest.takeWhile Char.isDigit
    if whole.isEmpty && fraction.isEmpty then none
    else
      (exponent? (rest.dropWhile Char.isDigit)).map fun e =>
        (natOfDigits (whole ++ fraction), e - fraction.length)
  | rest =>
    if whole.isEmpty then none else (exponent? rest).map fun e => (natOfDigits whole, e)

/-- An unsigned decimal numeral, or one of the words for infinity and for no number. -/
def magnitude? (cs : List Char) : Option Float :=
  let word := lower (String.ofList cs)
  if word = "inf" || word = "infinity" then some Decimal.infinity
  else if word = "nan" then some Decimal.notANumber
  else (scaled? cs).map fun (m, k) => Decimal.nearestScaled m k

/-- The number that a decimal numeral stands for. -/
def float? (s : String) : Option Float :=
  match s.toList with
  | '+' :: cs => magnitude? cs
  | '-' :: cs => (magnitude? cs).map Decimal.negate
  | cs => magnitude? cs

end MarkupTex.Text
