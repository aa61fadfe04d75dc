import MarkupTex.Text.Search
/-!
# Labels in ASCII form

A label with characters beyond ASCII can be written in ASCII: its ASCII characters, a hyphen if
there are any, and then digits to the base 36 that say which other characters go where.  The others
come in ascending order, and each number says how far the place goes on from the one before; a place
behind the last one leads to the next code point and to the beginning of the label.

The digits of a number are weighed by thresholds that follow the size of the numbers before.
-/

set_option autoImplicit false

namespace MarkupTex.Domain.Punycode

def base : Nat := 36

/-- The letters are the digits from 0 to 25, and the decimal digits those from 26 to 35. -/
def digit? (c : Char) : Option Nat :=
  if 'a' ≤ c && c ≤ 'z' then some (c.toNat - 'a'.toNat)
  else if c.isDigit then some (c.toNat - '0'.toNat + 26)
  else none

/-- A digit below the threshold is the last one of its number.  `k` is 36 times the place of the
digit, counted from one. -/
def threshold (bias k : Nat) : Nat := min 26 (max 1 (k - bias))

/-- Divides by 35 until at most 455 is left; counts 36 for each division. -/
def scaleDown (delta k : Nat) : Nat × Nat :=
  if 455 < delta then scaleDown (delta / 35) (k + base) else (delta, k)
termination_by delta
decreasing_by exact Nat.div_lt_self (by omega) (by omega)

/-- The bias for the next number, after the number `delta` that has put the label's length to
`count`. -/
def adapt (delta count : Nat) (first : Bool) : Nat :=
  let halved := if first then delta / 700 else delta / 2
  let (rest, k) := scaleDown (halved + halved / count) 0
  k + base * rest / (rest + 38)

/-- Reads the digits of a number that are left, with what follows them. -/
def number? (bias k weight sum : Nat) : List Char → Option (Nat × List Char)
  | [] => none
  | c :: cs =>
    (digit? c).bind fun d =>
      let sum := sum + d * weight
      if d < threshold bias k then some (sum, cs)
      else number? bias (k + base) (weight * (base - threshold bias k)) sum cs

/-- A number has at least one digit. -/
theorem length_of_number? {bias k weight sum n : Nat} {cs rest : List Char}
    (h : number? bias k weight sum cs = some (n, rest)) : rest.length < cs.length := by
  induction cs generalizing k weight sum with
  | nil => simp [number?] at h
  | cons c cs ih =>
    obtain ⟨d, -, h⟩ := Option.bind_eq_some_iff.1 h
    simp only at h
    split at h
    · obtain ⟨-, rfl⟩ : _ ∧ cs = rest := by simpa using h
      simp
    · have := ih h
      simp
      omega

/-- Puts the characters of the numbers into the label.  It goes on from the place `place` and the
code point `code`. -/
def insertFrom (bias code place : Nat) (label : List Char) (cs : List Char) :
    Option (List Char) :=
  if cs.isEmpty then some label
  else
    match h : number? bias base 1 place cs with
    | none => none
    | some (n, rest) =>
      have : rest.length < cs.length := length_of_number? h
      let count := label.length + 1
      let code := code + n / count
      if code.isValidChar then
        insertFrom (adapt (n - place) count (place = 0)) code (n % count + 1)
          (label.insertIdx (n % count) (Char.ofNat code)) rest
      else none
termination_by cs.length

/-- The label that is written in ASCII by `cs`, what marks it as such left out. -/
def decode? (cs : List Char) : Option (List Char) :=
  let digits := (cs.reverse.takeWhile (· ≠ '-')).reverse
  let plain := (cs.take (cs.length - digits.length)).dropLast
  if plain.isEmpty then insertFrom 72 128 0 [] cs else insertFrom 72 128 0 plain digits

end MarkupTex.Domain.Punycode
