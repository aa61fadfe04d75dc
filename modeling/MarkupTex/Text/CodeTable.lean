import MarkupTex.Text.Search
import MarkupTex.Text.Numeral
/-!
# Tables of code points

A table over the characters of Unicode is written as lines of rows with spaces between them.  A row
is a code point in hexadecimal digits, or the first and the last of a range as in `41-5A`, or every
second one of a range as in `100-12E/2`.  Codes may follow that the row gives to its characters,
as in `C6>61.65`; what they mean is said by the table.
-/

set_option autoImplicit false

namespace MarkupTex.Text

structure CodeRow where
  first : Nat
  last : Nat
  /-- How far one character of the row is from the next. -/
  step : Nat
  /-- What stands behind the `>`, if there is one. -/
  codes : Option (List Nat)
  deriving DecidableEq, Repr, Inhabited

abbrev CodeTable := List CodeRow

namespace CodeRow

def covers (r : CodeRow) (n : Nat) : Bool :=
  r.first ≤ n && n ≤ r.last && (n - r.first) % r.step = 0

def number (cs : List Char) : Nat := (natOfBase? 16 cs).getD 0

/-- Reads a row. -/
def ofList (cs : List Char) : CodeRow :=
  let (range, codes) :=
    match splitAtChar '>' cs with
    | some (range, []) => (range, some [])
    | some (range, codes) => (range, some ((splitOnChar '.' codes).map number))
    | none => (cs, none)
  let (range, step) :=
    match splitAtChar '/' range with
    | some (range, step) => (range, number step)
    | none => (range, 1)
  match splitAtChar '-' range with
  | some (first, last) => ⟨number first, number last, step, codes⟩
  | none => ⟨number range, number range, step, codes⟩

end CodeRow

namespace CodeTable

def ofLines (lines : List String) : CodeTable :=
  lines.flatMap fun line => (splitOnChar ' ' line.toList).map CodeRow.ofList

/-- The row that covers a code point.  Rows are in the order of their first characters, and that is
why the ones that begin behind it are not looked at. -/
def row? (table : CodeTable) (n : Nat) : Option CodeRow :=
  (table.takeWhile fun r => r.first ≤ n).find? fun r => r.covers n

def contains (table : CodeTable) (n : Nat) : Bool := (table.row? n).isSome

end CodeTable

end MarkupTex.Text
