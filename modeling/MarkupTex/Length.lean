import MarkupTex.Fault
import MarkupTex.Text.Search
import MarkupTex.Text.Numeral
/-!
# Lengths

A length is a number with a unit, as in `12px`, `1.5em` or `50%`; a bare number counts pixels.
Every unit but the percentage has an absolute size in points, and a size that the typesetter cannot
hold is a fault.
-/

set_option autoImplicit false

namespace MarkupTex

inductive LengthUnit where
  | pixel
  | point
  | pica
  | centimeter
  | millimeter
  | inch
  | em
  | rem
  | percent
  deriving DecidableEq, Repr, Inhabited

namespace LengthUnit

/-- The name that stands in a message. -/
def label : LengthUnit → String
  | pixel => "Pixel"
  | point => "Point"
  | pica => "Pica"
  | centimeter => "Centimeter"
  | millimeter => "Millimeter"
  | inch => "Inch"
  | em => "Em"
  | rem => "Rem"
  | percent => "Percent"

/-- The endings that name a unit, in the order in which they are tried: `rem` ends in `em`. -/
def endings : List (String × LengthUnit) :=
  [("rem", rem), ("px", pixel), ("pt", point), ("pc", pica), ("cm", centimeter),
   ("mm", millimeter), ("in", inch), ("em", em), ("%", percent)]

end LengthUnit

structure Length where
  amount : Float
  unit : LengthUnit

/-- A number with two places behind the point, less the zeros at the end and a bare point. -/
def formatNumber (x : Float) : String :=
  String.ofList
    (Text.dropEndWhile (· = '.') (Text.dropEndWhile (· = '0') (Decimal.twoPlaces x).toList))

namespace Length

/-- The size of a font that `em` and `rem` go by, in points. -/
def basePoints : Float := 10.0

/-- The largest size that the typesetter takes, in points. -/
def maxPoints : Float := 16383.99

def isFinite (x : Float) : Bool :=
  match Decimal.value x with
  | .finite .. => true
  | _ => false

def malformed (whole : String) : Fault := ⟨.cssValue, s!"invalid length '{whole}'"⟩

/-- The number in front of a unit: finite and not negative. -/
def amount? (number whole : String) : Except Fault Float :=
  match Text.float? (Text.trim number) with
  | some x => if !isFinite x || x < 0.0 then .error (malformed whole) else .ok x
  | none => .error (malformed whole)

/-- Finds the unit that `s` ends in. -/
def unitOf? (s : String) : List (String × LengthUnit) → Option (String × LengthUnit)
  | [] => none
  | (ending, unit) :: rest =>
    match Text.beforeEnd? ending s with
    | some number => some (number, unit)
    | none => unitOf? s rest

def endsInLetter (s : String) : Bool := s.toList.getLast?.any Text.isAsciiLetter

def keywords : List String := ["auto", "inherit", "initial", "unset"]

/-- Reads a length.  Case and blanks around it do not matter. -/
def parse (text : String) : Except Fault Length :=
  let s := Text.lower (Text.trim text)
  if s.isEmpty then .error ⟨.cssValue, "empty length"⟩
  else if keywords.contains s then .error ⟨.unsupported, s!"length keyword '{s}'"⟩
  else
    match unitOf? s LengthUnit.endings with
    | some (number, unit) => (amount? number s).map fun x => ⟨x, unit⟩
    | none =>
      if endsInLetter s then .error ⟨.unsupported, s!"length unit in '{s}'"⟩
      else (amount? s s).map fun x => ⟨x, .pixel⟩

/-- Unit and amount as a message shows them. -/
def display (l : Length) : String := l.unit.label ++ "(" ++ Decimal.shortest l.amount ++ ")"

/-- The size in points before any limit.  A pixel is three quarters of a point. -/
def rawPoints? (l : Length) : Option Float :=
  let x := l.amount
  match l.unit with
  | .pixel => some (x * 0.75)
  | .point => some x
  | .pica => some (x * 12.0)
  | .centimeter => some (x * 72.0 / 2.54)
  | .millimeter => some (x * 72.0 / 25.4)
  | .inch => some (x * 72.0)
  | .em | .rem => some (x * basePoints)
  | .percent => none

/-- The size in points. -/
def toPoints (l : Length) : Except Fault Float :=
  match l.rawPoints? with
  | none => .error ⟨.unsupported, "percentage length has no absolute size"⟩
  | some points =>
    if !isFinite points || maxPoints < points then
      .error ⟨.cssValue, "length " ++ l.display ++ " is out of range"⟩
    else .ok points

/-- The length as the typesetter reads it: points, or a share of the line. -/
def toLatex (l : Length) : Except Fault String :=
  match l.unit with
  | .percent => .ok (formatNumber (l.amount / 100.0) ++ "\\linewidth")
  | _ => l.toPoints.map fun points => formatNumber points ++ "pt"

end Length

end MarkupTex
