import MarkupTex.Fault
import MarkupTex.Text.Search
import MarkupTex.Text.Numeral
import MarkupTex.Color.Names
/-!
# Colors

A color value becomes six hexadecimal digits, upper case, without a mark in front.  It may be a
name, `#` with 3, 4, 6 or 8 digits, or `rgb(..)` and `rgba(..)` with numbers or percentages.  The
alpha channel is read and dropped.

A value that is a color but has no fixed digits is unsupported; anything else is no color at all.
-/

set_option autoImplicit false

namespace MarkupTex.Color

/-- Keywords whose color depends on where they stand. -/
def contextual : List String := ["transparent", "currentcolor", "inherit", "initial", "unset"]

def isHexDigit (c : Char) : Bool :=
  ('0' ≤ c && c ≤ '9') || ('a' ≤ c && c ≤ 'f') || ('A' ≤ c && c ≤ 'F')

/-- Digits behind the mark: short forms double each digit, and a fourth channel is dropped. -/
def ofHexDigits? (cs : List Char) : Option String :=
  if !cs.all isHexDigit then none
  else if cs.length = 3 || cs.length = 4 then
    some (String.ofList ((cs.take 3).flatMap fun c => [c.toUpper, c.toUpper]))
  else if cs.length = 6 || cs.length = 8 then
    some (String.ofList ((cs.take 6).map Char.toUpper))
  else none

/-- Digits and points, then perhaps a percent sign: one channel of `rgb(..)` as it is written.
The answer is its characters and what follows. -/
def channelText? (cs : List Char) : Option (List Char × List Char) :=
  let isPart := fun c : Char => c.isDigit || c = '.'
  let number := cs.takeWhile isPart
  if number.isEmpty then none
  else
    match cs.dropWhile isPart with
    | '%' :: rest => some (number ++ ['%'], rest)
    | rest => some (number, rest)

/-- A comma with blanks around it, or blanks alone. -/
def separator? (cs : List Char) : Option (List Char) :=
  match Text.trimStartList cs with
  | ',' :: rest => some (Text.trimStartList rest)
  | rest => if rest.length < cs.length then some rest else none

/-- The closing parenthesis at the very end, perhaps after a fourth channel. -/
def endsChannels (cs : List Char) : Bool :=
  match Text.trimStartList cs with
  | [')'] => true
  | mark :: rest =>
    if mark = ',' || mark = '/' then
      match channelText? (Text.trimStartList rest) with
      | some (_, after) => Text.trimStartList after = [')']
      | none => false
    else false
  | [] => false

/-- The three channels between the parentheses, as they are written. -/
def channelTexts? (cs : List Char) : Option (List (List Char)) := do
  let (red, cs) ← channelText? (Text.trimStartList cs)
  let cs ← separator? cs
  let (green, cs) ← channelText? cs
  let cs ← separator? cs
  let (blue, cs) ← channelText? cs
  if endsChannels cs then some [red, green, blue] else none

/-- What stands in the parentheses of `rgb(..)` or `rgba(..)`, the last one included. -/
def functionBody? (cs : List Char) : Option (List Char) :=
  match cs with
  | 'r' :: 'g' :: 'b' :: '(' :: rest => some rest
  | 'r' :: 'g' :: 'b' :: 'a' :: '(' :: rest => some rest
  | _ => none

def clamp (low high x : Float) : Float := if x < low then low else if high < x then high else x

/-- One channel as a number up to 255; larger numbers count as 255, percentages above a hundred as
a hundred, and halves are rounded up. -/
def channel? (cs : List Char) : Option UInt8 :=
  match Text.beforeEnd? "%" (String.ofList cs) with
  | some number =>
    (Text.float? number).map fun x => (clamp 0.0 100.0 x * 255.0 / 100.0).round.toUInt8
  | none => (Text.float? (String.ofList cs)).map fun x => (clamp 0.0 255.0 x).round.toUInt8

def hexDigit (n : Nat) : Char := (Nat.digitChar n).toUpper

def twoDigits (b : UInt8) : List Char := [hexDigit (b.toNat / 16), hexDigit (b.toNat % 16)]

/-- The digits of a list of channels, if each of them is a number. -/
def ofChannels? : List (List Char) → Option (List Char)
  | [] => some []
  | cs :: rest => do
    let b ← channel? cs
    let digits ← ofChannels? rest
    some (twoDigits b ++ digits)

/-- Notations for colors that are not read. -/
def otherNotations : List String := ["hsl", "hwb", "lab"]

/-- The six digits of a color value, with any case and blanks around it. -/
def toHex (text : String) : Except Fault String :=
  let shown := Text.trim text
  let s := Text.lower shown
  match ofName? s with
  | some digits => .ok digits
  | none =>
    if contextual.contains s then
      .error ⟨.unsupported, s!"color keyword '{shown}' has no fixed value"⟩
    else
      match s.toList with
      | '#' :: cs =>
        match ofHexDigits? cs with
        | some digits => .ok digits
        | none => .error ⟨.cssValue, s!"invalid hex color '{shown}'"⟩
      | cs =>
        match (functionBody? cs).bind channelTexts? with
        | some channels =>
          match ofChannels? channels with
          | some digits => .ok (String.ofList digits)
          | none => .error ⟨.cssValue, s!"invalid color '{shown}'"⟩
        | none =>
          if otherNotations.any (Text.beginsWith s) then
            .error ⟨.unsupported, s!"color notation '{shown}'"⟩
          else .error ⟨.cssValue, s!"unrecognized color '{shown}'"⟩

def isName (text : String) : Bool := (ofName? (Text.lower (Text.trim text))).isSome

end MarkupTex.Color
