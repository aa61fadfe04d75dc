import MarkupTex.Text.Search
import MarkupTex.Text.Numeral
/-!
# Addresses in URLs

A host can be an address of four bytes, written as one to four numbers with points between them, or
an address of eight groups of 16 bits in brackets.  Of an address it only counts that it is one.
-/

set_option autoImplicit false

namespace MarkupTex.Url

/-! ## Four bytes -/

/-- A part of an address of four bytes: decimal, octal after `0`, hexadecimal after `0x`. -/
def addressNumber? (cs : List Char) : Option Nat :=
  match cs with
  | [] => none
  | ['0'] => some 0
  | '0' :: 'x' :: ds => Text.natOfBase? 16 ds
  | '0' :: 'X' :: ds => Text.natOfBase? 16 ds
  | '0' :: ds => Text.natOfBase? 8 ds
  | ds => Text.natOfBase? 10 ds

/-- The parts between the points, without an empty one at the end. -/
def domainParts (cs : List Char) : List (List Char) :=
  let parts := Text.splitOnChar '.' cs
  if 1 < parts.length && parts.getLast? = some [] then parts.dropLast else parts

/-- Whether a domain has to be an address, because its last part is a number. -/
def endsInNumber (cs : List Char) : Bool :=
  match (domainParts cs).getLast? with
  | some part => (!part.isEmpty && part.all Char.isDigit) || (addressNumber? part).isSome
  | none => false

/-- All the numbers but the last are below 256; the last fills the bytes that are left. -/
def fitsAddress : List Nat → Nat → Bool
  | [], _ => false
  | [n], bytes => n < Nat.pow 256 bytes
  | n :: rest, bytes => n < 256 && fitsAddress rest (bytes - 1)

def isAddress4 (cs : List Char) : Bool :=
  let parts := domainParts cs
  match parts.mapM addressNumber? with
  | some numbers => parts.length ≤ 4 && fitsAddress numbers 4
  | none => false

/-! ## Eight groups -/

/-- Four decimal numbers below 256 without leading zeros, at the end of an address in brackets. -/
def isDottedTail (cs : List Char) : Bool :=
  let parts := Text.splitOnChar '.' cs
  parts.length = 4 && parts.all fun part =>
    (Text.digits? part).any (· < 256) && (part.length = 1 || part.head? ≠ some '0')

/-- How many groups of 16 bits a run between double colons has. -/
def groupCount? (run : List Char) : Option Nat :=
  if run.isEmpty then some 0
  else
    let groups := Text.splitOnChar ':' run
    let isGroup := fun g : List Char =>
      !g.isEmpty && g.length ≤ 4 && g.all fun c => (Text.hexDigit? c).isSome
    if groups.all isGroup then some groups.length
    else if groups.dropLast.all isGroup && groups.getLast?.any isDottedTail then
      some (groups.length + 1)
    else none

/-- Eight groups of 16 bits, or fewer with a double colon in the place of the missing ones. -/
def isAddress6 (cs : List Char) : Bool :=
  match Text.splitFirst "::".toList cs with
  | none => groupCount? cs = some 8
  | some (first, second) =>
    match groupCount? first, groupCount? second with
    | some a, some b => a + b ≤ 7 && !first.contains '.'
    | _, _ => false

def isBracketed (host : List Char) : Bool :=
  host.head? = some '[' && host.getLast? = some ']' && isAddress6 (host.drop 1).dropLast

end MarkupTex.Url
