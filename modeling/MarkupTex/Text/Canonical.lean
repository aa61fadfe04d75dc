import MarkupTex.Text.CanonicalTables
/-!
# Canonical form of texts

The same letter with accents can be written as one character or as a letter and combining
characters.  `canonical` brings a text into the form in which characters are put together as far as
possible: they are taken apart, combining characters are put in the order of their classes, and what
fits is put together again.

Nothing changes in a text whose characters all lie below the combining ones.
-/

set_option autoImplicit false

namespace MarkupTex.Text

/-! ## Syllables of Korean -/

/-- A syllable is a leading consonant, a vowel, and perhaps a trailing consonant.  These are the
first codes of each kind and of the syllables, the code before the first trailing consonant, and
the numbers of vowels and of codes from there on. -/
def syllableBase : Nat := 0xAC00
def leadBase : Nat := 0x1100
def vowelBase : Nat := 0x1161
def trailBase : Nat := 0x11A7
def vowelCount : Nat := 21
def trailCount : Nat := 28
def syllableCount : Nat := 19 * vowelCount * trailCount

/-- The parts of a syllable. -/
def splitSyllable? (n : Nat) : Option (List Nat) :=
  if syllableBase ≤ n && n < syllableBase + syllableCount then
    let i := n - syllableBase
    let lead := leadBase + i / (vowelCount * trailCount)
    let vowel := vowelBase + i % (vowelCount * trailCount) / trailCount
    some (if i % trailCount = 0 then [lead, vowel] else [lead, vowel, trailBase + i % trailCount])
  else none

/-- A consonant and a vowel, or a syllable without a trailing consonant and such a consonant. -/
def joinSyllable? (a b : Nat) : Option Nat :=
  if leadBase ≤ a && a < leadBase + 19 && vowelBase ≤ b && b < vowelBase + vowelCount then
    some (syllableBase + ((a - leadBase) * vowelCount + (b - vowelBase)) * trailCount)
  else if syllableBase ≤ a && a < syllableBase + syllableCount
      && (a - syllableBase) % trailCount = 0 && trailBase < b && b < trailBase + trailCount then
    some (a + (b - trailBase))
  else none

/-! ## Taking apart -/

/-- The parts of a character, which are taken apart themselves at most `depth` times. -/
def splitCode : Nat → Nat → List Nat
  | 0, n => [n]
  | depth + 1, n =>
    match splitSyllable? n with
    | some parts => parts
    | none =>
      match (compositionTable.row? n).bind CodeRow.codes with
      | some [a, b] => splitCode depth a ++ [b]
      | _ => [n]

/-- No character is put together in more than three steps. -/
def splitChar (c : Char) : List Char := (splitCode 3 c.toNat).map Char.ofNat

/-! ## Order -/

/-- Zero for a character that does not combine. -/
def combiningClass (c : Char) : Nat :=
  if c.toNat < 0x300 then 0
  else (((combiningTable.row? c.toNat).bind CodeRow.codes).bind List.head?).getD 0

/-- Puts a character in front of a text.  A combining one goes behind those of lower classes. -/
def insertMark (c : Char) : List Char → List Char
  | [] => [c]
  | d :: ds =>
    if combiningClass d ≠ 0 && combiningClass d < combiningClass c then d :: insertMark c ds
    else c :: d :: ds

/-- Each run of combining characters in the order of their classes. -/
def sortMarks (cs : List Char) : List Char := cs.foldr insertMark []

/-! ## Putting together -/

def joinChars? (a b : Char) : Option Char :=
  match joinSyllable? a.toNat b.toNat with
  | some n => some (Char.ofNat n)
  | none =>
    (compositionTable.find? fun r => r.codes = some [a.toNat, b.toNat]).map fun r =>
      Char.ofNat r.first

/-- Puts together what follows the character `base`.  In `held` are the combining characters
behind it that did not fit, the last in front; they keep those of the same class or a lower one
away from it. -/
def joinFrom (base : Char) (held : List Char) : List Char → List Char
  | [] => base :: held.reverse
  | c :: cs =>
    let reached := match held with
      | [] => true
      | h :: _ => combiningClass h < combiningClass c
    match if reached then joinChars? base c else none with
    | some joined => joinFrom joined held cs
    | none =>
      if combiningClass c = 0 then base :: held.reverse ++ joinFrom c [] cs
      else joinFrom base (c :: held) cs

/-- Puts together all that fits.  Combining characters in front stay as they are. -/
def joinMarks : List Char → List Char
  | [] => []
  | c :: cs => if combiningClass c = 0 then joinFrom c [] cs else c :: joinMarks cs

/-- The canonical form of a text. -/
def canonical (cs : List Char) : List Char :=
  if cs.all fun c => c.toNat < 0x300 then cs else joinMarks (sortMarks (cs.flatMap splitChar))

end MarkupTex.Text
