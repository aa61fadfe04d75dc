import MarkupTex.Html.ReferenceTable
import MarkupTex.Text.Search
import MarkupTex.Text.Numeral
/-!
# References

A reference is an ampersand with the number or the name of a character behind it, and mostly a
semicolon.  A number needs no semicolon, and neither do some names; in the value of an attribute
such a name counts only where it cannot be part of another word or of a query.

An ampersand that begins no reference stays as it is.
-/

set_option autoImplicit false

namespace MarkupTex.Html

/-! ## Numbers -/

/-- What the codes from 0x80 to 0x9F stand for in a reference. -/
def legacyCodes : List Nat :=
  [0x20AC, 0x81, 0x201A, 0x0192, 0x201E, 0x2026, 0x2020, 0x2021, 0x02C6, 0x2030, 0x0160, 0x2039,
   0x0152, 0x8D, 0x017D, 0x8F, 0x90, 0x2018, 0x2019, 0x201C, 0x201D, 0x2022, 0x2013, 0x2014,
   0x02DC, 0x2122, 0x0161, 0x203A, 0x0153, 0x9D, 0x017E, 0x0178]

/-- What stands in the place of characters that cannot be there. -/
def replacement : Char := Char.ofNat 0xFFFD

/-- The character of a numeric reference.  Codes that are no character become the replacement
character. -/
def charOfCode (n : Nat) : Char :=
  if n = 0 || 0x10FFFF < n || (0xD800 ≤ n && n ≤ 0xDFFF) then replacement
  else if 0x80 ≤ n && n ≤ 0x9F then Char.ofNat (legacyCodes.getD (n - 0x80) n)
  else Char.ofNat n

def isDigitOf (base : Nat) (c : Char) : Bool := (Text.hexDigit? c).any (· < base)

/-- Leaves out a semicolon in front. -/
def dropSemicolon : List Char → List Char
  | ';' :: cs => cs
  | cs => cs

/-- The character whose number begins a text, and what follows the reference. -/
def numbered? (base : Nat) (cs : List Char) : Option (List Char × List Char) :=
  let digits := cs.takeWhile (isDigitOf base)
  if digits.isEmpty then none
  else
    (Text.natOfBase? base digits).map fun n =>
      ([charOfCode n], dropSemicolon (cs.dropWhile (isDigitOf base)))

/-! ## Names -/

structure NamedReference where
  name : List Char
  /-- The name needs no semicolon behind it. -/
  isFree : Bool
  text : List Char
  deriving Repr, Inhabited

/-- Reads one entry of the table. -/
def NamedReference.ofList (cs : List Char) : NamedReference :=
  let (name, codes) := (Text.splitAtChar '=' cs).getD (cs, [])
  let text := (Text.splitOnChar '.' codes).map fun code =>
    Char.ofNat ((Text.natOfBase? 16 code).getD 0)
  match name with
  | '*' :: name => ⟨name, true, text⟩
  | name => ⟨name, false, text⟩

def namedReferences : List NamedReference :=
  referenceLines.flatMap fun line => (Text.splitOnChar ' ' line.toList).map NamedReference.ofList

/-- The names that need no semicolon.  None of them is the beginning of another. -/
def freeReferences : List NamedReference := namedReferences.filter NamedReference.isFree

/-- The text of a name with a semicolon behind it.  The names that occur most are not looked up. -/
def textOfName? (name : List Char) : Option (List Char) :=
  match String.ofList name with
  | "amp" => some ['&']
  | "lt" => some ['<']
  | "gt" => some ['>']
  | "quot" => some ['\x22']
  | "nbsp" => some [Char.ofNat 0xA0]
  | _ => (namedReferences.find? fun r => r.name = name).map NamedReference.text

/-- The text of the name that begins a text, and what follows the reference. -/
def named? (inValue : Bool) (cs : List Char) : Option (List Char × List Char) :=
  let word := cs.takeWhile Char.isAlphanum
  let rest := cs.dropWhile Char.isAlphanum
  if word.isEmpty then none
  else
    match if rest.head? = some ';' then textOfName? word else none with
    | some text => some (text, rest.drop 1)
    | none =>
      match freeReferences.find? fun r => r.name.isPrefixOf word with
      | none => none
      | some r =>
        let rest := cs.drop r.name.length
        if inValue && rest.head?.any (fun c => c = '=' || c.isAlphanum) then none
        else some (r.text, rest)

/-! ## Resolving -/

/-- The text of the reference whose ampersand stands before `cs`, and what follows it. -/
def reference? (inValue : Bool) (cs : List Char) : Option (List Char × List Char) :=
  match cs with
  | '#' :: 'x' :: ds => numbered? 16 ds
  | '#' :: 'X' :: ds => numbered? 16 ds
  | '#' :: ds => numbered? 10 ds
  | _ => named? inValue cs

theorem length_dropSemicolon_le (cs : List Char) : (dropSemicolon cs).length ≤ cs.length := by
  unfold dropSemicolon
  split <;> simp

theorem length_of_numbered? {base : Nat} {cs : List Char} {r : List Char × List Char}
    (h : numbered? base cs = some r) : r.2.length ≤ cs.length := by
  unfold numbered? at h
  simp only at h
  split at h
  · simp at h
  · obtain ⟨n, -, rfl⟩ := Option.map_eq_some_iff.1 h
    exact Nat.le_trans (length_dropSemicolon_le _) (List.dropWhile_sublist _).length_le

theorem length_of_named? {inValue : Bool} {cs : List Char} {r : List Char × List Char}
    (h : named? inValue cs = some r) : r.2.length ≤ cs.length := by
  unfold named? at h
  dsimp only at h
  split at h
  · cases h
  · split at h
    · -- The name goes up to its semicolon.
      cases h
      have hrest := (List.dropWhile_sublist (l := cs) Char.isAlphanum).length_le
      simp only [List.length_drop]
      omega
    · split at h
      · cases h
      · -- The name is the beginning of the word.
        split at h
        · cases h
        · cases h
          simp only [List.length_drop]
          omega

/-- What follows a reference is no longer than what follows its ampersand. -/
theorem length_of_reference? {inValue : Bool} {cs : List Char} {r : List Char × List Char}
    (h : reference? inValue cs = some r) : r.2.length ≤ cs.length := by
  unfold reference? at h
  split at h
  case h_4 => exact length_of_named? h
  all_goals
    refine Nat.le_trans (length_of_numbered? h) ?_
    simp only [List.length_cons]
    omega

/-- Resolves the references of a text, or those of the value of an attribute. -/
def resolve (inValue : Bool) : List Char → List Char
  | [] => []
  | c :: cs =>
    if c = '&' then
      match h : reference? inValue cs with
      | some (text, rest) =>
        have : rest.length ≤ cs.length := length_of_reference? h
        text ++ resolve inValue rest
      | none => c :: resolve inValue cs
    else c :: resolve inValue cs
termination_by cs => cs.length
decreasing_by all_goals simp <;> omega

end MarkupTex.Html
