/-!
# Blank characters

Blank means here: the character has the property `White_Space` of Unicode.  These are 25 code
points, of which the ASCII ones are six.  Trimming, splitting into words and the collapsing of runs
all go by this one class.

The functions work on lists of characters; those on `String` are the same through `String.toList`.
-/

set_option autoImplicit false

namespace MarkupTex.Text

/-- The code points with the property `White_Space`, as ranges with both ends. -/
def blankRanges : List (Nat × Nat) :=
  [(0x09, 0x0D), (0x20, 0x20), (0x85, 0x85), (0xA0, 0xA0), (0x1680, 0x1680), (0x2000, 0x200A),
   (0x2028, 0x2029), (0x202F, 0x202F), (0x205F, 0x205F), (0x3000, 0x3000)]

def isBlank (c : Char) : Bool :=
  blankRanges.any fun (first, last) => first ≤ c.toNat && c.toNat ≤ last

def trimStartList (cs : List Char) : List Char := cs.dropWhile isBlank

/-- Drops the characters of a class from the end. -/
def dropEndWhile (p : Char → Bool) (cs : List Char) : List Char := (cs.reverse.dropWhile p).reverse

/-- Nothing is dropped where the last character is not of the class. -/
theorem dropEndWhile_eq_self {p : Char → Bool} {cs : List Char}
    (h : cs.getLast?.any p = false) : dropEndWhile p cs = cs := by
  rw [List.getLast?_eq_head?_reverse] at h
  have hdrop : cs.reverse.dropWhile p = cs.reverse := by
    cases hr : cs.reverse with
    | nil => rfl
    | cons c rest =>
      have hc : p c = false := by simpa [hr] using h
      simp [hc]
  rw [dropEndWhile, hdrop, List.reverse_reverse]

def trimEndList (cs : List Char) : List Char := dropEndWhile isBlank cs

def trimList (cs : List Char) : List Char := trimEndList (trimStartList cs)

def trimStart (s : String) : String := String.ofList (trimStartList s.toList)

def trimEnd (s : String) : String := String.ofList (trimEndList s.toList)

def trim (s : String) : String := String.ofList (trimList s.toList)

/-- Nothing but blank characters, the empty text included. -/
def isBlankText (s : String) : Bool := s.toList.all isBlank

/-- Maximal runs without a blank, in order; `word` is the run being read, last character first. -/
def wordsFrom (word : List Char) : List Char → List (List Char)
  | [] => if word.isEmpty then [] else [word.reverse]
  | c :: cs =>
    if isBlank c then
      if word.isEmpty then wordsFrom [] cs else word.reverse :: wordsFrom [] cs
    else wordsFrom (c :: word) cs

def words (s : String) : List String := (wordsFrom [] s.toList).map String.ofList

/-- Every run of blanks becomes one space; `inRun` tells that a run has been written already. -/
def collapseFrom (inRun : Bool) : List Char → List Char
  | [] => []
  | c :: cs =>
    if isBlank c then
      if inRun then collapseFrom true cs else ' ' :: collapseFrom true cs
    else c :: collapseFrom false cs

def collapse (s : String) : String := String.ofList (collapseFrom false s.toList)

/-- A text without what is blank at its ends, or nothing if nothing is left. -/
def nonBlank? (s : String) : Option String :=
  let t := trim s
  if t.isEmpty then none else some t

/-- Lower case for the letters `A` to `Z`; every other character stays. -/
def lower (s : String) : String := s.map Char.toLower

/-- Upper case for the letters `a` to `z`; every other character stays. -/
def upper (s : String) : String := s.map Char.toUpper

def isAsciiUpper (c : Char) : Bool := 'A' ≤ c && c ≤ 'Z'

def isAsciiLetter (c : Char) : Bool := ('A' ≤ c && c ≤ 'Z') || ('a' ≤ c && c ≤ 'z')

end MarkupTex.Text
