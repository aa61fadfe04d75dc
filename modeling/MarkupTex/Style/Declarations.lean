import MarkupTex.Style.Basic
/-!
# Blocks of declarations

The text of a `style` attribute is cut at its semicolons, except those within parentheses or
quotes.  Each piece is a name, a colon and a value; a piece that lacks one of them is passed over.
`!important` at the end of a value, with blanks anywhere in it, is a mark and not part of the value.
-/

set_option autoImplicit false

namespace MarkupTex.Style

/-- Where a place in a block stands: in which quotes, and within how many parentheses. -/
structure Nesting where
  quote : Option Char := none
  depth : Nat := 0
  deriving DecidableEq, Repr, Inhabited

namespace Nesting

def top : Nesting := {}

/-- Outside of quotes and parentheses. -/
def isTop (n : Nesting) : Bool := n.quote.isNone && n.depth = 0

/-- The nesting after a character.  Parentheses in quotes do not count, and one that closes
nothing is ignored. -/
def step (n : Nesting) (c : Char) : Nesting :=
  match n.quote with
  | some q => if c = q then { n with quote := none } else n
  | none =>
    if c = '\x22' || c = '\x27' then { n with quote := some c }
    else if c = '(' then { n with depth := n.depth + 1 }
    else if c = ')' then { n with depth := n.depth - 1 }
    else n

end Nesting

/-- Puts a character in front of the first piece. -/
def attach (c : Char) : List (List Char) → List (List Char)
  | [] => [[c]]
  | piece :: pieces => (c :: piece) :: pieces

/-- The pieces between the semicolons that are neither in quotes nor in parentheses. -/
def splitFrom (n : Nesting) : List Char → List (List Char)
  | [] => [[]]
  | c :: cs =>
    if c = ';' && n.isTop then [] :: splitFrom n cs else attach c (splitFrom (n.step c) cs)

def splitBlock (cs : List Char) : List (List Char) := splitFrom Nesting.top cs

/-- The part before the last exclamation mark, if nothing but the word `important` follows it. -/
def beforeImportant? (cs : List Char) : Option (List Char) :=
  let after := (cs.reverse.takeWhile (· ≠ '!')).reverse
  if after.length < cs.length
      && Text.lower (String.ofList (Text.trimList after)) = "important" then
    some (cs.take (cs.length - after.length - 1))
  else none

/-- Reads one piece of a block. -/
def declarationOf? (piece : List Char) : Option Declaration :=
  match Text.splitAtChar ':' piece with
  | none => none
  | some (name, rest) =>
    let (value, important) :=
      match beforeImportant? rest with
      | some value => (value, true)
      | none => (rest, false)
    if (Text.trimList name).isEmpty || (Text.trimList value).isEmpty then none
    else some (Declaration.ofText (String.ofList name) (String.ofList value) important)

/-- The style that a block of declarations describes. -/
def ofBlock (text : String) : Style :=
  ((splitBlock text.toList).filterMap declarationOf?).foldl set empty

end MarkupTex.Style
