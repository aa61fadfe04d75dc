import MarkupTex.Domain.Mapping
import MarkupTex.Domain.Marks
import MarkupTex.Domain.Direction
import MarkupTex.Domain.Joining
import MarkupTex.Domain.Punycode
import MarkupTex.Text.Canonical
/-!
# Domain names

A domain name is a row of labels with dots between them.  `Domain.name?` reads a text as a name:
its characters are replaced by those they are read as, the whole is brought into canonical form, and
then the labels are checked.  A label that begins with `xn--` stands for the label that is encoded
behind this, which has to be one that no other text is read as.

Empty labels are let through, and so are labels of any length in ASCII.
-/

set_option autoImplicit false

namespace MarkupTex.Domain

/-- Characters that no name has.  Most of them end a host or a part of it, or are not printed. -/
def isForbidden (c : Char) : Bool :=
  c.toNat ≤ 0x20 || c.toNat = 0x7F ||
    ['%', '#', '/', ':', '<', '>', '?', '@', '[', '\\', ']', '^', '|'].contains c

def isAscii (c : Char) : Bool := c.toNat < 0x80

/-- The longest label with characters beyond ASCII. -/
def maxLength : Nat := 1000

/-- The longest label in ASCII that is decoded. -/
def maxCodeLength : Nat := 2000

/-- Whether a label with characters beyond ASCII is in order.  A mark needs something to stand on,
and joiners have their places. -/
def isWellFormed (label : List Char) : Bool :=
  label.length ≤ maxLength && !label.head?.any isMark && joinersFit label

/-- The label that is encoded behind `xn--`. -/
def decoded? (code : List Char) : Option (List Char) :=
  if maxCodeLength < code.length || code.isEmpty || code.getLast? = some '-' then none
  else
    (Punycode.decode? code).filter fun label =>
      label.all isKept && Text.canonical label = label && !label.all isAscii && isWellFormed label

/-- What a label stands for, if it is in order. -/
def label? (cs : List Char) : Option (List Char) :=
  if "xn--".toList.isPrefixOf cs then
    if cs.all isAscii then decoded? (cs.drop 4) else none
  else if cs.all isAscii || isWellFormed cs then some cs
  else none

/-- The name that a text is read as, with lower-case letters and in canonical form, if all of it is
allowed.  Encoded labels stay as they are. -/
def name? (cs : List Char) : Option (List Char) := do
  let name := Text.canonical (← readChars? cs)
  let labels ← (Text.splitOnChar '.' name).mapM label?
  if name.any isForbidden || !Direction.areKept labels then none else some name

end MarkupTex.Domain
