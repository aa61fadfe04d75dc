import MarkupTex.Domain.MappingTable
/-!
# Reading of characters in domain names

Each character of a domain name is read as itself, as other characters, or as nothing at all, or it
is not allowed.  Of the ASCII characters only capital letters change; that some of the others do not
stand in a name is found out later, when all have been read.
-/

set_option autoImplicit false

namespace MarkupTex.Domain

/-- What a character is read as, unless it is disallowed. -/
def readChar? (c : Char) : Option (List Char) :=
  if c.toNat < 0x80 then some [c.toLower]
  else
    match mappingTable.row? c.toNat with
    | some row =>
      match row.codes with
      | some [first] => some [Char.ofNat (first + (c.toNat - row.first))]
      | codes => some ((codes.getD []).map Char.ofNat)
    | none => if disallowedTable.contains c.toNat then none else some [c]

/-- A character that is read as itself. -/
def isKept (c : Char) : Bool := readChar? c = some [c]

/-- What the characters of a text are read as, one after the other. -/
def readChars? (cs : List Char) : Option (List Char) := (cs.mapM readChar?).map List.flatten

end MarkupTex.Domain
