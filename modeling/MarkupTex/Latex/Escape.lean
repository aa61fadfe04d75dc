/-!
# Escaping

Three ways of putting foreign text into LaTeX, each given by what it does to one character:

* `text` writes every character that means something to LaTeX as a harmless sequence;
* `path` is for file names and labels and never brings in a brace or a backslash;
* `url` is for the target of a link, which may stand inside the argument of another command.

All the characters that are exchanged are ASCII.
-/

set_option autoImplicit false

namespace MarkupTex.Latex

/-- What a character is exchanged for, or nothing if it stays. -/
abbrev Substitution := Char → Option String

def isControl (c : Char) : Bool := c.toNat < 0x20 || c.toNat = 0x7F

/-- Text of the document. -/
def textSubstitution : Substitution
  | '\\' => some "\\textbackslash\x7b\x7d"
  | '\x7b' => some "\\\x7b"
  | '\x7d' => some "\\\x7d"
  | '&' => some "\\&"
  | '%' => some "\\%"
  | '$' => some "\\$"
  | '#' => some "\\#"
  | '_' => some "\\_"
  | '^' => some "\\textasciicircum\x7b\x7d"
  | '~' => some "\\textasciitilde\x7b\x7d"
  | '<' => some "\\textless\x7b\x7d"
  | '>' => some "\\textgreater\x7b\x7d"
  | '\n' => some " "
  | '\r' => some " "
  | _ => none

/-- The characters that have no place in a file name or a label. -/
def pathSpecials : List Char := ['\x7b', '\x7d', '%', '$', '^', '~', '#', '&']

/-- File names and labels: one character for one character. -/
def pathSubstitution : Substitution := fun c =>
  if c = '\\' then some "/"
  else if pathSpecials.contains c || isControl c then some "_"
  else none

/-- Targets of links.  Control characters are dropped. -/
def urlSubstitution : Substitution := fun c =>
  if c = '%' then some "\\%"
  else if c = '#' then some "\\#"
  else if c = '\\' then some "/"
  else if c = '\x7b' then some "%7B"
  else if c = '\x7d' then some "%7D"
  else if isControl c then some ""
  else none

end MarkupTex.Latex
