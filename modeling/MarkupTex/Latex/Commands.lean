import MarkupTex.Fault
import MarkupTex.Length
/-!
# Commands for headings, sizes and fonts

Tables from the words of markup and style to the commands of LaTeX.
-/

set_option autoImplicit false

namespace MarkupTex.Latex

/-- A text in braces. -/
def braced (s : String) : String := "\x7b" ++ s ++ "\x7d"

def beginEnvironment (name : String) : String := "\\begin" ++ braced name

def endEnvironment (name : String) : String := "\\end" ++ braced name

/-- The sectioning command for a heading of level 1 to 5. -/
def headingCommand? : Nat → Option String
  | 1 => some "section"
  | 2 => some "subsection"
  | 3 => some "subsubsection"
  | 4 => some "paragraph"
  | 5 => some "subparagraph"
  | _ => none

/-- Size switches by the size from 1 to 7 of a font element. -/
def sizeSwitches : List String :=
  ["\\tiny", "\\small", "\\normalsize", "\\large", "\\Large", "\\LARGE", "\\Huge"]

/-- Size switches for the size words of a style. -/
def sizeKeyword? : String → Option String
  | "xx-small" => some "\\tiny"
  | "x-small" => some "\\scriptsize"
  | "small" => some "\\small"
  | "medium" => some "\\normalsize"
  | "large" => some "\\large"
  | "x-large" => some "\\Large"
  | "xx-large" => some "\\LARGE"
  | "xxx-large" => some "\\Huge"
  | "smaller" => some "\\small"
  | "larger" => some "\\large"
  | _ => none

/-- The three families that a font name can stand for. -/
inductive Family where
  | monospace
  | sans
  | roman
  deriving DecidableEq, Repr, Inhabited

namespace Family

/-- The command that sets its argument in the family. -/
def command : Family → String
  | monospace => "texttt"
  | sans => "textsf"
  | roman => "textrm"

/-- The declaration that switches to the family up to the end of the group. -/
def declaration : Family → String
  | monospace => "ttfamily"
  | sans => "sffamily"
  | roman => "rmfamily"

def ofName? (name : String) : Option Family :=
  if ["monospace", "courier", "courier new", "consolas", "menlo", "monaco"].contains name then
    some monospace
  else if ["sans-serif", "arial", "helvetica", "verdana", "tahoma"].contains name then some sans
  else if ["serif", "times", "times new roman", "georgia"].contains name then some roman
  else none

end Family

def isQuote (c : Char) : Bool := c = '\x22' || c = '\x27'

/-- A name in a list of fonts, without blanks and quotes around it. -/
def fontName (cs : List Char) : String :=
  Text.lower
    (String.ofList (Text.dropEndWhile isQuote ((Text.trimList cs).dropWhile isQuote)))

/-- The family of the first name in a list of fonts that is known. -/
def family? (fonts : String) : Option Family :=
  (Text.splitOnChar ',' fonts.toList).findSome? fun name => Family.ofName? (fontName name)

/-- The size switch for the size in a style: a word, or a length that is not zero.  The lines are
set a fifth further apart than the letters are high. -/
def sizeOfStyle (value : String) : Except Fault String :=
  let s := Text.lower (Text.trim value)
  match sizeKeyword? s with
  | some switch => .ok switch
  | none => do
    let points ← (← Length.parse s).toPoints
    if points ≤ 0.0 then .error ⟨.cssValue, s!"font-size '{value}'"⟩
    else
      .ok ("\\fontsize\x7b" ++ formatNumber points ++ "pt\x7d\x7b" ++ formatNumber (points * 1.2)
        ++ "pt\x7d\\selectfont")

/-- The size switch for the size of a font element: a size from 1 to 7, or with a sign a step from
the default size 3.  Sizes beyond the ends count as the ends. -/
def sizeOfFont (text : String) : Except Fault String :=
  let s := Text.trim text
  match Text.int32? s with
  | none => .error ⟨.cssValue, s!"font size '{s}'"⟩
  | some n =>
    let relative := Text.beginsWith s "+" || Text.beginsWith s "-"
    let size := max 1 (min 7 (if relative then 3 + n else n))
    .ok (sizeSwitches.getD (size - 1).toNat "")

/-- Ways of setting lines that have an environment of their own. -/
inductive Alignment where
  | center
  | right
  | left
  deriving DecidableEq, Repr, Inhabited

namespace Alignment

def environment : Alignment → String
  | center => "center"
  | right => "flushright"
  | left => "flushleft"

def ofText? (value : String) : Option Alignment :=
  match Text.lower (Text.trim value) with
  | "center" => some center
  | "right" => some right
  | "end" => some right
  | "left" => some left
  | "start" => some left
  | _ => none

end Alignment

end MarkupTex.Latex
