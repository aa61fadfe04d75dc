import MarkupTex.Text.Search
/-!
# Kinds of style properties

The conversion acts on thirteen kinds of properties.  `Kinds` is a set of them, one bit each, so
that "does this style say anything about color" is a test of one bit.

Two tests are easily mixed up: `contains` asks for all the kinds of a set and is false of the empty
set, `intersects` asks for any of them.
-/

set_option autoImplicit false

namespace MarkupTex

/-- A set of property kinds. -/
structure Kinds where
  bits : BitVec 16
  deriving DecidableEq, Repr, Inhabited

namespace Kinds

def none : Kinds := ⟨0⟩
def bold : Kinds := ⟨1⟩
def italic : Kinds := ⟨2⟩
def underline : Kinds := ⟨4⟩
def color : Kinds := ⟨8⟩
def background : Kinds := ⟨16⟩
def fontFamily : Kinds := ⟨32⟩
def fontSize : Kinds := ⟨64⟩
def textAlign : Kinds := ⟨128⟩
def border : Kinds := ⟨256⟩
def marginTop : Kinds := ⟨512⟩
def marginRight : Kinds := ⟨1024⟩
def marginBottom : Kinds := ⟨2048⟩
def marginLeft : Kinds := ⟨4096⟩

def union (a b : Kinds) : Kinds := ⟨a.bits ||| b.bits⟩

def diff (a b : Kinds) : Kinds := ⟨a.bits &&& ~~~b.bits⟩

instance : Union Kinds := ⟨union⟩

instance : SDiff Kinds := ⟨diff⟩

def isEmpty (a : Kinds) : Bool := a.bits == 0

/-- All the kinds in `b` are in `a`, and there is at least one. -/
def contains (a b : Kinds) : Bool := a.bits &&& b.bits == b.bits && b.bits != 0

/-- Some kind is in both. -/
def intersects (a b : Kinds) : Bool := a.bits &&& b.bits != 0

def margin : Kinds := marginTop ∪ marginRight ∪ marginBottom ∪ marginLeft

/-- The kinds that the converter wraps text in. -/
def formatting : Kinds := bold ∪ italic ∪ underline ∪ color ∪ background

/-- The kinds that a property of this name has an effect on. -/
def ofProperty (name : String) : Kinds :=
  match name with
  | "font-weight" => bold
  | "font-style" => italic
  | "text-decoration" | "text-decoration-line" => underline
  | "color" => color
  | "background" | "background-color" => background
  | "font-family" => fontFamily
  | "font-size" => fontSize
  | "text-align" => textAlign
  | "margin" => margin
  | "margin-top" => marginTop
  | "margin-right" => marginRight
  | "margin-bottom" => marginBottom
  | "margin-left" => marginLeft
  | "border" => border
  | _ => if Text.beginsWith name "border-" then border else none

/-- The single kinds with their names, by bit. -/
def names : List (Kinds × String) :=
  [(bold, "BOLD"), (italic, "ITALIC"), (underline, "UNDERLINE"), (color, "COLOR"),
   (background, "BACKGROUND"), (fontFamily, "FONT_FAMILY"), (fontSize, "FONT_SIZE"),
   (textAlign, "TEXT_ALIGN"), (border, "BORDER"), (marginTop, "MARGIN_TOP"),
   (marginRight, "MARGIN_RIGHT"), (marginBottom, "MARGIN_BOTTOM"), (marginLeft, "MARGIN_LEFT")]

/-- The names of the kinds in a set, with bars between them. -/
def display (a : Kinds) : String :=
  " | ".intercalate ((names.filter fun entry => a.contains entry.1).map (·.2))

end Kinds

end MarkupTex
