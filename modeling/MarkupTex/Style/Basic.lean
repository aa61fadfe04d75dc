import MarkupTex.Color
import MarkupTex.Style.Kinds
/-!
# Styles

A `Style` is a row of declarations, each property at most once and in the order in which the
properties first came up, together with the set of kinds that these properties have an effect on.
Every operation that adds a property adds its kinds as well.

`set` is what one block of declarations does: a normal declaration does not replace an important
one of the same property.  `put` replaces whatever is there.
-/

set_option autoImplicit false

namespace MarkupTex

/-- One declaration; the name is in lower case. -/
structure Declaration where
  name : String
  value : String
  important : Bool
  deriving DecidableEq, Repr, Inhabited

/-- A declaration as it is written: blanks around name and value do not count. -/
def Declaration.ofText (name value : String) (important : Bool) : Declaration :=
  ⟨Text.lower (Text.trim name), Text.trim value, important⟩

/-- The declarations that hold for one node, in order, and their kinds. -/
structure Style where
  declarations : List Declaration := []
  kinds : Kinds := Kinds.none
  deriving DecidableEq, Repr, Inhabited

namespace Style

def empty : Style := {}

def isEmpty (style : Style) : Bool := style.declarations.isEmpty

def size (style : Style) : Nat := style.declarations.length

/-- The declaration of a property, by its name in lower case. -/
def find? (style : Style) (name : String) : Option Declaration :=
  style.declarations.find? fun d => d.name = name

/-- The declaration of a property, by its name in any case. -/
def declaration? (style : Style) (key : String) : Option Declaration :=
  style.find? (Text.lower key)

def get? (style : Style) (key : String) : Option String :=
  (style.declaration? key).map (·.value)

def has (style : Style) (kinds : Kinds) : Bool := style.kinds.intersects kinds

/-- Adds a declaration at the end. -/
def insertNew (style : Style) (d : Declaration) : Style :=
  ⟨style.declarations ++ [d], style.kinds ∪ Kinds.ofProperty d.name⟩

/-- Exchanges the declaration of the same property, which keeps its place. -/
def replace (style : Style) (d : Declaration) : Style :=
  { style with declarations := style.declarations.map fun old =>
      if old.name = d.name then d else old }

/-- Adds a declaration, in place of one of the same property. -/
def put (style : Style) (d : Declaration) : Style :=
  match style.find? d.name with
  | some _ => style.replace d
  | none => style.insertNew d

/-- Adds a declaration of a block.  One without a name is left out, and a normal one does not
replace an important one. -/
def set (style : Style) (d : Declaration) : Style :=
  if d.name.isEmpty then style
  else
    match style.find? d.name with
    | some old => if old.important && !d.important then style else style.replace d
    | none => style.insertNew d

/-- The first value among these properties that is not empty. -/
def firstOf (style : Style) (keys : List String) : Option String :=
  keys.findSome? fun key => (style.get? key).filter fun v => !v.isEmpty

/-! ## What the values say -/

/-- A weight of 600 and more, or one of the words for it. -/
def isBold (style : Style) : Bool :=
  match style.get? "font-weight" with
  | some value =>
    let v := Text.lower value
    v = "bold" || v = "bolder" || (Text.nat32? v).any (600 ≤ ·)
  | none => false

def isItalic (style : Style) : Bool :=
  match style.get? "font-style" with
  | some value =>
    let v := Text.lower value
    Text.beginsWith v "italic" || Text.beginsWith v "oblique"
  | none => false

def isUnderline (style : Style) : Bool :=
  match style.firstOf ["text-decoration-line", "text-decoration"] with
  | some value => Text.contains (Text.lower value) "underline"
  | none => false

def isColor (text : String) : Bool :=
  match Color.toHex text with
  | .ok _ => true
  | .error _ => false

/-- The color in a `background` value: the first `rgb` up to the next closing parenthesis, or else
the last word that is a color. -/
def shorthandColor? (value : String) : Option String :=
  match Text.splitFirst "rgb".toList value.toList with
  | some (_, rest) =>
    (Text.splitAtChar ')' rest).map fun (inside, _) =>
      String.ofList ("rgb".toList ++ inside ++ [')'])
  | none => (Text.words value).reverse.find? isColor

/-- The value that a background color is to be read from. -/
def backgroundColor? (style : Style) : Option String :=
  match style.get? "background-color" with
  | some value => some value
  | none => (style.get? "background").bind shorthandColor?

end Style

end MarkupTex
