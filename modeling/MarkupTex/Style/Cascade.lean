import MarkupTex.Style.Basic
/-!
# The cascade

How the declarations of a node meet the style that it inherits.  Properties that inherit flow down
unless the node declares them itself, the others stay with the node that declares them, and all the
declarations of the node hold.  A node without declarations shares the style of its parent.
-/

set_option autoImplicit false

namespace MarkupTex

/-- What an inherited important declaration does to a normal one of the node itself. -/
inductive ImportantPolicy where
  /-- The node wins, as it does in the standard. -/
  | localWins
  /-- The inherited declaration wins. -/
  | inheritedImportantWins
  deriving DecidableEq, Repr, Inhabited

namespace Style

def inheritedProperties : List String :=
  ["color", "font", "font-family", "font-size", "font-style", "font-variant", "font-weight",
   "letter-spacing", "line-height", "list-style", "list-style-position", "list-style-type",
   "text-align", "text-decoration", "text-decoration-line", "text-indent", "text-transform",
   "visibility", "white-space", "word-spacing", "direction", "quotes"]

/-- Custom properties and those of the list inherit; the name may be in any case.  Decoration is
among them, so that an underlined ancestor underlines the text below it. -/
def isInheritable (name : String) : Bool :=
  Text.beginsWith name "--" || inheritedProperties.contains (Text.lower name)

/-- A style that is either one that exists already or a new one. -/
inductive Derived where
  | shared (style : Style)
  | fresh (style : Style)
  deriving DecidableEq, Repr, Inhabited

namespace Derived

def style : Derived → Style
  | shared s => s
  | fresh s => s

def isShared : Derived → Bool
  | shared _ => true
  | fresh _ => false

end Derived

/-- Whether an inherited declaration stays although the node has declarations of its own. -/
def survives (overlay : Style) (policy : ImportantPolicy) (d : Declaration) : Bool :=
  isInheritable d.name &&
    match overlay.declaration? d.name with
    | none => true
    | some own => policy = .inheritedImportantWins && d.important && !own.important

/-- The inherited declarations that survive, then those of the node that none of them replaces. -/
def mergeDeclarations (base overlay : Style) (policy : ImportantPolicy) : Style :=
  let kept := (base.declarations.filter (survives overlay policy)).foldl put empty
  overlay.declarations.foldl
    (fun out d => if (out.declaration? d.name).isSome then out else out.put d) kept

/-- The style of a node that declares `overlay` and inherits `base`. -/
def merge (base overlay : Style) (policy : ImportantPolicy) : Derived :=
  if overlay.isEmpty then .shared base else .fresh (mergeDeclarations base overlay policy)

/-- The part of a style that the children of its node start from. -/
def inheritedPart (style : Style) : Derived :=
  if style.declarations.all fun d => isInheritable d.name then .shared style
  else .fresh ((style.declarations.filter fun d => isInheritable d.name).foldl put empty)

end Style

end MarkupTex
