import MarkupTex.Convert.State
import MarkupTex.Document.Blocks
/-!
# Formatting

Formatting is opened only if it is not in effect already, so nothing that an ancestor asked for is
opened twice.  Around blocks it takes the form of a group, because no paragraph may end in the
argument of a command; elsewhere it is the command itself.

Underlining and backgrounds have no form for groups.  Around blocks they are put off: each run of
text below is wrapped on its own.
-/

set_option autoImplicit false

namespace MarkupTex.Convert

open Latex (braced)

/-- The three ways of setting letters apart. -/
inductive Emphasis where
  | bold
  | italic
  | underline
  deriving DecidableEq, Repr, Inhabited

namespace Emphasis

def kind : Emphasis → Kinds
  | bold => Kinds.bold
  | italic => Kinds.italic
  | underline => Kinds.underline

/-- What opens the argument of the command. -/
def command : Emphasis → String
  | bold => "\\textbf\x7b"
  | italic => "\\textit\x7b"
  | underline => "\\underline\x7b"

/-- What opens the group, if there is a form for it. -/
def group? : Emphasis → Option String
  | bold => some "\x7b\\bfseries "
  | italic => some "\x7b\\itshape "
  | underline => none

end Emphasis

def modifyFormatting (f : Formatting → Formatting) : Conversion Unit :=
  modify fun c => { c with formatting := f c.formatting }

/-- Opens an emphasis that is not in effect. -/
def applyEmphasis (e : Emphasis) : Conversion Unit := do
  let c ← get
  unless c.formatting.active.contains e.kind do
    let activate := modifyFormatting fun f => { f with active := f.active ∪ e.kind }
    if !c.blockContent then
      openArgument e.command "\x7d"
      activate
    else
      match e.group? with
      | some opening =>
        openGroup opening "\x7d"
        activate
      | none => modifyFormatting fun f => { f with pendingUnderline := true }

/-- Opens a color that is not the one in effect. -/
def applyColor (hex : String) : Conversion Unit := do
  let c ← get
  unless c.formatting.active.contains Kinds.color && c.formatting.color = some hex do
    if c.blockContent then openGroup ("\x7b\\color[HTML]" ++ braced hex) "\x7d"
    else openArgument ("\\textcolor[HTML]" ++ braced hex ++ "\x7b") "\x7d"
    modifyFormatting fun f => { f with active := f.active ∪ Kinds.color, color := some hex }

/-- Opens a background that is not the one in effect. -/
def applyBackground (hex : String) : Conversion Unit := do
  let c ← get
  unless c.formatting.active.contains Kinds.background && c.formatting.background = some hex do
    if c.blockContent then modifyFormatting fun f => { f with pendingBackground := some hex }
    else
      openArgument ("\\colorbox[HTML]" ++ braced hex ++ "\x7b") "\x7d"
      modifyFormatting fun f =>
        { f with active := f.active ∪ Kinds.background, background := some hex }

/-- Opens a family of fonts that is not the one in effect. -/
def applyFamily (family : Latex.Family) : Conversion Unit := do
  let c ← get
  unless c.formatting.family = some family do
    if c.blockContent then openGroup ("\x7b\\" ++ family.declaration ++ " ") "\x7d"
    else openArgument ("\\" ++ family.command ++ "\x7b") "\x7d"
    modifyFormatting fun f =>
      { f with active := f.active ∪ Kinds.fontFamily, family := some family }

/-- Opens a size of letters that is not the one in effect. -/
def applySize (switch : String) : Conversion Unit := do
  let c ← get
  unless c.formatting.size = some switch do
    openGroup ("\x7b" ++ switch ++ " ") "\x7d"
    modifyFormatting fun f => { f with active := f.active ∪ Kinds.fontSize, size := some switch }

/-- Goes on with a value that was read, or notes that it could not be. -/
def orWarn {α : Type} (name : String) (value : Except Fault α) (use : α → Conversion Unit) :
    Conversion Unit :=
  match value with
  | .ok a => use a
  | .error fault => warn fault (some name)

/-- Opens what the style of an element asks for and is not in effect. -/
def applyStyle (e : Element) (style : Style) : Conversion Unit := do
  if style.has Kinds.color then
    if let some value := style.get? "color" then orWarn e.name (Color.toHex value) applyColor
  if style.has Kinds.background then
    if let some value := style.backgroundColor? then
      orWarn e.name (Color.toHex value) applyBackground
  if style.isBold then applyEmphasis .bold
  if style.isItalic then applyEmphasis .italic
  if style.isUnderline then applyEmphasis .underline

/-- Elements that can open formatting. -/
def mayFormat (e : Element) (style : Style) : Bool :=
  style.has (Kinds.formatting ∪ Kinds.fontFamily) ||
    match e.tag with
    | .bold | .italic | .underline | .code | .font => true
    | _ => false

end MarkupTex.Convert
