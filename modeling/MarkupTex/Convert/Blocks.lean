import MarkupTex.Convert.Formatting
/-!
# Paragraphs, sections and lists

Blocks begin with a paragraph break and close what they opened on leaving.  Where only inline
material can be written, in a cell or in the argument of a command, they come down to text with the
formatting of their style.
-/

set_option autoImplicit false

namespace MarkupTex.Convert

open Latex (braced beginEnvironment endEnvironment)

/-- Opens the environment for the alignment of a block, from its style or its `align` attribute. -/
def openAlignment (e : Element) (style : Style) : Conversion Unit := do
  let value := (style.get? "text-align").or (e.attribute? "align")
  match value.bind Latex.Alignment.ofText? with
  | none => pure ()
  | some alignment =>
    unless (← get).formatting.alignment = some alignment do
      push (beginEnvironment alignment.environment ++ "\n")
      onLeave .newline
      onLeave (.text (endEnvironment alignment.environment ++ "\n"))
      onLeave .newline
      modifyFormatting fun f =>
        { f with active := f.active ∪ Kinds.textAlign, alignment := some alignment }

/-- The opening of a paragraph or a division where blocks can be written. -/
def openBlock (e : Element) (style : Style) : Conversion Unit := do
  paragraphBreak
  onLeave .paragraphBreak
  openAlignment e style
  applyStyle e style

def openParagraph (e : Element) (style : Style) : Conversion Flow := do
  if (← get).inlineOnly then
    spaceApart
    onLeave (.text " ")
    applyStyle e style
  else openBlock e style
  return .descend

def openDivision (e : Element) (style : Style) : Conversion Flow := do
  if (← get).inlineOnly then applyStyle e style
  else openBlock e style
  return .descend

/-- An element that stands for an environment of its own. -/
inductive BlockEnvironment where
  | center
  | quote
  deriving DecidableEq, Repr, Inhabited

def BlockEnvironment.name : BlockEnvironment → String
  | center => "center"
  | quote => "quote"

def openEnvironment (e : Element) (style : Style) (env : BlockEnvironment) :
    Conversion Flow := do
  unless (← get).inlineOnly do
    paragraphBreak
    push (beginEnvironment env.name ++ "\n")
    onLeave .paragraphBreak
    onLeave (.text (endEnvironment env.name))
    onLeave .newline
    if env = .center then modifyFormatting fun f => { f with alignment := some .center }
  applyStyle e style
  return .descend

/-- A heading.  One without a sectioning command keeps its text, as a paragraph. -/
def openHeading (e : Element) (style : Style) (level : Nat) : Conversion Flow := do
  if (← get).inlineOnly then
    applyStyle e style
    applyEmphasis .bold
  else
    paragraphBreak
    onLeave .paragraphBreak
    match Latex.headingCommand? level with
    | none => warn ⟨.unsupported, s!"heading level {level}"⟩ (some e.name)
    | some command =>
      if let some id := e.nonBlankAttribute? "id" then onLeave (.label id)
      openArgument ("\\" ++ command ++ "\x7b") "\x7d"
      applyStyle e style
  return .descend

/-- Preformatted text: a verbatim block, or letters of one width. -/
def openPreformatted (e : Element) (style : Style) : Conversion Flow := do
  if (← get).inlineOnly then
    applyStyle e style
    applyFamily .monospace
  else
    paragraphBreak
    push (beginEnvironment "verbatim" ++ "\n")
    onLeave .paragraphBreak
    onLeave (.text (endEnvironment "verbatim"))
    onLeave .newline
    modify fun c => { c with preDepth := c.preDepth + 1 }
    modifyFrame fun frame => { frame with pre := true }
  return .descend

/-! ## Lists -/

inductive ListKind where
  | bulleted
  | numbered
  | described
  deriving DecidableEq, Repr, Inhabited

def ListKind.environment : ListKind → String
  | bulleted => "itemize"
  | numbered => "enumerate"
  | described => "description"

/-- The counter of a numbered list, by the number of lists that are open. -/
def listCounter? : Nat → Option String
  | 1 => some "enumi"
  | 2 => some "enumii"
  | 3 => some "enumiii"
  | 4 => some "enumiv"
  | _ => none

/-- The number that a list is to begin with. -/
def listStart? (e : Element) : Option Int :=
  (e.attribute? "start").bind fun value => Text.int64? (Text.trim value)

/-- Sets the counter of a list that does not begin with one. -/
def setCounter (e : Element) : Conversion Unit := do
  match listStart? e, listCounter? (← get).listDepth with
  | some n, some counter =>
    unless n = 1 do push ("\\setcounter" ++ braced counter ++ braced (toString (n - 1)) ++ "\n")
  | _, _ => pure ()

def openList (e : Element) (style : Style) (kind : ListKind) : Conversion Flow := do
  if (← get).inlineOnly then applyStyle e style
  else
    newline
    push (beginEnvironment kind.environment ++ "\n")
    onLeave .newline
    onLeave (.text (endEnvironment kind.environment))
    onLeave .newline
    modify fun c => { c with listDepth := c.listDepth + 1 }
    modifyFrame fun frame => { frame with list := true }
    if kind = .numbered then setCounter e
  return .descend

/-- The mark of an item, where a list is open. -/
def openItem (e : Element) : Conversion Unit := do
  match e.tag with
  | .descriptionTerm =>
    newline
    push "\\item["
    onLeave (.text "] ")
    beginArgument
  | .descriptionDetails => pure ()
  | _ =>
    newline
    push "\\item "

/-- An item, a term or its details.  Outside of any list it is a paragraph. -/
def openListItem (e : Element) (style : Style) : Conversion Flow := do
  let c ← get
  if c.inlineOnly then
    if e.tag = .listItem then
      spaceApart
      push "\\textbullet\x7b\x7d "
    applyStyle e style
    return .descend
  else if c.listDepth = 0 then openParagraph e style
  else
    openItem e
    applyStyle e style
    return .descend

/-! ## Rules and line breaks -/

def horizontalRule : Conversion Unit := do
  unless (← get).inlineOnly do
    newline
    push "\\par\\noindent\\rule\x7b\\textwidth\x7d\x7b0.4pt\x7d\\par\n"

/-- A line break.  At the beginning of a line there is nothing to break. -/
def lineBreak : Conversion Unit := do
  let c ← get
  if c.inlineOnly then push "\\newline "
  else unless c.buffer.isEmpty || c.buffer.endsWith "\n" do
    trimSpaces
    push "\\\\\n"

end MarkupTex.Convert
