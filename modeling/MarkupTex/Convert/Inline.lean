import MarkupTex.Convert.Blocks
/-!
# Inline elements and text

Emphasis, links, spans, and the runs of text themselves.
-/

set_option autoImplicit false

namespace MarkupTex.Convert

open Latex (braced)

def openEmphasis (e : Element) (style : Style) (emphasis : Emphasis) : Conversion Flow := do
  applyStyle e style
  applyEmphasis emphasis
  return .descend

def openCode (e : Element) (style : Style) : Conversion Flow := do
  applyStyle e style
  applyFamily .monospace
  return .descend

/-- An element that is the argument of one command. -/
def openCommand (e : Element) (style : Style) (command : String) : Conversion Flow := do
  applyStyle e style
  openArgument ("\\" ++ command ++ "\x7b") "\x7d"
  return .descend

def openStrike (e : Element) (style : Style) : Conversion Flow := do
  applyStyle e style
  warn ⟨.unsupported, "strike-through rendered as plain text"⟩ (some e.name)
  return .descend

/-- Writes a label with a name that may hold anything. -/
def pushLabel (name : String) : Conversion Unit := do
  push "\\label\x7b"
  pushPath name
  push "\x7d"

/-- The name of an anchor: its `id`, or else its `name`. -/
def anchorName? (e : Element) : Option String :=
  ((e.attribute? "id").or (e.attribute? "name")).bind Text.nonBlank?

/-- A link, by what its target begins with. -/
def openLink (e : Element) (href : String) : Conversion Unit :=
  match Text.afterStart? "#" href with
  | some fragment => do
    unless fragment.isEmpty do
      push "\\hyperref["
      pushPath fragment
      push "]\x7b"
      argumentOwed "\x7d"
  | none =>
    if Text.beginsWith (Text.lower href) "javascript:" then
      warn ⟨.unsupported, "script link rendered as plain text"⟩ (some e.name)
    else do
      push "\\href\x7b"
      pushUrl href
      push "\x7d\x7b"
      argumentOwed "\x7d"

/-- An anchor: its label, then its formatting, then its link. -/
def openAnchor (e : Element) (style : Style) : Conversion Flow := do
  if let some name := anchorName? e then pushLabel name
  applyStyle e style
  if let some href := e.nonBlankAttribute? "href" then openLink e href
  return .descend

/-- The size of letters of a span, from its style or else its `size` attribute. -/
def spanSize? (e : Element) (style : Style) : Option (Except Fault String) :=
  match style.get? "font-size" with
  | some value => some (Latex.sizeOfStyle value)
  | none => (e.attribute? "size").map Latex.sizeOfFont

/-- A span.  Its style goes before the attributes that say the same. -/
def openSpan (e : Element) (style : Style) : Conversion Flow := do
  applyStyle e style
  unless style.has Kinds.color do
    if let some color := e.attribute? "color" then orWarn e.name (Color.toHex color) applyColor
  if let some size := spanSize? e style then orWarn e.name size applySize
  if let some family := ((style.get? "font-family").or (e.attribute? "face")).bind Latex.family? then
    applyFamily family
  return .descend

/-! ## Text -/

/-- A run of text.  If a block around it asks for an underline or a background that is not in effect,
they are put around the part of the run that is not blank. -/
def appendRun (s : String) : Conversion Unit := do
  let f := (← get).formatting
  let background := f.pendingBackground.filter fun _ => !f.active.contains Kinds.background
  let underline := f.pendingUnderline && !f.active.contains Kinds.underline
  if Text.isBlankText s || (background.isNone && !underline) then pushEscaped s
  else
    let cs := s.toList
    let before := cs.takeWhile Text.isBlank
    let core := Text.trimList cs
    pushEscaped (String.ofList before)
    if let some hex := background then push ("\\colorbox[HTML]" ++ braced hex ++ "\x7b")
    if underline then push "\\underline\x7b"
    pushEscaped (String.ofList core)
    if underline then push "\x7d"
    if background.isSome then push "\x7d"
    pushEscaped (String.ofList (cs.drop (before.length + core.length)))

/-- The end of a verbatim block, and what is written for it inside of one. -/
def verbatimEnd : String := "\\end\x7bverbatim\x7d"

def verbatimEndBroken : String := "\\end \x7bverbatim\x7d"

def strayText : Fault := ⟨.tableStructure, "text outside a table cell"⟩

/-- The text of a text node.  In a verbatim block it is written as it is, but for the mark that would
end the block; between the cells of a table it has no place; elsewhere its blanks are collapsed, and
at the beginning dropped if there is a blank before. -/
def emitText (setting : Setting) (s : String) : Conversion Unit := do
  let c ← get
  if 0 < c.preDepth then push (Text.replace s verbatimEnd verbatimEndBroken)
  else if c.inTableSkeleton then
    unless Text.isBlankText s do warn strayText none
  else if !setting.options.collapseWhitespace then appendRun s
  else
    let collapsed := Text.collapse s
    let text := if c.buffer.atSpace then Text.trimStart collapsed else collapsed
    unless text.isEmpty do appendRun text

end MarkupTex.Convert
