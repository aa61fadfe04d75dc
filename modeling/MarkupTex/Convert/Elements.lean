import MarkupTex.Convert.Tables
/-!
# Elements

What is done on entering an element of each kind, at a text, and on leaving an element.  Together
they are the visitor that a walk of the document is given.

In a verbatim block only text counts, and line breaks.
-/

set_option autoImplicit false

namespace MarkupTex.Convert

/-- Opens an element outside of verbatim blocks. -/
def openElement (doc : Document) (setting : Setting) (id : Nat) (e : Element) (style : Style) :
    Conversion Flow :=
  match e.tag with
  | .document | .html | .body | .tableSection => return .descend
  | .head | .title | .script | .style => return .skipChildren
  | .paragraph => openParagraph e style
  | .division => openDivision e style
  | .center => openEnvironment e style .center
  | .blockquote => openEnvironment e style .quote
  | .heading level => openHeading e style level
  | .preformatted => openPreformatted e style
  | .bold => openEmphasis e style .bold
  | .italic => openEmphasis e style .italic
  | .underline => openEmphasis e style .underline
  | .strike => openStrike e style
  | .code => openCode e style
  | .subscript => openCommand e style "textsubscript"
  | .superscript => openCommand e style "textsuperscript"
  | .anchor => openAnchor e style
  | .span | .font => openSpan e style
  | .unorderedList => openList e style .bulleted
  | .orderedList => openList e style .numbered
  | .descriptionList => openList e style .described
  | .listItem | .descriptionTerm | .descriptionDetails => openListItem e style
  | .table => openTable doc setting id e
  | .tableRow => openRow setting
  | .tableCell header colspan => openCell e style header colspan
  | .caption => do
    if ← stageCaption doc id then return .skipChildren
    else openParagraph e style
  | .image => do
    openImage doc setting id e style
    return .skipChildren
  | .horizontalRule => do
    horizontalRule
    return .skipChildren
  | .lineBreak => do
    lineBreak
    return .skipChildren
  | .other name => do
    reportUnknown name
    applyStyle e style
    return .descend

/-- What an element does in a verbatim block. -/
def openVerbatim (e : Element) : Conversion Flow := do
  if e.tag = .lineBreak then push "\n"
  return .descend

def clearFaults : Conversion Unit := modify fun c => { c with faults := c.faults.clear }

/-- Entering an element: it gets a frame, which remembers the formatting around it. -/
def enter (doc : Document) (setting : Setting) (id : Nat) (e : Element) (style : Style) :
    Conversion Flow := do
  clearFaults
  modify fun c =>
    { c with
      frames := { saved := some c.formatting } :: c.frames
      blockContent := c.preDepth = 0 && mayFormat e style && doc.hasBlockContent id }
  if 0 < (← get).preDepth then openVerbatim e else openElement doc setting id e style

def visitText (setting : Setting) (s : String) : Conversion Flow := do
  clearFaults
  emitText setting s
  return .descend

/-- Writes what an element owes at its end. -/
def closeElement (e : Element) (frame : Frame) : Conversion Unit :=
  match e.tag with
  | .tableCell .. => if frame.cellBraces.isSome then closeCell frame else closeFrame frame
  | .table => closeTable frame
  | .tableRow => closeRow frame
  | _ => closeFrame frame

/-- Goes back to what held around the element. -/
def restore (frame : Frame) : Conversion Unit := modify fun c =>
  { c with
    preDepth := if frame.pre then c.preDepth - 1 else c.preDepth
    listDepth := if frame.list then c.listDepth - 1 else c.listDepth
    formatting := frame.saved.getD c.formatting }

def noEnter : Fault := ⟨.internalInvariant, "leave without a matching enter"⟩

/-- Leaving an element. -/
def leave (e : Element) : Conversion Unit := do
  clearFaults
  match (← get).frames with
  | [] => throw noEnter
  | frame :: frames =>
    modify fun c => { c with frames }
    closeElement e frame
    restore frame

/-- The conversion as a visitor of a walk. -/
def visitor (doc : Document) (setting : Setting) : Visitor Converter where
  enter id e style := enter doc setting id e style
  text _ s _ := visitText setting s
  leave _ e _ := leave e

end MarkupTex.Convert
