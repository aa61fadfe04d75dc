import MarkupTex.Document.Walk
import MarkupTex.Image.Resolver
import MarkupTex.Latex.Buffer
import MarkupTex.Latex.Commands
/-!
# The state of a conversion

A `Converter` is what a conversion knows at one point of the document: the output so far, the
formatting in effect, the table and the lists it is in, and a frame for each open element.  A frame
holds what has to be written when its element is left, and what has to be put back then.

A `Conversion` is an action on this state.  A fault ends it, but the state stays as it was at that
point.
-/

set_option autoImplicit false

namespace MarkupTex

/-- What the user can choose. -/
structure Options where
  /-- Wrap the output in a complete document. -/
  fullDocument : Bool := false
  documentClass : String := "article"
  /-- The title of a complete document; without it the one in the markup is used. -/
  title : Option String := none
  author : Option String := none
  importantPolicy : ImportantPolicy := .localWins
  /-- Where figures may be placed. -/
  figurePlacement : String := "htbp"
  /-- Draw lines around the cells of tables. -/
  tableBorders : Bool := true
  /-- Make one space of every run of blanks. -/
  collapseWhitespace : Bool := true
  deriving DecidableEq, Repr, Inhabited

def Options.fragment : Options := {}

def Options.completeDocument : Options := { fullDocument := true }

namespace Convert

/-- What a conversion goes by from beginning to end. -/
structure Setting where
  options : Options
  resolve : Image.Resolver

/-- Something to be written, or done, when an element is left. -/
inductive Closer where
  | text (s : String)
  /-- The text closes a brace that is counted as open. -/
  | brace (s : String)
  | paragraphBreak
  | newline
  | label (name : String)
  /-- The argument of a command ends here. -/
  | endArgument
  deriving DecidableEq, Repr, Inhabited

/-- The formatting that is in effect. -/
structure Formatting where
  active : Kinds := Kinds.none
  color : Option String := none
  background : Option String := none
  family : Option Latex.Family := none
  /-- A switch for the size of letters. -/
  size : Option String := none
  alignment : Option Latex.Alignment := none
  /-- A block asks for its text to be underlined, run by run. -/
  pendingUnderline : Bool := false
  /-- A block asks for a background behind its text, run by run. -/
  pendingBackground : Option String := none
  deriving DecidableEq, Repr, Inhabited

/-- The table that is being written. -/
structure TableState where
  node : Nat
  /-- Counted from one; a table without a float of its own has the number zero. -/
  number : Nat
  columns : Nat
  /-- The table is written without a float, in a cell or in an argument. -/
  nested : Bool
  inRow : Bool := false
  inCell : Bool := false
  /-- The columns of the current row that are used up. -/
  column : Nat := 0
  caption : Option String := none
  label : Option String := none
  deriving DecidableEq, Repr, Inhabited

/-- The argument of a command, by its place in the output: the number of characters before it, and
before its end if it has ended. -/
structure Span where
  start : Nat
  stop : Option Nat := none
  deriving DecidableEq, Repr, Inhabited

/-- Ends the innermost argument that is open; of several the innermost comes first. -/
def endInnermost (position : Nat) : List Span → List Span
  | [] => []
  | span :: spans =>
    match span.stop with
    | none => { span with stop := some position } :: spans
    | some _ => span :: endInnermost position spans

/-- What is kept for an open element. -/
structure Frame where
  /-- To be written on leaving, from the front; what was asked for last comes first. -/
  closers : List Closer := []
  /-- The formatting to go back to. -/
  saved : Option Formatting := none
  /-- For a table that was begun: the table around it, if there is one. -/
  outerTable : Option (Option TableState) := none
  /-- For a cell that was begun: how many braces were open then. -/
  cellBraces : Option Nat := none
  /-- The empty columns that a wide cell still needs. -/
  padding : Nat := 0
  /-- The element began a verbatim block. -/
  pre : Bool := false
  /-- The element began a list. -/
  list : Bool := false
  deriving DecidableEq, Repr, Inhabited

end Convert

open MarkupTex.Convert in
/-- The state of a conversion. -/
structure Converter where
  buffer : Latex.Buffer
  formatting : Formatting := {}
  table : Option TableState := none
  /-- The counters for captions and labels. -/
  tables : Nat := 0
  figures : Nat := 0
  images : Nat := 0
  /-- Braces that are owed. -/
  openBraces : Nat := 0
  /-- Arguments of commands that are open. -/
  argumentDepth : Nat := 0
  /-- All the arguments that were opened so far, the last one first. -/
  arguments : List Span := []
  /-- The element that was entered last has blocks below it. -/
  blockContent : Bool := false
  /-- A frame for each open element, the innermost first. -/
  frames : List Frame := []
  listDepth : Nat := 0
  preDepth : Nat := 0
  warnings : List Warning := []
  /-- What was left out last. -/
  faults : FaultSlot := {}
  /-- The names of unknown elements that were reported. -/
  reported : List String := []
  deriving DecidableEq, Repr, Inhabited

namespace Converter

/-- The state at the beginning. -/
def start : Converter := { buffer := { capacity := Latex.Buffer.initialCapacity } }

def inCell (c : Converter) : Bool := c.table.any (·.inCell)

/-- In a table, between its cells. -/
def inTableSkeleton (c : Converter) : Bool := c.table.any fun t => !t.inCell

/-- Only inline material can be written: in a cell, and in the argument of a command. -/
def inlineOnly (c : Converter) : Bool := c.inCell || 0 < c.argumentDepth

end Converter

/-- An action on the state of a conversion. -/
abbrev Conversion := EStateM Fault Converter

namespace Convert

/-! ## Writing -/

/-- Changes the output. -/
def write (act : Latex.Buffer → Except Fault Latex.Buffer) : Conversion Unit := fun c =>
  match act c.buffer with
  | .ok buffer => .ok () { c with buffer }
  | .error fault => .error fault c

def push (s : String) : Conversion Unit := write (·.append s)

def pushEscaped (s : String) : Conversion Unit := write (·.appendText s)

def pushPath (s : String) : Conversion Unit := write (·.appendPath s)

def pushUrl (s : String) : Conversion Unit := write (·.appendUrl s)

def newline : Conversion Unit := write (·.newline)

def paragraphBreak : Conversion Unit := write (·.paragraphBreak)

def trimSpaces : Conversion Unit := modify fun c => { c with buffer := c.buffer.trimSpaces }

/-- Writes a space, unless a blank is there already. -/
def spaceApart : Conversion Unit := do
  unless (← get).buffer.atSpace do push " "

/-! ## Frames -/

/-- Has something written when the current element is left. -/
def onLeave (closer : Closer) : Conversion Unit := modify fun c =>
  match c.frames with
  | [] => c
  | frame :: frames => { c with frames := { frame with closers := closer :: frame.closers } :: frames }

def noFrame : Fault := ⟨.internalInvariant, "no open element frame"⟩

/-- The frame of the current element. -/
def frame : Conversion Frame := do
  match (← get).frames with
  | [] => throw noFrame
  | frame :: _ => return frame

/-- Changes the frame of the current element. -/
def modifyFrame (f : Frame → Frame) : Conversion Unit := do
  match (← get).frames with
  | [] => throw noFrame
  | frame :: frames => modify fun c => { c with frames := f frame :: frames }

/-- A brace was opened; `closing` is written for it on leaving. -/
def braceOwed (closing : String) : Conversion Unit := do
  modify fun c => { c with openBraces := c.openBraces + 1 }
  onLeave (.brace closing)

/-- From here on the output belongs to the argument of a command. -/
def beginArgument : Conversion Unit := do
  modify fun c =>
    { c with
      argumentDepth := c.argumentDepth + 1
      arguments := { start := c.buffer.text.length } :: c.arguments }
  onLeave .endArgument

/-- The argument of a command was opened; `closing` ends it. -/
def argumentOwed (closing : String) : Conversion Unit := do
  braceOwed closing
  beginArgument

/-- Opens a group up to the end of the element. -/
def openGroup (opening closing : String) : Conversion Unit := do
  push opening
  braceOwed closing

/-- Opens the argument of a command up to the end of the element.  No paragraph, section or float
can go inside. -/
def openArgument (opening closing : String) : Conversion Unit := do
  push opening
  argumentOwed closing

/-- Writes one of the things that were asked for. -/
def emitCloser : Closer → Conversion Unit
  | .text s => push s
  | .brace s => do
    push s
    modify fun c => { c with openBraces := c.openBraces - 1 }
  | .paragraphBreak => paragraphBreak
  | .newline => newline
  | .label name => do
    push "\\label\x7b"
    pushPath name
    push "\x7d"
  | .endArgument => modify fun c =>
    { c with
      argumentDepth := c.argumentDepth - 1
      arguments := endInnermost c.buffer.text.length c.arguments }

/-- Writes all that a frame asks for, what was asked for last first. -/
def emitClosers : List Closer → Conversion Unit
  | [] => pure ()
  | closer :: rest => do
    emitCloser closer
    emitClosers rest

def closeFrame (frame : Frame) : Conversion Unit := emitClosers frame.closers

/-! ## Warnings -/

/-- Notes that something was left out. -/
def warn (fault : Fault) (element : Option String) : Conversion Unit := modify fun c =>
  { c with
    warnings := c.warnings ++ [Warning.ofFault fault element]
    faults := c.faults.record fault }

/-- Notes an unknown element, the first time that its name comes up. -/
def reportUnknown (name : String) : Conversion Unit := do
  unless (← get).reported.contains name do
    modify fun c => { c with reported := name :: c.reported }
    warn ⟨.unsupported, s!"unknown element <{name}> rendered as plain content"⟩ (some name)

/-! ## The end -/

def bracesLeft (n : Nat) : Fault :=
  ⟨.internalInvariant, s!"{n} braces left open at end of document"⟩

/-- The output of a finished conversion, without blanks at its ends. -/
def finish (c : Converter) : Except Fault Output :=
  if 0 < c.openBraces then .error (bracesLeft c.openBraces)
  else .ok ⟨Text.trim c.buffer.trimSpaces.text, c.warnings⟩

end Convert

end MarkupTex
