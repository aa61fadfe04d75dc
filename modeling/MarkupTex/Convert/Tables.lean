import MarkupTex.Convert.Images
/-!
# Tables

A table is a float around a grid.  Where no float can be, in a cell or in the argument of a command,
it is the grid alone.  The state of the table around is kept in the frame of the inner one and put
back when that ends.

Cells are set apart when the next one begins; a cell that spans several columns brings empty ones
with it.
-/

set_option autoImplicit false

namespace MarkupTex.Convert

open Latex (braced beginEnvironment endEnvironment)

/-- A fault in the structure of a table. -/
def structureFault (message : String) : Fault := ⟨.tableStructure, message⟩

/-- The columns of a grid, all set to the left, with lines between them or without. -/
def columnSpec (columns : Nat) (borders : Bool) : String :=
  if borders then "|" ++ repeated "l|" columns else repeated "l" columns

/-- Counts one more table and gives its number. -/
def nextTable : Conversion Nat := do
  modify fun c => { c with tables := c.tables + 1 }
  return (← get).tables

/-- Makes a table the current one, with formatting as at the beginning.  The table around it goes
into the frame. -/
def installTable (table : TableState) : Conversion Unit := do
  let outer := (← get).table
  modify fun c => { c with table := none }
  modifyFrame fun frame => { frame with outerTable := some outer }
  modify fun c => { c with formatting := {}, table := some table }

/-- Begins a table, as a float unless `bare`. -/
def beginTable (doc : Document) (setting : Setting) (id : Nat) (e : Element) (bare : Bool) :
    Conversion Unit := do
  let columns := doc.columnCount id
  let number ← if bare then pure 0 else nextTable
  if bare then spaceApart
  else
    paragraphBreak
    push (beginEnvironment "table" ++ "[h]\n\\centering\n")
  let borders := setting.options.tableBorders
  push (beginEnvironment "tabular" ++ braced (columnSpec columns borders) ++ "\n")
  if borders then push "\\hline\n"
  installTable
    { node := id, number, columns, nested := bare, label := e.nonBlankAttribute? "id" }

/-- A table.  One between the cells of another has no place and is left out. -/
def openTable (doc : Document) (setting : Setting) (id : Nat) (e : Element) :
    Conversion Flow := do
  let c ← get
  if c.inTableSkeleton then
    warn (structureFault "table outside a cell of its parent table") (some e.name)
    return .skipChildren
  else
    let bare := c.table.isSome || 0 < c.argumentDepth
    if !bare && doc.isImageOnly id then
      pushImageGrid doc setting id e
      return .skipChildren
    else
      beginTable doc setting id e bare
      return .descend

def noTable : Fault := ⟨.internalInvariant, "table closed without table state"⟩

/-- The caption that a table was given, or one made from its number. -/
def pushTableCaption (table : TableState) : Conversion Unit :=
  match table.caption.filter fun caption => !caption.isEmpty with
  | some caption => pushEscaped caption
  | none => push ("Table " ++ toString table.number)

/-- The end of the float around a table. -/
def endFloat (table : TableState) : Conversion Unit := do
  push "\n\\caption\x7b"
  pushTableCaption table
  pushFloatLabel table.label ("table_" ++ toString table.number)
  push ("\x7d\n" ++ endEnvironment "table")
  paragraphBreak

/-- Ends a table that was begun, and goes back to the one around it. -/
def closeTable (frame : Frame) : Conversion Unit := do
  closeFrame frame
  match frame.outerTable with
  | none => pure ()
  | some outer =>
    match (← get).table with
    | none => throw noTable
    | some table =>
      modify fun c => { c with table := none }
      trimSpaces
      newline
      push (endEnvironment "tabular")
      unless table.nested do endFloat table
      modify fun c => { c with table := outer }

def modifyTable (f : TableState → TableState) : Conversion Unit :=
  modify fun c => { c with table := c.table.map f }

/-! ## Rows and cells -/

def rowEnd (setting : Setting) : String :=
  if setting.options.tableBorders then " \\\\ \\hline\n" else " \\\\\n"

/-- A row.  Outside of a table, or in a cell, it counts for nothing. -/
def openRow (setting : Setting) : Conversion Flow := do
  let c ← get
  if c.table.isNone then warn (structureFault "row outside a table") (some "tr")
  else if c.inCell then warn (structureFault "row inside a cell") (some "tr")
  else
    modifyTable fun t => { t with inRow := true, column := 0 }
    onLeave (.text (rowEnd setting))
  return .descend

def closeRow (frame : Frame) : Conversion Unit := do
  closeFrame frame
  modifyTable fun t => { t with inRow := false }

/-- Sets a cell apart from the one before it in the row. -/
def beginCell (colspan : Nat) : Conversion Unit := do
  let column := ((← get).table.map (·.column)).getD 0
  modifyTable fun t => { t with column := t.column + colspan, inCell := true }
  if 0 < column then
    trimSpaces
    push " & "
  let braces := (← get).openBraces
  modifyFrame fun frame => { frame with cellBraces := some braces, padding := colspan - 1 }

/-- A cell; that of a header is bold.  Outside of a table, or in another cell, only its style
counts. -/
def openCell (e : Element) (style : Style) (header : Bool) (colspan : Nat) : Conversion Flow := do
  let c ← get
  if c.table.isNone then
    warn (structureFault "cell outside a table") (some e.name)
    applyStyle e style
  else if c.inCell then
    warn (structureFault "cell inside a cell") (some e.name)
    applyStyle e style
  else
    beginCell colspan
    if header then applyEmphasis .bold
    applyStyle e style
  return .descend

/-- Closes braces until no more than `saved` are open; `n` of them are left to close at most. -/
def closeBraces (saved : Nat) : Nat → Conversion Unit
  | 0 => pure ()
  | n + 1 => do
    if saved < (← get).openBraces then
      push "\x7d"
      modify fun c => { c with openBraces := c.openBraces - 1 }
      closeBraces saved n

/-- Ends a cell that was begun, with the empty columns that it spans. -/
def closeCell (frame : Frame) : Conversion Unit := do
  trimSpaces
  closeFrame frame
  let braces := (← get).openBraces
  closeBraces (frame.cellBraces.getD braces) braces
  pushTimes " &" frame.padding
  modifyTable fun t => { t with inCell := false }

/-! ## Captions -/

/-- Keeps the text of a caption for the end of the table.  The answer tells whether there is one. -/
def stageCaption (doc : Document) (id : Nat) : Conversion Bool := do
  match (← get).table with
  | none => return false
  | some table =>
    modify fun c => { c with table := some { table with caption := some (doc.captionText id) } }
    return true

end MarkupTex.Convert
