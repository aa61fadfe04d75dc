import MarkupTex.Convert.Inline
import MarkupTex.Document.Grid
import MarkupTex.Image.Options
/-!
# Images

An image that stands alone and has a caption becomes a figure, any other is included in the line.
A table of nothing but images becomes one figure, with an image or more in each cell of a plain
grid.
-/

set_option autoImplicit false

namespace MarkupTex.Convert

open Latex (braced beginEnvironment endEnvironment)

/-- A length of an image from its style or else from its attribute of that name. -/
def imageLength (e : Element) (style : Style) (name : String) : Conversion (Option Length) := do
  match (style.get? name).or (e.attribute? name) with
  | none => return none
  | some value =>
    match Length.parse value with
    | .ok length => return some length
    | .error fault =>
      warn fault (some e.name)
      return none

/-- Writes the command that includes an image. -/
def includeImage (path options : String) : Conversion Unit := do
  push "\\includegraphics"
  unless options.isEmpty do
    push "["
    push options
    push "]"
  push "\x7b"
  pushPath path
  push "\x7d"

def noSource : Fault := ⟨.image, "<img> without src"⟩

/-- Writes the label of a float: its `id`, or else a name made from its number. -/
def pushFloatLabel (id : Option String) (fallback : String) : Conversion Unit := do
  push "\x7d\n\\label\x7b"
  match id with
  | some id => pushPath id
  | none => push fallback

/-- Counts one more figure and gives its number. -/
def nextFigure : Conversion Nat := do
  modify fun c => { c with figures := c.figures + 1 }
  return (← get).figures

def figureName (number : Nat) : String := "figure_" ++ toString number

def beginFigure (setting : Setting) : String :=
  beginEnvironment "figure" ++ "[" ++ setting.options.figurePlacement ++ "]\n\\centering\n"

/-- An image as a float with caption and label. -/
def pushFigure (setting : Setting) (e : Element) (path options caption : String) :
    Conversion Unit := do
  let number ← nextFigure
  paragraphBreak
  push (beginFigure setting)
  includeImage path options
  push "\n\\caption\x7b"
  pushEscaped caption
  pushFloatLabel (e.nonBlankAttribute? "id") (figureName number)
  push ("\x7d\n" ++ endEnvironment "figure")
  paragraphBreak

/-- The caption of an image: its `title`, or else its `alt`. -/
def imageCaption? (e : Element) : Option String :=
  ((e.attribute? "title").or (e.attribute? "alt")).bind Text.nonBlank?

/-- Whether a float can be written here at all. -/
def allowsFigure (c : Converter) : Bool :=
  c.table.isNone && c.argumentDepth = 0 && c.listDepth = 0

/-- An image.  If it cannot be resolved its `alt` text is written instead. -/
def openImage (doc : Document) (setting : Setting) (id : Nat) (e : Element) (style : Style) :
    Conversion Unit := do
  match e.nonBlankAttribute? "src" with
  | none => warn noSource (some e.name)
  | some src =>
    modify fun c => { c with images := c.images + 1 }
    match setting.resolve src with
    | .error fault =>
      warn fault (some e.name)
      if let some alt := e.nonBlankAttribute? "alt" then pushEscaped alt
    | .ok path =>
      let width ← imageLength e style "width"
      let height ← imageLength e style "height"
      let options := ({ width, height } : Image.Options).toLatex
      match imageCaption? e with
      | some caption =>
        if allowsFigure (← get) && doc.isBlockImage id then pushFigure setting e path options caption
        else includeImage path options
      | none => includeImage path options

/-! ## Grids of images -/

/-- The share of the line that the columns of a grid have together. -/
def gridWidth : Float := 0.9

/-- Writes the images of a cell with spaces between them; `first` until one is written. -/
def pushGridImages (doc : Document) (setting : Setting) (options : String) :
    Bool → List Nat → Conversion Unit
  | _, [] => pure ()
  | first, id :: ids => do
    match doc.element? id with
    | none => pushGridImages doc setting options first ids
    | some e =>
      match e.nonBlankAttribute? "src" with
      | none =>
        warn noSource (some e.name)
        pushGridImages doc setting options first ids
      | some src =>
        modify fun c => { c with images := c.images + 1 }
        match setting.resolve src with
        | .ok path =>
          unless first do push " "
          includeImage path options
          pushGridImages doc setting options false ids
        | .error fault =>
          warn fault (some e.name)
          pushGridImages doc setting options first ids

/-- Writes a piece of text again and again. -/
def pushTimes (s : String) : Nat → Conversion Unit
  | 0 => pure ()
  | n + 1 => do
    push s
    pushTimes s n

/-- Writes the cells of a row; `column` counts the columns before. -/
def pushGridCells (doc : Document) (setting : Setting) (options : String) :
    Nat → List (Nat × Nat) → Conversion Unit
  | _, [] => pure ()
  | column, (cell, colspan) :: cells => do
    if 0 < column then push " & "
    pushGridImages doc setting options true (doc.cellImages cell)
    pushTimes " &" (colspan - 1)
    pushGridCells doc setting options (column + colspan) cells

def pushGridRows (doc : Document) (setting : Setting) (options : String) :
    List Nat → Conversion Unit
  | [] => pure ()
  | row :: rows => do
    pushGridCells doc setting options 0 (doc.rowCells row)
    push " \\\\\n"
    pushGridRows doc setting options rows

/-- A text several times over. -/
def repeated (s : String) (n : Nat) : String := String.join (List.replicate n s)

/-- A table of nothing but images, as a figure. -/
def pushImageGrid (doc : Document) (setting : Setting) (table : Nat) (e : Element) :
    Conversion Unit := do
  let number ← nextFigure
  let columns := doc.columnCount table
  let options :=
    ({ lineFraction := some (gridWidth / Float.ofNat columns) } : Image.Options).toLatex
  paragraphBreak
  push (beginFigure setting ++ beginEnvironment "tabular" ++ braced (repeated "c" columns) ++ "\n")
  pushGridRows doc setting options (doc.tableRows table)
  push (endEnvironment "tabular" ++ "\n\\caption\x7b")
  match doc.tableCaption? table with
  | some caption => pushEscaped caption
  | none => push ("Figure " ++ toString number)
  pushFloatLabel (e.nonBlankAttribute? "id") (figureName number)
  push ("\x7d\n" ++ endEnvironment "figure")
  paragraphBreak

end MarkupTex.Convert
