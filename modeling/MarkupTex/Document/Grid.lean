import MarkupTex.Document.Scan
/-!
# The grid of a table

Rows belong to a table if nothing but sections stands between them, so that the rows of a table
within a cell are not counted.  The number of columns is that of the widest row, where a cell counts
for as many columns as it spans.
-/

set_option autoImplicit false

namespace MarkupTex.Document

def isSection (doc : Document) (id : Nat) : Bool := doc.tag? id = some .tableSection

def isRow (doc : Document) (id : Nat) : Bool := doc.tag? id = some .tableRow

/-- The rows of a table in document order.  A scan by levels comes to the rows of the table itself
before those of its sections, so they are sorted by id in the end. -/
def tableRows (doc : Document) (table : Nat) : List Nat :=
  let scanned := doc.levelOrder table fun id => id ≠ table && !doc.isSection id
  (scanned.filter fun id => id ≠ table && doc.isRow id).mergeSort (· ≤ ·)

/-- The cells of a row with the columns that they span. -/
def rowCells (doc : Document) (row : Nat) : List (Nat × Nat) :=
  (doc.children row).filterMap fun id =>
    match doc.tag? id with
    | some (.tableCell _ colspan) => some (id, colspan)
    | _ => none

def rowWidth (doc : Document) (row : Nat) : Nat := total ((doc.rowCells row).map (·.2))

/-- The columns of a table; one if no row has a cell. -/
def columnCount (doc : Document) (table : Nat) : Nat :=
  max 1 (((doc.tableRows table).map doc.rowWidth).foldl max 0)

def isCaption (doc : Document) (id : Nat) : Bool := doc.tag? id = some .caption

def isImage (doc : Document) (id : Nat) : Bool := doc.tag? id = some .image

/-- What may stand in a grid of images: blanks, the parts of a table, and images. -/
def fitsGrid (doc : Document) (id : Nat) : Bool :=
  match doc.text? id with
  | some s => Text.isBlankText s
  | none => (doc.tag? id).any fun tag => tag = .image || tag.isTableStructure

/-- A table that holds images and nothing else.  What is in a caption does not count. -/
def isImageOnly (doc : Document) (table : Nat) : Bool :=
  let scanned := doc.levelOrder table doc.isCaption
  scanned.all doc.fitsGrid && scanned.any doc.isImage

/-- The images of a cell, level by level. -/
def cellImages (doc : Document) (cell : Nat) : List Nat :=
  (doc.levelOrder cell fun _ => false).filter doc.isImage

/-- The text of a caption, with single spaces. -/
def captionText (doc : Document) (caption : Nat) : String :=
  Text.trim (Text.collapse (doc.textContent caption))

/-- The text of the first caption among the children of a table, if it is not blank. -/
def tableCaption? (doc : Document) (table : Nat) : Option String :=
  ((doc.children table).find? doc.isCaption).bind fun caption =>
    let text := doc.captionText caption
    if text.isEmpty then none else some text

end MarkupTex.Document
