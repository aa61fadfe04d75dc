import MarkupTex.Check.Report
import MarkupTex.Document.Scan
import MarkupTex.Style.Declarations
import MarkupTex.Image.Source
import MarkupTex.Latex.Commands
/-!
# Checking a document

`check` goes through a document in document order and reports what a conversion would leave out or
change: unknown elements, headings that are too deep, values that cannot be read, images that cannot
be resolved, and text between the cells of a table.  Nothing is converted for it.
-/

set_option autoImplicit false

namespace MarkupTex.Check

/-- The opening tag of an element, as an excerpt of the source. -/
def openingTag (e : Element) : String :=
  "<" ++ e.name
    ++ String.join (e.attributes.map fun a => " " ++ a.name ++ "=\x22" ++ a.value ++ "\x22")
    ++ ">"

def fault? {α : Type} : Except Fault α → Option Fault
  | .ok _ => none
  | .error fault => some fault

/-- The fault of a font size: it has to be one of the words, or a length with a size. -/
def fontSizeFault? (value : String) : Option Fault :=
  match Latex.sizeKeyword? (Text.lower value) with
  | some _ => none
  | none => fault? ((Length.parse value).bind Length.toPoints)

/-- The fault of a declaration whose value cannot be read. -/
def declarationFault? (d : Declaration) : Option Fault :=
  if d.name = "color" || d.name = "background-color" then fault? (Color.toHex d.value)
  else if d.name = "width" || d.name = "height" then fault? (Length.parse d.value)
  else if d.name = "font-size" then fontSizeFault? d.value
  else none

def checkStyle (id : Nat) (block : String) : Report :=
  (Style.ofBlock block).declarations.filterMap fun d =>
    (declarationFault? d).map fun fault =>
      { level := .warning, message := fault.message, node := some id,
        source := some (d.name ++ ": " ++ d.value), suggestion := some "the property is ignored" }

def checkImage (id : Nat) (e : Element) : Report :=
  match e.nonBlankAttribute? "src" with
  | none =>
    [{ level := .warning, message := "image without src is skipped", node := some id,
       source := some (openingTag e) }]
  | some src =>
    match Image.Source.classify src with
    | .remote url =>
      [{ level := .info, message := s!"remote image '{url}'", node := some id,
         suggestion := some "download it and resolve the path with --image-dir" }]
    | .embedded =>
      [{ level := .warning, message := "embedded data: image is skipped", node := some id }]
    | .path _ | .fileUrl _ => []

/-- Whether the columns of a cell are a whole number from one on. -/
def isColspan (value : String) : Bool := (Text.int64? (Text.trim value)).any (1 ≤ ·)

def checkCell (doc : Document) (id : Nat) (e : Element) : Report :=
  let span := match (e.attribute? "colspan").filter fun value => !isColspan value with
    | some value =>
      [{ level := .info, message := s!"colspan '{value}' is treated as 1", node := some id,
         source := some (openingTag e) }]
    | none => []
  let inRow := (doc.parent? id).any fun parent => doc.tag? parent = some .tableRow
  span ++
    if inRow then []
    else [{ level := .warning, message := "table cell outside a row", node := some id }]

def checkFontColor (id : Nat) (e : Element) : Report :=
  match (e.attribute? "color").bind fun color => fault? (Color.toHex color) with
  | some fault =>
    [{ level := .warning, message := fault.message, node := some id,
       source := some (openingTag e) }]
  | none => []

/-- What there is to say about an element because of its tag; an unknown name is reported unless it
is among the `known`. -/
def checkTag (doc : Document) (known : List String) (id : Nat) (e : Element) : Report :=
  match e.tag with
  | .other name =>
    if known.contains name then []
    else
      [{ level := .warning, message := s!"unknown element <{name}>", node := some id,
         suggestion := some "its content is kept, its markup is dropped" }]
  | .heading level =>
    match Latex.headingCommand? level with
    | some _ => []
    | none =>
      [{ level := .warning, message := s!"heading level {level} has no sectioning command",
         node := some id, source := some (openingTag e),
         suggestion := some "use <h1> to <h5>" }]
  | .strike =>
    [{ level := .info, message := "strike-through is rendered as plain text", node := some id }]
  | .image => checkImage id e
  | .tableCell .. => checkCell doc id e
  | .font => checkFontColor id e
  | _ => []

def checkElement (doc : Document) (known : List String) (id : Nat) (e : Element) : Report :=
  checkTag doc known id e ++
    match e.attribute? "style" with
    | some block => checkStyle id block
    | none => []

/-- The unknown names after an element. -/
def learn (known : List String) (e : Element) : List String :=
  match e.tag with
  | .other name => name :: known
  | _ => known

/-- Whether the children of an element stand between the cells of a table. -/
def betweenCells (tag : Tag) (outer : Bool) : Bool :=
  match tag with
  | .table | .tableSection | .tableRow => true
  | .tableCell .. | .caption => false
  | _ => outer

def checkText (id : Nat) (s : String) (between : Bool) : Report :=
  if between && !Text.isBlankText s then
    [{ level := .warning, message := "text between table cells is dropped", node := some id,
       source := some (Text.trim s) }]
  else []

/-- Checks the nodes of a stack and what is below them.  With each node it is kept whether it stands
between the cells of a table. -/
def checkFrom (doc : Document) (known : List String) : List (Nat × Bool) → Report
  | [] => []
  | (id, between) :: stack =>
    match doc.text? id with
    | some s => checkText id s between ++ checkFrom doc known stack
    | none =>
      match doc.element? id with
      | none => checkFrom doc known stack
      | some e =>
        checkElement doc known id e ++
          if e.tag.isSuppressed then checkFrom doc (learn known e) stack
          else
            checkFrom doc (learn known e)
              ((doc.children id).map (fun child => (child, betweenCells e.tag between)) ++ stack)
termination_by stack => doc.weights (stack.map (·.1))
decreasing_by
  all_goals have := doc.weight_pos id
  all_goals have := doc.weight_eq id
  all_goals simp [Function.comp_def]
  all_goals omega

/-- Reports what a conversion of the document would leave out or change. -/
def check (doc : Document) : Report :=
  match doc.root? with
  | none => [{ level := .error, message := "document has no root element" }]
  | some root => checkFrom doc [] [(root, false)]

end MarkupTex.Check
