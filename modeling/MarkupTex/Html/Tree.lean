import MarkupTex.Html.Markup
import MarkupTex.Html.Token
/-!
# Trees of HTML

Tokens become a tree that always has an `html` element with a `head` and a `body`, whether they are
written or not.  Titles, styles, scripts, `meta` and `link` belong to the head as long as nothing
else has come; the first other tag or text begins the body.

The markup is taken to be well nested: an end tag closes the innermost element of its name.  Void
elements have no end tag, and rows and cells get what has to stand around them in a table.
-/

set_option autoImplicit false

namespace MarkupTex.Html

/-- An element that is not closed yet, with its children, the last one in front. -/
structure OpenElement where
  name : String
  attributes : List Attribute
  children : List Markup := []
  deriving Repr, Inhabited

def OpenElement.toMarkup (e : OpenElement) : Markup :=
  .element e.name e.attributes e.children.reverse

/-- Where in the document the next token stands. -/
inductive Phase where
  | beforeHead
  | inHead
  | afterHead
  | inBody
  /-- Behind the end tag of the body.  More of the body may still come. -/
  | afterBody
  deriving DecidableEq, Repr, Inhabited

/-- The body has begun. -/
def Phase.isBody : Phase → Bool
  | inBody | afterBody => true
  | beforeHead | inHead | afterHead => false

/-- A tree that is being built; lists of nodes have the last one in front. -/
structure Builder where
  phase : Phase := .beforeHead
  htmlAttributes : List Attribute := []
  headAttributes : List Attribute := []
  bodyAttributes : List Attribute := []
  head : List Markup := []
  /-- What stands between the head and the body. -/
  between : List Markup := []
  body : List Markup := []
  /-- The open elements of the body, the innermost in front. -/
  opened : List OpenElement := []
  /-- An element has just been opened that leaves out the end of a line right behind its tag. -/
  afterPre : Bool := false
  deriving Repr, Inhabited

def voidElements : List String :=
  ["area", "base", "basefont", "bgsound", "br", "col", "embed", "hr", "img", "input", "keygen",
   "link", "meta", "param", "source", "track", "wbr"]

/-- Void elements that belong to the head. -/
def headElements : List String := ["base", "basefont", "bgsound", "link", "meta"]

/-- Elements that leave out the end of a line right behind their tag. -/
def preElements : List String := ["pre", "listing"]

/-- Elements that begin a new part of a table. -/
def tableParts : List String := ["caption", "colgroup", "thead", "tbody", "tfoot"]

/-- Parts of a table that hold rows. -/
def rowGroups : List String := ["thead", "tbody", "tfoot"]

def isCell (name : String) : Bool := name = "td" || name = "th"

/-- Elements that count in a table alone. -/
def isInTable (name : String) : Bool :=
  tableParts.contains name || name = "tr" || isCell name || name = "col"

/-- Puts a node behind the others; a text that follows a text goes into it. -/
def addNode (nodes : List Markup) (node : Markup) : List Markup :=
  match nodes, node with
  | .text before :: rest, .text s => .text (before ++ s) :: rest
  | _, _ => node :: nodes

def mergeAttributes (old new : List Attribute) : List Attribute := new.foldl addAttribute old

namespace Builder

/-- Puts a node into the innermost open element of the body. -/
def add (b : Builder) (node : Markup) : Builder :=
  match b.opened with
  | [] => { b with body := addNode b.body node }
  | e :: rest => { b with opened := { e with children := addNode e.children node } :: rest }

def currentName (b : Builder) : String :=
  match b.opened with
  | [] => "body"
  | e :: _ => e.name

/-- Closes the innermost open element. -/
def closeTop (b : Builder) : Builder :=
  match b.opened with
  | [] => b
  | e :: rest => { b with opened := rest }.add e.toMarkup

/-- Closes the `n` innermost elements. -/
def closeMany (b : Builder) : Nat → Builder
  | 0 => b
  | n + 1 => b.closeTop.closeMany n

def isOpen (b : Builder) (name : String) : Bool := b.opened.any fun e => e.name = name

/-- Closes the innermost element of a name and all within it; without one nothing happens. -/
def close (b : Builder) (name : String) : Builder :=
  match b.opened.findIdx? fun e => e.name = name with
  | some i => b.closeMany (i + 1)
  | none => b

def openElement (b : Builder) (name : String) (attributes : List Attribute) : Builder :=
  { b with opened := ⟨name, attributes, []⟩ :: b.opened, afterPre := preElements.contains name }

/-- Closes the innermost element if its name is one of these. -/
def closeIn (b : Builder) (names : List String) : Builder :=
  if names.contains b.currentName then b.closeTop else b

/-- Opens an element without attributes if the innermost one has one of these names. -/
def openIn (b : Builder) (names : List String) (name : String) : Builder :=
  if names.contains b.currentName then b.openElement name [] else b

/-- Closes and opens what has to be for an element at this place of a table. -/
def fitTable (b : Builder) (name : String) : Builder :=
  if tableParts.contains name then (b.closeIn ["tr"]).closeIn ("colgroup" :: rowGroups)
  else if name = "tr" then ((b.closeIn ["tr"]).closeIn ["colgroup"]).openIn ["table"] "tbody"
  else if isCell name then
    ((b.closeIn ["colgroup"]).openIn ["table"] "tbody").openIn rowGroups "tr"
  else if name = "col" then ((b.closeIn ["tr"]).closeIn rowGroups).openIn ["table"] "colgroup"
  else b

/-- Opens an element of the body.  Parts of tables count in a table alone. -/
def startInBody (b : Builder) (name : String) (attributes : List Attribute) : Builder :=
  let name := if name = "image" then "img" else name
  if isInTable name && !b.isOpen "table" then b
  else
    let b := b.fitTable name
    if voidElements.contains name then b.add (.element name attributes [])
    else b.openElement name attributes

/-- A text of the body.  Anything but blanks behind the end of the body makes the body go on. -/
def textInBody (b : Builder) (s : String) : Builder :=
  let b := { b with phase := if s.toList.all isSpace then b.phase else .inBody }
  if s.isEmpty then b else b.add (.text s)

def addToHead (b : Builder) (node : Markup) : Builder := { b with head := addNode b.head node }

/-- A text where the body has not begun.  Blanks in front of it go where it stands, or are dropped
before the head; what remains begins the body. -/
def textBeforeBody (b : Builder) (s : String) : Builder :=
  let blanks := String.ofList (s.toList.takeWhile isSpace)
  let rest := String.ofList (s.toList.dropWhile isSpace)
  let b :=
    if blanks.isEmpty then b
    else
      match b.phase with
      | .inHead => b.addToHead (.text blanks)
      | .afterHead => { b with between := addNode b.between (.text blanks) }
      | _ => b
  if rest.isEmpty then b else { b with phase := .inBody }.textInBody rest

/-- The head takes an element, and is begun by it if need be. -/
def headElement (b : Builder) (node : Markup) : Builder :=
  let b := if b.phase = .beforeHead then { b with phase := .inHead } else b
  b.addToHead node

/-- Goes on in the body. -/
def inBody (b : Builder) : Builder := { b with phase := .inBody }

def startTag (b : Builder) (name : String) (attributes : List Attribute) : Builder :=
  if name = "html" then { b with htmlAttributes := mergeAttributes b.htmlAttributes attributes }
  else if b.phase.isBody then
    let b := b.inBody
    if name = "body" then { b with bodyAttributes := mergeAttributes b.bodyAttributes attributes }
    else if name = "head" then b
    else b.startInBody name attributes
  else if name = "head" then
    if b.phase = .beforeHead then { b with phase := .inHead, headAttributes := attributes } else b
  else if name = "body" then { b with phase := .inBody, bodyAttributes := attributes }
  else if headElements.contains name then b.headElement (.element name attributes [])
  else b.inBody.startInBody name attributes

/-- Closes an element of the body.  Two end tags make an element by themselves: that of a line
break, and that of a paragraph where none is open. -/
def endInBody (b : Builder) (name : String) : Builder :=
  if name = "br" || (name = "p" && !b.isOpen "p") then b.add (.element name [] [])
  else b.close name

def endTag (b : Builder) (name : String) : Builder :=
  if name = "body" || name = "html" then { b with phase := .afterBody }
  else if b.phase.isBody || name = "br" then b.inBody.endInBody name
  else if name = "head" then { b with phase := .afterHead }
  else b

/-- Whether an element that is taken whole may stand in the head.  Behind the end of the head one
of them may not any more. -/
def holdsInHead (phase : Phase) (name : String) : Bool :=
  ["title", "style", "script", "noframes"].contains name
    || (name = "noscript" && phase ≠ .afterHead)

/-- An element with its content.  In a text area the first end of a line is left out. -/
def whole (b : Builder) (name : String) (attributes : List Attribute) (content : String) :
    Builder :=
  let content :=
    if name = "textarea" then (Text.afterStart? "\n" content).getD content else content
  let node := Markup.element name attributes (if content.isEmpty then [] else [.text content])
  if !b.phase.isBody && holdsInHead b.phase name then b.headElement node else b.inBody.add node

def comment (b : Builder) : Builder :=
  match b.phase with
  | .beforeHead => b
  | .inHead => b.addToHead .comment
  | .afterHead => { b with between := .comment :: b.between }
  | .inBody => b.add .comment
  | .afterBody => b

/-- Takes a token; `afterPre` tells of the one before. -/
def take (b : Builder) (afterPre : Bool) : Token → Builder
  | .text s =>
    let s := if afterPre then (Text.afterStart? "\n" s).getD s else s
    if b.phase.isBody then b.textInBody s else b.textBeforeBody s
  | .nul => b.inBody
  | .startTag name attributes => b.startTag name attributes
  | .endTag name => b.endTag name
  | .whole name attributes content => b.whole name attributes content
  | .comment => b.comment
  | .doctype | .nothing => b

/-- Takes the next token. -/
def step (b : Builder) (t : Token) : Builder := take { b with afterPre := false } b.afterPre t

/-- The whole tree; what is still open is closed. -/
def finish (b : Builder) : Markup :=
  let b := b.closeMany b.opened.length
  .element "html" b.htmlAttributes
    (.element "head" b.headAttributes b.head.reverse :: b.between.reverse ++
      [.element "body" b.bodyAttributes b.body.reverse])

end Builder

/-- The tree of an HTML text. -/
def tree (s : String) : Markup := ((tokenize s).foldl Builder.step {}).finish

/-- The document of an HTML text. -/
def parse (s : String) : Document := Document.ofMarkup [tree s]

end MarkupTex.Html
