import MarkupTex.Text.Numeral
/-!
# Tags

Every element name is sorted once into a `Tag`, so that all that follows goes by cases and not by
text.  Headings carry their level and table cells the number of columns that they span; a name that
is not in the table is kept as it is, in lower case.
-/

set_option autoImplicit false

namespace MarkupTex

/-- An attribute; the name is as it was written. -/
structure Attribute where
  name : String
  value : String
  deriving DecidableEq, Repr, Inhabited

/-- The first attribute of this name, in any case. -/
def findAttribute? (attributes : List Attribute) (name : String) : Option String :=
  (attributes.find? fun a => Text.lower a.name = Text.lower name).map (·.value)

/-- The largest number of columns that a cell can span. -/
def maxColspan : Nat := 1000

/-- The columns that a cell spans: at least one, and one for anything that is not a whole number of
64 bits. -/
def parseColspan (value : Option String) : Nat :=
  match value.bind fun v => Text.int64? (Text.trim v) with
  | some n => if 1 ≤ n then min n.toNat maxColspan else 1
  | none => 1

/-- What an element is, by its name. -/
inductive Tag where
  /-- The root that stands above everything. -/
  | document
  | html
  | head
  | title
  | body
  /-- Scripts, templates and links: nothing to be shown. -/
  | script
  | style
  | paragraph
  | division
  | heading (level : Nat)
  | bold
  | italic
  | underline
  | strike
  | anchor
  | unorderedList
  | orderedList
  | listItem
  | descriptionList
  | descriptionTerm
  | descriptionDetails
  | span
  | font
  | table
  | tableSection
  | tableRow
  | tableCell (header : Bool) (colspan : Nat)
  | caption
  | image
  | horizontalRule
  | lineBreak
  | code
  | preformatted
  | blockquote
  | center
  | subscript
  | superscript
  /-- Any other name, in lower case. -/
  | other (name : String)
  deriving DecidableEq, Repr, Inhabited

namespace Tag

/-- The tag for a name in lower case; cells have one column here. -/
def ofName? (name : String) : Option Tag :=
  match name with
  | "#document" => some document
  | "html" => some html
  | "head" => some head
  | "title" => some title
  | "body" => some body
  | "script" | "noscript" | "template" | "meta" | "link" => some script
  | "style" => some style
  | "p" => some paragraph
  | "div" | "section" | "article" | "main" | "header" | "footer" | "nav" | "aside" => some division
  | "h1" => some (heading 1)
  | "h2" => some (heading 2)
  | "h3" => some (heading 3)
  | "h4" => some (heading 4)
  | "h5" => some (heading 5)
  | "h6" => some (heading 6)
  | "b" | "strong" => some bold
  | "i" | "em" | "cite" | "var" => some italic
  | "u" | "ins" => some underline
  | "s" | "del" | "strike" => some strike
  | "a" => some anchor
  | "ul" => some unorderedList
  | "ol" => some orderedList
  | "li" => some listItem
  | "dl" => some descriptionList
  | "dt" => some descriptionTerm
  | "dd" => some descriptionDetails
  | "span" => some span
  | "font" => some font
  | "table" => some table
  | "thead" | "tbody" | "tfoot" => some tableSection
  | "tr" => some tableRow
  | "th" => some (tableCell true 1)
  | "td" => some (tableCell false 1)
  | "caption" => some caption
  | "img" => some image
  | "hr" => some horizontalRule
  | "br" => some lineBreak
  | "code" | "kbd" | "samp" | "tt" => some code
  | "pre" => some preformatted
  | "blockquote" => some blockquote
  | "center" => some center
  | "sub" => some subscript
  | "sup" => some superscript
  | _ => none

/-- The tag of an element, from its name in any case and its attributes. -/
def resolve (name : String) (attributes : List Attribute) : Tag :=
  let name := Text.lower name
  match ofName? name with
  | some (tableCell header _) => tableCell header (parseColspan (findAttribute? attributes "colspan"))
  | some tag => tag
  | none => other name

/-- The parts that a table is made of. -/
def isTableStructure : Tag → Bool
  | table | tableSection | tableRow | tableCell .. | caption => true
  | _ => false

/-- Containers in which an image stands on a line of its own. -/
def isBlockContainer : Tag → Bool
  | document | html | body | division | center | blockquote | other _ => true
  | _ => false

/-- Elements that become paragraphs, sections, environments or floats. -/
def isBlockLevel : Tag → Bool
  | paragraph | division | center | blockquote | heading _ | preformatted | unorderedList
  | orderedList | descriptionList | listItem | descriptionTerm | descriptionDetails | table
  | caption | horizontalRule => true
  | _ => false

/-- Elements of which nothing is shown. -/
def isSuppressed : Tag → Bool
  | head | title | script | style => true
  | _ => false

end Tag

end MarkupTex
