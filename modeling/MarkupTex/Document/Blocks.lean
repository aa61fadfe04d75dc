import MarkupTex.Document.Scan
/-!
# Blocks in a document

Which elements begin a block of their own is a matter of the tag, except for images: an image is a
block where it stands alone.
-/

set_option autoImplicit false

namespace MarkupTex.Document

/-- An image stands alone in a block container, and in a paragraph that holds nothing else but
blanks. -/
def isBlockImage (doc : Document) (id : Nat) : Bool :=
  match doc.parent? id with
  | none => true
  | some parent =>
    match doc.tag? parent with
    | none => false
    | some .paragraph =>
      (doc.children parent).all fun child => child = id || doc.isBlankTextNode child
    | some tag => tag.isBlockContainer

/-- The node is rendered as a paragraph, a section, a list or a float. -/
def isBlock (doc : Document) (id : Nat) : Bool :=
  match doc.tag? id with
  | none => false
  | some .image => doc.isBlockImage id
  | some tag => tag.isBlockLevel

/-- Some node below this one is a block. -/
def hasBlockContent (doc : Document) (id : Nat) : Bool :=
  ((doc.levelOrder id fun _ => false).drop 1).any doc.isBlock

end MarkupTex.Document
