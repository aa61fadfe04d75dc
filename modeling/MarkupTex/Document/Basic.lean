import MarkupTex.Fault
import MarkupTex.Document.Tag
/-!
# Documents

A document is a tree kept in an array: a node is an element or a text, and it knows its parent and
its children by their places in the array, which are their ids.  Nodes are only ever appended, so
that a child comes after its parent; `Document` carries this as a proof, and it is what every walk
down the tree ends by.

The first node is the root.
-/

set_option autoImplicit false

namespace MarkupTex

/-- An element; its name is in lower case. -/
structure Element where
  name : String
  attributes : List Attribute
  deriving DecidableEq, Repr, Inhabited

namespace Element

def ofName (name : String) (attributes : List Attribute) : Element := ⟨Text.lower name, attributes⟩

def tag (e : Element) : Tag := Tag.resolve e.name e.attributes

/-- The first attribute of this name, in any case. -/
def attribute? (e : Element) (name : String) : Option String := findAttribute? e.attributes name

/-- An attribute that is not blank, without the blanks around it. -/
def nonBlankAttribute? (e : Element) (name : String) : Option String :=
  (e.attribute? name).bind Text.nonBlank?

end Element

/-- What a node is. -/
inductive Content where
  | element (e : Element)
  | text (s : String)
  deriving DecidableEq, Repr, Inhabited

structure Node where
  content : Content
  parent : Option Nat := none
  children : List Nat := []
  deriving DecidableEq, Repr, Inhabited

/-- The node with one more child, behind the others. -/
def Node.addChild (node : Node) (id : Nat) : Node :=
  { node with children := node.children ++ [id] }

/-- Nodes in the order in which they were appended. -/
structure Document where
  nodes : Array Node
  /-- Every child comes after its parent and is there. -/
  children_after : ∀ (id : Nat) (node : Node), nodes[id]? = some node →
    ∀ child ∈ node.children, id < child ∧ child < nodes.size

namespace Document

/-- The document without nodes. -/
def empty : Document := ⟨#[], by simp⟩

instance : Inhabited Document := ⟨empty⟩

/-- A document that has nothing but a root element. -/
def withRoot (name : String) : Document where
  nodes := #[{ content := .element (Element.ofName name []) }]
  children_after := by
    intro id node h child hc
    cases id with
    | zero => simp at h; subst h; simp at hc
    | succ n => simp at h

def size (doc : Document) : Nat := doc.nodes.size

def isEmpty (doc : Document) : Bool := doc.nodes.isEmpty

def root? (doc : Document) : Option Nat := if doc.nodes.isEmpty then none else some 0

def node? (doc : Document) (id : Nat) : Option Node := doc.nodes[id]?

def missing (id : Nat) : Fault := ⟨.malformedDocument, s!"no node {id} in document"⟩

/-- The node at an id; it is a fault if there is none. -/
def get (doc : Document) (id : Nat) : Except Fault Node :=
  match doc.node? id with
  | some node => .ok node
  | none => .error (missing id)

def element? (doc : Document) (id : Nat) : Option Element :=
  match doc.node? id with
  | some { content := .element e, .. } => some e
  | _ => none

def text? (doc : Document) (id : Nat) : Option String :=
  match doc.node? id with
  | some { content := .text s, .. } => some s
  | _ => none

def tag? (doc : Document) (id : Nat) : Option Tag := (doc.element? id).map (·.tag)

def parent? (doc : Document) (id : Nat) : Option Nat := (doc.node? id).bind (·.parent)

def children (doc : Document) (id : Nat) : List Nat :=
  match doc.node? id with
  | some node => node.children
  | none => []

def attribute? (doc : Document) (id : Nat) (name : String) : Option String :=
  (doc.element? id).bind (·.attribute? name)

/-- A text node of nothing but blanks. -/
def isBlankTextNode (doc : Document) (id : Nat) : Bool := (doc.text? id).any Text.isBlankText

theorem lt_of_mem_children {doc : Document} {id child : Nat} (h : child ∈ doc.children id) :
    id < child ∧ child < doc.size := by
  unfold children node? at h
  split at h
  · next node hn => exact doc.children_after id node hn child h
  · simp at h

theorem children_eq_nil_of_size_le {doc : Document} {id : Nat} (h : doc.size ≤ id) :
    doc.children id = [] := by
  have hn : doc.node? id = none := by
    unfold node?
    exact Array.getElem?_eq_none h
  simp [children, hn]

/-! ## Appending -/

/-- Puts a node behind the last one and makes it the last child of `parent`. -/
def push (doc : Document) (parent : Nat) (content : Content) : Document where
  nodes := (doc.nodes.modify parent fun node => node.addChild doc.size).push
    { content, parent := some parent }
  children_after := by
    intro id node h child hc
    rw [Array.getElem?_push, Array.size_modify] at h
    rw [Array.size_push, Array.size_modify]
    split at h
    · cases h; simp at hc
    · rw [Array.getElem?_modify] at h
      split at h
      · cases hn : doc.nodes[id]? with
        | none => simp [hn] at h
        | some old =>
          simp only [hn, Option.map_some, Option.some.injEq] at h
          subst h
          have hid : id < doc.nodes.size := (Array.getElem?_eq_some_iff.mp hn).1
          simp only [Node.addChild, List.mem_append, List.mem_singleton] at hc
          rcases hc with hc | hc
          · have := doc.children_after id old hn child hc
            omega
          · subst hc
            unfold size
            omega
      · have := doc.children_after id node h child hc
        omega

def noParent (id : Nat) : Fault := ⟨.invalidArgument, s!"no node {id} in document"⟩

def textParent : Fault := ⟨.malformedDocument, "text nodes cannot have children"⟩

/-- Appends a node under an element.  The answer is its id and the new document. -/
def append (doc : Document) (parent : Nat) (content : Content) :
    Except Fault (Nat × Document) :=
  match doc.node? parent with
  | none => .error (noParent parent)
  | some { content := .text _, .. } => .error textParent
  | some { content := .element _, .. } => .ok (doc.size, doc.push parent content)

def appendElement (doc : Document) (parent : Nat) (name : String)
    (attributes : List Attribute) : Except Fault (Nat × Document) :=
  doc.append parent (.element (Element.ofName name attributes))

def appendText (doc : Document) (parent : Nat) (text : String) :
    Except Fault (Nat × Document) :=
  doc.append parent (.text text)

end Document

end MarkupTex
