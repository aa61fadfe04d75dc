import MarkupTex.Document.Scan
/-!
# Markup as a tree

What a parser of HTML delivers: elements and texts, and other nodes, such as comments, that a
document has no place for.

A document is made from it below a root of its own by means of a stack.  A tree on the stack stands
there with the id of the node that it is to be put below; what is in an element comes onto the stack
when the element has got an id, the first child on top.  Other nodes are dropped, with all that is
in them.
-/

set_option autoImplicit false

namespace MarkupTex

inductive Markup where
  | element (name : String) (attributes : List Attribute) (children : List Markup)
  | text (s : String)
  | other (children : List Markup)
  deriving Repr, Inhabited

namespace Markup

def comment : Markup := .other []

mutual

/-- The nodes of a tree. -/
def weight : Markup → Nat
  | element _ _ children => 1 + weights children
  | text _ => 1
  | other children => 1 + weights children

def weights : List Markup → Nat
  | [] => 0
  | tree :: rest => weight tree + weights rest

end

/-- Trees that are still to be copied, each with the id of its parent; the next one is on top. -/
abbrev Pending := List (Markup × Nat)

/-- Puts trees onto the stack, the last one first. -/
def putAll (parent : Nat) (trees : List Markup) (pending : Pending) : Pending :=
  trees.reverse.foldl (fun pending tree => (tree, parent) :: pending) pending

theorem putAll_eq (parent : Nat) (trees : List Markup) (pending : Pending) :
    putAll parent trees pending = trees.map (·, parent) ++ pending := by
  rw [putAll, List.foldl_reverse]
  induction trees with
  | nil => rfl
  | cons tree rest ih => rw [List.foldr_cons, ih]; rfl

/-- The nodes of all trees on the stack. -/
def pendingWeight (pending : Pending) : Nat := total (pending.map fun entry => entry.1.weight)

theorem pendingWeight_cons (tree : Markup) (parent : Nat) (pending : Pending) :
    pendingWeight ((tree, parent) :: pending) = tree.weight + pendingWeight pending := rfl

theorem pendingWeight_putAll (parent : Nat) (trees : List Markup) (pending : Pending) :
    pendingWeight (putAll parent trees pending) = weights trees + pendingWeight pending := by
  rw [putAll_eq]
  induction trees with
  | nil => simp [weights]
  | cons tree rest ih =>
    rw [List.map_cons, List.cons_append, pendingWeight_cons, ih, weights, Nat.add_assoc]

end Markup

namespace Document

open Markup (Pending putAll pendingWeight)

/-- Copies what is on the stack. -/
def copyFrom (doc : Document) : Pending → Except Fault Document
  | [] => .ok doc
  | (.element name attributes children, parent) :: pending => do
    let (id, doc) ← doc.appendElement parent name attributes
    copyFrom doc (putAll id children pending)
  | (.text s, parent) :: pending => do
    let (_, doc) ← doc.appendText parent s
    copyFrom doc pending
  | (.other _, _) :: pending => copyFrom doc pending
termination_by pending => pendingWeight pending
decreasing_by
  · rw [Markup.pendingWeight_putAll, Markup.pendingWeight_cons, Markup.weight]
    omega
  · rw [Markup.pendingWeight_cons, Markup.weight]
    omega
  · rw [Markup.pendingWeight_cons, Markup.weight]
    omega

def rootless : Fault := ⟨.internalInvariant, "document without root"⟩

/-- The document of a row of trees.  Its root is not part of the markup. -/
def ofMarkup? (trees : List Markup) : Except Fault Document := do
  let doc := withRoot "#document"
  let some root := doc.root? | .error rootless
  copyFrom doc (putAll root trees [])

/-- The same, as it is never refused. -/
def ofMarkup (trees : List Markup) : Document :=
  match ofMarkup? trees with
  | .ok doc => doc
  | .error _ => .empty

end Document

end MarkupTex
