import MarkupTex.Html.Markup
import MarkupTex.Proofs.Document.Rows
/-!
# The text in a node

A node with all that is below it is a tree of markup (`tree`), in which no id is left: it does not tell in
which order its nodes were appended.  The text of a tree is told by recursion, and it is what the walk with a
stack collects (`textsFrom_eq`): what lies on the stack is a row of trees, and a node on top may be taken for
the row of its children, as they come onto the stack in its place.
-/

set_option autoImplicit false

namespace MarkupTex

namespace Markup

mutual

/-- The texts in a tree.  What is neither an element nor a text has none. -/
def texts : Markup → List String
  | element _ _ children => textsOf children
  | text s => [s]
  | other _ => []

/-- The texts in a row of trees. -/
def textsOf : List Markup → List String
  | [] => []
  | tree :: trees => texts tree ++ textsOf trees

end

theorem textsOf_eq (trees : List Markup) : textsOf trees = trees.flatMap texts := by
  induction trees with
  | nil => rfl
  | cons tree trees ih => rw [textsOf, ih, List.flatMap_cons]

end Markup

namespace Document

variable {doc : Document} {id : Nat} {s : String}

/-- A node and what is below it, as markup.  Where there is no node, there is nothing to read. -/
def tree (doc : Document) (id : Nat) : Markup :=
  match doc.element? id with
  | some e => .element e.name e.attributes ((doc.children id).attach.map fun ⟨child, _⟩ => doc.tree child)
  | none =>
    match doc.text? id with
    | some s => .text s
    | none => .other []
termination_by doc.size - id
decreasing_by
  rename_i h
  have := lt_of_mem_children h
  omega

theorem tree_of_element? {e : Element} (he : doc.element? id = some e) :
    doc.tree id = .element e.name e.attributes ((doc.children id).map doc.tree) := by
  rw [tree, he]
  simp

theorem tree_of_text? (hs : doc.text? id = some s) : doc.tree id = .text s := by
  rw [tree, element?_of_text? hs, hs]

theorem tree_of_node?_eq_none (hn : doc.node? id = none) : doc.tree id = .other [] := by
  have he : doc.element? id = none := by rw [element?, hn]
  have hs : doc.text? id = none := by rw [text?, hn]
  rw [tree, he, hs]

/-- A node is an element or a text. -/
theorem node?_eq_none (he : doc.element? id = none) (hs : doc.text? id = none) : doc.node? id = none := by
  rw [element?] at he
  rw [text?] at hs
  cases hn : doc.node? id with
  | none => rfl
  | some node =>
    obtain ⟨e | s, above, below⟩ := node
    · rw [hn] at he
      cases he
    · rw [hn] at hs
      cases hs

/-- Without a text of its own, a node has the texts of its children. -/
theorem texts_tree (hs : doc.text? id = none) :
    (doc.tree id).texts = (doc.children id).flatMap fun child => (doc.tree child).texts := by
  cases he : doc.element? id with
  | some e => rw [tree_of_element? he, Markup.texts, Markup.textsOf_eq, List.flatMap_map]
  | none =>
    have hn := node?_eq_none he hs
    have hnone : doc.children id = [] := by rw [children, hn]
    rw [tree_of_node?_eq_none hn, hnone]
    rfl

/-- The stack is a row of trees. -/
theorem textsFrom_eq (stack : List Nat) :
    doc.textsFrom stack = stack.flatMap fun id => (doc.tree id).texts := by
  induction stack using textsFrom.induct doc with
  | case1 => rw [textsFrom]; rfl
  | case2 id stack s hs ih =>
    rw [textsFrom, hs, List.flatMap_cons, tree_of_text? hs, ih]
    rfl
  | case3 id stack hs ih =>
    rw [textsFrom, hs, List.flatMap_cons, texts_tree hs, ← List.flatMap_append]
    exact ih

/-- They are the texts of the nodes in document order. -/
theorem Grown.textsFrom_eq (hdoc : doc.Grown) (ids : List Nat) :
    doc.textsFrom ids = (doc.documentOrder (fun _ => false) ids).filterMap doc.text? := by
  induction ids using documentOrder.induct doc with
  | case1 => rw [textsFrom, documentOrder_nil]; rfl
  | case2 id ids ihbelow ih =>
    rw [documentOrder_cons, if_neg Bool.false_ne_true]
    cases hs : doc.text? id with
    | some s =>
      rw [List.filterMap_cons_some hs, hdoc.children_eq_nil (element?_of_text? hs), documentOrder_nil,
        List.nil_append, ← ih, textsFrom, hs]
    | none =>
      rw [List.filterMap_cons_none hs, List.filterMap_append, ← ihbelow, ← ih, textsFrom, hs]
      simp only [Document.textsFrom_eq, List.flatMap_append]

/-- The text of a node is that of its tree: its own, or that of its children one after the other.  Ids do not
count in this.  In a document that was made by appending, these are the texts of the nodes in the order of the
document, and where there is no node there is no text. -/
theorem textContent_tree (doc : Document) (id : Nat) :
    doc.textContent id = String.join (doc.tree id).texts ∧
      (doc.Grown →
        doc.textContent id =
          String.join ((doc.documentOrder (fun _ => false) [id]).filterMap doc.text?)) ∧
      (doc.node? id = none → doc.textContent id = "") := by
  refine ⟨?_, fun hdoc => by rw [textContent, hdoc.textsFrom_eq], fun hn => ?_⟩
  · rw [textContent, textsFrom_eq, List.flatMap_singleton]
  · rw [textContent, textsFrom_eq, List.flatMap_singleton, tree_of_node?_eq_none hn]
    rfl

end Document

end MarkupTex
