import MarkupTex.Document.Basic
/-!
# Scans of a document

Two ways through the nodes below a given one that do not look at styles:

* `levelOrder` goes level by level, and may leave out what is below certain nodes;
* `textContent` collects the text in document order.

Both keep a list of the nodes still to come.  The weight of a node is the number of nodes that a
walk from it comes to, and each step takes one off the weight of the list.
-/

set_option autoImplicit false

namespace MarkupTex

/-- Numbers added up. -/
def total : List Nat → Nat
  | [] => 0
  | n :: ns => n + total ns

@[simp] theorem total_nil : total [] = 0 := rfl

@[simp] theorem total_cons (n : Nat) (ns : List Nat) : total (n :: ns) = n + total ns := rfl

@[simp] theorem total_append (ns ms : List Nat) : total (ns ++ ms) = total ns + total ms := by
  induction ns with
  | nil => simp
  | cons n ns ih => simp [ih, Nat.add_assoc]

namespace Document

/-- One more than the weights of the children together. -/
def weight (doc : Document) (id : Nat) : Nat :=
  1 + total ((doc.children id).attach.map fun ⟨child, _⟩ => weight doc child)
termination_by doc.size - id
decreasing_by
  rename_i h
  have := lt_of_mem_children h
  omega

def weights (doc : Document) (ids : List Nat) : Nat := total (ids.map doc.weight)

theorem weight_eq (doc : Document) (id : Nat) :
    doc.weight id = 1 + doc.weights (doc.children id) := by
  rw [weight, weights]
  simp

@[simp] theorem weights_nil (doc : Document) : doc.weights [] = 0 := rfl

@[simp] theorem weights_cons (doc : Document) (id : Nat) (ids : List Nat) :
    doc.weights (id :: ids) = doc.weight id + doc.weights ids := by
  simp [weights]

@[simp] theorem weights_append (doc : Document) (ids ids' : List Nat) :
    doc.weights (ids ++ ids') = doc.weights ids + doc.weights ids' := by
  simp [weights]

theorem weight_pos (doc : Document) (id : Nat) : 0 < doc.weight id := by
  rw [weight_eq]
  omega

/-! ## Level by level -/

/-- A scan in progress: the nodes to come, and the node that came last if its children are still to
be put behind them. -/
structure Scan where
  queue : List Nat
  pending : Option Nat := none
  deriving DecidableEq, Repr, Inhabited

namespace Scan

def start (doc : Document) (id : Nat) : Scan := ⟨if (doc.node? id).isSome then [id] else [], none⟩

/-- What comes next, if nothing is left out from here on. -/
def upcoming (doc : Document) (scan : Scan) : List Nat :=
  scan.queue ++ (scan.pending.map doc.children).getD []

/-- The next node. -/
def next? (doc : Document) (scan : Scan) : Option (Nat × Scan) :=
  match scan.upcoming doc with
  | [] => none
  | id :: rest => some (id, ⟨rest, some id⟩)

/-- Leaves out the children of the node that came last. -/
def skipChildren (scan : Scan) : Scan := { scan with pending := none }

theorem weights_upcoming_lt {doc : Document} {scan scan' : Scan} {id : Nat}
    (h : scan.next? doc = some (id, scan')) :
    doc.weights (scan'.upcoming doc) < doc.weights (scan.upcoming doc) := by
  unfold next? at h
  split at h
  · cases h
  · next first rest hup =>
    cases h
    rw [hup, weights_cons, weight_eq]
    simp [upcoming]
    omega

theorem weights_upcoming_skipChildren_le (doc : Document) (scan : Scan) :
    doc.weights (scan.skipChildren.upcoming doc) ≤ doc.weights (scan.upcoming doc) := by
  simp [upcoming, skipChildren]

end Scan

/-- The rest of a scan that leaves out the children of the nodes in `skip`. -/
def levelOrderFrom (doc : Document) (skip : Nat → Bool) (scan : Scan) : List Nat :=
  match _h : scan.next? doc with
  | none => []
  | some (id, scan') =>
    id :: levelOrderFrom doc skip (if skip id then scan'.skipChildren else scan')
termination_by doc.weights (scan.upcoming doc)
decreasing_by
  have := Scan.weights_upcoming_lt _h
  have := Scan.weights_upcoming_skipChildren_le doc scan'
  split <;> omega

/-- A node and those below it, level by level, without the children of the nodes in `skip`.  There
is nothing to list if the node is not in the document. -/
def levelOrder (doc : Document) (start : Nat) (skip : Nat → Bool) : List Nat :=
  levelOrderFrom doc skip (Scan.start doc start)

/-! ## Text -/

/-- The text nodes under a stack of nodes, in document order. -/
def textsFrom (doc : Document) : List Nat → List String
  | [] => []
  | id :: stack =>
    match doc.text? id with
    | some s => s :: textsFrom doc stack
    | none => textsFrom doc (doc.children id ++ stack)
termination_by stack => doc.weights stack
decreasing_by
  · have := doc.weight_pos id
    rw [weights_cons]
    omega
  · rw [weights_append, weights_cons, weight_eq]
    omega

/-- All the text of a node and those below it. -/
def textContent (doc : Document) (id : Nat) : String := String.join (doc.textsFrom [id])

/-- The text of the first title, its words with one space between them; nothing if there is no
title or it is blank. -/
def title? (doc : Document) : Option String := do
  let root ← doc.root?
  let title ← (doc.levelOrder root fun _ => false).find? fun id => doc.tag? id = some .title
  let words := Text.words (doc.textContent title)
  if words.isEmpty then none else some (" ".intercalate words)

end Document

end MarkupTex
