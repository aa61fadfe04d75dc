import MarkupTex.Html.Markup
import MarkupTex.Proofs.Document.Rows
/-!
# The copy of a row of trees

A document shows the trees that it was made from: their elements and texts with the same parents and in the same
order, and nothing else.  The stack hides the trees, since what is in an element lies on it beside what comes
behind the element.  So the law is stated for a row of trees on top of any other stack: when the row is copied,
what was under it is left, and the document has got the row below its parent and is the same elsewhere
(`copyFrom_putAll`).
-/

set_option autoImplicit false

namespace MarkupTex

namespace Document

open Markup (putAll putAll_eq)

variable {doc doc' doc'' : Document} {parent id : Nat} {ids ids' : List Nat}

/-- The nodes `ids`, which have this parent, are the trees of a row and what is in them.  Trees that are neither
elements nor texts have no node, and nothing in them has. -/
inductive Shows (doc : Document) : Nat → List Nat → List Markup → Prop where
  | nil {parent : Nat} : Shows doc parent [] []
  | element {parent id : Nat} {ids below : List Nat} {name : String} {attributes : List Attribute}
      {children trees : List Markup}
      (here : doc.node? id = some ⟨.element (.ofName name attributes), some parent, below⟩)
      (inside : Shows doc id below children) (rest : Shows doc parent ids trees) :
      Shows doc parent (id :: ids) (.element name attributes children :: trees)
  | text {parent id : Nat} {ids : List Nat} {s : String} {trees : List Markup}
      (here : doc.node? id = some ⟨.text s, some parent, []⟩) (rest : Shows doc parent ids trees) :
      Shows doc parent (id :: ids) (.text s :: trees)
  | other {parent : Nat} {ids : List Nat} {children trees : List Markup}
      (rest : Shows doc parent ids trees) : Shows doc parent ids (.other children :: trees)

/-- What nodes show, they show in a document that has the same nodes from the first of them on. -/
theorem Shows.mono {first : Nat} {trees : List Markup} (h : doc.Shows parent ids trees)
    (hids : ∀ id ∈ ids, first ≤ id)
    (hsame : ∀ id node, first ≤ id → doc.node? id = some node → doc'.node? id = some node) :
    doc'.Shows parent ids trees := by
  induction h with
  | nil => exact .nil
  | @element parent id ids below name attributes children trees here inside rest ihinside ihrest =>
    obtain ⟨hid, hrest⟩ := List.forall_mem_cons.mp hids
    refine .element (hsame id _ hid here) (ihinside fun child hchild => ?_) (ihrest hrest)
    exact Nat.le_trans hid (Nat.le_of_lt (doc.children_after id _ here child hchild).1)
  | text here rest ih =>
    obtain ⟨hid, hrest⟩ := List.forall_mem_cons.mp hids
    exact .text (hsame _ _ hid here) (ih hrest)
  | other rest ih => exact .other (ih hids)

/-- The same holds for the order of what is below nodes. -/
theorem documentOrder_congr {first : Nat} {skip : Nat → Bool} (ids : List Nat)
    (hids : ∀ id ∈ ids, first ≤ id ∧ id < doc.size)
    (hsame : ∀ id, first ≤ id → id < doc.size → doc'.children id = doc.children id) :
    doc'.documentOrder skip ids = doc.documentOrder skip ids := by
  induction ids using documentOrder.induct doc with
  | case1 => rw [documentOrder_nil, documentOrder_nil]
  | case2 id ids ihbelow ih =>
    obtain ⟨⟨hfirst, hlt⟩, hrest⟩ := List.forall_mem_cons.mp hids
    rw [documentOrder_cons, documentOrder_cons, ih hrest, hsame id hfirst hlt]
    split
    · rw [documentOrder_nil, documentOrder_nil]
    · rw [ihbelow fun child hchild => ?_]
      have := lt_of_mem_children hchild
      omega

/-- The second document has got the nodes `ids` below `parent`, and what is below them, behind all that was
there; they come in document order. -/
structure Pasted (doc doc' : Document) (parent : Nat) (ids : List Nat) : Prop where
  size : doc.size ≤ doc'.size
  kept : ∀ id < doc.size, id ≠ parent → doc'.node? id = doc.node? id
  above : doc'.node? parent =
    (doc.node? parent).map fun node => { node with children := node.children ++ ids }
  new : ∀ id ∈ ids, doc.size ≤ id ∧ id < doc'.size
  order : doc'.documentOrder (fun _ => false) ids =
    List.range' doc.size (doc'.size - doc.size)

namespace Pasted

theorem refl (doc : Document) (parent : Nat) : doc.Pasted doc parent [] where
  size := Nat.le_refl _
  kept := fun _ _ _ => rfl
  above := by simp
  new := by simp
  order := by simp

theorem element? (h : doc.Pasted doc' parent ids) : doc'.element? parent = doc.element? parent := by
  rw [Document.element?, h.above, Document.element?]
  cases doc.node? parent with
  | none => rfl
  | some node => rcases node with ⟨_ | _, _, _⟩ <;> rfl

/-- What was appended first is not touched by what is appended next. -/
theorem trans (h : doc.Pasted doc' parent ids) (h' : doc'.Pasted doc'' parent ids')
    (hparent : parent < doc.size) : doc.Pasted doc'' parent (ids ++ ids') where
  size := Nat.le_trans h.size h'.size
  kept := fun id hid hne =>
    (h'.kept id (Nat.lt_of_lt_of_le hid h.size) hne).trans (h.kept id hid hne)
  above := by
    rw [h'.above, h.above, Option.map_map]
    simp [Function.comp_def]
  new := by
    intro id hid
    have := h.size
    have := h'.size
    rcases List.mem_append.mp hid with hid | hid
    · have := h.new id hid
      omega
    · have := h'.new id hid
      omega
  order := by
    have hfirst : doc''.documentOrder (fun _ => false) ids =
        doc'.documentOrder (fun _ => false) ids :=
      documentOrder_congr ids h.new fun id hfirst hlt => by
        rw [children, h'.kept id hlt (by omega), children]
    have hsize := h.size
    have hsize' := h'.size
    rw [documentOrder_append, hfirst, h.order, h'.order]
    have hsplit := List.range'_append_1 (s := doc.size) (m := doc'.size - doc.size)
      (n := doc''.size - doc'.size)
    rw [show doc.size + (doc'.size - doc.size) = doc'.size by omega] at hsplit
    rw [hsplit]
    congr 1
    omega

/-- A node, and then what is below it. -/
theorem push (content : Content) (hparent : parent < doc.size)
    (h : (doc.push parent content).Pasted doc' doc.size ids) :
    doc.Pasted doc' parent [doc.size] where
  size := by
    have := h.size
    rw [size_push] at this
    omega
  kept := by
    intro id hid hne
    rw [h.kept id (by rw [size_push]; omega) (Nat.ne_of_lt hid), node?_push,
      if_neg (Nat.ne_of_lt hid)]
    simp [Ne.symm hne]
  above := by
    rw [h.kept parent (by rw [size_push]; omega) (Nat.ne_of_lt hparent), node?_push,
      if_neg (Nat.ne_of_lt hparent)]
    simp [Node.addChild]
  new := by
    have := h.size
    rw [size_push] at this
    simp
    omega
  order := by
    have hsize := h.size
    rw [size_push] at hsize
    have hbelow : doc'.children doc.size = ids := by
      rw [children, h.above, node?_push, if_pos rfl]
      rfl
    rw [documentOrder_cons, documentOrder_nil, List.append_nil, if_neg (by simp), hbelow, h.order,
      size_push, ← List.range'_succ]
    congr 1
    omega

theorem shows_element {name : String} {attributes : List Attribute} {children : List Markup}
    (h : (doc.push parent (.element (.ofName name attributes))).Pasted doc' doc.size ids)
    (hshows : doc'.Shows doc.size ids children) :
    doc'.Shows parent [doc.size] [.element name attributes children] := by
  refine .element ?_ hshows .nil
  rw [h.above, node?_push, if_pos rfl]
  rfl

end Pasted

/-- Rows that are shown one behind the other. -/
theorem Shows.append {trees trees' : List Markup} (h : doc.Shows parent ids trees)
    (h' : doc.Shows parent ids' trees') : doc.Shows parent (ids ++ ids') (trees ++ trees') := by
  induction h with
  | nil => exact h'
  | element here inside _ _ ih => exact .element here inside (ih h')
  | text here _ ih => exact .text here (ih h')
  | other _ ih => exact .other (ih h')

/-- A row of trees on top of a stack is copied below its parent. -/
def Copies (trees : List Markup) : Prop :=
  ∀ (doc : Document) (parent : Nat) (e : Element), doc.element? parent = some e →
    ∃ doc' ids, (∀ pending, doc.copyFrom (putAll parent trees pending) = doc'.copyFrom pending) ∧
      doc.Pasted doc' parent ids ∧ doc'.Shows parent ids trees

theorem copies_nil : Copies [] :=
  fun doc parent _ _ => ⟨doc, [], fun _ => rfl, .refl doc parent, .nil⟩

/-- The first tree, and then the others. -/
theorem Copies.cons {tree : Markup} {trees : List Markup} (h : Copies [tree]) (h' : Copies trees) :
    Copies (tree :: trees) := by
  intro doc parent e he
  obtain ⟨doc', ids, hcopy, hpasted, hshows⟩ := h doc parent e he
  obtain ⟨doc'', ids', hcopy', hpasted', hshows'⟩ := h' doc' parent e (hpasted.element?.trans he)
  have hparent : parent < doc.size := lt_size_of_element? he
  have hkept : doc''.Shows parent ids [tree] := by
    refine hshows.mono (fun id hid => (hpasted.new id hid).1) fun id node hfirst hnode => ?_
    have hlt : id < doc'.size := (Array.getElem?_eq_some_iff.mp hnode).1
    rw [hpasted'.kept id hlt (by omega), hnode]
  refine ⟨doc'', ids ++ ids', fun pending => ?_, hpasted.trans hpasted' hparent,
    hkept.append hshows'⟩
  rw [← hcopy', ← hcopy, putAll_eq, putAll_eq, putAll_eq]
  rfl

theorem Copies.element {name : String} {attributes : List Attribute} {children : List Markup}
    (h : Copies children) : Copies [.element name attributes children] := by
  intro doc parent e he
  have hparent : parent < doc.size := lt_size_of_element? he
  obtain ⟨doc', ids, hcopy, hpasted, hshows⟩ :=
    h (doc.push parent (.element (.ofName name attributes))) doc.size (.ofName name attributes)
      (by rw [element?_push, if_pos rfl])
  refine ⟨doc', [doc.size], fun pending => ?_, hpasted.push _ hparent,
    hpasted.shows_element hshows⟩
  rw [putAll_eq, List.map_singleton, List.singleton_append, copyFrom, appendElement,
    append_of_element he]
  exact hcopy pending

theorem copies_text (s : String) : Copies [.text s] := by
  intro doc parent e he
  have hparent : parent < doc.size := lt_size_of_element? he
  refine ⟨doc.push parent (.text s), [doc.size], fun pending => ?_,
    (Pasted.refl _ _).push _ hparent, .text ?_ .nil⟩
  · rw [putAll_eq, List.map_singleton, List.singleton_append, copyFrom, appendText,
      append_of_element he]
    rfl
  · rw [node?_push, if_pos rfl]

theorem copies_other (children : List Markup) : Copies [.other children] := by
  intro doc parent _ _
  refine ⟨doc, [], fun pending => ?_, .refl doc parent, .other .nil⟩
  rw [putAll_eq, List.map_singleton, List.singleton_append, copyFrom]

mutual

theorem copies_tree : ∀ tree, Copies [tree]
  | .element _ _ children => (copies_trees children).element
  | .text s => copies_text s
  | .other children => copies_other children

theorem copies_trees : ∀ trees, Copies trees
  | [] => copies_nil
  | tree :: trees => (copies_tree tree).cons (copies_trees trees)

end

/-- A row of trees is never refused.  The document shows the trees of it below its root, their elements under
their names in lower case and with their attributes, their texts, and nothing of other nodes; and ids are counted
in document order, so that there is nothing else in the document. -/
theorem ofMarkup_shows (trees : List Markup) :
    ∃ ids, ofMarkup? trees = .ok (ofMarkup trees) ∧
      (ofMarkup trees).node? 0 = some ⟨.element (.ofName "#document" []), none, ids⟩ ∧
      (ofMarkup trees).Shows 0 ids trees ∧
      (ofMarkup trees).documentOrder (fun _ => false) [0] = List.range (ofMarkup trees).size := by
  obtain ⟨doc, ids, hcopy, hpasted, hshows⟩ :=
    copies_trees trees (withRoot "#document") 0 _ (element?_withRoot "#document" 0)
  have hmade : ofMarkup? trees = .ok doc := by
    rw [ofMarkup?]
    exact (hcopy []).trans (by rw [copyFrom])
  have hdoc : ofMarkup trees = doc := by rw [ofMarkup, hmade]
  have hroot : doc.node? 0 = some ⟨.element (.ofName "#document" []), none, ids⟩ := hpasted.above
  have hbelow : doc.children 0 = ids := by rw [children, hroot]
  rw [hdoc]
  refine ⟨ids, hmade, hroot, hshows, ?_⟩
  have hsize := hpasted.size
  have horder := hpasted.order
  rw [size_withRoot] at hsize horder
  obtain ⟨count, hcount⟩ := Nat.exists_eq_add_of_le' hsize
  rw [documentOrder_cons, documentOrder_nil, List.append_nil, if_neg (by simp), hbelow, horder,
    List.range_eq_range', hcount, List.range'_succ]
  rfl

end Document

end MarkupTex
