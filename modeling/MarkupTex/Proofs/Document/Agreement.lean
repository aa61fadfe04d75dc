import MarkupTex.Proofs.Document.Levels
/-!
# Documents that differ in some texts

`SameBut hidden doc doc'` says of two documents that they are the same but for what the texts in `hidden`
say.  Whatever is found out from tags and children alone is the same of both, and what a scan finds out from
texts is the same if none of the texts is hidden.

Two traversals are compared call by call: if at every moment of the one the next call has the same effect in
the other, they come to the same result, `traverse_congr`.
-/

set_option autoImplicit false

namespace MarkupTex

namespace Document

variable {doc doc' : Document} {hidden : Nat → Prop} {start id child : Nat}

/-! ## Parents -/

/-- The parent of a node is the one that has it among its children. -/
def Linked (doc : Document) : Prop :=
  ∀ id parent, doc.parent? id = some parent ↔ id ∈ doc.children parent

@[simp] theorem size_withRoot (name : String) : (withRoot name).size = 1 := rfl

@[simp] theorem size_push (doc : Document) (parent : Nat) (content : Content) :
    (doc.push parent content).size = doc.size + 1 := by
  rw [size, push, Array.size_push, Array.size_modify, size]

theorem linked_withRoot (name : String) : (withRoot name).Linked := by
  intro id parent
  have hchildren : (withRoot name).children parent = [] := by
    rw [children, node?, withRoot]
    cases parent <;> rfl
  have hparent : (withRoot name).parent? id = none := by
    rw [parent?, node?, withRoot]
    cases id <;> rfl
  simp [hchildren, hparent]

theorem node?_push (doc : Document) (parent : Nat) (content : Content) (id : Nat) :
    (doc.push parent content).node? id =
      if id = doc.size then some { content, parent := some parent }
      else (doc.node? id).map fun node => if parent = id then node.addChild doc.size else node := by
  rw [node?, node?, push, Array.getElem?_push, Array.size_modify, Array.getElem?_modify]
  have hsize : doc.size = doc.nodes.size := rfl
  rw [hsize]
  split
  · rfl
  · split <;> simp_all

theorem parent?_push (doc : Document) (parent : Nat) (content : Content) (id : Nat) :
    (doc.push parent content).parent? id = if id = doc.size then some parent else doc.parent? id := by
  rw [parent?, node?_push, parent?]
  split
  · rfl
  · cases doc.node? id with
    | none => rfl
    | some node =>
      simp only [Option.map_some, Option.bind_some]
      split <;> rfl

theorem mem_children_push {parent : Nat} (hp : parent < doc.size) (content : Content) :
    child ∈ (doc.push parent content).children id ↔
      child ∈ doc.children id ∨ id = parent ∧ child = doc.size := by
  rw [children, node?_push]
  by_cases hid : id = doc.size
  · rw [if_pos hid, children_eq_nil_of_size_le (Nat.le_of_eq hid.symm)]
    simp only [List.not_mem_nil, false_or, false_iff]
    omega
  · rw [if_neg hid]
    cases hn : doc.node? id with
    | none =>
      have hne : id ≠ parent := by
        rintro rfl
        rw [node?, Array.getElem?_eq_getElem hp] at hn
        cases hn
      simp [children, hn, hne]
    | some node =>
      by_cases heq : parent = id
      · simp [children, hn, heq, Node.addChild]
      · simp [children, hn, heq, Ne.symm heq]

/-- Appending below a node that is there keeps the links right. -/
theorem Linked.push (h : doc.Linked) {parent : Nat} (hp : parent < doc.size) (content : Content) :
    (doc.push parent content).Linked := by
  intro id above
  rw [parent?_push, mem_children_push hp]
  by_cases hid : id = doc.size
  · have hnew : id ∉ doc.children above := fun hmem => by
      have := (lt_of_mem_children hmem).2
      omega
    subst hid
    simp [hnew, eq_comm]
  · rw [if_neg hid, h id above]
    simp [hid]

/-! ## The same but for some texts -/

/-- The documents are the same, but for what the texts in `hidden` say. -/
structure SameBut (hidden : Nat → Prop) (doc doc' : Document) : Prop where
  size : doc'.size = doc.size
  element : ∀ id, doc'.element? id = doc.element? id
  children : ∀ id, doc'.children id = doc.children id
  parent : ∀ id, doc'.parent? id = doc.parent? id
  isText : ∀ id, (doc'.text? id).isSome = (doc.text? id).isSome
  text : ∀ id, ¬ hidden id → doc'.text? id = doc.text? id

namespace SameBut

theorem tag (h : SameBut hidden doc doc') (id : Nat) : doc'.tag? id = doc.tag? id := by
  rw [tag?, tag?, h.element]

theorem isNode (h : SameBut hidden doc doc') (id : Nat) :
    (doc'.node? id).isSome = (doc.node? id).isSome := by
  have hlt : ∀ doc : Document, (doc.node? id).isSome = decide (id < doc.size) := by
    intro doc
    rw [node?]
    by_cases hid : id < doc.size
    · rw [Array.getElem?_eq_getElem hid]
      simp [hid]
    · rw [Array.getElem?_eq_none (Nat.le_of_not_lt hid)]
      simp [hid]
  rw [hlt, hlt, h.size]

theorem root (h : SameBut hidden doc doc') : doc'.root? = doc.root? := by
  have hempty : ∀ doc : Document, doc.root? = if doc.size = 0 then none else some 0 := by
    intro doc
    rw [root?]
    simp [Document.size]
  rw [hempty, hempty, h.size]

end SameBut

/-! ## Building two documents -/

/-- A node keeps its content when others are put below it. -/
theorem content_push (doc : Document) (parent : Nat) (content : Content) (id : Nat) :
    ((doc.push parent content).node? id).map (·.content) =
      if id = doc.size then some content else (doc.node? id).map (·.content) := by
  rw [node?_push]
  split
  · rfl
  · cases doc.node? id with
    | none => rfl
    | some node =>
      simp only [Option.map_some]
      split <;> rfl

theorem element?_eq (doc : Document) (id : Nat) :
    doc.element? id = ((doc.node? id).map (·.content)).bind fun content =>
      match content with | .element e => some e | .text _ => none := by
  rw [element?]
  rcases doc.node? id with - | ⟨⟨_⟩ | ⟨_⟩, _, _⟩ <;> rfl

theorem text?_eq (doc : Document) (id : Nat) :
    doc.text? id = ((doc.node? id).map (·.content)).bind fun content =>
      match content with | .text s => some s | .element _ => none := by
  rw [text?]
  rcases doc.node? id with - | ⟨⟨_⟩ | ⟨_⟩, _, _⟩ <;> rfl

theorem element?_push (doc : Document) (parent : Nat) (content : Content) (id : Nat) :
    (doc.push parent content).element? id =
      if id = doc.size then (match content with | .element e => some e | .text _ => none)
      else doc.element? id := by
  rw [element?_eq, content_push, element?_eq]
  split <;> rfl

theorem text?_push (doc : Document) (parent : Nat) (content : Content) (id : Nat) :
    (doc.push parent content).text? id =
      if id = doc.size then (match content with | .text s => some s | .element _ => none)
      else doc.text? id := by
  rw [text?_eq, content_push, text?_eq]
  split <;> rfl

theorem children_push (doc : Document) (parent : Nat) (content : Content) (id : Nat) :
    (doc.push parent content).children id =
      if id = parent ∧ id < doc.size then doc.children id ++ [doc.size] else doc.children id := by
  rw [children, node?_push, children, node?]
  by_cases hsize : id < doc.size
  · rw [if_neg (Nat.ne_of_lt hsize), Array.getElem?_eq_getElem hsize]
    by_cases hparent : parent = id
    · simp [hparent, hsize, Node.addChild]
    · simp [hparent, Ne.symm hparent]
  · rw [Array.getElem?_eq_none (Nat.le_of_not_lt hsize)]
    simp only [hsize, and_false, if_false]
    by_cases hid : id = doc.size
    · rw [if_pos hid]
    · rw [if_neg hid, Option.map_none]

namespace SameBut

theorem refl (hidden : Nat → Prop) (doc : Document) : SameBut hidden doc doc :=
  ⟨rfl, fun _ => rfl, fun _ => rfl, fun _ => rfl, fun _ => rfl, fun _ _ => rfl⟩

theorem mono {hidden' : Nat → Prop} (h : SameBut hidden doc doc') (hall : ∀ t, hidden t → hidden' t) :
    SameBut hidden' doc doc' where
  size := h.size
  element := h.element
  children := h.children
  parent := h.parent
  isText := h.isText
  text := fun id hid => h.text id fun hhidden => hid (hall id hhidden)

/-- What is appended to both is the same, or a text in each of them: another one only where it is hidden. -/
theorem pushed (h : SameBut hidden doc doc') (parent : Nat) {content content' : Content}
    (hsame : content' = content ∨ hidden doc.size ∧ ∃ s s', content = .text s ∧ content' = .text s') :
    SameBut hidden (doc.push parent content) (doc'.push parent content') where
  size := by rw [size_push, size_push, h.size]
  element := fun id => by
    rw [element?_push, element?_push, h.size, h.element]
    obtain rfl | ⟨-, s, s', rfl, rfl⟩ := hsame <;> rfl
  children := fun id => by rw [children_push, children_push, h.size, h.children]
  parent := fun id => by rw [parent?_push, parent?_push, h.size, h.parent]
  isText := fun id => by
    rw [text?_push, text?_push, h.size]
    split
    · obtain rfl | ⟨-, s, s', rfl, rfl⟩ := hsame <;> rfl
    · exact h.isText id
  text := fun id hid => by
    rw [text?_push, text?_push, h.size, h.text id hid]
    obtain rfl | ⟨hhidden, -⟩ := hsame
    · rfl
    · have hne : id ≠ doc.size := fun heq => hid (heq ▸ hhidden)
      rw [if_neg hne, if_neg hne]

/-- Documents stay the same when the same is appended to both. -/
theorem push (h : SameBut hidden doc doc') (parent : Nat) (content : Content) :
    SameBut hidden (doc.push parent content) (doc'.push parent content) :=
  h.pushed parent (.inl rfl)

/-- A text that is hidden may be another one. -/
theorem push_text (h : SameBut hidden doc doc') (parent : Nat) {s s' : String}
    (hhidden : hidden doc.size) :
    SameBut hidden (doc.push parent (.text s)) (doc'.push parent (.text s')) :=
  h.pushed parent (.inr ⟨hhidden, s, s', rfl, rfl⟩)

end SameBut

/-! ## Scans -/

/-- A scan by levels goes by the children of nodes. -/
theorem levelOrderFrom_congr (hchildren : doc'.children = doc.children) (skip : Nat → Bool)
    (scan : Scan) : doc'.levelOrderFrom skip scan = doc.levelOrderFrom skip scan := by
  have hsame : ∀ scan : Scan, scan.next? doc' = scan.next? doc := by
    intro scan
    rw [Scan.next?, Scan.next?, Scan.upcoming, Scan.upcoming, hchildren]
  induction scan using levelOrderFrom.induct doc skip with
  | case1 scan hnone => rw [levelOrderFrom_nil hnone, levelOrderFrom_nil ((hsame scan).trans hnone)]
  | case2 scan first scan' hnext ih =>
    simp only [dite_eq_ite] at ih
    rw [levelOrderFrom_cons hnext, levelOrderFrom_cons ((hsame scan).trans hnext), ih]

namespace SameBut

theorem children_eq (h : SameBut hidden doc doc') : doc'.children = doc.children := funext h.children

theorem tag_eq (h : SameBut hidden doc doc') : doc'.tag? = doc.tag? := funext h.tag

theorem levelOrder (h : SameBut hidden doc doc') (start : Nat) (skip : Nat → Bool) :
    doc'.levelOrder start skip = doc.levelOrder start skip := by
  rw [Document.levelOrder, Document.levelOrder, Scan.start, Scan.start, h.isNode,
    levelOrderFrom_congr h.children_eq]

theorem tableRows (h : SameBut hidden doc doc') (table : Nat) :
    doc'.tableRows table = doc.tableRows table := by
  have hsection : doc'.isSection = doc.isSection := funext fun id => by rw [isSection, isSection, h.tag]
  have hrow : doc'.isRow = doc.isRow := funext fun id => by rw [isRow, isRow, h.tag]
  rw [Document.tableRows, Document.tableRows, h.levelOrder, hsection, hrow]

theorem rowCells (h : SameBut hidden doc doc') (row : Nat) : doc'.rowCells row = doc.rowCells row := by
  rw [Document.rowCells, Document.rowCells, h.children, h.tag_eq]

theorem columnCount (h : SameBut hidden doc doc') (table : Nat) :
    doc'.columnCount table = doc.columnCount table := by
  have hwidth : doc'.rowWidth = doc.rowWidth := funext fun row => by rw [rowWidth, rowWidth, h.rowCells]
  rw [Document.columnCount, Document.columnCount, h.tableRows, hwidth]

theorem cellImages (h : SameBut hidden doc doc') (cell : Nat) :
    doc'.cellImages cell = doc.cellImages cell := by
  have himage : doc'.isImage = doc.isImage := funext fun id => by rw [isImage, isImage, h.tag]
  rw [Document.cellImages, Document.cellImages, h.levelOrder, himage]

/-- The texts below some nodes, if none of them is hidden. -/
theorem textsFrom (h : SameBut hidden doc doc') (stack : List Nat)
    (hopen : ∀ top ∈ stack, ∀ path id, doc.Leads top path id → ¬ hidden id) :
    doc'.textsFrom stack = doc.textsFrom stack := by
  induction stack using textsFrom.induct doc with
  | case1 => rw [Document.textsFrom, Document.textsFrom]
  | case2 id stack s hs ih =>
    have htext : doc'.text? id = some s := by
      rw [h.text id (hopen id List.mem_cons_self [id] id .start), hs]
    rw [Document.textsFrom, Document.textsFrom, htext, hs]
    exact congrArg (s :: ·) (ih fun top htop => hopen top (List.mem_cons_of_mem _ htop))
  | case3 id stack hs ih =>
    have htext : doc'.text? id = none := by
      rw [h.text id (hopen id List.mem_cons_self [id] id .start), hs]
    rw [Document.textsFrom, Document.textsFrom, htext, hs]
    dsimp only
    rw [h.children]
    refine ih fun top htop path x hleads => ?_
    rcases List.mem_append.mp htop with htop | htop
    · have hchild : doc.Leads id ([id] ++ [top]) top := .child .start htop
      exact hopen id List.mem_cons_self _ x (hchild.append hleads)
    · exact hopen top (List.mem_cons_of_mem _ htop) path x hleads

theorem captionText (h : SameBut hidden doc doc') {caption : Nat}
    (hopen : ∀ path id, doc.Leads caption path id → ¬ hidden id) :
    doc'.captionText caption = doc.captionText caption := by
  have htexts := h.textsFrom [caption] fun top htop => by
    rw [List.mem_singleton.mp htop]
    exact hopen
  rw [Document.captionText, Document.captionText, textContent, textContent, htexts]

/-! ### Blocks -/

theorem symm (h : SameBut hidden doc doc') : SameBut hidden doc' doc where
  size := h.size.symm
  element := fun id => (h.element id).symm
  children := fun id => (h.children id).symm
  parent := fun id => (h.parent id).symm
  isText := fun id => (h.isText id).symm
  text := fun id hid => (h.text id hid).symm

theorem linked (h : SameBut hidden doc doc') (hlinked : doc.Linked) : doc'.Linked := by
  intro id parent
  rw [h.parent, h.children]
  exact hlinked id parent

/-- What is no text at all is none in either document. -/
theorem text_eq (h : SameBut hidden doc doc') (hopen : (doc.text? id).isSome → ¬ hidden id) :
    doc'.text? id = doc.text? id := by
  cases hs : doc.text? id with
  | some s => rw [← hs, h.text id (hopen (by rw [hs]; rfl))]
  | none => simpa [hs] using h.isText id

theorem isBlockImage (h : SameBut hidden doc doc')
    (hopen : ∀ parent, doc.parent? id = some parent → doc.tag? parent = some .paragraph →
      ∀ child ∈ doc.children parent, (doc.text? child).isSome → ¬ hidden child) :
    doc'.isBlockImage id = doc.isBlockImage id := by
  rw [Document.isBlockImage, Document.isBlockImage, h.parent]
  cases hp : doc.parent? id with
  | none => rfl
  | some parent =>
    dsimp only
    rw [h.tag, h.children]
    cases htag : doc.tag? parent with
    | none => rfl
    | some tag =>
      cases tag with
      | paragraph =>
        rw [Bool.eq_iff_iff, List.all_eq_true, List.all_eq_true]
        refine forall_congr' fun child => forall_congr' fun hchild => ?_
        rw [isBlankTextNode, isBlankTextNode, h.text_eq (hopen parent hp htag child hchild)]
      | _ => rfl

/-- Only an image may be a block in one of the documents and not in the other. -/
theorem isBlock (h : SameBut hidden doc doc')
    (hopen : ∀ parent, doc.parent? id = some parent → doc.tag? parent = some .paragraph →
      ∀ child ∈ doc.children parent, (doc.text? child).isSome → ¬ hidden child) :
    doc'.isBlock id = doc.isBlock id := by
  rw [Document.isBlock, Document.isBlock, h.tag, h.isBlockImage hopen]

/-- An image is a block or not by the texts beside it in a paragraph.  But a paragraph is a block itself, so
that only the texts of the node where the scan starts can matter. -/
theorem hasBlockContent_of (h : SameBut hidden doc doc') (hlinked : doc.Linked)
    (hopen : doc.tag? start = some .paragraph →
      ∀ child ∈ doc.children start, (doc.text? child).isSome → ¬ hidden child)
    (hblock : doc.hasBlockContent start = true) : doc'.hasBlockContent start = true := by
  rw [hasBlockContent, List.any_eq_true] at hblock ⊢
  rw [h.levelOrder]
  obtain ⟨x, hx, hblock⟩ := hblock
  by_cases hbeside : ∃ parent, doc.parent? x = some parent ∧ doc.tag? parent = some .paragraph ∧
      parent ≠ start
  · obtain ⟨parent, hparent, htag, hne⟩ := hbeside
    obtain ⟨above, habove, hchild⟩ := mem_drop_levelOrder hx
    obtain rfl : parent = above :=
      Option.some.inj (hparent.symm.trans ((hlinked x above).mpr hchild))
    refine ⟨parent, ?_, by rw [Document.isBlock, h.tag, htag]; rfl⟩
    exact mem_drop_of_mem_levelOrder habove hne
  · refine ⟨x, hx, ?_⟩
    rw [h.isBlock, hblock]
    intro parent hparent htag child hchild htext
    obtain rfl : parent = start := Classical.byContradiction fun hne =>
      hbeside ⟨parent, hparent, htag, hne⟩
    exact hopen htag child hchild htext

theorem hasBlockContent (h : SameBut hidden doc doc') (hlinked : doc.Linked)
    (hopen : doc.tag? start = some .paragraph →
      ∀ child ∈ doc.children start, (doc.text? child).isSome → ¬ hidden child) :
    doc'.hasBlockContent start = doc.hasBlockContent start := by
  have hopen' : doc'.tag? start = some .paragraph →
      ∀ child ∈ doc'.children start, (doc'.text? child).isSome → ¬ hidden child := by
    intro htag child hchild htext
    rw [h.tag] at htag
    rw [h.children] at hchild
    rw [h.isText] at htext
    exact hopen htag child hchild htext
  rw [Bool.eq_iff_iff]
  exact ⟨h.symm.hasBlockContent_of (h.linked hlinked) hopen', h.hasBlockContent_of hlinked hopen⟩

end SameBut

end Document

/-! ## Traversals -/

namespace Walk

variable {σ : Type} {doc doc' : Document} {policy : ImportantPolicy} {v v' : Visitor σ}

/-- At a node the two visitors do the same in the two documents, and go on with the same nodes. -/
structure AgreeAt (doc doc' : Document) (policy : ImportantPolicy) (v v' : Visitor σ) (style : Style)
    (id : Nat) (s : σ) : Prop where
  isNode : (doc'.node? id).isSome = (doc.node? id).isSome
  element : doc'.element? id = doc.element? id
  children : doc'.children id = doc.children id
  text : ∀ t, doc.text? id = some t → ∃ t', doc'.text? id = some t' ∧
    v'.text id t' style s = v.text id t style s
  enter : ∀ e, doc.element? id = some e →
    v'.enter id e (e.styleUnder policy style) s = v.enter id e (e.styleUnder policy style) s

/-- Two traversals come to the same result, if they agree at every moment of one of them. -/
theorem traverse_congr (hleave : v'.leave = v.leave) :
    ∀ (ids : List Nat) (style : Style) (s : σ),
      (∀ {style' id ids' s'}, Reaches doc policy v style ids s style' (id :: ids') s' →
        AgreeAt doc doc' policy v v' style' id s') →
      traverse doc' policy v' style ids s = traverse doc policy v style ids s
  | [], style, s, _ => by rw [traverse_nil, traverse_nil]
  | id :: ids, style, s, hagree => by
    have hhere := hagree (.refl style (id :: ids) s)
    cases hn : doc.node? id with
    | none =>
      have hn' : doc'.node? id = none := by simpa [hn] using hhere.isNode
      rw [traverse_missing hn, traverse_missing hn']
    | some node =>
      obtain ⟨content, parent, children⟩ := node
      cases content with
      | text t =>
        have ht : doc.text? id = some t := by rw [Document.text?, hn]
        obtain ⟨t', ht', htext⟩ := hhere.text t ht
        have honly : traverse doc policy v style [id] s = _ := traverse_text ht
        rw [traverse_text ht, traverse_text ht', htext]
        cases hv : v.text id t style s with
        | error fault s₁ => rfl
        | ok flow s₁ =>
          simp only [hv, andThen, traverse_nil] at honly ⊢
          split
          · rfl
          · next hgo =>
            rw [if_neg hgo] at honly
            exact traverse_congr hleave ids style s₁ fun h => hagree (.after honly h)
      | element e =>
        have he : doc.element? id = some e := by rw [Document.element?, hn]
        have he' : doc'.element? id = some e := hhere.element.trans he
        have honly : traverse doc policy v style [id] s = _ := traverse_element he
        have hbelow : ∀ flow, below doc' id flow = below doc id flow := fun flow => by
          rw [below, below, hhere.children]
        rw [traverse_element he, traverse_element he', hhere.enter e he, hleave]
        cases hv : v.enter id e (e.styleUnder policy style) s with
        | error fault s₁ => rfl
        | ok flow s₁ =>
          simp only [hv, andThen, hbelow] at honly ⊢
          split
          · rfl
          · next hgo =>
            rw [if_neg hgo] at honly
            have hinside := traverse_congr hleave (below doc id flow)
              (e.styleUnder policy style).inheritedPart.style s₁ fun h =>
                hagree (.inside he hv hgo h)
            rw [hinside]
            cases hb : traverse doc policy v (e.styleUnder policy style).inheritedPart.style
                (below doc id flow) s₁ with
            | error fault s₂ => rfl
            | ok go s₂ =>
              simp only [hb] at honly ⊢
              split
              · next htrue =>
                rw [if_pos htrue] at honly
                cases hl : v.leave id e (e.styleUnder policy style) s₂ with
                | error fault s₃ => rfl
                | ok _ s₃ =>
                  simp only [hl, traverse_nil] at honly ⊢
                  exact traverse_congr hleave ids style s₃ fun h => hagree (.after honly h)
              · rfl
termination_by ids => doc.weights ids
decreasing_by
  · exact weights_below_lt doc id ids flow
  · exact weights_tail_lt doc id ids
  · exact weights_tail_lt doc id ids

end Walk

end MarkupTex
