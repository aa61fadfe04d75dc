import Mathlib.Data.List.Sort
import MarkupTex.Proofs.Document.Levels
import MarkupTex.Proofs.Document.Search
/-!
# The rows of a table and the order of the document

A scan by levels comes to the same nodes as a walk in document order that leaves out the same ones
(`levelOrder_perm`), so that the rows that it finds are the rows of the table, each once.  What sorting by id
makes of them is another question: ids tell the order in which nodes were appended, and a section may be given
a row after the section behind it has got one.  The rows come in document order just where their ids rise along
it (`tableRows_eq_rowOrder_iff`).
-/

set_option autoImplicit false

namespace MarkupTex

namespace Document

variable {doc : Document} {skip : Nat → Bool} {x table row : Nat} {ids ids' : List Nat}

/-! ## Document order -/

/-- Nodes in document order: each comes before what is below it, and that before the next one.  What is below
the nodes in `skip` is left out. -/
def documentOrder (doc : Document) (skip : Nat → Bool) : List Nat → List Nat
  | [] => []
  | id :: ids =>
    id :: ((if skip id then [] else documentOrder doc skip (doc.children id)) ++
      documentOrder doc skip ids)
termination_by ids => doc.weights ids
decreasing_by
  · rw [weights_cons, weight_eq]
    omega
  · have := doc.weight_pos id
    rw [weights_cons]
    omega

@[simp] theorem documentOrder_nil : doc.documentOrder skip [] = [] := by rw [documentOrder]

theorem documentOrder_cons (id : Nat) (ids : List Nat) :
    doc.documentOrder skip (id :: ids) =
      id :: (doc.documentOrder skip (if skip id then [] else doc.children id) ++
        doc.documentOrder skip ids) := by
  rw [documentOrder]
  split <;> simp

theorem documentOrder_append (ids ids' : List Nat) :
    doc.documentOrder skip (ids ++ ids') = doc.documentOrder skip ids ++ doc.documentOrder skip ids' := by
  induction ids with
  | nil => simp
  | cons id ids ih => rw [List.cons_append, documentOrder_cons, documentOrder_cons, ih]; simp

/-- Leaving out what is below some nodes leaves the others in their order. -/
theorem documentOrder_sublist (skip : Nat → Bool) (ids : List Nat) :
    (doc.documentOrder skip ids).Sublist (doc.documentOrder (fun _ => false) ids) := by
  induction ids using documentOrder.induct doc with
  | case1 => simp
  | case2 id ids ihbelow ih =>
    rw [documentOrder_cons, documentOrder_cons]
    apply List.Sublist.cons_cons
    apply List.Sublist.append _ ih
    cases skip id with
    | true => simp
    | false => exact ihbelow

/-- A path ends where it starts, or it goes on from a child of its start. -/
theorem Leads.uncons_concat {top : Nat} {above : List Nat} (h : doc.Leads top (above ++ [x]) x) :
    x = top ∨ ∃ child ∈ doc.children top, ∃ front, above = top :: front ∧
      doc.Leads child (front ++ [x]) x := by
  rcases h.uncons with ⟨-, hend⟩ | ⟨child, way, hchild, hway, hrest⟩
  · exact .inl hend
  · obtain ⟨front, rfl⟩ := hrest.ends
    rw [← List.cons_append] at hway
    exact .inr ⟨child, hchild, front, List.append_cancel_right hway, hrest⟩

/-- A path through no node in `skip` ends where it starts, or it goes on from a child of its start. -/
theorem exists_leads_through_iff {top : Nat} :
    (∃ above, doc.Leads top (above ++ [x]) x ∧ ∀ z ∈ above, skip z = false) ↔
      x = top ∨ skip top = false ∧ ∃ child ∈ doc.children top, ∃ above,
        doc.Leads child (above ++ [x]) x ∧ ∀ z ∈ above, skip z = false := by
  constructor
  · rintro ⟨above, hleads, hthrough⟩
    rcases hleads.uncons_concat with hend | ⟨child, hchild, front, rfl, hrest⟩
    · exact .inl hend
    · have ⟨htop, hfront⟩ := List.forall_mem_cons.mp hthrough
      exact .inr ⟨htop, child, hchild, front, hrest, hfront⟩
  · intro h
    rcases h with rfl | ⟨htop, child, hchild, above, hleads, hthrough⟩
    · exact ⟨[], .start, by simp⟩
    · exact ⟨top :: above, (Leads.start.child hchild).append hleads,
        List.forall_mem_cons.mpr ⟨htop, hthrough⟩⟩

/-- Listed is what there is a path to that goes through no node in `skip`. -/
theorem mem_documentOrder (ids : List Nat) :
    x ∈ doc.documentOrder skip ids ↔
      ∃ top ∈ ids, ∃ above, doc.Leads top (above ++ [x]) x ∧ ∀ z ∈ above, skip z = false := by
  induction ids using documentOrder.induct doc with
  | case1 => simp
  | case2 id ids ihbelow ih =>
    rw [documentOrder_cons, List.mem_cons, List.mem_append, ih, ← or_assoc]
    simp only [List.mem_cons, exists_eq_or_imp]
    rw [exists_leads_through_iff]
    cases hskip : skip id with
    | true => simp
    | false => simp [ihbelow]

/-- A scan by levels lists the same nodes, in another order. -/
theorem levelOrderFrom_perm (skip : Nat → Bool) (scan : Scan) :
    (doc.levelOrderFrom skip scan).Perm (doc.documentOrder skip (scan.upcoming doc)) := by
  induction scan using levelOrderFrom.induct doc skip with
  | case1 scan hnone =>
    rw [levelOrderFrom_nil hnone, Scan.upcoming_of_next?_none hnone, documentOrder_nil]
  | case2 scan first scan' hnext ih =>
    simp only [dite_eq_ite] at ih
    obtain ⟨hup, hpending⟩ := Scan.upcoming_of_next? hnext
    -- The children of the first node come in behind the queue, and not before it.
    have hcoming : (if skip first then scan'.skipChildren else scan').upcoming doc =
        scan'.queue ++ if skip first then [] else doc.children first := by
      cases skip first <;> simp [Scan.upcoming, Scan.skipChildren, hpending]
    rw [hcoming, documentOrder_append] at ih
    rw [levelOrderFrom_cons hnext, hup, documentOrder_cons]
    exact (ih.trans List.perm_append_comm).cons first

theorem levelOrder_perm (skip : Nat → Bool) (start : Nat) (h : (doc.node? start).isSome) :
    (doc.levelOrder start skip).Perm (doc.documentOrder skip [start]) := by
  have hscan : (doc.levelOrder start skip).Perm _ := levelOrderFrom_perm skip (Scan.start doc start)
  have hup : (Scan.start doc start).upcoming doc = [start] := by
    rw [Scan.start, if_pos h]
    rfl
  rwa [hup] at hscan

end Document

/-- A walk comes to the nodes in document order. -/
theorem Walk.map_shown {doc : Document} (hdoc : doc.Grown) (policy : ImportantPolicy) (style : Style)
    (ids : List Nat) :
    (shown doc policy style ids).map Prod.fst = doc.documentOrder (fun _ => false) ids := by
  induction ids using Document.documentOrder.induct doc generalizing style with
  | case1 => simp
  | case2 id ids ihbelow ih =>
    obtain ⟨part, hshown⟩ := map_shown_cons hdoc policy style id ids
    rw [hshown, ihbelow, ih, Document.documentOrder_cons]
    rfl

namespace Document

variable {doc : Document} {x table row : Nat}

/-! ## Rows -/

/-- The row belongs to the table: there is nothing but sections between them. -/
def IsRowOf (doc : Document) (table row : Nat) : Prop :=
  doc.isRow row = true ∧ ∃ sections, doc.Leads table (table :: sections ++ [row]) row ∧
    ∀ s ∈ sections, doc.isSection s = true

/-- The rows of a table in document order. -/
def rowOrder (doc : Document) (table : Nat) : List Nat :=
  (doc.documentOrder (fun id => id ≠ table && !doc.isSection id) [table]).filter
    fun id => id ≠ table && doc.isRow id

/-- All that a path goes through comes behind its start. -/
theorem Leads.lt_of_mem {start : Nat} {way : List Nat} (h : doc.Leads start (start :: way) x) :
    ∀ z ∈ way, start < z := by
  intro z hz
  rcases h.uncons with ⟨hway, -⟩ | ⟨child, rest, hchild, hway, hrest⟩
  · cases hway
    cases hz
  · cases hway
    obtain ⟨above, -, hz'⟩ := hrest.split hz
    exact Nat.lt_of_lt_of_le (lt_of_mem_children hchild).1 hz'.le

theorem mem_rowOrder : row ∈ doc.rowOrder table ↔ doc.IsRowOf table row := by
  rw [rowOrder, List.mem_filter, mem_documentOrder, IsRowOf]
  simp only [List.mem_singleton, exists_eq_left, Bool.and_eq_true, decide_eq_true_eq]
  constructor
  · rintro ⟨⟨above, hleads, hthrough⟩, hne, hrow⟩
    refine ⟨hrow, ?_⟩
    rcases hleads.uncons_concat with hend | ⟨-, -, sections, rfl, -⟩
    · exact absurd hend hne
    · refine ⟨sections, hleads, ?_⟩
      intro s hs
      have hlt : table < s := hleads.lt_of_mem s (List.mem_append_left _ hs)
      simpa [Nat.ne_of_gt hlt] using hthrough s (List.mem_cons_of_mem _ hs)
  · rintro ⟨hrow, sections, hleads, hsections⟩
    have hlt : table < row := hleads.lt_of_mem row (List.mem_append_right _ (List.mem_singleton.mpr rfl))
    refine ⟨⟨table :: sections, hleads, ?_⟩, Nat.ne_of_gt hlt, hrow⟩
    intro z hz
    rcases List.mem_cons.mp hz with rfl | hz
    · simp
    · simp [hsections z hz]

/-- What the scan finds are the rows of the table. -/
theorem tableRows_perm (doc : Document) (table : Nat) :
    (doc.tableRows table).Perm (doc.rowOrder table) := by
  apply (List.mergeSort_perm _ _).trans
  cases hn : doc.node? table with
  | some node =>
    exact (levelOrder_perm _ table (by rw [hn]; rfl)).filter _
  | none =>
    -- Where there is no node, there are no children and so no rows.
    have hnone : doc.children table = [] := by simp [children, hn]
    rw [levelOrder_eq_nil hn, rowOrder, documentOrder_cons]
    simp [hnone]

theorem mem_tableRows : row ∈ doc.tableRows table ↔ doc.IsRowOf table row :=
  (doc.tableRows_perm table).mem_iff.trans mem_rowOrder

theorem rowOrder_sublist (doc : Document) (table : Nat) :
    (doc.rowOrder table).Sublist (doc.documentOrder (fun _ => false) [table]) :=
  List.filter_sublist.trans (documentOrder_sublist _ _)

/-- A table and what is below it come once in document order. -/
theorem Grown.nodup_documentOrder (hdoc : doc.Grown) (start : Nat) :
    (doc.documentOrder (fun _ => false) [start]).Nodup := by
  by_cases hlt : start < doc.size
  · rw [← Walk.map_shown hdoc .localWins default]
    exact (Walk.shown_once hdoc hlt default).1
  · simp [documentOrder_cons, children_eq_nil_of_size_le (Nat.not_lt.mp hlt)]

theorem Grown.nodup_rowOrder (hdoc : doc.Grown) (table : Nat) : (doc.rowOrder table).Nodup :=
  (hdoc.nodup_documentOrder table).sublist (doc.rowOrder_sublist table)

theorem Grown.nodup_tableRows (hdoc : doc.Grown) (table : Nat) : (doc.tableRows table).Nodup :=
  (doc.tableRows_perm table).nodup_iff.mpr (hdoc.nodup_rowOrder table)

/-- Their ids rise. -/
theorem Grown.pairwise_tableRows (hdoc : doc.Grown) (table : Nat) :
    (doc.tableRows table).Pairwise (· < ·) := by
  have hsorted : (doc.tableRows table).Pairwise (· ≤ ·) := List.pairwise_mergeSort' (· ≤ ·) _
  have hapart : (doc.tableRows table).Pairwise (· ≠ ·) := hdoc.nodup_tableRows table
  exact (hsorted.and hapart).imp fun h => Nat.lt_of_le_of_ne h.1 h.2

/-- The rows of a table with their ids rising are what is found. -/
theorem Grown.tableRows_eq (hdoc : doc.Grown) {rows : List Nat} (hrows : rows.Perm (doc.rowOrder table))
    (hrise : rows.Pairwise (· < ·)) : doc.tableRows table = rows := by
  have hperm : (doc.tableRows table).Perm rows := (doc.tableRows_perm table).trans hrows.symm
  exact hperm.eq_of_pairwise (fun a b _ _ hab hba => absurd hab (Nat.lt_asymm hba))
    (hdoc.pairwise_tableRows table) hrise

/-- The rows come in document order just where their ids rise along it. -/
theorem Grown.tableRows_eq_rowOrder_iff (hdoc : doc.Grown) (table : Nat) :
    doc.tableRows table = doc.rowOrder table ↔ (doc.rowOrder table).Pairwise (· < ·) := by
  constructor
  · intro h
    rw [← h]
    exact hdoc.pairwise_tableRows table
  · intro h
    exact hdoc.tableRows_eq (List.Perm.refl _) h

/-- A walk comes to all that is below its start, in document order. -/
theorem walk_arrivals {start : Nat} {e : Element} {a : StyleArena} {base : StyleHandle} {style : Style}
    (hdoc : doc.Grown) (he : doc.element? start = some e) (wf : a.WellFormed) (hget : a.get base = .ok style)
    (policy : ImportantPolicy) :
    ∃ nodes b, walk doc start base policy Visitor.arrivals ⟨a, []⟩ = .ok () ⟨b, nodes⟩ ∧
      nodes.map Prod.fst = doc.documentOrder (fun _ => false) [start] := by
  have hs : a.style? base.slot = some style := StyleArena.style?_of_get hget
  have hnote : ∀ id style s s₁, Visitor.note id style s ≠ .ok .skipChildren s₁ := by simp [Visitor.note]
  obtain ⟨b, -, hw⟩ := Walk.walk_onArrival hnote he wf hs policy []
  rw [Walk.arriveAt_noting, List.nil_append] at hw
  exact ⟨_, b, hw, Walk.map_shown hdoc policy style [start]⟩

/-- Whatever is appended in whatever order, the rows that are found below an element are those that it leads to
through sections only, each once.  They are sorted by the order in which they were appended; a walk comes to
them in this order just if their ids rise along the order of the document. -/
theorem tableRows_arranged {name : String} {additions : List Addition} {e : Element} {a : StyleArena}
    {base : StyleHandle} {style : Style} (hdoc : doc = (withRoot name).appended additions)
    (he : doc.element? table = some e) (wf : a.WellFormed) (hget : a.get base = .ok style)
    (policy : ImportantPolicy) :
    ∃ nodes b, walk doc table base policy Visitor.arrivals ⟨a, []⟩ = .ok () ⟨b, nodes⟩ ∧
      (nodes.map Prod.fst).Nodup ∧
      (doc.rowOrder table).Sublist (nodes.map Prod.fst) ∧
      (∀ row, row ∈ doc.rowOrder table ↔ doc.IsRowOf table row) ∧
      (doc.tableRows table).Perm (doc.rowOrder table) ∧
      (doc.tableRows table).Pairwise (· < ·) ∧
      (doc.tableRows table = doc.rowOrder table ↔ (doc.rowOrder table).Pairwise (· < ·)) := by
  have hgrown : doc.Grown := by
    rw [hdoc]
    exact (grown_withRoot name).appended additions
  obtain ⟨nodes, b, hw, hnodes⟩ := walk_arrivals hgrown he wf hget policy
  refine ⟨nodes, b, hw, ?_, ?_, fun row => mem_rowOrder, doc.tableRows_perm table,
    hgrown.pairwise_tableRows table, hgrown.tableRows_eq_rowOrder_iff table⟩
  · rw [hnodes]
    exact hgrown.nodup_documentOrder table
  · rw [hnodes]
    exact doc.rowOrder_sublist table

/-- A table with a head and a body, where the body gets its row before the head does. -/
def bodyFirst : Document :=
  (withRoot "table").appended
    [.element 0 "thead" [], .element 0 "tbody" [], .element 2 "tr" [], .element 3 "td" [],
      .element 1 "tr" [], .element 5 "td" []]

theorem tableRows_arranged_bodyFirst :
    ∃ nodes b, walk bodyFirst 0 Walk.lentBase.1 .localWins Visitor.arrivals ⟨Walk.lentBase.2, []⟩ =
        .ok () ⟨b, nodes⟩ ∧
      (bodyFirst.rowOrder 0).Sublist (nodes.map Prod.fst) ∧
      bodyFirst.tableRows 0 ≠ bodyFirst.rowOrder 0 := by
  have wf : Walk.lentBase.2.WellFormed := StyleArena.wellFormed_new.alloc _
  have he : bodyFirst.element? 0 = some (.ofName "table" []) := rfl
  have hget : Walk.lentBase.2.get Walk.lentBase.1 = .ok (Style.ofBlock "color: blue") := rfl
  obtain ⟨nodes, b, hw, -, hordered, -, -, -, hagrees⟩ := tableRows_arranged rfl he wf hget .localWins
  refine ⟨nodes, b, hw, hordered, ?_⟩
  intro hsame
  exact absurd (hagrees.mp hsame) (by decide +kernel)

/-- The row of the head comes first in the document, and last among the rows. -/
theorem tableRows_not_in_document_order :
    bodyFirst.tableRows 0 = [3, 5] ∧
      ∃ nodes b, walk bodyFirst 0 Walk.lentBase.1 .localWins Visitor.arrivals ⟨Walk.lentBase.2, []⟩ =
          .ok () ⟨b, nodes⟩ ∧
        nodes.map Prod.fst = [0, 1, 5, 6, 2, 3, 4] := by
  have wf : Walk.lentBase.2.WellFormed := StyleArena.wellFormed_new.alloc _
  have hgrown : bodyFirst.Grown := (grown_withRoot _).appended _
  have he : bodyFirst.element? 0 = some (.ofName "table" []) := rfl
  have hget : Walk.lentBase.2.get Walk.lentBase.1 = .ok (Style.ofBlock "color: blue") := rfl
  obtain ⟨nodes, b, hw, hnodes⟩ := walk_arrivals hgrown he wf hget .localWins
  have horder : bodyFirst.documentOrder (fun _ => false) [0] = [0, 1, 5, 6, 2, 3, 4] := by decide +kernel
  have hrows : bodyFirst.rowOrder 0 = [5, 3] := by decide +kernel
  have hsorted : bodyFirst.tableRows 0 = [3, 5] := by
    apply hgrown.tableRows_eq _ (by simp)
    rw [hrows]
    exact List.Perm.swap ..
  exact ⟨hsorted, nodes, b, hw, hnodes.trans horder⟩

end Document

end MarkupTex
