import MarkupTex.Document.Blocks
import MarkupTex.Document.Grid
import MarkupTex.Proofs.Document.Cascade
/-!
# Scans and paths

A scan by levels takes its nodes from a queue.  But for where it starts, it lists nothing but children of
what it lists, so that it lists whole paths.
-/

set_option autoImplicit false

namespace MarkupTex.Document

variable {doc : Document} {start id child x : Nat} {path way : List Nat} {skip : Nat → Bool}

/-! ## Paths -/

/-- A path ends in the node that it leads to. -/
theorem Leads.ends (h : doc.Leads start path id) : ∃ above, path = above ++ [id] := by
  cases h with
  | start => exact ⟨[], rfl⟩
  | child above mem => exact ⟨_, rfl⟩

/-- One path goes on where another one ends. -/
theorem Leads.append (h : doc.Leads start (path ++ [id]) id) (h' : doc.Leads id way child) :
    doc.Leads start (path ++ way) child := by
  induction h' with
  | start => exact h
  | child above mem ih =>
    rw [← List.append_assoc]
    exact ih.child mem

/-- A path does not lead back. -/
theorem Leads.le (h : doc.Leads start path id) : start ≤ id := by
  induction h with
  | start => exact Nat.le_refl start
  | child _ mem ih => exact Nat.le_of_lt (Nat.lt_of_le_of_lt ih (lt_of_mem_children mem).1)

/-- A path leads to each of its nodes. -/
theorem Leads.split (h : doc.Leads start path id) (hx : x ∈ path) :
    ∃ above, above ++ [x] <+: path ∧ doc.Leads start (above ++ [x]) x := by
  induction h with
  | start =>
    obtain rfl := List.mem_singleton.mp hx
    exact ⟨[], List.prefix_rfl, .start⟩
  | @child way _ child hleads mem ih =>
    rcases List.mem_append.mp hx with hx | hx
    · obtain ⟨above, hprefix, habove⟩ := ih hx
      exact ⟨above, hprefix.trans (List.prefix_append way [child]), habove⟩
    · obtain rfl := List.mem_singleton.mp hx
      exact ⟨way, List.prefix_rfl, hleads.child mem⟩

/-- A path is the start alone, or it goes on with one of its children. -/
theorem Leads.uncons (h : doc.Leads start path id) :
    path = [start] ∧ id = start ∨
      ∃ first way, first ∈ doc.children start ∧ path = start :: way ∧ doc.Leads first way id := by
  induction h with
  | start => exact .inl ⟨rfl, rfl⟩
  | @child path last child hleads mem ih =>
    refine .inr ?_
    rcases ih with ⟨rfl, rfl⟩ | ⟨first, way, hfirst, rfl, hway⟩
    · exact ⟨child, [child], mem, rfl, .start⟩
    · exact ⟨first, way ++ [child], hfirst, rfl, hway.child mem⟩

/-! ## Texts -/

/-- The texts below some nodes are collected, unless they are below a text. -/
theorem mem_textsFrom {t : Nat} {s : String} (hs : doc.text? t = some s) (stack : List Nat)
    (hway : ∃ top ∈ stack, ∃ way, doc.Leads top way t ∧ ∀ x ∈ way.dropLast, doc.text? x = none) :
    s ∈ doc.textsFrom stack := by
  induction stack using textsFrom.induct doc with
  | case1 =>
    obtain ⟨top, htop, -⟩ := hway
    cases htop
  | case2 id stack s' hs' ih =>
    obtain ⟨top, htop, way, hleads, hnone⟩ := hway
    rw [textsFrom, hs']
    rcases List.mem_cons.mp htop with rfl | htop
    · -- A text has nothing below it, so that the path ends here.
      rcases hleads.uncons with ⟨-, rfl⟩ | ⟨first, way, -, rfl, hfirst⟩
      · rw [hs] at hs'
        cases hs'
        exact List.mem_cons_self
      · obtain ⟨front, rfl⟩ := hfirst.ends
        have := hnone top (by rw [← List.cons_append, List.dropLast_concat]; simp)
        rw [this] at hs'
        cases hs'
    · exact List.mem_cons_of_mem _ (ih ⟨top, htop, way, hleads, hnone⟩)
  | case3 id stack hs' ih =>
    obtain ⟨top, htop, way, hleads, hnone⟩ := hway
    rw [textsFrom, hs']
    refine ih ?_
    rcases List.mem_cons.mp htop with rfl | htop
    · rcases hleads.uncons with ⟨-, rfl⟩ | ⟨first, way, hmem, rfl, hfirst⟩
      · rw [hs] at hs'
        cases hs'
      · refine ⟨first, List.mem_append_left _ hmem, way, hfirst, fun x hx => hnone x ?_⟩
        obtain ⟨front, rfl⟩ := hfirst.ends
        rw [← List.cons_append, List.dropLast_concat]
        rw [List.dropLast_concat] at hx
        exact List.mem_cons_of_mem _ hx
    · exact ⟨top, List.mem_append_right _ htop, way, hleads, hnone⟩

/-! ## Scans by levels -/

theorem levelOrderFrom_nil {scan : Scan} (h : scan.next? doc = none) :
    doc.levelOrderFrom skip scan = [] := by
  rw [levelOrderFrom, h]

theorem levelOrderFrom_cons {scan scan' : Scan} (h : scan.next? doc = some (id, scan')) :
    doc.levelOrderFrom skip scan =
      id :: doc.levelOrderFrom skip (if skip id then scan'.skipChildren else scan') := by
  rw [levelOrderFrom, h]

/-- Nothing comes next if nothing is to come. -/
theorem Scan.upcoming_of_next?_none {scan : Scan} (h : scan.next? doc = none) : scan.upcoming doc = [] := by
  unfold Scan.next? at h
  split at h
  · next hup => exact hup
  · cases h

/-- What comes next was the first one to come, and its children are still to be put behind the others. -/
theorem Scan.upcoming_of_next? {scan scan' : Scan} (h : scan.next? doc = some (id, scan')) :
    scan.upcoming doc = id :: scan'.queue ∧ scan'.pending = some id := by
  unfold Scan.next? at h
  split at h
  · cases h
  · next hup =>
    cases h
    exact ⟨hup, rfl⟩

/-- What a scan lists was to come, or is a child of something that it lists. -/
theorem mem_levelOrderFrom (scan : Scan) (h : x ∈ doc.levelOrderFrom skip scan) :
    x ∈ scan.upcoming doc ∨ ∃ above ∈ doc.levelOrderFrom skip scan, x ∈ doc.children above := by
  induction scan using levelOrderFrom.induct doc skip with
  | case1 scan hnone =>
    rw [levelOrderFrom_nil hnone] at h
    cases h
  | case2 scan first scan' hnext ih =>
    simp only [dite_eq_ite] at ih
    obtain ⟨hup, hpending⟩ := Scan.upcoming_of_next? hnext
    rw [levelOrderFrom_cons hnext] at h ⊢
    rw [hup]
    rcases List.mem_cons.mp h with rfl | h
    · exact .inl List.mem_cons_self
    · rcases ih h with hcoming | ⟨above, habove, hchild⟩
      · -- The children of the first node come in behind the queue, unless they are left out.
        split at hcoming
        · exact .inl (List.mem_cons_of_mem _ (by simpa [Scan.upcoming, Scan.skipChildren] using hcoming))
        · rw [Scan.upcoming, hpending] at hcoming
          rcases List.mem_append.mp hcoming with hqueue | hchild
          · exact .inl (List.mem_cons_of_mem _ hqueue)
          · exact .inr ⟨first, List.mem_cons_self, hchild⟩
      · exact .inr ⟨above, List.mem_cons_of_mem _ habove, hchild⟩

/-- A scan begins with its start. -/
theorem levelOrder_eq_cons (h : (doc.node? start).isSome) (skip : Nat → Bool) :
    doc.levelOrder start skip =
      start :: doc.levelOrderFrom skip ⟨[], if skip start then none else some start⟩ := by
  have hnext : (Scan.start doc start).next? doc = some (start, ⟨[], some start⟩) := by
    rw [Scan.start, if_pos h]
    rfl
  rw [levelOrder, levelOrderFrom_cons hnext]
  split <;> rfl

/-- Where there is no node, there is nothing to list. -/
theorem levelOrder_eq_nil (h : doc.node? start = none) : doc.levelOrder start skip = [] := by
  apply levelOrderFrom_nil
  rw [Scan.start, if_neg (by simp [h])]
  rfl

theorem isSome_of_mem_levelOrder (h : x ∈ doc.levelOrder start skip) : (doc.node? start).isSome := by
  cases hn : doc.node? start with
  | none =>
    rw [levelOrder_eq_nil hn] at h
    cases h
  | some node => rfl

theorem mem_levelOrder (h : x ∈ doc.levelOrder start skip) :
    x = start ∨ ∃ above ∈ doc.levelOrder start skip, x ∈ doc.children above := by
  refine (mem_levelOrderFrom _ h).imp_left fun hcoming => ?_
  rw [Scan.upcoming, Scan.start] at hcoming
  split at hcoming
  · simpa using hcoming
  · simp at hcoming

/-- Behind its start, a scan lists nothing but children of what it lists. -/
theorem mem_drop_levelOrder (h : x ∈ (doc.levelOrder start skip).drop 1) :
    ∃ above ∈ doc.levelOrder start skip, x ∈ doc.children above := by
  have hstart := isSome_of_mem_levelOrder (List.mem_of_mem_drop h)
  rw [levelOrder_eq_cons hstart] at h ⊢
  rcases mem_levelOrderFrom _ h with hcoming | ⟨above, habove, hchild⟩
  · refine ⟨start, List.mem_cons_self, ?_⟩
    rw [Scan.upcoming] at hcoming
    split at hcoming
    · simp at hcoming
    · simpa using hcoming
  · exact ⟨above, List.mem_cons_of_mem _ habove, hchild⟩

/-- The start is the only node that comes no later. -/
theorem mem_drop_of_mem_levelOrder (h : x ∈ doc.levelOrder start skip) (hne : x ≠ start) :
    x ∈ (doc.levelOrder start skip).drop 1 := by
  have hstart := isSome_of_mem_levelOrder h
  rw [levelOrder_eq_cons hstart] at h ⊢
  exact (List.mem_cons.mp h).resolve_left hne

/-- A path leads to all that a scan lists, along nodes that it lists. -/
theorem leads_of_mem_levelOrder (h : x ∈ doc.levelOrder start skip) :
    ∃ way, doc.Leads start way x ∧ ∀ z ∈ way, z ∈ doc.levelOrder start skip := by
  induction x using Nat.strongRecOn with
  | ind x ih =>
    rcases mem_levelOrder h with rfl | ⟨above, habove, hchild⟩
    · exact ⟨[x], .start, fun z hz => List.mem_singleton.mp hz ▸ h⟩
    · obtain ⟨way, hleads, hway⟩ := ih above (lt_of_mem_children hchild).1 habove
      refine ⟨way ++ [x], hleads.child hchild, fun z hz => ?_⟩
      rcases List.mem_append.mp hz with hz | hz
      · exact hway z hz
      · exact List.mem_singleton.mp hz ▸ h

/-- A scan that leaves nothing out lists all that is to come, and the children of all that it lists. -/
theorem levelOrderFrom_complete (scan : Scan) :
    (∀ x ∈ scan.upcoming doc, x ∈ doc.levelOrderFrom (fun _ => false) scan) ∧
      ∀ above ∈ doc.levelOrderFrom (fun _ => false) scan, ∀ x ∈ doc.children above,
        x ∈ doc.levelOrderFrom (fun _ => false) scan := by
  induction scan using levelOrderFrom.induct doc (fun _ => false) with
  | case1 scan hnone =>
    rw [levelOrderFrom_nil hnone, Scan.upcoming_of_next?_none hnone]
    simp
  | case2 scan first scan' hnext ih =>
    obtain ⟨hup, hpending⟩ := Scan.upcoming_of_next? hnext
    have hcoming : scan'.upcoming doc = scan'.queue ++ doc.children first := by
      rw [Scan.upcoming, hpending]
      rfl
    rw [levelOrderFrom_cons hnext, hup]
    simp only [Bool.false_eq_true, dite_false, if_false] at ih ⊢
    rw [hcoming] at ih
    refine ⟨fun x hx => ?_, fun above habove x hx => ?_⟩
    · rcases List.mem_cons.mp hx with rfl | hx
      · exact List.mem_cons_self
      · exact List.mem_cons_of_mem _ (ih.1 x (List.mem_append_left _ hx))
    · rcases List.mem_cons.mp habove with rfl | habove
      · exact List.mem_cons_of_mem _ (ih.1 x (List.mem_append_right _ hx))
      · exact List.mem_cons_of_mem _ (ih.2 above habove x hx)

/-- It comes to all that a path leads to. -/
theorem mem_levelOrder_of_leads (h : doc.Leads start path x) (hn : (doc.node? start).isSome) :
    x ∈ doc.levelOrder start fun _ => false := by
  induction h with
  | start =>
    rw [levelOrder_eq_cons hn]
    exact List.mem_cons_self
  | child _ mem ih => exact (levelOrderFrom_complete _).2 _ ih _ mem

/-- A block below a node is found, however far below it is. -/
theorem hasBlockContent_of_leads (h : doc.Leads start path x) (hne : x ≠ start)
    (hblock : doc.isBlock x = true) : doc.hasBlockContent start = true := by
  rcases h.uncons with ⟨-, rfl⟩ | ⟨first, _, hfirst, -⟩
  · exact absurd rfl hne
  · have hn : (doc.node? start).isSome := by
      have hlt := lt_of_mem_children hfirst
      exact Option.isSome_iff_exists.mpr ⟨_, Array.getElem?_eq_getElem (Nat.lt_trans hlt.1 hlt.2)⟩
    exact List.any_eq_true.mpr
      ⟨x, mem_drop_of_mem_levelOrder (mem_levelOrder_of_leads h hn) hne, hblock⟩

theorem Leads.trans (h : doc.Leads start path id) (h' : doc.Leads id way child) :
    ∃ path, doc.Leads start path child := by
  obtain ⟨above, rfl⟩ := h.ends
  exact ⟨_, h.append h'⟩

/-- The rows of a table are below it, and the images of a cell below the cell. -/
theorem leads_of_mem_tableRows (h : id ∈ doc.tableRows start) : ∃ path, doc.Leads start path id := by
  rw [tableRows, List.mem_mergeSort, List.mem_filter] at h
  exact (leads_of_mem_levelOrder h.1).imp fun _ hway => hway.1

theorem mem_children_of_mem_rowCells {cell : Nat × Nat} (h : cell ∈ doc.rowCells id) :
    cell.1 ∈ doc.children id := by
  obtain ⟨x, hx, hcell⟩ := List.mem_filterMap.mp h
  split at hcell
  · cases hcell
    exact hx
  · cases hcell

theorem leads_of_mem_cellImages (h : id ∈ doc.cellImages start) :
    (∃ path, doc.Leads start path id) ∧ doc.tag? id = some .image := by
  rw [cellImages, List.mem_filter] at h
  exact ⟨(leads_of_mem_levelOrder h.1).imp fun _ hway => hway.1, by simpa [isImage] using h.2⟩

end MarkupTex.Document
