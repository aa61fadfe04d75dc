import Mathlib.Data.List.Perm.Subperm
import MarkupTex.Proofs.Document.Rows
/-!
# Scans with a caller

A scan is asked for one node after the other, and before each call its caller may leave out the children of
the node that came last, once or more often.  When the caller decides this is open: here it is any function of
the number of the call.

Three things make up what the caller gets.  In a tree each node comes once, whatever is left out
(`listing_subperm`), so that leaving out by the number of the call is leaving out by node (`listing_eq`).  Then
the nodes are those of a walk in document order that leaves out the same ones.  And the queue is cut into
generations: a generation comes as a whole and its children stand behind it, which is the next one
(`levelOrderFrom_queue`).
-/

set_option autoImplicit false

namespace MarkupTex

namespace Document

variable {doc : Document} {start id x : Nat} {scan scan' : Scan} {skip : Nat → Bool} {skips : Nat → Nat}
  {ids rest path path' : List Nat}

/-! ## Calls -/

namespace Scan

/-- Leaves out the children of the node that came last, so many times. -/
def skipTimes : Nat → Scan → Scan
  | 0, scan => scan
  | n + 1, scan => skipTimes n scan.skipChildren

/-- The answer to a call with `skips` calls of `skipChildren` before it, and the scan as it is left.  At the
end there is nothing in it. -/
def call (doc : Document) (skips : Nat) (scan : Scan) : Option Nat × Scan :=
  match (scan.skipTimes skips).next? doc with
  | some (id, scan') => (some id, scan')
  | none => (none, ⟨[], none⟩)

/-- The scan after `n` calls, the `k`-th of them with `skips k` calls of `skipChildren` before it. -/
def after (doc : Document) (skips : Nat → Nat) (scan : Scan) : Nat → Scan
  | 0 => scan
  | n + 1 => ((after doc skips scan n).call doc (skips n)).2

/-- The answer to the `n`-th call. -/
def answer (doc : Document) (skips : Nat → Nat) (scan : Scan) (n : Nat) : Option Nat :=
  ((scan.after doc skips n).call doc (skips n)).1

/-- Once is as good as more often. -/
theorem skipTimes_eq (n : Nat) (scan : Scan) :
    scan.skipTimes n = if 0 < n then scan.skipChildren else scan := by
  induction n generalizing scan with
  | zero => rfl
  | succ n ih =>
    rw [skipTimes, ih, if_pos (Nat.succ_pos n)]
    split <;> rfl

theorem weights_upcoming_skipTimes_le (doc : Document) (n : Nat) (scan : Scan) :
    doc.weights ((scan.skipTimes n).upcoming doc) ≤ doc.weights (scan.upcoming doc) := by
  rw [skipTimes_eq]
  split
  · exact weights_upcoming_skipChildren_le doc scan
  · exact Nat.le_refl _

theorem upcoming_skipTimes_prefix (doc : Document) (n : Nat) (scan : Scan) :
    (scan.skipTimes n).upcoming doc <+: scan.upcoming doc := by
  rw [skipTimes_eq]
  split
  · rw [upcoming, upcoming, skipChildren, Option.map_none, Option.getD_none, List.append_nil]
    exact List.prefix_append _ _
  · exact List.prefix_rfl

/-- The calls behind the first one are calls of the scan that it leaves. -/
theorem after_succ (doc : Document) (skips : Nat → Nat) (scan : Scan) (n : Nat) :
    scan.after doc skips (n + 1) =
      after doc (fun k => skips (k + 1)) (scan.call doc (skips 0)).2 n := by
  induction n with
  | zero => rfl
  | succ n ih => rw [after, ih, after]

theorem answer_succ (doc : Document) (skips : Nat → Nat) (scan : Scan) (n : Nat) :
    scan.answer doc skips (n + 1) =
      answer doc (fun k => skips (k + 1)) (scan.call doc (skips 0)).2 n := by
  rw [answer, after_succ, answer]

/-- All that comes when each call is made. -/
def listing (doc : Document) (skips : Nat → Nat) (scan : Scan) : List Nat :=
  match _h : (scan.skipTimes (skips 0)).next? doc with
  | none => []
  | some (id, scan') => id :: listing doc (fun k => skips (k + 1)) scan'
termination_by doc.weights (scan.upcoming doc)
decreasing_by
  have := weights_upcoming_lt _h
  have := weights_upcoming_skipTimes_le doc (skips 0) scan
  omega

theorem listing_nil (h : (scan.skipTimes (skips 0)).next? doc = none) : scan.listing doc skips = [] := by
  rw [listing, h]

theorem listing_cons (h : (scan.skipTimes (skips 0)).next? doc = some (id, scan')) :
    scan.listing doc skips = id :: scan'.listing doc fun k => skips (k + 1) := by
  rw [listing, h]

theorem next?_nil (doc : Document) (n : Nat) : (skipTimes n ⟨[], none⟩).next? doc = none := by
  rw [skipTimes_eq]
  split <;> rfl

/-- Each answer is what comes in its place, and behind the last node nothing is answered any more. -/
theorem answer_eq (doc : Document) (skips : Nat → Nat) (scan : Scan) (n : Nat) :
    scan.answer doc skips n = (scan.listing doc skips)[n]? := by
  induction n generalizing skips scan with
  | zero =>
    rw [answer, after, call]
    cases h : (scan.skipTimes (skips 0)).next? doc with
    | none => rw [listing_nil h]; rfl
    | some found => rw [listing_cons h]; rfl
  | succ n ih =>
    rw [answer_succ, ih, call]
    cases h : (scan.skipTimes (skips 0)).next? doc with
    | none => rw [listing_nil h, listing_nil (next?_nil doc _)]; rfl
    | some found => rw [listing_cons h, List.getElem?_cons_succ]

/-! ## Each node once -/

/-- What comes is among what a walk comes to that leaves nothing out. -/
theorem listing_subperm (doc : Document) (skips : Nat → Nat) (scan : Scan) :
    (scan.listing doc skips).Subperm (doc.documentOrder (fun _ => false) (scan.upcoming doc)) := by
  induction skips, scan using listing.induct doc with
  | case1 skips scan hnone =>
    rw [listing_nil hnone]
    exact List.nil_subperm
  | case2 skips scan id scan' hnext ih =>
    obtain ⟨hup, hpending⟩ := upcoming_of_next? hnext
    obtain ⟨rest, hrest⟩ := upcoming_skipTimes_prefix doc (skips 0) scan
    have hcoming : scan'.upcoming doc = scan'.queue ++ doc.children id := by
      rw [upcoming, hpending]
      rfl
    rw [hcoming, documentOrder_append] at ih
    rw [listing_cons hnext, ← hrest, hup, documentOrder_append, documentOrder_cons,
      if_neg Bool.false_ne_true]
    have hhere := (List.subperm_cons id).mpr (ih.trans List.perm_append_comm.subperm)
    exact hhere.trans (List.sublist_append_left _ _).subperm

/-- Leaving out by the number of the call is leaving out by node, if the nodes in question are told by their
places in the listing. -/
theorem listing_eq (h : ∀ k x, (scan.listing doc skips)[k]? = some x → (skip x = true ↔ 0 < skips (k + 1))) :
    scan.listing doc skips = doc.levelOrderFrom skip (scan.skipTimes (skips 0)) := by
  induction skips, scan using listing.induct doc with
  | case1 skips scan hnone => rw [listing_nil hnone, levelOrderFrom_nil hnone]
  | case2 skips scan id scan' hnext ih =>
    rw [listing_cons hnext] at h ⊢
    have hskip : (if skip id then scan'.skipChildren else scan') = scan'.skipTimes (skips 1) := by
      rw [skipTimes_eq]
      exact if_congr (h 0 id rfl) rfl rfl
    rw [ih fun k x hx => h (k + 1) x (by rwa [List.getElem?_cons_succ]), levelOrderFrom_cons hnext, hskip]

end Scan

/-! ## Generations -/

/-- The children of a node, if they are not left out. -/
def kept (doc : Document) (skip : Nat → Bool) (id : Nat) : List Nat :=
  if skip id then [] else doc.children id

/-- The nodes that are so many levels below those of a row, in document order. -/
def generation (doc : Document) (skip : Nat → Bool) : Nat → List Nat → List Nat
  | 0, ids => ids
  | n + 1, ids => generation doc skip n (ids.flatMap (doc.kept skip))

/-- A scan goes by what is to come. -/
theorem levelOrderFrom_of_upcoming_eq (h : scan.upcoming doc = scan'.upcoming doc) :
    doc.levelOrderFrom skip scan = doc.levelOrderFrom skip scan' := by
  have hsame : scan'.next? doc = scan.next? doc := by rw [Scan.next?, ← h, Scan.next?]
  cases hnext : scan.next? doc with
  | none => rw [levelOrderFrom_nil hnext, levelOrderFrom_nil (hsame.trans hnext)]
  | some found =>
    obtain ⟨first, scan₁⟩ := found
    rw [levelOrderFrom_cons hnext, levelOrderFrom_cons (hsame.trans hnext)]

/-- The front of the queue comes as it is, and the children of its nodes are put behind the rest. -/
theorem levelOrderFrom_queue (skip : Nat → Bool) (ids rest : List Nat) :
    doc.levelOrderFrom skip ⟨ids ++ rest, none⟩ =
      ids ++ doc.levelOrderFrom skip ⟨rest ++ ids.flatMap (doc.kept skip), none⟩ := by
  induction ids generalizing rest with
  | nil => simp
  | cons id ids ih =>
    have hnext : (Scan.mk ((id :: ids) ++ rest) none).next? doc = some (id, ⟨ids ++ rest, some id⟩) := by
      simp [Scan.next?, Scan.upcoming]
    rw [levelOrderFrom_cons hnext, List.cons_append, List.flatMap_cons, ← List.append_assoc, ← ih]
    refine congrArg (id :: ·) (levelOrderFrom_of_upcoming_eq ?_)
    rw [← List.append_assoc]
    cases hskip : skip id <;> simp [Scan.upcoming, Scan.skipChildren, kept, hskip]

/-- So the scan lists one generation after the other. -/
theorem levelOrderFrom_generations (skip : Nat → Bool) (n : Nat) (ids : List Nat) :
    doc.levelOrderFrom skip ⟨ids, none⟩ =
      (List.range n).flatMap (fun k => doc.generation skip k ids) ++
        doc.levelOrderFrom skip ⟨doc.generation skip n ids, none⟩ := by
  induction n generalizing ids with
  | zero => rfl
  | succ n ih =>
    have hqueue : doc.levelOrderFrom skip ⟨ids, none⟩ =
        ids ++ doc.levelOrderFrom skip ⟨ids.flatMap (doc.kept skip), none⟩ := by
      simpa using levelOrderFrom_queue skip ids []
    rw [hqueue, ih, List.range_succ_eq_map, List.flatMap_cons, List.flatMap_map, List.append_assoc]
    rfl

/-- A generation is in document order. -/
theorem generation_sublist (skip : Nat → Bool) (n : Nat) (ids : List Nat) :
    (doc.generation skip n ids).Sublist (doc.documentOrder (fun _ => false) ids) := by
  induction n generalizing ids with
  | zero =>
    rw [generation]
    induction ids with
    | nil => exact List.nil_sublist _
    | cons id ids ih =>
      rw [documentOrder_cons]
      exact (ih.trans (List.sublist_append_right _ _)).cons_cons id
  | succ n ih =>
    refine (ih _).trans ?_
    induction ids with
    | nil => exact List.Sublist.refl _
    | cons id ids ih =>
      rw [List.flatMap_cons, documentOrder_append, documentOrder_cons, if_neg Bool.false_ne_true]
      refine List.Sublist.cons id (List.Sublist.append ?_ ih)
      rw [kept]
      split
      · simp
      · exact List.Sublist.refl _

/-- A path leads down to a generation, with one step for each level. -/
theorem leads_of_mem_generation {n : Nat} (h : x ∈ doc.generation skip n ids) :
    ∃ top ∈ ids, ∃ path, doc.Leads top path x ∧ path.length = n + 1 := by
  induction n generalizing ids with
  | zero => exact ⟨x, h, [x], .start, rfl⟩
  | succ n ih =>
    obtain ⟨child, hchild, path, hpath, hlength⟩ := ih h
    obtain ⟨top, htop, hkept⟩ := List.mem_flatMap.mp hchild
    rw [kept] at hkept
    split at hkept
    · cases hkept
    · exact ⟨top, htop, [top] ++ path, (Leads.start.child hkept).append hpath, by simp [hlength]⟩

theorem Leads.length_le (h : doc.Leads start path x) : start + path.length ≤ x + 1 := by
  induction h with
  | start => exact Nat.le_refl _
  | child above mem ih =>
    have := (lt_of_mem_children mem).1
    rw [List.length_append, List.length_singleton]
    omega

theorem Leads.lt_size (h : doc.Leads start path x) (hstart : start < doc.size) : x < doc.size := by
  cases h with
  | start => exact hstart
  | child above mem => exact (lt_of_mem_children mem).2

/-- There are no more generations than nodes. -/
theorem generation_size_eq_nil (skip : Nat → Bool) (hstart : start < doc.size) :
    doc.generation skip doc.size [start] = [] := by
  refine List.eq_nil_iff_forall_not_mem.mpr fun x hx => ?_
  obtain ⟨top, htop, path, hpath, hlength⟩ := leads_of_mem_generation hx
  obtain rfl := List.mem_singleton.mp htop
  have := hpath.length_le
  have := hpath.lt_size hstart
  omega

theorem levelOrder_generations (skip : Nat → Bool) (hstart : start < doc.size) :
    doc.levelOrder start skip =
      (List.range doc.size).flatMap fun n => doc.generation skip n [start] := by
  have hscan : Scan.start doc start = ⟨[start], none⟩ := by
    rw [Scan.start, node?, Array.getElem?_eq_getElem hstart]
    rfl
  rw [levelOrder, hscan, levelOrderFrom_generations skip doc.size, generation_size_eq_nil skip hstart,
    levelOrderFrom_nil rfl, List.append_nil]

/-! ## The order of a scan -/

/-- Below a node, too, there is just one path to each node. -/
theorem Grown.leads_from_unique (hdoc : doc.Grown) (hstart : start < doc.size)
    (h : doc.Leads start path x) (h' : doc.Leads start path' x) : path = path' := by
  obtain ⟨way, hway⟩ := hdoc.exists_leads start hstart
  obtain ⟨above, rfl⟩ := hway.ends
  exact List.append_cancel_left (hdoc.leads_unique (hway.append h) (hway.append h'))

/-- The first node is on a higher level below `start` than the second one, or it comes first on the same
level. -/
def ComesBefore (doc : Document) (start x y : Nat) : Prop :=
  ∀ path path', doc.Leads start path x → doc.Leads start path' y →
    path.length < path'.length ∨
      path.length = path'.length ∧ [x, y].Sublist (doc.documentOrder (fun _ => false) [start])

theorem Grown.pairwise_levelOrder (hdoc : doc.Grown) (hstart : start < doc.size) (skip : Nat → Bool) :
    (doc.levelOrder start skip).Pairwise (doc.ComesBefore start) := by
  -- All paths to a node of a generation are as long as one of them.
  have hlevel : ∀ n, ∀ x ∈ doc.generation skip n [start], ∀ path, doc.Leads start path x →
      path.length = n + 1 := by
    intro n x hx path hpath
    obtain ⟨top, htop, way, hway, hlength⟩ := leads_of_mem_generation hx
    obtain rfl := List.mem_singleton.mp htop
    rw [hdoc.leads_from_unique hstart hpath hway, hlength]
  rw [levelOrder_generations skip hstart, List.pairwise_flatMap]
  constructor
  · intro n _
    refine List.pairwise_iff_forall_sublist.mpr fun {x y} hxy path path' hpath hpath' => ?_
    have hx : x ∈ doc.generation skip n [start] := hxy.subset List.mem_cons_self
    have hy : y ∈ doc.generation skip n [start] := hxy.subset (by simp)
    refine .inr ⟨?_, hxy.trans (generation_sublist skip n [start])⟩
    rw [hlevel n x hx path hpath, hlevel n y hy path' hpath']
  · refine List.pairwise_lt_range.imp fun {m n} hlt x hx y hy path path' hpath hpath' => .inl ?_
    rw [hlevel m x hx path hpath, hlevel n y hy path' hpath']
    exact Nat.succ_lt_succ hlt

/-! ## What the caller gets -/

/-- The row is a listing of what is below `start`, level by level, that leaves out what is below the nodes that
are cut off. -/
structure ListsBelow (doc : Document) (start : Nat) (isCut : Nat → Prop) (row : List Nat) : Prop where
  absent : doc.node? start = none → row = []
  first : (doc.node? start).isSome → row.head? = some start
  once : row.Nodup
  mem_iff : ∀ x, x ∈ row ↔ (doc.node? start).isSome ∧
    ∃ above, doc.Leads start (above ++ [x]) x ∧ ∀ z ∈ above, ¬ isCut z
  ordered : row.Pairwise (doc.ComesBefore start)

theorem Grown.levelOrder_listsBelow (hdoc : doc.Grown) (start : Nat) (skip : Nat → Bool) :
    doc.ListsBelow start (fun z => skip z = true) (doc.levelOrder start skip) := by
  cases hn : doc.node? start with
  | none =>
    have hnil : doc.levelOrder start skip = [] := levelOrder_eq_nil hn
    exact ⟨fun _ => hnil, by simp [hn], by simp [hnil], by simp [hnil, hn], by simp [hnil]⟩
  | some node =>
    have hsome : (doc.node? start).isSome := by rw [hn]; rfl
    have hstart : start < doc.size := (Array.getElem?_eq_some_iff.mp hn).1
    have hperm := levelOrder_perm skip start hsome
    refine ⟨by simp [hn], fun _ => ?_, ?_, fun x => ?_, hdoc.pairwise_levelOrder hstart skip⟩
    · rw [levelOrder_eq_cons hsome]
      rfl
    · exact hperm.nodup_iff.mpr ((hdoc.nodup_documentOrder start).sublist (documentOrder_sublist skip _))
    · rw [hperm.mem_iff, mem_documentOrder]
      simp [hsome]

theorem Grown.nodup_listing (hdoc : doc.Grown) (start : Nat) (skips : Nat → Nat) :
    ((Scan.start doc start).listing doc skips).Nodup := by
  obtain ⟨row, hperm, hsub⟩ := Scan.listing_subperm doc skips (Scan.start doc start)
  refine hperm.nodup_iff.mp (List.Nodup.sublist hsub ?_)
  rw [Scan.start, Scan.upcoming]
  split
  · exact hdoc.nodup_documentOrder start
  · simp

/-- A node is cut off by its place in a row, if the call behind it comes with a call of `skipChildren`. -/
def IsCutIn (skips : Nat → Nat) (row : List Nat) (z : Nat) : Prop :=
  ∃ k, row[k]? = some z ∧ 0 < skips (k + 1)

/-- Whenever the caller leaves out the children of the node that came last, the calls are answered with the
start and what is below it, higher levels first and each level in the order of the document: with all that is
not below a node that was cut off, and with nothing twice.  Then nothing is answered any more. -/
theorem answers_by_levels (hdoc : doc.Grown) (start : Nat) (skips : Nat → Nat) :
    ∃ row : List Nat, (∀ n, (Scan.start doc start).answer doc skips n = row[n]?) ∧
      doc.ListsBelow start (IsCutIn skips row) row := by
  classical
  refine ⟨(Scan.start doc start).listing doc skips, Scan.answer_eq doc skips _, ?_⟩
  have hnodup := hdoc.nodup_listing start skips
  generalize hrow : (Scan.start doc start).listing doc skips = row at hnodup ⊢
  -- As each node comes once, its place in the row is all that tells whether it is cut off.
  have hskip : ∀ k x, ((Scan.start doc start).listing doc skips)[k]? = some x →
      (decide (IsCutIn skips row x) = true ↔ 0 < skips (k + 1)) := by
    intro k x hx
    rw [hrow] at hx
    rw [decide_eq_true_iff]
    constructor
    · rintro ⟨k', hx', hk'⟩
      have hlt : k < row.length := (List.getElem?_eq_some_iff.mp hx).1
      rwa [(List.getElem?_inj hlt hnodup).mp (hx.trans hx'.symm)]
    · exact fun hk => ⟨k, hx, hk⟩
  have hbegin : (Scan.start doc start).skipTimes (skips 0) = Scan.start doc start := by
    rw [Scan.skipTimes_eq]
    split <;> rfl
  have hlisting := Scan.listing_eq hskip
  rw [hrow, hbegin] at hlisting
  have hlists := hdoc.levelOrder_listsBelow start fun x => decide (IsCutIn skips row x)
  rw [levelOrder, ← hlisting] at hlists
  simpa only [decide_eq_true_iff] using hlists

/-- A division with a paragraph, which has a text and a bold one, and with a text behind the paragraph. -/
def paragraphInDivision : Document :=
  (withRoot "div").appended
    [.element 0 "p" [], .text 1 "a", .element 1 "b" [], .text 3 "b", .text 0 "c"]

/-- The caller leaves out what is in the paragraph. -/
theorem answers_by_levels_paragraphInDivision :
    ∃ row : List Nat,
      (∀ n, (Scan.start paragraphInDivision 0).answer paragraphInDivision (if · = 2 then 1 else 0) n = row[n]?) ∧
      paragraphInDivision.ListsBelow 0 (IsCutIn (if · = 2 then 1 else 0) row) row ∧ row = [0, 1, 5] := by
  have hgrown : paragraphInDivision.Grown := (grown_withRoot _).appended _
  obtain ⟨row, hanswers, hlists⟩ := answers_by_levels hgrown 0 (if · = 2 then 1 else 0)
  have hfirst : row.take 4 = [0, 1, 5] := by
    have hrow : ∀ n < 4, row[n]? = [0, 1, 5][n]? := by
      intro n hn
      rw [← hanswers]
      revert n
      decide +kernel
    refine List.ext_getElem? fun n => ?_
    rw [List.getElem?_take]
    split
    · exact hrow n ‹_›
    · rw [List.getElem?_eq_none (by simp; omega)]
  refine ⟨row, hanswers, hlists, ?_⟩
  have hlength : row.length ≤ 3 := by
    have := congrArg List.length hfirst
    rw [List.length_take] at this
    simp at this
    omega
  rwa [List.take_of_length_le (by omega)] at hfirst

end Document

end MarkupTex
