import MarkupTex.Proofs.Document.Appending
import MarkupTex.Proofs.Document.Stack
/-!
# Searching

What a walk shows does not depend on the visitor, as long as it goes on: `shown` is the row of nodes in document
order, each with the style that it is shown with.  A visitor that does the same at elements and texts, and
nothing on leaving, goes along this row (`traverse_onArrival`), and one that stops has seen a first part of it.

A search is such a visitor.  It is over when it comes to a node that is wanted, and it has then tested the nodes
up to this one.  In a document that was built by appending no node comes twice, since there is only one path to
it.
-/

set_option autoImplicit false

namespace MarkupTex

/-- A visitor that does the same at an element and at a text, and nothing on leaving. -/
def Visitor.onArrival {σ : Type} (act : Nat → Style → EStateM Fault σ Flow) : Visitor σ where
  enter id _ style := act id style
  text id _ style := act id style
  leave _ _ _ := pure ()

/-- Notes a node with the style that holds there, and goes on. -/
def Visitor.note (id : Nat) (style : Style) : EStateM Fault (List (Nat × Style)) Flow := fun seen =>
  .ok .descend (seen ++ [(id, style)])

/-- A visitor that goes everywhere and notes where it arrives. -/
def Visitor.arrivals : Visitor (List (Nat × Style)) := .onArrival note

theorem Search.visitor_eq (wanted : Nat → Style → Bool) :
    Search.visitor wanted = .onArrival (Search.test wanted) := rfl

namespace Walk

variable {σ : Type} {doc : Document} {policy : ImportantPolicy} {style inherited : Style} {id : Nat}
  {ids : List Nat}

/-! ## What a walk shows -/

/-- Nodes that inherit one style, in order, each followed by all that is below it, with the style that holds
at each.  What is no element has nothing below it. -/
def shown (doc : Document) (policy : ImportantPolicy) (inherited : Style) :
    List Nat → List (Nat × Style)
  | [] => []
  | id :: ids =>
    match doc.element? id with
    | none => (id, inherited) :: shown doc policy inherited ids
    | some e =>
      let own := e.styleUnder policy inherited
      (id, own) :: (shown doc policy own.inheritedPart.style (doc.children id) ++
        shown doc policy inherited ids)
termination_by ids => doc.weights ids
decreasing_by
  · exact weights_tail_lt doc id ids
  · exact weights_below_lt doc id ids .descend
  · exact weights_tail_lt doc id ids

@[simp] theorem shown_nil : shown doc policy inherited [] = [] := by rw [shown]

theorem shown_text (h : doc.element? id = none) :
    shown doc policy inherited (id :: ids) = (id, inherited) :: shown doc policy inherited ids := by
  rw [shown, h]

theorem shown_element {e : Element} (h : doc.element? id = some e) :
    shown doc policy inherited (id :: ids) =
      (id, e.styleUnder policy inherited) ::
        (shown doc policy (e.styleUnder policy inherited).inheritedPart.style (doc.children id) ++
          shown doc policy inherited ids) := by
  rw [shown, h]

/-! ## Going along a row -/

/-- Does something at one node after the other, until it is to stop. -/
def arriveAt (act : Nat → Style → EStateM Fault σ Flow) : List (Nat × Style) → EStateM Fault σ Bool
  | [] => pure true
  | (id, style) :: nodes => do
    if (← act id style) = .stop then return false
    arriveAt act nodes

variable {act : Nat → Style → EStateM Fault σ Flow} {s : σ} {nodes nodes' : List (Nat × Style)}

@[simp] theorem arriveAt_nil : arriveAt act [] s = .ok true s := rfl

theorem arriveAt_cons :
    arriveAt act ((id, style) :: nodes) s =
      andThen (act id style s) fun flow s₁ =>
        if flow = .stop then .ok false s₁ else arriveAt act nodes s₁ := by
  rw [arriveAt]
  cases h : act id style s with
  | error fault s₁ => simp [bind, EStateM.bind, h, andThen]
  | ok flow s₁ =>
    by_cases hf : flow = .stop <;>
      simp [bind, EStateM.bind, pure, EStateM.pure, h, andThen, hf]

/-- One row is gone along after the other, if the first one is gone along to its end. -/
theorem arriveAt_append :
    arriveAt act (nodes ++ nodes') s =
      andThen (arriveAt act nodes s) fun go s₁ =>
        if go then arriveAt act nodes' s₁ else .ok false s₁ := by
  induction nodes generalizing s with
  | nil => rfl
  | cons node nodes ih =>
    rw [List.cons_append, arriveAt_cons, arriveAt_cons]
    cases act node.1 node.2 s with
    | error fault s₁ => rfl
    | ok flow s₁ =>
      by_cases hf : flow = .stop
      · simp [andThen, hf]
      · simp only [andThen, hf, if_false]
        exact ih

/-- A traversal goes along what it shows. -/
theorem traverse_onArrival (hact : ∀ id style s s₁, act id style s ≠ .ok .skipChildren s₁) :
    ∀ (ids : List Nat) (inherited : Style) (s : σ), (∀ id ∈ ids, id < doc.size) →
      traverse doc policy (.onArrival act) inherited ids s = arriveAt act (shown doc policy inherited ids) s
  | [], inherited, s, _ => by rw [traverse_nil, shown_nil, arriveAt_nil]
  | id :: ids, inherited, s, hin => by
    have hids : ∀ x ∈ ids, x < doc.size := fun x hx => hin x (List.mem_cons_of_mem _ hx)
    rcases Document.text_or_element (hin id List.mem_cons_self) with ⟨t, ht⟩ | ⟨e, he⟩
    · rw [traverse_text ht, shown_text (Document.element?_of_text? ht), arriveAt_cons]
      simp only [Visitor.onArrival]
      cases act id inherited s with
      | error fault s₁ => rfl
      | ok flow s₁ =>
        simp only [andThen]
        rw [← traverse_onArrival hact ids inherited s₁ hids]
        rfl
    · rw [traverse_element he, shown_element he, arriveAt_cons]
      simp only [Visitor.onArrival]
      cases hv : act id (e.styleUnder policy inherited) s with
      | error fault s₁ => rfl
      | ok flow s₁ =>
        simp only [andThen]
        by_cases hstop : flow = .stop
        · rw [if_pos hstop, if_pos hstop]
        · -- What goes on and skips nothing descends.
          have hbelow : below doc id flow = doc.children id := by
            cases flow with
            | descend => rfl
            | skipChildren => exact absurd hv (hact _ _ _ _)
            | stop => exact absurd rfl hstop
          have hchildren := traverse_onArrival hact (below doc id flow)
            (e.styleUnder policy inherited).inheritedPart.style s₁ fun x hx => lt_size_of_mem_below hx
          rw [if_neg hstop, if_neg hstop, arriveAt_append, ← hbelow, ← hchildren]
          simp only [Visitor.onArrival]
          cases traverse doc policy _ (e.styleUnder policy inherited).inheritedPart.style
              (below doc id flow) s₁ with
          | error fault s₂ => rfl
          | ok go s₂ =>
            simp only [andThen, pure, EStateM.pure]
            rw [← traverse_onArrival hact ids inherited s₂ hids]
            rfl
termination_by ids => doc.weights ids
decreasing_by
  · exact weights_tail_lt doc id ids
  · exact weights_below_lt doc id ids flow
  · exact weights_tail_lt doc id ids

/-- All the nodes of a row are noted. -/
theorem arriveAt_noting (nodes seen : List (Nat × Style)) :
    arriveAt Visitor.note nodes seen = .ok true (seen ++ nodes) := by
  induction nodes generalizing seen with
  | nil => rw [arriveAt_nil, List.append_nil]
  | cons node nodes ih =>
    rw [arriveAt_cons, Visitor.note]
    simp only [andThen, reduceCtorEq, if_false]
    rw [ih, List.append_assoc]
    rfl

/-- Of a row the nodes are tested up to the first one that is wanted, or all of them if there is none. -/
theorem arriveAt_test (wanted : Nat → Style → Bool) (nodes : List (Nat × Style)) (search : Search) :
    (∃ before id style behind, nodes = before ++ (id, style) :: behind ∧
      (∀ node ∈ before, wanted node.1 node.2 = false) ∧ wanted id style = true ∧
      arriveAt (Search.test wanted) nodes search =
        .ok false ⟨search.tested ++ before.map Prod.fst ++ [id], some (id, style)⟩) ∨
    ((∀ node ∈ nodes, wanted node.1 node.2 = false) ∧
      arriveAt (Search.test wanted) nodes search =
        .ok true { search with tested := search.tested ++ nodes.map Prod.fst }) := by
  induction nodes generalizing search with
  | nil => exact .inr ⟨by simp, by simp⟩
  | cons node nodes ih =>
    obtain ⟨id, style⟩ := node
    rw [arriveAt_cons, Search.test]
    cases hw : wanted id style with
    | true => exact .inl ⟨[], id, style, nodes, rfl, by simp, hw, by simp [andThen]⟩
    | false =>
      simp only [andThen, Bool.false_eq_true, if_false, reduceCtorEq]
      rcases ih { search with tested := search.tested ++ [id] } with
        ⟨before, id', style', behind, rfl, hbefore, hwanted, hrun⟩ | ⟨hnone, hrun⟩
      · exact .inl ⟨(id, style) :: before, id', style', behind, rfl,
          List.forall_mem_cons.mpr ⟨hw, hbefore⟩, hwanted, by simp [hrun]⟩
      · exact .inr ⟨List.forall_mem_cons.mpr ⟨hw, hnone⟩, by simp [hrun]⟩

/-- A walk that goes on goes along what it shows, and everything that it was lent is given back. -/
theorem walk_onArrival (hact : ∀ id style s s₁, act id style s ≠ .ok .skipChildren s₁) {start : Nat}
    {e : Element} (he : doc.element? start = some e) {a : StyleArena} {base : StyleHandle}
    (wf : a.WellFormed) (hs : a.style? base.slot = some style) (policy : ImportantPolicy) (s : σ) :
    ∃ b, StyleArena.Lent a [] b ∧ walk doc start base policy (.onArrival act) ⟨a, s⟩ =
      endsWith b (arriveAt act (shown doc policy style [start]) s) := by
  obtain ⟨b, hl, hw⟩ := walkBy_ends doc none start policy (.onArrival act) wf hs s
  have hin : ∀ id ∈ [start], id < doc.size := by simpa using Document.lt_size_of_element? he
  refine ⟨b, hl, ?_⟩
  rw [walk, walkWithin_eq_walkBy, hw releaseAll cleansUp_releaseAll, traverseFrom_none he,
    traverse_onArrival hact [start] style s hin]

end Walk

/-! ## No node comes twice -/

namespace Document

variable {doc : Document} {x y z : Nat} {path way way' ids : List Nat}

/-- Two nodes that are at the end of the same path have nothing below them in common. -/
theorem Grown.apart (h : doc.Grown) (hx : doc.Leads 0 (path ++ [x]) x) (hy : doc.Leads 0 (path ++ [y]) y)
    (hxz : doc.Leads x way z) (hyz : doc.Leads y way' z) : x = y := by
  have hsame : way = way' := List.append_cancel_left (h.leads_unique (hx.append hxz) (hy.append hyz))
  have hhead : ∀ {start way}, doc.Leads start way z → way.head? = some start := by
    intro start way hway
    rcases hway.uncons with ⟨rfl, -⟩ | ⟨first, rest, -, rfl, -⟩ <;> rfl
  have hheads := hhead hxz
  rw [hsame, hhead hyz] at hheads
  exact (Option.some.inj hheads).symm

/-- There is a path to the start, and to what there is a path to from one of its children. -/
theorem exists_leads_iff :
    (∃ way, doc.Leads x way z) ↔ z = x ∨ ∃ child ∈ doc.children x, ∃ way, doc.Leads child way z := by
  constructor
  · rintro ⟨way, hway⟩
    rcases hway.uncons with ⟨-, rfl⟩ | ⟨child, rest, hmem, -, hrest⟩
    · exact .inl rfl
    · exact .inr ⟨child, hmem, rest, hrest⟩
  · rintro (rfl | ⟨child, hmem, way, hway⟩)
    · exact ⟨[z], .start⟩
    · exact ⟨[x] ++ way, (Leads.start.child hmem).append hway⟩

end Document

namespace Walk

variable {doc : Document} {policy : ImportantPolicy} {path : List Nat} {id : Nat}

/-- A node is shown, then what is below it, then its siblings. -/
theorem map_shown_cons (hdoc : doc.Grown) (policy : ImportantPolicy) (inherited : Style) (x : Nat)
    (ids : List Nat) :
    ∃ part, (shown doc policy inherited (x :: ids)).map Prod.fst =
      x :: ((shown doc policy part (doc.children x)).map Prod.fst ++
        (shown doc policy inherited ids).map Prod.fst) := by
  cases he : doc.element? x with
  | none => exact ⟨inherited, by rw [shown_text he, hdoc.children_eq_nil he]; simp⟩
  | some e => exact ⟨_, by rw [shown_element he, List.map_cons, List.map_append]⟩

/-- What is shown is what there is a path to. -/
theorem mem_shown (hdoc : doc.Grown) :
    ∀ (ids : List Nat) (inherited : Style) (id : Nat),
      id ∈ (shown doc policy inherited ids).map Prod.fst ↔ ∃ x ∈ ids, ∃ way, doc.Leads x way id
  | [], inherited, id => by simp
  | x :: ids, inherited, id => by
    obtain ⟨part, hshown⟩ := map_shown_cons hdoc policy inherited x ids
    rw [hshown, List.mem_cons, List.mem_append, mem_shown hdoc (doc.children x) part id,
      mem_shown hdoc ids inherited id, ← or_assoc, ← Document.exists_leads_iff]
    simp
termination_by ids => doc.weights ids
decreasing_by
  · exact weights_below_lt doc x ids .descend
  · exact weights_tail_lt doc x ids

/-- Siblings and what is below them are shown once. -/
theorem nodup_shown (hdoc : doc.Grown) :
    ∀ (ids : List Nat) (inherited : Style) (path : List Nat), ids.Nodup →
      (∀ x ∈ ids, doc.Leads 0 (path ++ [x]) x) → ((shown doc policy inherited ids).map Prod.fst).Nodup
  | [], inherited, path, _, _ => by simp
  | x :: ids, inherited, path, hnodup, hpath => by
    obtain ⟨part, hshown⟩ := map_shown_cons hdoc policy inherited x ids
    obtain ⟨hout, hids⟩ := List.nodup_cons.mp hnodup
    obtain ⟨hx, hrest⟩ := List.forall_mem_cons.mp hpath
    have hbelow := nodup_shown hdoc (doc.children x) part (path ++ [x])
      ((hdoc.increasing x).imp Nat.ne_of_lt) fun child hchild => hx.child hchild
    have hsiblings := nodup_shown hdoc ids inherited path hids hrest
    -- A node that is below `x` or is `x` is not shown again with a sibling.
    have hapart : ∀ id, (∃ way, doc.Leads x way id) →
        id ∉ (shown doc policy inherited ids).map Prod.fst := by
      rintro id ⟨way, hway⟩ hmem
      obtain ⟨y, hy, way', hway'⟩ := (mem_shown hdoc ids inherited id).mp hmem
      obtain rfl := hdoc.apart hx (hrest y hy) hway hway'
      exact hout hy
    rw [hshown, List.nodup_cons, List.mem_append, not_or, List.nodup_append]
    refine ⟨⟨fun hmem => ?_, hapart x ⟨[x], .start⟩⟩, hbelow, hsiblings, ?_⟩
    · obtain ⟨child, hchild, way, hway⟩ := (mem_shown hdoc (doc.children x) part x).mp hmem
      exact Nat.lt_irrefl x (Nat.lt_of_lt_of_le (Document.lt_of_mem_children hchild).1 hway.le)
    · rintro id hid _ hid' rfl
      have hway := Document.exists_leads_iff.mpr (.inr ((mem_shown hdoc (doc.children x) part id).mp hid))
      exact hapart id hway hid'
termination_by ids => doc.weights ids
decreasing_by
  · exact weights_below_lt doc x ids .descend
  · exact weights_tail_lt doc x ids

/-- From an element all that is below it is shown, and nothing twice. -/
theorem shown_once (hdoc : doc.Grown) {start : Nat} (hlt : start < doc.size) (style : Style) :
    ((shown doc policy style [start]).map Prod.fst).Nodup ∧
      ∀ id, id ∈ (shown doc policy style [start]).map Prod.fst ↔ ∃ way, doc.Leads start way id := by
  obtain ⟨path, hpath⟩ := hdoc.exists_leads start hlt
  obtain ⟨above, rfl⟩ := hpath.ends
  refine ⟨nodup_shown hdoc [start] style above (List.nodup_singleton start) (by simpa using hpath), ?_⟩
  intro id
  rw [mem_shown hdoc]
  simp

/-! ## Where a walk cannot begin -/

section Dead

variable {σ : Type} {v : Visitor σ} {limit : Option Nat} {size : Nat} {e : Element} {h : StyleHandle}
  {a : StyleArena}

/-- Where no style is behind the handle that is inherited, an arrival ends before the visitor is asked. -/
theorem enterElement_of_dead (hb : h.owned = false) (hs : a.style? h.slot = none) (s : σ) :
    enterElement doc v policy limit size id e h ⟨a, s⟩ =
      .error (StyleArena.notLive h.slot) ⟨a, s⟩ := by
  have hget : a.get h = .error (StyleArena.notLive h.slot) := by rw [StyleArena.get, hs]
  have hborrow : h.borrow = h := by rw [StyleHandle.borrow, ← hb]
  rw [enterElement, ownStyle]
  cases e.attribute? "style" with
  | none =>
    simp [bind, EStateM.bind, pure, EStateM.pure, releasingOnFault, styleAt, hget, release, hb]
  | some block =>
    by_cases hempty : (Style.ofBlock block).isEmpty
    · simp [bind, EStateM.bind, pure, EStateM.pure, releasingOnFault, allotting, StyleArena.merge, hempty,
        hborrow, styleAt, hget, release, hb]
    · simp [bind, EStateM.bind, releasingOnFault, allotting, StyleArena.merge, hempty, hget, Except.map,
        release, hb]

theorem walk_of_dead {start : Nat} {base : StyleHandle} (he : doc.element? start = some e)
    (hs : a.style? base.slot = none) (s : σ) :
    walk doc start base policy v ⟨a, s⟩ = .error (StyleArena.notLive base.slot) ⟨a, s⟩ := by
  obtain ⟨parent, children, hn⟩ := Document.node?_of_element? he
  have hdead : a.style? base.borrow.slot = none := hs
  have harrive : enterElement doc v policy none 0 start e base.borrow ⟨a, s⟩ =
      .error (StyleArena.notLive base.slot) ⟨a, s⟩ := enterElement_of_dead rfl hdead s
  have hroom : allows none 1 = true := rfl
  rw [walk, walkWithin, he]
  simp only
  rw [if_pos hroom, run]
  simp only [bind, EStateM.bind, guarding, List.length_nil, enterNode, hn, harrive, releaseAll,
    List.reverse_nil, List.foldl_nil, throw_apply]

end Dead

end Walk

/-! ## The search -/

theorem findFirst_eq (doc : Document) (start : Nat) (base : StyleHandle) (policy : ImportantPolicy)
    (wanted : Nat → Style → Bool) (scene : Scene Search) :
    findFirst doc start base policy wanted scene =
      match walk doc start base policy (.onArrival (Search.test wanted)) scene with
      | .error f scene => .error f scene
      | .ok _ ⟨a, search⟩ =>
        match search.found with
        | none => .ok none ⟨a, search⟩
        | some (id, style) => .ok (some (id, (a.alloc style).1)) ⟨(a.alloc style).2, search⟩ := by
  rw [findFirst, Search.visitor_eq]
  cases hw : walk doc start base policy (.onArrival (Search.test wanted)) scene with
  | error f scene' => simp [bind, EStateM.bind, hw]
  | ok _ scene' =>
    obtain ⟨a, tested, found⟩ := scene'
    simp only [bind, EStateM.bind, hw]
    cases found <;> rfl

/-- What a search in the row `nodes` comes to: a handle of its own on the style of the first node that is
wanted, or nothing if there is none.  The nodes up to this one were tested, in order. -/
inductive Searched (a : StyleArena) (wanted : Nat → Style → Bool) (nodes : List (Nat × Style)) :
    EStateM.Result Fault (Scene Search) (Option (Nat × StyleHandle)) → Prop where
  | found {before behind : List (Nat × Style)} {id : Nat} {style : Style} {h : StyleHandle} {b : StyleArena}
      (first : nodes = before ++ (id, style) :: behind)
      (passed : ∀ node ∈ before, wanted node.1 node.2 = false) (isWanted : wanted id style = true)
      (owned : h.owned = true) (holds : b.get h = .ok style) (live : b.live = a.live + 1)
      (wasEmpty : a.style? h.slot = none) (kept : ∀ slot, slot ≠ h.slot → b.style? slot = a.style? slot) :
      Searched a wanted nodes (.ok (some (id, h)) ⟨b, ⟨before.map Prod.fst ++ [id], some (id, style)⟩⟩)
  | missing {b : StyleArena} (passed : ∀ node ∈ nodes, wanted node.1 node.2 = false)
      (live : b.live = a.live) (kept : ∀ slot, b.style? slot = a.style? slot) :
      Searched a wanted nodes (.ok none ⟨b, ⟨nodes.map Prod.fst, none⟩⟩)

section Search

variable {doc : Document} {policy : ImportantPolicy} {start : Nat} {base : StyleHandle} {a : StyleArena}

theorem Search.test_ne_skip (wanted : Nat → Style → Bool) (id : Nat) (style : Style) (s s₁ : Search) :
    Search.test wanted id style s ≠ .ok .skipChildren s₁ := by
  rw [Search.test]
  cases wanted id style <;> simp

/-- A search from an element goes along what a walk shows. -/
theorem findFirst_searched {e : Element} {style : Style} (he : doc.element? start = some e)
    (wf : a.WellFormed) (counted : a.releases ≤ a.allocations) (hs : a.style? base.slot = some style)
    (policy : ImportantPolicy) (wanted : Nat → Style → Bool) :
    Searched a wanted (Walk.shown doc policy style [start])
      (findFirst doc start base policy wanted ⟨a, {}⟩) := by
  obtain ⟨b, hl, hw⟩ := Walk.walk_onArrival (Search.test_ne_skip wanted) he wf hs policy {}
  obtain ⟨n, hn, hn'⟩ := hl.counted
  rw [List.length_nil] at hn
  have hkept : ∀ slot, b.style? slot = a.style? slot := fun slot => hl.kept slot (by simp)
  rw [findFirst_eq, hw]
  rcases Walk.arriveAt_test wanted (Walk.shown doc policy style [start]) {} with
    ⟨before, id, found, behind, hsplit, hpassed, hwanted, hrun⟩ | ⟨hpassed, hrun⟩
  · -- The copy goes into a slot that was empty, be it one that the walk has given back.
    obtain ⟨slot, c, halloc, -, -, hempty, hstyle, hallocated, hreleased⟩ :=
      StyleArena.alloc_spec hl.wellFormed found
    rw [hrun]
    simp only [Walk.endsWith, halloc, List.nil_append]
    refine .found hsplit hpassed hwanted rfl ?_ ?_ ?_ fun x hx => ?_
    · exact StyleArena.get_of_style? (by rw [hstyle, if_pos rfl])
    · rw [StyleArena.live, StyleArena.live]
      omega
    · rw [← hkept, hempty]
    · rw [hstyle, if_neg hx, hkept]
  · rw [hrun]
    simp only [Walk.endsWith, List.nil_append]
    refine .missing hpassed ?_ hkept
    rw [StyleArena.live, StyleArena.live]
    omega

/-- A search that fails has not begun. -/
theorem findFirst_error (wf : a.WellFormed) (counted : a.releases ≤ a.allocations)
    {wanted : Nat → Style → Bool} {f : Fault} {scene : Scene Search}
    (h : findFirst doc start base policy wanted ⟨a, {}⟩ = .error f scene) : scene = ⟨a, {}⟩ := by
  cases he : doc.element? start with
  | none =>
    rw [findFirst_eq, Walk.walk_of_no_element he] at h
    cases h
    rfl
  | some e =>
    cases hs : a.style? base.slot with
    | none =>
      rw [findFirst_eq, Walk.walk_of_dead he hs] at h
      cases h
      rfl
    | some style =>
      have hsearched := findFirst_searched he wf counted hs policy wanted
      rw [h] at hsearched
      cases hsearched

/-- A search agrees with the walk.  It goes along the nodes that a walk arrives at if nobody stops it, with
the styles that it arrives with.  These come in document order, and in a document that was built by appending
they are the nodes that there is a path to, each one once.  The answer is the first one that is wanted, with a
handle of its own on the style there; what comes behind it is not tested.  A search that fails leaves everything
as it was.  The arena may be any that clients leave behind: in order, and with no more given back than lent. -/
theorem findFirst_agrees (doc : Document) (start : Nat) (base : StyleHandle) (policy : ImportantPolicy)
    (wanted : Nat → Style → Bool) (wf : a.WellFormed) (counted : a.releases ≤ a.allocations) :
    (∀ e style, doc.element? start = some e → a.get base = .ok style →
      ∃ nodes b, walk doc start base policy Visitor.arrivals ⟨a, []⟩ = .ok () ⟨b, nodes⟩ ∧
        nodes = Walk.shown doc policy style [start] ∧
        Searched a wanted nodes (findFirst doc start base policy wanted ⟨a, {}⟩) ∧
        ∀ name additions, doc = (Document.withRoot name).appended additions →
          (nodes.map Prod.fst).Nodup ∧
            ∀ id, id ∈ nodes.map Prod.fst ↔ ∃ way, doc.Leads start way id) ∧
      ∀ f scene, findFirst doc start base policy wanted ⟨a, {}⟩ = .error f scene →
        scene = ⟨a, {}⟩ := by
  refine ⟨fun e style he hget => ?_, fun f scene => findFirst_error wf counted⟩
  have hs : a.style? base.slot = some style := by
    rw [StyleArena.get] at hget
    split at hget
    · next found hfound => rw [hfound, Except.ok.inj hget]
    · cases hget
  have hnote : ∀ id style s s₁, Visitor.note id style s ≠ .ok .skipChildren s₁ := by simp [Visitor.note]
  obtain ⟨b, -, hw⟩ := Walk.walk_onArrival hnote he wf hs policy []
  rw [Walk.arriveAt_noting, List.nil_append] at hw
  refine ⟨_, b, hw, rfl, findFirst_searched he wf counted hs policy wanted, ?_⟩
  rintro name additions rfl
  exact Walk.shown_once ((Document.grown_withRoot name).appended additions)
    (Document.lt_size_of_element? he) style

/-- A text, and a title with a text in it. -/
def appendedTitle : Document :=
  (Document.withRoot "div").appended
    [.text 0 "a", .element 0 "h1" [⟨"style", "color: red; border: none"⟩], .text 2 "b"]

theorem findFirst_agrees_appendedTitle :
    (∃ nodes b, walk appendedTitle 0 Walk.lentBase.1 .localWins Visitor.arrivals ⟨Walk.lentBase.2, []⟩ =
        .ok () ⟨b, nodes⟩ ∧
      Searched Walk.lentBase.2 (fun id _ => id = 2) nodes
        (findFirst appendedTitle 0 Walk.lentBase.1 .localWins (fun id _ => id = 2) ⟨Walk.lentBase.2, {}⟩) ∧
      (nodes.map Prod.fst).Nodup) ∧
      ∃ f scene, findFirst appendedTitle 1 Walk.lentBase.1 .localWins (fun id _ => id = 2)
        ⟨Walk.lentBase.2, {}⟩ = .error f scene ∧ scene = ⟨Walk.lentBase.2, {}⟩ := by
  have wf : Walk.lentBase.2.WellFormed := StyleArena.wellFormed_new.alloc _
  have hsearch := fun start => findFirst_agrees appendedTitle start Walk.lentBase.1 .localWins
    (fun id _ => id = 2) wf (by decide)
  obtain ⟨nodes, b, hwalk, -, hsearched, honce⟩ :=
    (hsearch 0).1 (.ofName "div" []) (Style.ofBlock "color: blue") rfl rfl
  have hbad : findFirst appendedTitle 1 Walk.lentBase.1 .localWins (fun id _ => id = 2)
      ⟨Walk.lentBase.2, {}⟩ = .error (Walk.badStart appendedTitle 1) ⟨Walk.lentBase.2, {}⟩ := by
    rw [findFirst_eq, Walk.walk_of_no_element rfl]
  exact ⟨⟨nodes, b, hwalk, hsearched, (honce _ _ rfl).1⟩, _, _, hbad, (hsearch 1).2 _ _ hbad⟩

end Search

end MarkupTex
