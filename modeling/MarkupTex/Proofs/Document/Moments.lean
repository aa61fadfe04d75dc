import MarkupTex.Proofs.Document.Levels
/-!
# Moments of a traversal

If a traversal comes to its end, then so does all of it that is left at any moment.  What holds after the next
visit at some moment and is kept by whole visits and by leaving elements, holds at the end, `Reaches.lasts`.

A traversal goes down the path to a node until it comes to it, or until an element on the path does not let
it go on, `comes_or_skips`.

The calls of a traversal that comes to its end are its `Trail`, and those up to a moment are a `Course`.
-/

set_option autoImplicit false

namespace MarkupTex

namespace Walk

variable {σ : Type} {doc : Document} {policy : ImportantPolicy} {v : Visitor σ} {H : σ → Prop}
  {style style' style'' : Style} {id t root : Nat} {ids ids' ids'' path : List Nat}
  {s s' s'' s₁ s₂ : σ} {e : Element}

/-- The parts of a visit that came to its end. -/
theorem traverse_element_ok (he : doc.element? id = some e)
    (h : traverse doc policy v style (id :: ids) s = .ok true s') :
    ∃ flow s₁ s₂ s₃, v.enter id e (e.styleUnder policy style) s = .ok flow s₁ ∧ flow ≠ .stop ∧
      traverse doc policy v (e.styleUnder policy style).inheritedPart.style (below doc id flow) s₁ =
        .ok true s₂ ∧
      v.leave id e (e.styleUnder policy style) s₂ = .ok () s₃ ∧
      traverse doc policy v style ids s₃ = .ok true s' := by
  rw [traverse_element he] at h
  cases hv : v.enter id e (e.styleUnder policy style) s with
  | error fault s₁ => simp [hv, andThen] at h
  | ok flow s₁ =>
    simp only [hv, andThen] at h
    split at h
    · cases h
    · next hflow =>
      cases hb : traverse doc policy v (e.styleUnder policy style).inheritedPart.style
          (below doc id flow) s₁ with
      | error fault s₂ => simp [hb] at h
      | ok go s₂ =>
        simp only [hb] at h
        split at h
        · next hgo =>
          cases hl : v.leave id e (e.styleUnder policy style) s₂ with
          | error fault s₃ => simp [hl] at h
          | ok _ s₃ =>
            simp only [hl] at h
            exact ⟨flow, s₁, s₂, s₃, rfl, hflow, hgo ▸ hb, hl, h⟩
        · cases h

theorem traverse_cons_ok (h : traverse doc policy v style (id :: ids) s = .ok true s₂) :
    ∃ s₁, traverse doc policy v style [id] s = .ok true s₁ ∧
      traverse doc policy v style ids s₁ = .ok true s₂ := by
  rw [traverse_cons] at h
  cases hv : traverse doc policy v style [id] s with
  | error fault s₁ =>
    rw [hv] at h
    cases h
  | ok go s₁ =>
    rw [hv] at h
    cases go with
    | false => cases h
    | true => exact ⟨s₁, rfl, h⟩

namespace Reaches

theorem trans (h : Reaches doc policy v style ids s style' ids' s')
    (h' : Reaches doc policy v style' ids' s' style'' ids'' s'') :
    Reaches doc policy v style ids s style'' ids'' s'' := by
  induction h with
  | refl => exact h'
  | inside isElement entered goesOn _ ih => exact .inside isElement entered goesOn (ih h')
  | after visited _ ih => exact .after visited (ih h')

/-- The turn comes to each of the nodes that are to be visited. -/
theorem of_mem (hrun : traverse doc policy v style ids s = .ok true s₂) (hid : id ∈ ids) :
    ∃ ids' s', Reaches doc policy v style ids s style (id :: ids') s' := by
  induction ids generalizing s with
  | nil => cases hid
  | cons first ids ih =>
    rcases List.mem_cons.mp hid with rfl | hid
    · exact ⟨ids, s, .refl style (id :: ids) s⟩
    · obtain ⟨s₁, hfirst, hrest⟩ := traverse_cons_ok hrun
      obtain ⟨ids', s', hreaches⟩ := ih hrest hid
      exact ⟨ids', s', .after hfirst hreaches⟩

end Reaches

/-- To a relation that holds of every traversal another one is added, which may use the first one. -/
theorem Tracks.and {event : Style → Nat → σ → Prop} {R Q : Prop → σ → σ → Prop}
    {allowed : Fault → Prop} (h : Tracks doc policy v event R allowed) (refl : ∀ s, Q False s s)
    (trans : ∀ {p q s₁ s₂ s₃}, R p s₁ s₂ → Q p s₁ s₂ → Q q s₂ s₃ → Q (p ∨ q) s₁ s₃)
    (text : ∀ {id t style flow s s₁}, doc.text? id = some t → v.text id t style s = .ok flow s₁ →
      Q (event style id s) s s₁)
    (element : ∀ {id e style flow p s s₁ s₂ s₃}, doc.element? id = some e →
      v.enter id e (e.styleUnder policy style) s = .ok flow s₁ → R p s₁ s₂ → Q p s₁ s₂ →
      v.leave id e (e.styleUnder policy style) s₂ = .ok () s₃ → R (event style id s ∨ p) s s₃ →
      Q (event style id s ∨ p) s s₃) :
    Tracks doc policy v event (fun p s s' => R p s s' ∧ Q p s s') allowed where
  refl s := ⟨h.refl s, refl s⟩
  trans h₁ h₂ := ⟨h.trans h₁.1 h₂.1, trans h₁.1 h₁.2 h₂.2⟩
  text id t style s ht := by
    have hcall := h.text id t style s ht
    revert hcall
    cases hv : v.text id t style s with
    | ok flow s₁ => exact fun hcall => ⟨hcall.1, hcall.2, text ht hv⟩
    | error fault s₁ => exact fun hcall => hcall
  element id e style s he := by
    have hcall := h.element id e style s he
    revert hcall
    cases hv : v.enter id e (e.styleUnder policy style) s with
    | error fault s₁ => exact fun hcall => hcall
    | ok flow s₁ =>
      refine fun hcall => ⟨hcall.1, fun p s₂ hr => ?_⟩
      have hends := hcall.2 p s₂ hr.1
      revert hends
      cases hl : v.leave id e (e.styleUnder policy style) s₂ with
      | error fault s₃ => exact fun hends => hends
      | ok _ s₃ => exact fun hends => ⟨hends, element he hv hr.1 hr.2 hl hends⟩

/-- What visits keep holds at the end, if it holds at the beginning. -/
theorem traverse_lasts
    (visit : ∀ {style' id ids' s' s₁}, Reaches doc policy v style ids s style' (id :: ids') s' →
      traverse doc policy v style' [id] s' = .ok true s₁ → H s' → H s₁)
    (hrun : traverse doc policy v style ids s = .ok true s₂) (hs : H s) : H s₂ := by
  induction ids generalizing s with
  | nil =>
    rw [traverse_nil] at hrun
    cases hrun
    exact hs
  | cons id ids ih =>
    obtain ⟨s₁, hfirst, hrest⟩ := traverse_cons_ok hrun
    exact ih (fun hreaches => visit (.after hfirst hreaches)) hrest (visit (.refl _ _ _) hfirst hs)

/-- All that is left at some moment comes to its end.  What holds then and is kept by visits and by leaving
elements holds at the very end. -/
theorem Reaches.lasts
    (visit : ∀ {style' id ids' s' s₁}, Reaches doc policy v style ids s style' (id :: ids') s' →
      traverse doc policy v style' [id] s' = .ok true s₁ → H s' → H s₁)
    (leave : ∀ {id e style s s₁}, v.leave id e style s = .ok () s₁ → H s → H s₁)
    (h : Reaches doc policy v style ids s style' ids' s')
    (hrun : traverse doc policy v style ids s = .ok true s₂) :
    ∃ s₁, traverse doc policy v style' ids' s' = .ok true s₁ ∧ (H s₁ → H s₂) := by
  induction h generalizing s₂ with
  | refl => exact ⟨s₂, hrun, fun hs => hs⟩
  | @inside style _ id ids _ e flow s s₁ _ isElement entered goesOn rest ih =>
    obtain ⟨flow', _, s₃, s₄, hv, -, hb, hl, hrest⟩ := traverse_element_ok isElement hrun
    rw [entered] at hv
    cases hv
    obtain ⟨s₅, hrun', hlast⟩ := ih (fun hr => visit (.inside isElement entered goesOn hr)) hb
    refine ⟨s₅, hrun', fun hs => ?_⟩
    -- The element is left, and then the siblings are visited.
    have hleft : H s₄ := leave hl (hlast hs)
    have hvisited : traverse doc policy v style [id] s = .ok true s₄ := by
      rw [traverse_element isElement]
      simp only [entered, andThen, if_neg goesOn, hb, if_true, hl, traverse_nil]
    exact traverse_lasts (fun hr => visit (.after hvisited hr)) hrest hleft
  | after visited _ ih =>
    obtain ⟨s₃, hfirst, hrest⟩ := traverse_cons_ok hrun
    rw [visited] at hfirst
    cases hfirst
    exact ih (fun hr => visit (.after visited hr)) hrest

/-- The visit that comes next comes to its end, and what holds then holds at the very end. -/
theorem Reaches.visit_lasts
    (visit : ∀ {style' id ids' s' s₁}, Reaches doc policy v style ids s style' (id :: ids') s' →
      traverse doc policy v style' [id] s' = .ok true s₁ → H s' → H s₁)
    (leave : ∀ {id e style s s₁}, v.leave id e style s = .ok () s₁ → H s → H s₁)
    (h : Reaches doc policy v style ids s style' (id :: ids') s')
    (hrun : traverse doc policy v style ids s = .ok true s₂) :
    ∃ s₁, traverse doc policy v style' [id] s' = .ok true s₁ ∧ (H s₁ → H s₂) := by
  obtain ⟨s₃, hrest, hlast⟩ := h.lasts visit leave hrun
  obtain ⟨s₁, hfirst, hsiblings⟩ := traverse_cons_ok hrest
  exact ⟨s₁, hfirst, fun hs =>
    hlast (traverse_lasts (fun hr => visit (h.trans (.after hfirst hr))) hsiblings hs)⟩

/-- A traversal that comes to its end goes on to it from each moment. -/
theorem Reaches.ends (h : Reaches doc policy v style ids s style' ids' s')
    (hrun : traverse doc policy v style ids s = .ok true s₂) :
    ∃ s₁, traverse doc policy v style' ids' s' = .ok true s₁ := by
  obtain ⟨s₁, hrest, -⟩ := h.lasts (H := fun _ => True) (fun _ _ _ => trivial) (fun _ _ => trivial) hrun
  exact ⟨s₁, hrest⟩

/-- So does the visit that comes next. -/
theorem Reaches.visit_ends (h : Reaches doc policy v style ids s style' (id :: ids') s')
    (hrun : traverse doc policy v style ids s = .ok true s₂) :
    ∃ s₁, traverse doc policy v style' [id] s' = .ok true s₁ := by
  obtain ⟨s₃, hrest⟩ := h.ends hrun
  obtain ⟨s₁, hfirst, -⟩ := traverse_cons_ok hrest
  exact ⟨s₁, hfirst⟩

/-- What happens in a visit happens in the traversal that the visit belongs to. -/
theorem Happens.of_visit {event : Style → Nat → σ → Prop}
    (h : Reaches doc policy v style ids s style' (id :: ids') s')
    (hevent : Happens doc policy v event style' [id] s') : Happens doc policy v event style ids s := by
  obtain ⟨style'', x, xs, s'', hreaches, hx⟩ := hevent
  have hwithin : ∃ xs, Reaches doc policy v style' (id :: ids') s' style'' (x :: xs) s'' := by
    cases hreaches with
    | refl => exact ⟨ids', .refl _ _ _⟩
    | inside isElement entered goesOn rest => exact ⟨xs, .inside isElement entered goesOn rest⟩
    | after _ rest => cases rest
  obtain ⟨xs, hwithin⟩ := hwithin
  exact ⟨style'', x, xs, s'', h.trans hwithin, hx⟩

/-- At some moment the turn comes to a node below an element, if that goes on to its children. -/
theorem comes_or_skips (hrun : traverse doc policy v style [root] s = .ok true s₂)
    (hleads : doc.Leads root path t)
    (helements : ∀ x ∈ path.dropLast, ∃ e, doc.element? x = some e) :
    (∃ style' ids' s', Reaches doc policy v style [root] s style' (t :: ids') s') ∨
      ∃ k e way style' ids' s' s₁ flow, Reaches doc policy v style [root] s style' (k :: ids') s' ∧
        doc.element? k = some e ∧ v.enter k e (e.styleUnder policy style') s' = .ok flow s₁ ∧
        flow ≠ .descend ∧ flow ≠ .stop ∧ doc.Leads k way t ∧ k ∈ path.dropLast ∧
        way ⊆ path ∧ way.dropLast ⊆ path.dropLast := by
  induction hleads with
  | start => exact .inl ⟨style, [], s, .refl _ _ _⟩
  | @child path last child hleads hmem ih =>
    rw [List.dropLast_concat] at helements
    rcases ih fun x hx => helements x (List.dropLast_subset _ hx) with
      ⟨style', ids', s', hreaches⟩ | ⟨k, e, way, style', ids', s', s₁, flow, hreaches, he, hv, hflow,
        hstop, hway, hk, hsub, -⟩
    · obtain ⟨e, he⟩ := helements last (by obtain ⟨front, rfl⟩ := hleads.ends; simp)
      obtain ⟨s₃, hhere⟩ := hreaches.ends hrun
      obtain ⟨flow, s₄, s₅, s₆, hv, hstop, hb, -⟩ := traverse_element_ok he hhere
      by_cases hflow : flow = .descend
      · have hbelow : child ∈ below doc last flow := by rwa [below, if_pos hflow]
        obtain ⟨ids'', s'', hchild⟩ := Reaches.of_mem hb hbelow
        exact .inl ⟨_, ids'', s'', hreaches.trans (.inside he hv hstop hchild)⟩
      · have hlast : last ∈ path := by
          obtain ⟨front, rfl⟩ := hleads.ends
          simp
        refine .inr ⟨last, e, [last, child], style', ids', s', s₄, flow, hreaches, he, hv, hflow,
          hstop, .child .start hmem, ?_, ?_, ?_⟩
        · rwa [List.dropLast_concat]
        · simp [hlast]
        · simp [hlast]
    · refine .inr ⟨k, e, way ++ [child], style', ids', s', s₁, flow, hreaches, he, hv, hflow, hstop,
        hway.child hmem, ?_, ?_, ?_⟩
      · rw [List.dropLast_concat]
        exact List.dropLast_subset _ hk
      · exact List.append_subset.mpr ⟨fun x hx => List.mem_append_left _ (hsub hx), by simp⟩
      · rwa [List.dropLast_concat, List.dropLast_concat]

/-! ## Paths to a moment -/

theorem mem_children_of_mem_below {child : Nat} {flow : Flow} (h : child ∈ below doc id flow) :
    child ∈ doc.children id := by
  unfold below at h
  split at h
  · exact h
  · cases h

/-- A turn comes to those nodes only that there is a path to. -/
theorem Reaches.leads (h : Reaches doc policy v style ids s style' (t :: ids') s') :
    ∃ top ∈ ids, ∃ way, doc.Leads top (way ++ [t]) t := by
  generalize hto : t :: ids' = ids'' at h
  induction h with
  | refl => exact ⟨t, by simp [← hto], [], .start⟩
  | @inside _ _ id _ _ _ _ _ _ _ _ _ _ _ ih =>
    obtain ⟨child, hchild, way, hway⟩ := ih hto
    exact ⟨id, List.mem_cons_self, id :: way,
      (Document.Leads.start.child (mem_children_of_mem_below hchild)).append hway⟩
  | after _ _ ih =>
    obtain ⟨top, htop, way, hway⟩ := ih hto
    exact ⟨top, List.mem_cons_of_mem _ htop, way, hway⟩

/-- A visit comes to its node once, at its beginning. -/
theorem Reaches.eq_start (h : Reaches doc policy v style [t] s style' (t :: ids') s') :
    style' = style ∧ s' = s := by
  cases h with
  | refl => exact ⟨rfl, rfl⟩
  | after _ rest =>
    obtain ⟨top, htop, -⟩ := rest.leads
    cases htop
  | inside _ _ _ rest =>
    -- What is below a node has another id.
    obtain ⟨top, htop, way, hway⟩ := rest.leads
    have hlt : t < top := (Document.lt_of_mem_children (mem_children_of_mem_below htop)).1
    exact absurd hway.le (Nat.not_le.mpr hlt)

/-- What whole visits keep, and entering the elements on the path to a node, holds when the turn comes to
it. -/
theorem Reaches.keeps {passes : Nat → Prop}
    (visit : ∀ {style id s s₁}, traverse doc policy v style [id] s = .ok true s₁ → H s → H s₁)
    (enter : ∀ {id e style flow s s₁}, passes id → doc.element? id = some e →
      v.enter id e style s = .ok flow s₁ → H s → H s₁)
    (h : Reaches doc policy v style ids s style' (t :: ids') s')
    (hpasses : ∀ top ∈ ids, ∀ way, doc.Leads top (way ++ [t]) t → ∀ x ∈ way, passes x) (hs : H s) :
    H s' := by
  generalize hto : t :: ids' = ids'' at h
  induction h with
  | refl => exact hs
  | @inside _ _ id _ _ _ flow _ _ _ isElement entered _ rest ih =>
    have hbelow : ∀ child ∈ Walk.below doc id flow, ∀ way, doc.Leads child (way ++ [t]) t →
        ∀ x ∈ id :: way, passes x := by
      intro child hchild way hway
      apply hpasses id List.mem_cons_self
      exact (Document.Leads.start.child (mem_children_of_mem_below hchild)).append hway
    subst hto
    obtain ⟨child, hchild, way, hway⟩ := rest.leads
    have hid : passes id := hbelow child hchild way hway id List.mem_cons_self
    exact ih (fun child hchild way hway x hx => hbelow child hchild way hway x (List.mem_cons_of_mem _ hx))
      (enter hid isElement entered hs) rfl
  | after visited _ ih =>
    exact ih (fun top htop => hpasses top (List.mem_cons_of_mem _ htop)) (visit visited hs) hto

/-! ## Trails -/

/-- A call of a visitor, with the states before and after it. -/
inductive Turn (σ : Type) where
  | enter (id : Nat) (e : Element) (before after : σ)
  | text (id : Nat) (before after : σ)
  | leave (id : Nat) (e : Element) (before after : σ)

namespace Turn

def before : Turn σ → σ
  | enter _ _ s _ | text _ s _ | leave _ _ s _ => s

def after : Turn σ → σ
  | enter _ _ _ s | text _ _ s | leave _ _ _ s => s

def node : Turn σ → Nat
  | enter id .. | text id .. | leave id .. => id

end Turn

/-- `Trail doc policy v style ids s turns s'`: visiting `ids` from `s` comes to its end in `s'` with these
calls, in this order. -/
inductive Trail (doc : Document) (policy : ImportantPolicy) (v : Visitor σ) :
    Style → List Nat → σ → List (Turn σ) → σ → Prop where
  | nil (style : Style) (s : σ) : Trail doc policy v style [] s [] s
  | text {style : Style} {id : Nat} {ids : List Nat} {t : String} {flow : Flow} {s s₁ s' : σ}
      {turns : List (Turn σ)} (isText : doc.text? id = some t) (visited : v.text id t style s = .ok flow s₁)
      (goesOn : flow ≠ .stop) (rest : Trail doc policy v style ids s₁ turns s') :
      Trail doc policy v style (id :: ids) s (.text id s s₁ :: turns) s'
  | element {style : Style} {id : Nat} {ids : List Nat} {e : Element} {flow : Flow} {s s₁ s₂ s₃ s' : σ}
      {inner turns : List (Turn σ)} (isElement : doc.element? id = some e)
      (entered : v.enter id e (e.styleUnder policy style) s = .ok flow s₁) (goesOn : flow ≠ .stop)
      (inside : Trail doc policy v (e.styleUnder policy style).inheritedPart.style (below doc id flow)
        s₁ inner s₂)
      (left : v.leave id e (e.styleUnder policy style) s₂ = .ok () s₃)
      (rest : Trail doc policy v style ids s₃ turns s') :
      Trail doc policy v style (id :: ids) s
        (.enter id e s s₁ :: (inner ++ .leave id e s₂ s₃ :: turns)) s'

/-- A traversal that comes to its end has a trail. -/
theorem exists_trail : ∀ {ids : List Nat} {style : Style} {s s' : σ},
    traverse doc policy v style ids s = .ok true s' → ∃ turns, Trail doc policy v style ids s turns s'
  | [], style, s, s', h => by
    rw [traverse_nil] at h
    cases h
    exact ⟨[], .nil style s⟩
  | id :: ids, style, s, s', h => by
    rcases Document.text_or_element (lt_size_of_visited h) with ⟨t, ht⟩ | ⟨e, he⟩
    · rw [traverse_text ht] at h
      cases hv : v.text id t style s with
      | error fault s₁ =>
        rw [hv] at h
        cases h
      | ok flow s₁ =>
        simp only [hv, andThen] at h
        split at h
        · cases h
        · next hflow =>
          obtain ⟨turns, hrest⟩ := exists_trail h
          exact ⟨_, .text ht hv hflow hrest⟩
    · obtain ⟨flow, s₁, s₂, s₃, hv, hflow, hb, hl, h⟩ := traverse_element_ok he h
      obtain ⟨inner, hinner⟩ := exists_trail hb
      obtain ⟨turns, hrest⟩ := exists_trail h
      exact ⟨_, .element he hv hflow hinner hl hrest⟩
termination_by ids => doc.weights ids
decreasing_by
  · exact weights_tail_lt doc id ids
  · exact weights_below_lt doc id ids flow
  · exact weights_tail_lt doc id ids

/-- There is a path to the node of each call. -/
theorem Trail.leads {turns : List (Turn σ)} (h : Trail doc policy v style ids s turns s') :
    ∀ turn ∈ turns, ∃ top ∈ ids, ∃ way, doc.Leads top way turn.node := by
  induction h with
  | nil => simp
  | text _ _ _ rest ih =>
    refine List.forall_mem_cons.mpr ⟨⟨_, List.mem_cons_self, _, .start⟩, fun turn hturn => ?_⟩
    obtain ⟨top, htop, hway⟩ := ih turn hturn
    exact ⟨top, List.mem_cons_of_mem _ htop, hway⟩
  | @element _ id _ _ _ _ _ _ _ _ _ _ _ _ _ _ _ _ hinside hrest =>
    refine List.forall_mem_cons.mpr ⟨⟨id, List.mem_cons_self, _, .start⟩, ?_⟩
    refine List.forall_mem_append.mpr ⟨fun turn hturn => ?_, ?_⟩
    · obtain ⟨child, hchild, way, hway⟩ := hinside turn hturn
      have hstep : doc.Leads id ([id] ++ [child]) child :=
        Document.Leads.start.child (mem_children_of_mem_below hchild)
      exact ⟨id, List.mem_cons_self, _, hstep.append hway⟩
    · refine List.forall_mem_cons.mpr ⟨⟨id, List.mem_cons_self, _, .start⟩, fun turn hturn => ?_⟩
      obtain ⟨top, htop, hway⟩ := hrest turn hturn
      exact ⟨top, List.mem_cons_of_mem _ htop, hway⟩

/-! ## Courses -/

/-- `Course doc policy v style ids s turns style' ids' s'`: in the traversal of `ids` from `s` there is such a
moment as in `Reaches`, and up to it there are these calls, in this order. -/
inductive Course (doc : Document) (policy : ImportantPolicy) (v : Visitor σ) :
    Style → List Nat → σ → List (Turn σ) → Style → List Nat → σ → Prop where
  | refl (style : Style) (ids : List Nat) (s : σ) : Course doc policy v style ids s [] style ids s
  | inside {style style' : Style} {id : Nat} {ids ids' : List Nat} {e : Element} {flow : Flow}
      {s s₁ s' : σ} {turns : List (Turn σ)} (isElement : doc.element? id = some e)
      (entered : v.enter id e (e.styleUnder policy style) s = .ok flow s₁) (goesOn : flow ≠ .stop)
      (rest : Course doc policy v (e.styleUnder policy style).inheritedPart.style
        (below doc id flow) s₁ turns style' ids' s') :
      Course doc policy v style (id :: ids) s (.enter id e s s₁ :: turns) style' ids' s'
  | after {style style' : Style} {id : Nat} {ids ids' : List Nat} {s s₁ s' : σ}
      {turns turns' : List (Turn σ)} (visited : Trail doc policy v style [id] s turns s₁)
      (rest : Course doc policy v style ids s₁ turns' style' ids' s') :
      Course doc policy v style (id :: ids) s (turns ++ turns') style' ids' s'

/-- There is a course to each moment. -/
theorem Reaches.course (h : Reaches doc policy v style ids s style' ids' s') :
    ∃ turns, Course doc policy v style ids s turns style' ids' s' := by
  induction h with
  | refl => exact ⟨[], .refl _ _ _⟩
  | inside isElement entered goesOn _ ih =>
    obtain ⟨turns, hrest⟩ := ih
    exact ⟨_, .inside isElement entered goesOn hrest⟩
  | after visited _ ih =>
    obtain ⟨inner, hvisited⟩ := exists_trail visited
    obtain ⟨turns, hrest⟩ := ih
    exact ⟨_, .after hvisited hrest⟩

end Walk

end MarkupTex
