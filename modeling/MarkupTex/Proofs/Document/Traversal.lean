import MarkupTex.Document.Walk
/-!
# The walk as a recursion

`traverse` visits nodes the way one would say it: enter an element, traverse its children with the
part of its style that they inherit, leave it, go on with the next node.  It passes styles along as
values and knows neither a stack nor an arena.

What is to be shown of a walk is shown by induction on the traversal, for which `Reaches` names the
states between two calls.
-/

set_option autoImplicit false

namespace MarkupTex

/-- The style of an element where `inherited` is inherited. -/
def Element.styleUnder (policy : ImportantPolicy) (e : Element) (inherited : Style) : Style :=
  match e.attribute? "style" with
  | none => inherited
  | some block => (Style.merge inherited (Style.ofBlock block) policy).style

namespace Document

theorem node?_of_text? {doc : Document} {id : Nat} {text : String} (h : doc.text? id = some text) :
    ∃ parent children, doc.node? id = some { content := .text text, parent, children } := by
  rw [text?] at h
  split at h
  · next parent children hn =>
    cases h
    exact ⟨parent, children, hn⟩
  · exact absurd h (by simp)

theorem node?_of_element? {doc : Document} {id : Nat} {e : Element}
    (h : doc.element? id = some e) :
    ∃ parent children, doc.node? id = some { content := .element e, parent, children } := by
  rw [element?] at h
  split at h
  · next parent children hn =>
    cases h
    exact ⟨parent, children, hn⟩
  · exact absurd h (by simp)

theorem text?_of_element? {doc : Document} {id : Nat} {e : Element}
    (h : doc.element? id = some e) : doc.text? id = none := by
  obtain ⟨parent, children, hn⟩ := node?_of_element? h
  rw [text?, hn]

theorem element?_of_text? {doc : Document} {id : Nat} {text : String}
    (h : doc.text? id = some text) : doc.element? id = none := by
  obtain ⟨parent, children, hn⟩ := node?_of_text? h
  rw [element?, hn]

theorem tag?_of_element? {doc : Document} {id : Nat} {e : Element}
    (h : doc.element? id = some e) : doc.tag? id = some e.tag := by
  rw [tag?, h, Option.map_some]

theorem lt_size_of_element? {doc : Document} {id : Nat} {e : Element}
    (h : doc.element? id = some e) : id < doc.size := by
  obtain ⟨parent, children, hn⟩ := node?_of_element? h
  exact (Array.getElem?_eq_some_iff.mp hn).1

/-- A node of a document is a text or an element. -/
theorem text_or_element {doc : Document} {id : Nat} (h : id < doc.size) :
    (∃ text, doc.text? id = some text) ∨ ∃ e, doc.element? id = some e := by
  obtain ⟨node, hn⟩ : ∃ node, doc.node? id = some node := ⟨_, Array.getElem?_eq_getElem h⟩
  obtain ⟨content, parent, children⟩ := node
  cases content with
  | text text => exact Or.inl ⟨text, by rw [text?, hn]⟩
  | element e => exact Or.inr ⟨e, by rw [element?, hn]⟩

end Document

namespace Walk

variable {σ : Type}

/-- The nodes that are visited below an element. -/
def below (doc : Document) (id : Nat) (flow : Flow) : List Nat :=
  if flow = .descend then doc.children id else []

theorem lt_size_of_mem_below {doc : Document} {id x : Nat} {flow : Flow}
    (h : x ∈ below doc id flow) : x < doc.size := by
  rw [below] at h
  split at h
  · exact (Document.lt_of_mem_children h).2
  · exact absurd h (by simp)

theorem weights_below_lt (doc : Document) (id : Nat) (ids : List Nat) (flow : Flow) :
    doc.weights (below doc id flow) < doc.weights (id :: ids) := by
  rw [Document.weights_cons, Document.weight_eq, below]
  split
  · omega
  · rw [Document.weights_nil]
    omega

theorem weights_tail_lt (doc : Document) (id : Nat) (ids : List Nat) :
    doc.weights ids < doc.weights (id :: ids) := by
  have := doc.weight_pos id
  rw [Document.weights_cons]
  omega

/-- Visits nodes that inherit one style, in order, each with all that is below it.  The answer tells
whether the visitor let the traversal come to its end. -/
def traverse (doc : Document) (policy : ImportantPolicy) (v : Visitor σ) (inherited : Style) :
    List Nat → EStateM Fault σ Bool
  | [] => pure true
  | id :: ids =>
    match doc.node? id with
    | none => throw (Document.missing id)
    | some { content := .text s, .. } => do
      if (← v.text id s inherited) = .stop then return false
      traverse doc policy v inherited ids
    | some { content := .element e, .. } => do
      let own := e.styleUnder policy inherited
      let flow ← v.enter id e own
      if flow = .stop then return false
      if ← traverse doc policy v own.inheritedPart.style (below doc id flow) then
        v.leave id e own
        traverse doc policy v inherited ids
      else return false
termination_by ids => doc.weights ids
decreasing_by
  · exact weights_tail_lt doc id ids
  · exact weights_below_lt doc id ids flow
  · exact weights_tail_lt doc id ids

@[simp] theorem throw_apply {α : Type} (fault : Fault) (s : σ) :
    (throw fault : EStateM Fault σ α) s = .error fault s := rfl

/-- What becomes of a calculation when it goes on with `next` after a result. -/
def andThen {α β : Type} (r : EStateM.Result Fault σ α) (next : α → σ → EStateM.Result Fault σ β) :
    EStateM.Result Fault σ β :=
  match r with
  | .ok a s => next a s
  | .error fault s => .error fault s

section Equations

variable {doc : Document} {policy : ImportantPolicy} {v : Visitor σ} {inherited : Style} {id : Nat}
  {ids : List Nat} {s : σ}

@[simp] theorem traverse_nil : traverse doc policy v inherited [] s = .ok true s := by
  rw [traverse]
  rfl

theorem traverse_missing (h : doc.node? id = none) :
    traverse doc policy v inherited (id :: ids) s = .error (Document.missing id) s := by
  rw [traverse]
  simp only [h]
  rfl

/-- A node that was visited is in the document. -/
theorem lt_size_of_visited {s₁ : σ}
    (h : traverse doc policy v inherited (id :: ids) s = .ok true s₁) : id < doc.size := by
  refine Nat.lt_of_not_le fun hid => ?_
  rw [traverse_missing (Array.getElem?_eq_none hid)] at h
  cases h

theorem traverse_text {text : String} (h : doc.text? id = some text) :
    traverse doc policy v inherited (id :: ids) s =
      andThen (v.text id text inherited s) fun flow s₁ =>
        if flow = .stop then .ok false s₁ else traverse doc policy v inherited ids s₁ := by
  obtain ⟨parent, children, hn⟩ := Document.node?_of_text? h
  rw [traverse]
  simp only [hn]
  cases hv : v.text id text inherited s with
  | error fault s₁ => simp [bind, EStateM.bind, hv, andThen]
  | ok flow s₁ =>
    by_cases hf : flow = .stop <;>
      simp [bind, EStateM.bind, pure, EStateM.pure, hv, andThen, hf]

theorem traverse_element {e : Element} (h : doc.element? id = some e) :
    traverse doc policy v inherited (id :: ids) s =
      andThen (v.enter id e (e.styleUnder policy inherited) s) fun flow s₁ =>
        if flow = .stop then .ok false s₁
        else
          andThen (traverse doc policy v (e.styleUnder policy inherited).inheritedPart.style
              (below doc id flow) s₁) fun go s₂ =>
            if go then
              andThen (v.leave id e (e.styleUnder policy inherited) s₂) fun _ s₃ =>
                traverse doc policy v inherited ids s₃
            else .ok false s₂ := by
  obtain ⟨parent, children, hn⟩ := Document.node?_of_element? h
  rw [traverse]
  simp only [hn]
  cases hv : v.enter id e (e.styleUnder policy inherited) s with
  | error fault s₁ => simp [bind, EStateM.bind, hv, andThen]
  | ok flow s₁ =>
    by_cases hf : flow = .stop
    · simp [bind, EStateM.bind, pure, EStateM.pure, hv, andThen, hf]
    · simp only [bind, EStateM.bind, hv, andThen, hf, if_false]
      cases ht : traverse doc policy v (e.styleUnder policy inherited).inheritedPart.style
          (below doc id flow) s₁ with
      | error fault s₂ => rfl
      | ok go s₂ =>
        cases go with
        | false => rfl
        | true =>
          simp only [if_true]
          cases hl : v.leave id e (e.styleUnder policy inherited) s₂ <;>
            simp [EStateM.bind, hl]

/-- Siblings are visited one by one. -/
theorem traverse_cons :
    traverse doc policy v inherited (id :: ids) s =
      andThen (traverse doc policy v inherited [id] s) fun go s₁ =>
        if go then traverse doc policy v inherited ids s₁ else .ok false s₁ := by
  cases hn : doc.node? id with
  | none =>
    rw [traverse_missing hn, traverse_missing hn]
    rfl
  | some node =>
    rcases Document.text_or_element (Array.getElem?_eq_some_iff.mp hn).1 with ⟨t, ht⟩ | ⟨e, he⟩
    · rw [traverse_text ht, traverse_text ht]
      cases v.text id t inherited s with
      | error fault s₁ => rfl
      | ok flow s₁ => by_cases hflow : flow = .stop <;> simp [andThen, hflow]
    · rw [traverse_element he, traverse_element he]
      cases v.enter id e (e.styleUnder policy inherited) s with
      | error fault s₁ => rfl
      | ok flow s₁ =>
        by_cases hflow : flow = .stop
        · simp [andThen, hflow]
        · simp only [andThen, if_neg hflow]
          cases traverse doc policy v (e.styleUnder policy inherited).inheritedPart.style
              (below doc id flow) s₁ with
          | error fault s₂ => rfl
          | ok go s₂ =>
            cases go with
            | false => rfl
            | true =>
              simp only [if_true, traverse_nil]
              cases v.leave id e (e.styleUnder policy inherited) s₂ <;> rfl

end Equations

/-! ## Induction on the traversal -/

section Induction

variable {doc : Document} {policy : ImportantPolicy} {v : Visitor σ}

/-- `Reaches doc policy v style ids s style' ids' s'`: in the traversal of `ids` from `s` there is a
moment between two calls where the state is `s'` and, of some row of siblings that inherit `style'`,
the nodes `ids'` are still to be visited. -/
inductive Reaches (doc : Document) (policy : ImportantPolicy) (v : Visitor σ) :
    Style → List Nat → σ → Style → List Nat → σ → Prop where
  | refl (style : Style) (ids : List Nat) (s : σ) : Reaches doc policy v style ids s style ids s
  | inside {style style' : Style} {id : Nat} {ids ids' : List Nat} {e : Element} {flow : Flow}
      {s s₁ s' : σ} (isElement : doc.element? id = some e)
      (entered : v.enter id e (e.styleUnder policy style) s = .ok flow s₁) (goesOn : flow ≠ .stop)
      (rest : Reaches doc policy v (e.styleUnder policy style).inheritedPart.style
        (below doc id flow) s₁ style' ids' s') :
      Reaches doc policy v style (id :: ids) s style' ids' s'
  | after {style style' : Style} {id : Nat} {ids ids' : List Nat} {s s₁ s' : σ}
      (visited : traverse doc policy v style [id] s = .ok true s₁)
      (rest : Reaches doc policy v style ids s₁ style' ids' s') :
      Reaches doc policy v style (id :: ids) s style' ids' s'

namespace Reaches

variable {style style' style'' : Style} {id : Nat} {ids ids' ids'' : List Nat} {s s' s'' s₁ : σ}

/-- What entering an element keeps, and visiting a node with all that is below it, holds at every
moment. -/
theorem preserves {I : σ → Prop}
    (enter : ∀ {id e style s flow s₁}, v.enter id e style s = .ok flow s₁ → I s → I s₁)
    (visit : ∀ {style id s s₁}, traverse doc policy v style [id] s = .ok true s₁ → I s → I s₁)
    (h : Reaches doc policy v style ids s style' ids' s') : I s → I s' := by
  induction h with
  | refl => exact fun hs => hs
  | inside _ entered _ _ ih => exact fun hs => ih (enter entered hs)
  | after visited _ ih => exact fun hs => ih (visit visited hs)

end Reaches

/-- At some moment of the traversal the visit that comes next is one of these. -/
def Happens (doc : Document) (policy : ImportantPolicy) (v : Visitor σ)
    (event : Style → Nat → σ → Prop) (style : Style) (ids : List Nat) (s : σ) : Prop :=
  ∃ style' id ids' s', Reaches doc policy v style ids s style' (id :: ids') s' ∧ event style' id s'

/-- Such a visit is that of the node itself or comes below it. -/
def HappensIn (doc : Document) (policy : ImportantPolicy) (v : Visitor σ)
    (event : Style → Nat → σ → Prop) (style : Style) (id : Nat) (s : σ) : Prop :=
  event style id s ∨ ∃ e flow s₁, doc.element? id = some e ∧
    v.enter id e (e.styleUnder policy style) s = .ok flow s₁ ∧ flow ≠ .stop ∧
    Happens doc policy v event (e.styleUnder policy style).inheritedPart.style (below doc id flow) s₁

section Happens

variable {event : Style → Nat → σ → Prop} {style : Style} {id : Nat} {ids : List Nat} {s s₁ s₂ : σ}

theorem not_happens_nil : ¬ Happens doc policy v event style [] s := by
  rintro ⟨_, _, _, _, h, -⟩
  cases h

/-- It happens in the next node or, if the traversal goes on, behind it. -/
theorem happens_cons : Happens doc policy v event style (id :: ids) s ↔
    HappensIn doc policy v event style id s ∨
    ∃ s₁, traverse doc policy v style [id] s = .ok true s₁ ∧
      Happens doc policy v event style ids s₁ := by
  constructor
  · rintro ⟨style', id', ids', s', h, he⟩
    cases h with
    | refl => exact .inl (.inl he)
    | inside isElement entered goesOn rest =>
      exact .inl (.inr ⟨_, _, _, isElement, entered, goesOn, _, _, _, _, rest, he⟩)
    | after visited rest => exact .inr ⟨_, visited, _, _, _, _, rest, he⟩
  · rintro ((he | ⟨e, flow, s₁, isElement, entered, goesOn, style', id', ids', s', rest, he⟩) |
      ⟨s₁, visited, style', id', ids', s', rest, he⟩)
    · exact ⟨style, id, ids, s, .refl _ _ _, he⟩
    · exact ⟨style', id', ids', s', .inside isElement entered goesOn rest, he⟩
    · exact ⟨style', id', ids', s', .after visited rest, he⟩

theorem happensIn_text {t : String} (ht : doc.text? id = some t) :
    HappensIn doc policy v event style id s ↔ event style id s := by
  simp [HappensIn, Document.element?_of_text? ht]

theorem happensIn_element {e : Element} {flow : Flow} (isElement : doc.element? id = some e)
    (entered : v.enter id e (e.styleUnder policy style) s = .ok flow s₁) (goesOn : flow ≠ .stop) :
    HappensIn doc policy v event style id s ↔ event style id s ∨
      Happens doc policy v event (e.styleUnder policy style).inheritedPart.style
        (below doc id flow) s₁ := by
  refine or_congr_right ⟨?_, fun h => ⟨e, flow, s₁, isElement, entered, goesOn, h⟩⟩
  rintro ⟨e', flow', s', isElement', entered', -, h⟩
  obtain rfl := Option.some.inj (isElement.symm.trans isElement')
  rw [entered] at entered'
  cases entered'
  exact h

/-- An element that is not entered has no visits below it. -/
theorem happensIn_closed {e : Element} (isElement : doc.element? id = some e)
    (closed : ∀ flow s₁, v.enter id e (e.styleUnder policy style) s = .ok flow s₁ → flow = .stop) :
    HappensIn doc policy v event style id s ↔ event style id s := by
  refine or_iff_left ?_
  rintro ⟨e', flow, s₁, isElement', entered, goesOn, -⟩
  obtain rfl := Option.some.inj (isElement.symm.trans isElement')
  exact goesOn (closed flow s₁ entered)

theorem happens_text {t : String} (ht : doc.text? id = some t)
    (visited : traverse doc policy v style [id] s = .ok true s₁) :
    Happens doc policy v event style (id :: ids) s ↔
      event style id s ∨ Happens doc policy v event style ids s₁ := by
  rw [happens_cons, happensIn_text ht]
  simp [visited]

theorem happens_element {e : Element} {flow : Flow} (isElement : doc.element? id = some e)
    (entered : v.enter id e (e.styleUnder policy style) s = .ok flow s₁) (goesOn : flow ≠ .stop)
    (visited : traverse doc policy v style [id] s = .ok true s₂) :
    Happens doc policy v event style (id :: ids) s ↔
      (event style id s ∨
        Happens doc policy v event (e.styleUnder policy style).inheritedPart.style
          (below doc id flow) s₁) ∨
      Happens doc policy v event style ids s₂ := by
  rw [happens_cons, happensIn_element isElement entered goesOn]
  simp [visited]

end Happens

/-- What is known of a call that was made in `s`: it succeeded and left a state related to `s`, or it
failed with a fault that is allowed. -/
def Ends {α : Type} (R : σ → σ → Prop) (allowed : Fault → Prop) (s : σ) :
    EStateM.Result Fault σ α → Prop
  | .ok _ s₁ => R s s₁
  | .error fault _ => allowed fault

/-- What is to be shown of a visitor so that a relation holds of its traversals.  The relation is
between the states before and after, and may depend on whether there was an event in between.  Of an
element it has to hold as soon as it holds of what is below. -/
structure Tracks (doc : Document) (policy : ImportantPolicy) (v : Visitor σ)
    (event : Style → Nat → σ → Prop) (R : Prop → σ → σ → Prop) (allowed : Fault → Prop) :
    Prop where
  refl : ∀ s, R False s s
  trans : ∀ {p q s₁ s₂ s₃}, R p s₁ s₂ → R q s₂ s₃ → R (p ∨ q) s₁ s₃
  text : ∀ id t style s, doc.text? id = some t →
    match v.text id t style s with
    | .ok flow s₁ => flow ≠ .stop ∧ R (event style id s) s s₁
    | .error fault _ => allowed fault
  element : ∀ id e style s, doc.element? id = some e →
    match v.enter id e (e.styleUnder policy style) s with
    | .ok flow s₁ =>
      flow ≠ .stop ∧ ∀ p s₂, R p s₁ s₂ →
        Ends (R (event style id s ∨ p)) allowed s (v.leave id e (e.styleUnder policy style) s₂)
    | .error fault _ => allowed fault

section Tracks

variable {event : Style → Nat → σ → Prop} {R : Prop → σ → σ → Prop} {allowed : Fault → Prop}

/-- It holds of a node as soon as it holds of what is below. -/
theorem Tracks.visit (h : Tracks doc policy v event R allowed) {id : Nat} (hid : id < doc.size)
    (hbelow : ∀ flow style s,
      match traverse doc policy v style (below doc id flow) s with
      | .ok go s₁ => go = true ∧ R (Happens doc policy v event style (below doc id flow) s) s s₁
      | .error fault _ => allowed fault) (style : Style) (s : σ) :
    match traverse doc policy v style [id] s with
    | .ok go s₁ => go = true ∧ R (HappensIn doc policy v event style id s) s s₁
    | .error fault _ => allowed fault := by
  rcases Document.text_or_element hid with ⟨t, ht⟩ | ⟨e, he⟩
  · have hcall := h.text id t style s ht
    rw [traverse_text ht]
    cases hv : v.text id t style s with
    | error fault s₁ =>
      rw [hv] at hcall
      exact hcall
    | ok flow s₁ =>
      rw [hv] at hcall
      simp only [andThen, if_neg hcall.1, traverse_nil, happensIn_text ht]
      exact ⟨trivial, hcall.2⟩
  · have hcall := h.element id e style s he
    rw [traverse_element he]
    cases hv : v.enter id e (e.styleUnder policy style) s with
    | error fault s₁ =>
      rw [hv] at hcall
      exact hcall
    | ok flow s₁ =>
      rw [hv] at hcall
      simp only [andThen, if_neg hcall.1, happensIn_element he hv hcall.1]
      have hsub := hbelow flow (e.styleUnder policy style).inheritedPart.style s₁
      cases hb : traverse doc policy v (e.styleUnder policy style).inheritedPart.style
          (below doc id flow) s₁ with
      | error fault s₂ =>
        rw [hb] at hsub
        exact hsub
      | ok go s₂ =>
        rw [hb] at hsub
        obtain ⟨rfl, hsub⟩ := hsub
        -- What holds of all that is below is what the end of the element needs.
        have hleave := hcall.2 _ s₂ hsub
        simp only [if_true]
        cases hl : v.leave id e (e.styleUnder policy style) s₂ with
        | error fault s₃ =>
          rw [hl] at hleave
          exact hleave
        | ok _ s₃ =>
          rw [hl] at hleave
          simp only [traverse_nil]
          exact ⟨trivial, hleave⟩

/-- Such a relation holds between the ends of every traversal, by the events of all its moments. -/
theorem traverse_ends (h : Tracks doc policy v event R allowed) :
    ∀ (ids : List Nat) (style : Style) (s : σ), (∀ id ∈ ids, id < doc.size) →
      match traverse doc policy v style ids s with
      | .ok go s₁ => go = true ∧ R (Happens doc policy v event style ids s) s s₁
      | .error fault _ => allowed fault
  | [], style, s, _ => by
    rw [traverse_nil, eq_false not_happens_nil]
    exact ⟨rfl, h.refl s⟩
  | id :: ids, style, s, hin => by
    have hids : ∀ x ∈ ids, x < doc.size := fun x hx => hin x (List.mem_cons_of_mem _ hx)
    have hhere := h.visit (hin id List.mem_cons_self) (fun flow style s =>
      traverse_ends h (below doc id flow) style s fun x hx => lt_size_of_mem_below hx) style s
    rw [traverse_cons]
    cases hv : traverse doc policy v style [id] s with
    | error fault s₁ =>
      rw [hv] at hhere
      exact hhere
    | ok go s₁ =>
      rw [hv] at hhere
      obtain ⟨rfl, hhere⟩ := hhere
      -- The siblings are next, from the state in which the node has left the visitor.
      have hrest := traverse_ends h ids style s₁ hids
      simp only [andThen, if_true, happens_cons, hv]
      revert hrest
      cases traverse doc policy v style ids s₁ with
      | error fault s₂ => exact fun hrest => hrest
      | ok go s₂ =>
        rintro ⟨rfl, hrest⟩
        have hall := h.trans hhere hrest
        simpa using hall
termination_by ids => doc.weights ids
decreasing_by
  · exact weights_below_lt doc id ids flow
  · exact weights_tail_lt doc id ids

end Tracks

end Induction

end Walk

end MarkupTex
