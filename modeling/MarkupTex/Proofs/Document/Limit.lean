import MarkupTex.Proofs.Document.Traversal
/-!
# A traversal that may be cut off

The stack of a walk may have a limit.  What this does to a walk can be said without a stack: on having
entered an element, `traverseWithin` counts the steps that would wait, and breaks off where they are too
many.

So the limit has a say in where a traversal ends, and in nothing else.  `traverseWithin_cut` puts this as
a relation that every call extends: at the place where the traversal was cut off, its state is one that the
whole traversal goes on from.

`traverse_accrues` is for what depends on the calls that there were: it holds of a traversal that ends with a
fault as well as of one that comes to its end.
-/

set_option autoImplicit false

namespace MarkupTex

namespace Walk

variable {σ : Type} {doc : Document} {policy : ImportantPolicy} {limit : Option Nat} {v : Visitor σ}
  {style : Style} {id size : Nat} {ids : List Nat} {s : σ}

/-- The traversal of a walk with a limit.  Below these nodes `size` steps wait; an element takes two steps
of its own and one for each node below it. -/
def traverseWithin (doc : Document) (policy : ImportantPolicy) (limit : Option Nat) (v : Visitor σ)
    (size : Nat) (inherited : Style) : List Nat → EStateM Fault σ Bool
  | [] => pure true
  | id :: ids =>
    match doc.node? id with
    | none => throw (Document.missing id)
    | some { content := .text s, .. } => do
      if (← v.text id s inherited) = .stop then return false
      traverseWithin doc policy limit v size inherited ids
    | some { content := .element e, .. } => do
      let own := e.styleUnder policy inherited
      let flow ← v.enter id e own
      if flow = .stop then return false
      let waiting := ids.length + size
      let entries := (below doc id flow).length + 2
      if allows limit (waiting + entries) then
        if ← traverseWithin doc policy limit v (waiting + 2) own.inheritedPart.style
            (below doc id flow) then
          v.leave id e own
          traverseWithin doc policy limit v size inherited ids
        else return false
      else throw (overflow waiting entries)
termination_by ids => doc.weights ids
decreasing_by
  · exact weights_tail_lt doc id ids
  · exact weights_below_lt doc id ids flow
  · exact weights_tail_lt doc id ids

/-! ## Equations -/

@[simp] theorem traverseWithin_nil :
    traverseWithin doc policy limit v size style [] s = .ok true s := by
  rw [traverseWithin]
  rfl

theorem traverseWithin_missing (h : doc.node? id = none) :
    traverseWithin doc policy limit v size style (id :: ids) s = .error (Document.missing id) s := by
  rw [traverseWithin]
  simp only [h]
  rfl

theorem traverseWithin_text {text : String} (h : doc.text? id = some text) :
    traverseWithin doc policy limit v size style (id :: ids) s =
      andThen (v.text id text style s) fun flow s₁ =>
        if flow = .stop then .ok false s₁
        else traverseWithin doc policy limit v size style ids s₁ := by
  obtain ⟨parent, children, hn⟩ := Document.node?_of_text? h
  rw [traverseWithin]
  simp only [hn]
  cases hv : v.text id text style s with
  | error fault s₁ => simp [bind, EStateM.bind, hv, andThen]
  | ok flow s₁ =>
    by_cases hf : flow = .stop <;>
      simp [bind, EStateM.bind, pure, EStateM.pure, hv, andThen, hf]

theorem traverseWithin_element {e : Element} (h : doc.element? id = some e) :
    traverseWithin doc policy limit v size style (id :: ids) s =
      andThen (v.enter id e (e.styleUnder policy style) s) fun flow s₁ =>
        if flow = .stop then .ok false s₁
        else if allows limit (ids.length + size + ((below doc id flow).length + 2)) then
          andThen (traverseWithin doc policy limit v (ids.length + size + 2)
              (e.styleUnder policy style).inheritedPart.style (below doc id flow) s₁) fun go s₂ =>
            if go then
              andThen (v.leave id e (e.styleUnder policy style) s₂) fun _ s₃ =>
                traverseWithin doc policy limit v size style ids s₃
            else .ok false s₂
        else .error (overflow (ids.length + size) ((below doc id flow).length + 2)) s₁ := by
  obtain ⟨parent, children, hn⟩ := Document.node?_of_element? h
  rw [traverseWithin]
  simp only [hn]
  cases hv : v.enter id e (e.styleUnder policy style) s with
  | error fault s₁ => simp [bind, EStateM.bind, hv, andThen]
  | ok flow s₁ =>
    by_cases hf : flow = .stop
    · simp [bind, EStateM.bind, pure, EStateM.pure, hv, andThen, hf]
    · simp only [bind, EStateM.bind, hv, andThen, hf, if_false]
      by_cases ha : allows limit (ids.length + size + ((below doc id flow).length + 2))
      · simp only [ha, if_true, EStateM.bind]
        cases ht : traverseWithin doc policy limit v (ids.length + size + 2)
            (e.styleUnder policy style).inheritedPart.style (below doc id flow) s₁ with
        | error fault s₂ => rfl
        | ok go s₂ =>
          cases go with
          | false => rfl
          | true =>
            simp only [if_true]
            cases hl : v.leave id e (e.styleUnder policy style) s₂ <;>
              simp [EStateM.bind, hl]
      · simp [ha]

/-! ## What a limit changes -/

/-- Without a limit there is always room. -/
theorem traverseWithin_none (doc : Document) (policy : ImportantPolicy) (v : Visitor σ) :
    ∀ (ids : List Nat) (size : Nat) (style : Style) (s : σ),
      traverseWithin doc policy none v size style ids s = traverse doc policy v style ids s
  | [], size, style, s => by rw [traverseWithin_nil, traverse_nil]
  | id :: ids, size, style, s => by
    cases hn : doc.node? id with
    | none => rw [traverseWithin_missing hn, traverse_missing hn]
    | some node =>
      rcases Document.text_or_element (Array.getElem?_eq_some_iff.mp hn).1 with ⟨t, ht⟩ | ⟨e, he⟩
      · rw [traverseWithin_text ht, traverse_text ht]
        congr 1
        funext flow s₁
        rw [traverseWithin_none doc policy v ids]
      · rw [traverseWithin_element he, traverse_element he]
        congr 1
        funext flow s₁
        by_cases hf : flow = .stop
        · simp only [hf, if_true]
        · simp only [hf, if_false, allows, Option.all_none, if_true,
            traverseWithin_none doc policy v (below doc id flow), traverseWithin_none doc policy v ids]
termination_by ids => doc.weights ids
decreasing_by
  · exact weights_tail_lt doc id ids
  · exact weights_below_lt doc id ids flow
  · exact weights_tail_lt doc id ids

/-- The state at the end of a calculation, be it a fault. -/
def after {α : Type} : EStateM.Result Fault σ α → σ
  | .ok _ s => s
  | .error _ s => s

/-- Every call of the visitor, also one that fails, leaves a state that is related to the one before. -/
structure Grows (v : Visitor σ) (R : σ → σ → Prop) : Prop where
  refl : ∀ s, R s s
  trans : ∀ {s₁ s₂ s₃}, R s₁ s₂ → R s₂ s₃ → R s₁ s₃
  enter : ∀ id e style s, R s (after (v.enter id e style s))
  text : ∀ id t style s, R s (after (v.text id t style s))
  leave : ∀ id e style s, R s (after (v.leave id e style s))

variable {R : σ → σ → Prop}

/-- What follows a calculation only adds to it. -/
theorem after_andThen {α β : Type} (R : σ → σ → Prop) (trans : ∀ {s₁ s₂ s₃}, R s₁ s₂ → R s₂ s₃ → R s₁ s₃)
    {r : EStateM.Result Fault σ α} {next : α → σ → EStateM.Result Fault σ β} {s : σ}
    (hr : R s (after r)) (hnext : ∀ a s₁, R s₁ (after (next a s₁))) :
    R s (after (Walk.andThen r next)) := by
  cases r with
  | error fault s₁ => exact hr
  | ok a s₁ => exact trans hr (hnext a s₁)

theorem Grows.andThen {α β : Type} (h : Grows v R) {r : EStateM.Result Fault σ α}
    {next : α → σ → EStateM.Result Fault σ β} (hr : R s (after r))
    (hnext : ∀ a s₁, R s₁ (after (next a s₁))) : R s (after (andThen r next)) :=
  after_andThen R h.trans hr hnext

theorem traverse_grows (h : Grows v R) :
    ∀ (ids : List Nat) (style : Style) (s : σ), R s (after (traverse doc policy v style ids s))
  | [], style, s => by
    rw [traverse_nil]
    exact h.refl s
  | id :: ids, style, s => by
    cases hn : doc.node? id with
    | none =>
      rw [traverse_missing hn]
      exact h.refl s
    | some node =>
      rcases Document.text_or_element (Array.getElem?_eq_some_iff.mp hn).1 with ⟨t, ht⟩ | ⟨e, he⟩
      · rw [traverse_text ht]
        refine h.andThen (h.text id t style s) fun flow s₁ => ?_
        split
        · exact h.refl s₁
        · exact traverse_grows h ids style s₁
      · rw [traverse_element he]
        refine h.andThen (h.enter id e _ s) fun flow s₁ => ?_
        split
        · exact h.refl s₁
        · refine h.andThen (traverse_grows h (below doc id flow) _ s₁) fun go s₂ => ?_
          split
          · exact h.andThen (h.leave id e _ s₂) fun _ s₃ => traverse_grows h ids style s₃
          · exact h.refl s₂
termination_by ids => doc.weights ids
decreasing_by
  · exact weights_tail_lt doc id ids
  · exact weights_below_lt doc id ids flow
  · exact weights_tail_lt doc id ids

/-! ## Wherever it ends -/

section Accrues

variable {event : Style → Nat → σ → Prop}

/-- What is to be shown of every call, also of one that fails, so that a relation holds of the traversals.  It is
between the states before and after, and may depend on whether there was an event in between. -/
structure Accrues (doc : Document) (policy : ImportantPolicy) (v : Visitor σ)
    (event : Style → Nat → σ → Prop) (R : Prop → σ → σ → Prop) : Prop where
  refl : ∀ s, R False s s
  trans : ∀ {p q s₁ s₂ s₃}, R p s₁ s₂ → R q s₂ s₃ → R (p ∨ q) s₁ s₃
  text : ∀ id t style s, doc.text? id = some t → R (event style id s) s (after (v.text id t style s))
  enter : ∀ id e style s, doc.element? id = some e →
    R (event style id s) s (after (v.enter id e (e.styleUnder policy style) s))
  leave : ∀ id e style s, R False s (after (v.leave id e style s))

/-- It holds of a node as soon as it holds of what is below. -/
theorem Accrues.visit {R : Prop → σ → σ → Prop} (h : Accrues doc policy v event R) (hid : id < doc.size)
    (hbelow : ∀ flow style s, R (Happens doc policy v event style (below doc id flow) s) s
      (after (traverse doc policy v style (below doc id flow) s))) (style : Style) (s : σ) :
    R (HappensIn doc policy v event style id s) s (after (traverse doc policy v style [id] s)) := by
  rcases Document.text_or_element hid with ⟨t, ht⟩ | ⟨e, he⟩
  · have hcall := h.text id t style s ht
    rw [traverse_text ht, happensIn_text ht]
    cases hv : v.text id t style s with
    | error fault s₁ => rwa [hv] at hcall
    | ok flow s₁ =>
      rw [hv] at hcall
      by_cases hflow : flow = .stop <;> simpa [andThen, after, hflow] using hcall
  · have hcall := h.enter id e style s he
    rw [traverse_element he]
    cases hv : v.enter id e (e.styleUnder policy style) s with
    | error fault s₁ =>
      rw [hv] at hcall
      rwa [happensIn_closed he (by simp [hv])]
    | ok flow s₁ =>
      rw [hv] at hcall
      by_cases hflow : flow = .stop
      · rw [happensIn_closed he (by simp [hv, hflow])]
        simpa only [andThen, after, if_pos hflow] using hcall
      · have hsub := h.trans hcall (hbelow flow (e.styleUnder policy style).inheritedPart.style s₁)
        rw [happensIn_element he hv hflow]
        simp only [andThen, if_neg hflow]
        cases hb : traverse doc policy v (e.styleUnder policy style).inheritedPart.style
            (below doc id flow) s₁ with
        | error fault s₂ => rwa [hb] at hsub
        | ok go s₂ =>
          rw [hb] at hsub
          cases go with
          | false => exact hsub
          | true =>
            have hleave := h.trans hsub (h.leave id e (e.styleUnder policy style) s₂)
            rw [or_false] at hleave
            simp only [if_true, traverse_nil]
            cases hl : v.leave id e (e.styleUnder policy style) s₂ <;> rwa [hl] at hleave

/-- Such a relation holds between the first and the last state of every traversal. -/
theorem traverse_accrues {R : Prop → σ → σ → Prop} (h : Accrues doc policy v event R) :
    ∀ (ids : List Nat) (style : Style) (s : σ), (∀ id ∈ ids, id < doc.size) →
      R (Happens doc policy v event style ids s) s (after (traverse doc policy v style ids s))
  | [], style, s, _ => by
    rw [traverse_nil, eq_false not_happens_nil]
    exact h.refl s
  | id :: ids, style, s, hin => by
    have hids : ∀ x ∈ ids, x < doc.size := fun x hx => hin x (List.mem_cons_of_mem _ hx)
    have hhere := h.visit (hin id List.mem_cons_self) (fun flow style s =>
      traverse_accrues h (below doc id flow) style s fun x hx => lt_size_of_mem_below hx) style s
    rw [traverse_cons, happens_cons]
    cases hv : traverse doc policy v style [id] s with
    | error fault s₁ =>
      rw [hv] at hhere
      simpa [andThen] using hhere
    | ok go s₁ =>
      rw [hv] at hhere
      cases go with
      | false => simpa [andThen] using hhere
      | true =>
        -- Only behind a node that was left is there more to come.
        have hall := h.trans hhere (traverse_accrues h ids style s₁ hids)
        simpa [andThen] using hall
termination_by ids => doc.weights ids
decreasing_by
  · exact weights_below_lt doc id ids flow
  · exact weights_tail_lt doc id ids

end Accrues

/-- The calculation `cut` is `whole`, or was cut off on the way to its end. -/
def CutFrom {α : Type} (R : σ → σ → Prop) (cut whole : EStateM.Result Fault σ α) : Prop :=
  cut = whole ∨ ∃ size entries s, cut = .error (overflow size entries) s ∧ R s (after whole)

theorem CutFrom.after {α : Type} {cut whole : EStateM.Result Fault σ α} (h : CutFrom R cut whole)
    (refl : ∀ s, R s s) : R (after cut) (after whole) := by
  rcases h with rfl | ⟨size, entries, s, rfl, h⟩
  · exact refl _
  · exact h

/-- Going on in the same way after a calculation that may have been cut off. -/
theorem CutFrom.andThen {α β : Type} {cut whole : EStateM.Result Fault σ α} (h : CutFrom R cut whole)
    (hv : Grows v R) {next next' : α → σ → EStateM.Result Fault σ β}
    (hgrows : ∀ a s, R s (Walk.after (next' a s)))
    (hnext : ∀ a s, CutFrom R (next a s) (next' a s)) :
    CutFrom R (Walk.andThen cut next) (Walk.andThen whole next') := by
  rcases h with rfl | ⟨size, entries, s, rfl, h⟩
  · cases cut with
    | error fault s => exact Or.inl rfl
    | ok a s => exact hnext a s
  · refine Or.inr ⟨size, entries, s, rfl, ?_⟩
    cases whole with
    | error fault s₁ => exact h
    | ok a s₁ => exact hv.trans h (hgrows a s₁)

/-- A traversal within a limit is the whole traversal, or was cut off on the way. -/
theorem traverseWithin_cut (h : Grows v R) (limit : Option Nat) :
    ∀ (ids : List Nat) (size : Nat) (style : Style) (s : σ),
      CutFrom R (traverseWithin doc policy limit v size style ids s)
        (traverse doc policy v style ids s)
  | [], size, style, s => by
    rw [traverseWithin_nil, traverse_nil]
    exact Or.inl rfl
  | id :: ids, size, style, s => by
    cases hn : doc.node? id with
    | none =>
      rw [traverseWithin_missing hn, traverse_missing hn]
      exact Or.inl rfl
    | some node =>
      rcases Document.text_or_element (Array.getElem?_eq_some_iff.mp hn).1 with ⟨t, ht⟩ | ⟨e, he⟩
      · rw [traverseWithin_text ht, traverse_text ht]
        cases v.text id t style s with
        | error fault s₁ => exact Or.inl rfl
        | ok flow s₁ =>
          simp only [andThen]
          split
          · exact Or.inl rfl
          · exact traverseWithin_cut h limit ids size style s₁
      · rw [traverseWithin_element he, traverse_element he]
        cases v.enter id e (e.styleUnder policy style) s with
        | error fault s₁ => exact Or.inl rfl
        | ok flow s₁ =>
          simp only [andThen]
          by_cases hf : flow = .stop
          · simp only [hf, if_true]
            exact Or.inl rfl
          · simp only [hf, if_false]
            -- What the whole traversal still does from here on.
            have hrest : ∀ go s₂, R s₂ (after (if go = true then
                Walk.andThen (v.leave id e (e.styleUnder policy style) s₂) fun _ s₃ =>
                  traverse doc policy v style ids s₃
                else .ok false s₂)) := by
              intro go s₂
              split
              · exact h.andThen (h.leave id e _ s₂) fun _ s₃ => traverse_grows h ids style s₃
              · exact h.refl s₂
            have hbelow : R s₁ (after (traverse doc policy v
                (e.styleUnder policy style).inheritedPart.style (below doc id flow) s₁)) :=
              traverse_grows h (below doc id flow) _ s₁
            have hwhole := h.andThen hbelow hrest
            by_cases ha : allows limit (ids.length + size + ((below doc id flow).length + 2))
            · simp only [ha, if_true]
              refine (traverseWithin_cut h limit (below doc id flow) _ _ s₁).andThen h hrest ?_
              intro go s₂
              split
              · cases v.leave id e (e.styleUnder policy style) s₂ with
                | error fault s₃ => exact Or.inl rfl
                | ok _ s₃ => exact traverseWithin_cut h limit ids size style s₃
              · exact Or.inl rfl
            · -- No room: the cut is here, behind the call, and the rest of the whole traversal grows.
              simp only [ha]
              exact Or.inr ⟨_, _, s₁, rfl, hwhole⟩
termination_by ids => doc.weights ids
decreasing_by
  · exact weights_tail_lt doc id ids
  · exact weights_below_lt doc id ids flow
  · exact weights_tail_lt doc id ids

end Walk

end MarkupTex
