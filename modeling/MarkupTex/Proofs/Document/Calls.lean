import MarkupTex.Proofs.Document.Limit
/-!
# The calls of a walk

A visitor may keep a record of the calls that it gets: of the node, and of the style that it is shown
there.  The record changes nothing in what the visitor does, which `traverseWithin_recorded` says, and so
what is shown of the record of a walk is shown of the calls that any visitor gets in it.

The record only ever grows.  With this the calls of a traversal that was cut off are the first ones of the
whole traversal.  And `Visits` says which calls there can be: of a node that the traversal comes down to, with
the style that is handed down to it on this way.
-/

set_option autoImplicit false

namespace MarkupTex

/-- One call of a visitor, with the style that holds at the node. -/
inductive Call where
  | enter (id : Nat) (style : Style)
  | text (id : Nat) (style : Style)
  | leave (id : Nat) (style : Style)
  deriving DecidableEq, Repr

namespace Call

def id : Call → Nat
  | enter id _ | text id _ | leave id _ => id

def style : Call → Style
  | enter _ style | text _ style | leave _ style => style

end Call

/-- The state of a visitor with the calls that it got, in order. -/
structure Recorded (σ : Type) where
  calls : List Call
  state : σ

section Recording

variable {σ α β : Type}

/-- Notes a call, whatever becomes of it. -/
def Call.noting (call : Call) (act : EStateM Fault σ α) : EStateM Fault (Recorded σ) α := fun r =>
  match act r.state with
  | .ok a state => .ok a ⟨r.calls ++ [call], state⟩
  | .error fault state => .error fault ⟨r.calls ++ [call], state⟩

/-- The visitor that does the same and keeps a record. -/
def Visitor.recorded (v : Visitor σ) : Visitor (Recorded σ) where
  enter id e style := (Call.enter id style).noting (v.enter id e style)
  text id s style := (Call.text id style).noting (v.text id s style)
  leave id e style := (Call.leave id style).noting (v.leave id e style)

end Recording

namespace Walk

variable {σ α β : Type} {doc : Document} {policy : ImportantPolicy} {v : Visitor σ}

theorem calls_noting (call : Call) (act : EStateM Fault σ α) (r : Recorded σ) :
    (after (call.noting act r)).calls = r.calls ++ [call] := by
  rw [Call.noting]
  cases act r.state <;> rfl

/-! ## The record changes nothing -/

/-- What is left of a result without the record. -/
def forget : EStateM.Result Fault (Recorded σ) α → EStateM.Result Fault σ α
  | .ok a r => .ok a r.state
  | .error fault r => .error fault r.state

@[simp] theorem forget_noting (call : Call) (act : EStateM Fault σ α) (r : Recorded σ) :
    forget (call.noting act r) = act r.state := by
  rw [Call.noting]
  cases act r.state <;> rfl

theorem forget_andThen {walked : EStateM.Result Fault (Recorded σ) α}
    {result : EStateM.Result Fault σ α} {next : α → Recorded σ → EStateM.Result Fault (Recorded σ) β}
    {next' : α → σ → EStateM.Result Fault σ β} (h : forget walked = result)
    (hnext : ∀ a r, forget (next a r) = next' a r.state) :
    forget (andThen walked next) = andThen result next' := by
  subst h
  cases walked with
  | error fault r => rfl
  | ok a r => exact hnext a r

/-- A visitor that keeps a record does what it did without. -/
theorem traverseWithin_recorded (doc : Document) (policy : ImportantPolicy) (limit : Option Nat)
    (v : Visitor σ) : ∀ (ids : List Nat) (size : Nat) (style : Style) (r : Recorded σ),
      forget (traverseWithin doc policy limit v.recorded size style ids r) =
        traverseWithin doc policy limit v size style ids r.state
  | [], size, style, r => by
    rw [traverseWithin_nil, traverseWithin_nil]
    rfl
  | id :: ids, size, style, r => by
    cases hn : doc.node? id with
    | none =>
      rw [traverseWithin_missing hn, traverseWithin_missing hn]
      rfl
    | some node =>
      rcases Document.text_or_element (Array.getElem?_eq_some_iff.mp hn).1 with ⟨t, ht⟩ | ⟨e, he⟩
      · rw [traverseWithin_text ht, traverseWithin_text ht]
        refine forget_andThen (forget_noting _ _ r) fun flow r₁ => ?_
        split
        · rfl
        · exact traverseWithin_recorded doc policy limit v ids size style r₁
      · rw [traverseWithin_element he, traverseWithin_element he]
        refine forget_andThen (forget_noting _ _ r) fun flow r₁ => ?_
        split
        · rfl
        · split
          · refine forget_andThen (traverseWithin_recorded doc policy limit v (below doc id flow) _ _ r₁)
              fun go r₂ => ?_
            split
            · exact forget_andThen (forget_noting _ _ r₂) fun _ r₃ =>
                traverseWithin_recorded doc policy limit v ids size style r₃
            · rfl
          · rfl
termination_by ids => doc.weights ids
decreasing_by
  · exact weights_tail_lt doc id ids
  · exact weights_below_lt doc id ids flow
  · exact weights_tail_lt doc id ids

/-! ## The record grows -/

theorem recorded_grows (v : Visitor σ) :
    Grows v.recorded fun r r' => r.calls <+: r'.calls where
  refl := fun r => List.prefix_refl r.calls
  trans := List.IsPrefix.trans
  enter := by
    intro id e style r
    rw [Visitor.recorded, calls_noting]
    exact List.prefix_append _ _
  text := by
    intro id t style r
    rw [Visitor.recorded, calls_noting]
    exact List.prefix_append _ _
  leave := by
    intro id e style r
    rw [Visitor.recorded, calls_noting]
    exact List.prefix_append _ _

/-- The calls up to a limit are the first ones of all. -/
theorem calls_traverseWithin (limit : Option Nat) (ids : List Nat) (size : Nat) (style : Style)
    (r : Recorded σ) :
    (after (traverseWithin doc policy limit v.recorded size style ids r)).calls <+:
      (after (traverse doc policy v.recorded style ids r)).calls :=
  (traverseWithin_cut (recorded_grows v) limit ids size style r).after fun r => List.prefix_refl r.calls

/-! ## Which calls there are -/

/-- A call that a traversal of these nodes can make, where they inherit `style`. -/
inductive Visits (doc : Document) (policy : ImportantPolicy) : Style → List Nat → Call → Prop where
  | text {style : Style} {ids : List Nat} {id : Nat} {t : String} (mem : id ∈ ids)
      (isText : doc.text? id = some t) : Visits doc policy style ids (.text id style)
  | enter {style : Style} {ids : List Nat} {id : Nat} {e : Element} (mem : id ∈ ids)
      (isElement : doc.element? id = some e) :
      Visits doc policy style ids (.enter id (e.styleUnder policy style))
  | leave {style : Style} {ids : List Nat} {id : Nat} {e : Element} (mem : id ∈ ids)
      (isElement : doc.element? id = some e) :
      Visits doc policy style ids (.leave id (e.styleUnder policy style))
  | inside {style : Style} {ids : List Nat} {id : Nat} {e : Element} {call : Call} (mem : id ∈ ids)
      (isElement : doc.element? id = some e)
      (visits : Visits doc policy (e.styleUnder policy style).inheritedPart.style (doc.children id)
        call) :
      Visits doc policy style ids call

theorem Visits.mono {style : Style} {ids ids' : List Nat} {call : Call}
    (h : Visits doc policy style ids call) (hsub : ids ⊆ ids') : Visits doc policy style ids' call := by
  cases h with
  | text mem isText => exact .text (hsub mem) isText
  | enter mem isElement => exact .enter (hsub mem) isElement
  | leave mem isElement => exact .leave (hsub mem) isElement
  | inside mem isElement visits => exact .inside (hsub mem) isElement visits

/-- The calls that came to the record are of this sort. -/
def Adds (sort : Call → Prop) (r r' : Recorded σ) : Prop :=
  ∀ call ∈ r'.calls, call ∈ r.calls ∨ sort call

namespace Adds

variable {sort : Call → Prop} {r r₁ r₂ : Recorded σ}

theorem refl (r : Recorded σ) : Adds sort r r := fun _ h => Or.inl h

theorem trans (h : Adds sort r r₁) (h' : Adds sort r₁ r₂) : Adds sort r r₂ := by
  intro call hc
  rcases h' call hc with hc | hs
  · exact h call hc
  · exact Or.inr hs

theorem noting {call : Call} (h : sort call) (act : EStateM Fault σ α) (r : Recorded σ) :
    Adds sort r (after (call.noting act r)) := by
  intro other hc
  rw [calls_noting] at hc
  rcases List.mem_append.mp hc with hc | hc
  · exact Or.inl hc
  · rw [List.mem_singleton.mp hc]
    exact Or.inr h

end Adds

/-- A traversal makes no other calls. -/
theorem traverse_adds {sort : Call → Prop} :
    ∀ (ids : List Nat) (style : Style) (r : Recorded σ),
      (∀ call, Visits doc policy style ids call → sort call) →
      Adds sort r (after (traverse doc policy v.recorded style ids r))
  | [], style, r, _ => by
    rw [traverse_nil]
    exact .refl r
  | id :: ids, style, r, hsort => by
    have hids : ∀ call, Visits doc policy style ids call → sort call := fun call h =>
      hsort call (h.mono fun _ hx => List.mem_cons_of_mem _ hx)
    have hmem : id ∈ id :: ids := List.mem_cons_self
    cases hn : doc.node? id with
    | none =>
      rw [traverse_missing hn]
      exact .refl r
    | some node =>
      rcases Document.text_or_element (Array.getElem?_eq_some_iff.mp hn).1 with ⟨t, ht⟩ | ⟨e, he⟩
      · rw [traverse_text ht]
        refine after_andThen (Adds sort) .trans (.noting (hsort _ (.text hmem ht)) _ r) fun flow r₁ => ?_
        split
        · exact .refl r₁
        · exact traverse_adds ids style r₁ hids
      · -- The flow is known only once the visitor has answered, but nothing else than children comes.
        have hbelow : ∀ flow call, Visits doc policy (e.styleUnder policy style).inheritedPart.style
            (below doc id flow) call → sort call := by
          intro flow call h
          refine hsort call (.inside hmem he (h.mono ?_))
          rw [below]
          split
          · exact List.Subset.refl _
          · exact List.nil_subset _
        rw [traverse_element he]
        refine after_andThen (Adds sort) .trans (.noting (hsort _ (.enter hmem he)) _ r) fun flow r₁ => ?_
        split
        · exact .refl r₁
        · refine after_andThen (Adds sort) .trans (traverse_adds (below doc id flow) _ r₁ (hbelow flow))
            fun go r₂ => ?_
          split
          · exact after_andThen (Adds sort) .trans (.noting (hsort _ (.leave hmem he)) _ r₂) fun _ r₃ =>
              traverse_adds ids style r₃ hids
          · exact .refl r₂
termination_by ids => doc.weights ids
decreasing_by
  · exact weights_tail_lt doc id ids
  · exact weights_below_lt doc id ids flow
  · exact weights_tail_lt doc id ids

end Walk

end MarkupTex
