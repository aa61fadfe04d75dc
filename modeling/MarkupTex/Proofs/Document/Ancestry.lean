import MarkupTex.Proofs.Document.Moments
/-!
# Elements that are open

At any moment of a traversal some elements have been entered and not been left.  `Amid` lists them, the
innermost first, each with the states before and after it was entered.  It takes the traversal from its
front, so that what is to be shown of the open elements has one case for entering an element and one for
visiting a node with all that is below it.  `Reaches.amid` says that no moment is left out.
-/

set_option autoImplicit false

namespace MarkupTex.Walk

variable {σ : Type} {doc : Document} {policy : ImportantPolicy} {v : Visitor σ} {root : Nat}
  {start s s' : σ} {style style' : Style} {ids ids' : List Nat}

/-- An element that was entered, with its style and the states around entering it. -/
structure Entry (σ : Type) where
  id : Nat
  element : Element
  style : Style
  flow : Flow
  before : σ
  after : σ

/-- `Amid doc policy v root start entries style ids s`: in the traversal of the document from `start` there
is a moment between two calls where the state is `s`, the elements of `entries` are open, and of the children
of the innermost one, which inherit `style`, the nodes `ids` are still to be visited. -/
inductive Amid (doc : Document) (policy : ImportantPolicy) (v : Visitor σ) (root : Nat) (start : σ) :
    List (Entry σ) → Style → List Nat → σ → Prop where
  | start : Amid doc policy v root start [] Style.empty [root] start
  | inside {entries : List (Entry σ)} {style : Style} {id : Nat} {ids : List Nat} {e : Element}
      {flow : Flow} {s s₁ : σ} (h : Amid doc policy v root start entries style (id :: ids) s)
      (isElement : doc.element? id = some e)
      (entered : v.enter id e (e.styleUnder policy style) s = .ok flow s₁) (goesOn : flow ≠ .stop) :
      Amid doc policy v root start (⟨id, e, e.styleUnder policy style, flow, s, s₁⟩ :: entries)
        (e.styleUnder policy style).inheritedPart.style (below doc id flow) s₁
  | after {entries : List (Entry σ)} {style : Style} {id : Nat} {ids : List Nat} {s s₁ : σ}
      (h : Amid doc policy v root start entries style (id :: ids) s)
      (visited : traverse doc policy v style [id] s = .ok true s₁) :
      Amid doc policy v root start entries style ids s₁

variable {entry : Entry σ} {entries : List (Entry σ)}

/-- The elements that are open at a moment stay open at those within. -/
theorem Amid.onward (h : Reaches doc policy v style ids s style' ids' s')
    (hamid : Amid doc policy v root start entries style ids s) :
    ∃ inner, Amid doc policy v root start (inner ++ entries) style' ids' s' := by
  induction h generalizing entries with
  | refl => exact ⟨[], hamid⟩
  | inside isElement entered goesOn _ ih =>
    obtain ⟨inner, hinner⟩ := ih (hamid.inside isElement entered goesOn)
    exact ⟨inner ++ [_], by rwa [List.append_assoc]⟩
  | after visited _ ih => exact ih (hamid.after visited)

theorem Reaches.amid (h : Reaches doc policy v Style.empty [root] start style ids s) :
    ∃ entries, Amid doc policy v root start entries style ids s := by
  obtain ⟨inner, hinner⟩ := Amid.onward h .start
  exact ⟨_, hinner⟩

namespace Amid

theorem reaches (h : Amid doc policy v root start entries style ids s) :
    Reaches doc policy v Style.empty [root] start style ids s := by
  induction h with
  | start => exact .refl _ _ _
  | inside _ isElement entered goesOn ih => exact ih.trans (.inside isElement entered goesOn (.refl _ _ _))
  | after _ visited ih => exact ih.trans (.after visited (.refl _ _ _))

/-- The turn came to each open element among the children of the one around it. -/
theorem enclosing (h : Amid doc policy v root start (entry :: entries) style ids s) :
    ∃ style' ids', Amid doc policy v root start entries style' (entry.id :: ids') entry.before ∧
      doc.element? entry.id = some entry.element ∧
      entry.style = entry.element.styleUnder policy style' ∧
      v.enter entry.id entry.element entry.style entry.before = .ok entry.flow entry.after ∧
      entry.flow ≠ .stop ∧ style = entry.style.inheritedPart.style := by
  generalize hopen : entry :: entries = opened at h
  induction h with
  | start => cases hopen
  | inside h isElement entered goesOn =>
    cases hopen
    exact ⟨_, _, h, isElement, rfl, entered, goesOn, rfl⟩
  | after _ _ ih => exact ih hopen

/-- What is still to be visited is among the children of the innermost element. -/
theorem mem_below (h : Amid doc policy v root start (entry :: entries) style ids s) :
    ∀ x ∈ ids, x ∈ Walk.below doc entry.id entry.flow := by
  generalize hopen : entry :: entries = opened at h
  induction h with
  | start => cases hopen
  | inside =>
    cases hopen
    exact fun _ hx => hx
  | after _ _ ih => exact fun x hx => ih hopen x (List.mem_cons_of_mem _ hx)

/-- From every open element a path leads to what is still to be visited. -/
theorem leads (h : Amid doc policy v root start entries style ids s) {x : Nat} (hx : x ∈ ids) :
    ∀ entry ∈ entries, ∃ path, doc.Leads entry.id path x := by
  induction entries generalizing style ids s x with
  | nil => simp
  | cons first entries ih =>
    have hchild : x ∈ doc.children first.id := by
      have hbelow := h.mem_below x hx
      rw [Walk.below] at hbelow
      split at hbelow
      · exact hbelow
      · cases hbelow
    intro entry hentry
    rcases List.mem_cons.mp hentry with rfl | hentry
    · exact ⟨_, .child .start hchild⟩
    · obtain ⟨_, _, houter, -⟩ := h.enclosing
      obtain ⟨path, hpath⟩ := ih houter List.mem_cons_self entry hentry
      exact ⟨_, hpath.child hchild⟩

/-- The style that the nodes inherit was handed down a path. -/
theorem handedDown (h : Amid doc policy v root start entries style ids s) :
    ∃ path, HandedDown doc policy path style := by
  induction h with
  | start => exact ⟨[], handedDown_empty⟩
  | inside _ isElement _ _ ih =>
    obtain ⟨path, hpath⟩ := ih
    exact ⟨_, hpath.below isElement⟩
  | after _ _ ih => exact ih

theorem proper (h : Amid doc policy v root start (entry :: entries) style ids s) :
    entry.style.Proper := by
  obtain ⟨style', _, houter, -, hstyle, -⟩ := h.enclosing
  obtain ⟨path, hpath⟩ := houter.handedDown
  rw [hstyle]
  exact hpath.proper_styleUnder entry.element

end Amid

end MarkupTex.Walk
