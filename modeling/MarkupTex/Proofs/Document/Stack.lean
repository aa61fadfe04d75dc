import MarkupTex.Proofs.Document.Calls
import MarkupTex.Proofs.Style.Storage
/-!
# The stack is the recursion, suspended

A walk makes the calls of the traversal and ends as it does.  The nodes on top of its stack are the row of
siblings that the traversal is at, and the two steps below the children of an element are what the
traversal still has to do there when it comes back.

On the way the walk lends handles.  `outstanding` lists the slots that a stack has to give back, and these
are at every moment the ones that are out, `Lent a (outstanding stack) b`.  So whatever ends a walk, its
cleanup finds every handle live.  To be able to say this, `runBy` leaves open which cleanup is used:
`releaseAll` passes over what cannot be given back, `releaseEach` makes a fault of it, and there is no
difference between them.
-/

set_option autoImplicit false

namespace MarkupTex

namespace Walk

open StyleArena (WellFormed Lent Gives)

variable {σ α : Type}

/-! ## Cleaning up -/

/-- The slots that the steps of a stack have to give back. -/
def outstanding (stack : Stack) : List Nat := stack.flatMap fun entry => entry.2.owns

@[simp] theorem outstanding_cons (step : Step) (h : StyleHandle) (stack : Stack) :
    outstanding ((step, h) :: stack) = h.owns ++ outstanding stack := rfl

theorem outstanding_enterAll (h : StyleHandle) (hb : h.owned = false) (ids : List Nat) (stack : Stack) :
    outstanding (ids.map (fun id => (Step.enter id, h)) ++ stack) = outstanding stack := by
  induction ids with
  | nil => rfl
  | cons id ids ih =>
    rw [List.map_cons, List.cons_append, outstanding_cons, ih, StyleHandle.owns, hb]
    rfl

/-- Gives back handles, the first one first.  One that cannot be given back is a fault. -/
def releaseInTurn : Stack → Walking σ Unit
  | [] => pure ()
  | (_, h) :: rest => do
    release h
    releaseInTurn rest

/-- Gives back all the handles of a stack, the bottom first, and not one of them may fail. -/
def releaseEach (stack : Stack) : Walking σ Unit := releaseInTurn stack.reverse

/-- Where everything on a stack is out, the cleanup gives it back. -/
def CleansUp (cleanup : Stack → Walking σ Unit) : Prop :=
  ∀ (a₀ a : StyleArena) (stack : Stack) (s : σ), Lent a₀ (outstanding stack) a →
    cleanup stack ⟨a, s⟩ = releaseAll stack ⟨a, s⟩

theorem cleansUp_releaseAll : CleansUp (σ := σ) releaseAll := fun _ _ _ _ _ => rfl

/-- Handles that are out can be given back one after another. -/
theorem releaseInTurn_settles {a₀ : StyleArena} (s : σ) :
    ∀ (entries : Stack) (a : StyleArena), Lent a₀ (outstanding entries) a →
      ∃ b, Lent a₀ [] b ∧ releaseInTurn entries ⟨a, s⟩ = .ok () ⟨b, s⟩ ∧
        entries.foldl (fun arena entry => match arena.release entry.2 with
          | .ok arena => arena
          | .error _ => arena) a = b
  | [], a, hl => ⟨a, hl, rfl, rfl⟩
  | (step, h) :: entries, a, hl => by
    obtain ⟨c, hc, hrest⟩ := Lent.release hl
    obtain ⟨b, hb, hturn, hfold⟩ := releaseInTurn_settles s entries c hrest
    refine ⟨b, hb, ?_, ?_⟩
    · rw [releaseInTurn]
      simp only [bind, EStateM.bind, release, hc]
      exact hturn
    · rw [List.foldl_cons, hc]
      exact hfold

theorem releaseAll_settles {a₀ a : StyleArena} {stack : Stack} (s : σ)
    (hl : Lent a₀ (outstanding stack) a) :
    ∃ b, Lent a₀ [] b ∧ releaseAll stack ⟨a, s⟩ = .ok () ⟨b, s⟩ ∧
      releaseEach stack ⟨a, s⟩ = .ok () ⟨b, s⟩ := by
  have hperm : (outstanding stack).Perm (outstanding stack.reverse) :=
    (List.reverse_perm stack).symm.flatMap_right _
  obtain ⟨b, hb, hturn, hfold⟩ := releaseInTurn_settles s stack.reverse a (hl.perm hperm)
  refine ⟨b, hb, ?_, hturn⟩
  rw [← hfold]
  rfl

theorem cleansUp_releaseEach : CleansUp (σ := σ) releaseEach := by
  intro a₀ a stack s hl
  obtain ⟨b, -, hall, heach⟩ := releaseAll_settles s hl
  rw [hall, heach]

/-- One arena is left, whichever cleanup is used and whether a fault is thrown behind it. -/
theorem cleanup_settles {a₀ a : StyleArena} {stack : Stack} (s : σ)
    (hl : Lent a₀ (outstanding stack) a) :
    ∃ b, Lent a₀ [] b ∧ ∀ cleanup : Stack → Walking σ Unit, CleansUp cleanup →
      cleanup stack ⟨a, s⟩ = .ok () ⟨b, s⟩ ∧
      ∀ fault, (do cleanup stack; throw fault : Walking σ Unit) ⟨a, s⟩ = .error fault ⟨b, s⟩ := by
  obtain ⟨b, hb, hall, -⟩ := releaseAll_settles s hl
  refine ⟨b, hb, fun cleanup hclean => ?_⟩
  have hend : cleanup stack ⟨a, s⟩ = .ok () ⟨b, s⟩ := (hclean a₀ a stack s hl).trans hall
  refine ⟨hend, fun fault => ?_⟩
  simp [bind, EStateM.bind, hend]

/-! ## A walk with any cleanup -/

/-- Cleans up if `act` fails. -/
def guardingBy (cleanup : Walking σ Unit) (act : Walking σ α) : Walking σ α := fun scene =>
  match act scene with
  | .ok a scene => .ok a scene
  | .error fault scene => (do cleanup; throw fault : Walking σ α) scene

/-- The steps of a walk, with the cleanup left open. -/
def runBy (cleanup : Stack → Walking σ Unit) (doc : Document) (v : Visitor σ) (policy : ImportantPolicy)
    (limit : Option Nat) : Stack → Walking σ Unit
  | [] => pure ()
  | (.release, style) :: rest => do
    guardingBy (cleanup rest) (release style)
    runBy cleanup doc v policy limit rest
  | (.leave id, style) :: rest => do
    guardingBy (cleanup rest) (leaveNode doc v id style)
    runBy cleanup doc v policy limit rest
  | (.enter id, style) :: rest => do
    match ← guardingBy (cleanup rest) (enterNode doc v policy limit rest.length id style) with
    | .stopped => cleanup rest
    | .passed => runBy cleanup doc v policy limit rest
    | .opened own forChildren descend =>
      runBy cleanup doc v policy limit (openedSteps doc id own forChildren descend ++ rest)
termination_by stack => stackCost doc stack
decreasing_by
  · simp [Step.cost]
  · simp [Step.cost]
  · have := Step.cost_pos doc (.enter id)
    rw [stackCost_cons]
    omega
  · have := stackCost_openedSteps_lt doc id own forChildren descend
    rw [stackCost_append, stackCost_cons]
    omega

/-- A walk from an element, with the cleanup left open. -/
def walkBy (cleanup : Stack → Walking σ Unit) (doc : Document) (limit : Option Nat) (start : Nat)
    (base : StyleHandle) (policy : ImportantPolicy) (v : Visitor σ) : Walking σ Unit :=
  match doc.element? start with
  | none => throw (badStart doc start)
  | some _ =>
    if allows limit 1 then runBy cleanup doc v policy limit [(.enter start, base.borrow)]
    else throw (overflow 0 1)

section Refinement

variable {doc : Document} {policy : ImportantPolicy} {limit : Option Nat} {v : Visitor σ}
  {inherited : Style} {id : Nat} {h : StyleHandle} {a a₀ : StyleArena} {s : σ}
  {cleanup : Stack → Walking σ Unit}

theorem run_eq_runBy (doc : Document) (v : Visitor σ) (policy : ImportantPolicy) (limit : Option Nat)
    (stack : Stack) : run doc v policy limit stack = runBy releaseAll doc v policy limit stack := by
  induction stack using run.induct doc with
  | case1 => rw [run, runBy]
  | case2 style rest ih => rw [run, runBy, ih]; rfl
  | case3 id style rest ih => rw [run, runBy, ih]; rfl
  | case4 id style rest ih₁ ih₂ =>
    rw [run, runBy]
    refine bind_congr fun arrival => ?_
    cases arrival with
    | stopped => rfl
    | passed => exact ih₁
    | opened own forChildren descend => exact ih₂ own forChildren descend

theorem walkWithin_eq_walkBy (doc : Document) (limit : Option Nat) (start : Nat) (base : StyleHandle)
    (policy : ImportantPolicy) (v : Visitor σ) :
    walkWithin doc limit start base policy v = walkBy releaseAll doc limit start base policy v := by
  unfold walkWithin walkBy
  cases doc.element? start with
  | none => rfl
  | some e => rw [run_eq_runBy]

/-! ## One step -/

theorem ownStyle_gives (policy : ImportantPolicy) (wf : a.WellFormed) (hb : h.owned = false)
    (hs : a.style? h.slot = some inherited) (e : Element) (s : σ) :
    ∃ own b, ownStyle policy e h ⟨a, s⟩ = .ok own ⟨b, s⟩ ∧
      Gives a (e.styleUnder policy inherited) own b := by
  rw [ownStyle, Element.styleUnder]
  cases e.attribute? "style" with
  | none =>
    have hh : h = h.borrow := by
      cases h
      simp_all [StyleHandle.borrow]
    refine ⟨h, a, rfl, ?_⟩
    rw [hh]
    exact .of_alias wf hs
  | some block =>
    obtain ⟨own, b, hm, hg⟩ := StyleArena.merge_gives wf hs (Style.ofBlock block) policy
    refine ⟨own, b, ?_, hg⟩
    simp [bind, EStateM.bind, pure, EStateM.pure, releasingOnFault, allotting, hm, release, hb]

/-- A text ends with the handle it came with given back, which was an alias. -/
theorem enterText_eq (hb : h.owned = false) (hs : a.style? h.slot = some inherited)
    (text : String) :
    enterText v id text h ⟨a, s⟩ =
      match v.text id text inherited s with
      | .ok flow s₁ => .ok (if flow = .stop then .stopped else .passed) ⟨a, s₁⟩
      | .error fault s₁ => .error fault ⟨a, s₁⟩ := by
  rw [enterText]
  simp only [bind, EStateM.bind, styleAt, StyleArena.get_of_style? hs, visiting]
  cases v.text id text inherited s with
  | error fault s₁ => rfl
  | ok flow s₁ => simp [release, hb, pure, EStateM.pure]

/-- The arrival at an element, by the answer of the visitor.  Its two handles are out if it is open, and
none if the walk ends here. -/
theorem enterElement_spec (doc : Document) (policy : ImportantPolicy) (limit : Option Nat)
    (v : Visitor σ) (wf : a.WellFormed) (hb : h.owned = false)
    (hs : a.style? h.slot = some inherited) (id : Nat) (e : Element) (size : Nat) (s : σ) :
    match v.enter id e (e.styleUnder policy inherited) s with
    | .error fault s₁ =>
      ∃ b, Lent a [] b ∧
        enterElement doc v policy limit size id e h ⟨a, s⟩ = .error fault ⟨b, s₁⟩
    | .ok flow s₁ =>
      if flow = .stop then
        ∃ b, Lent a [] b ∧ enterElement doc v policy limit size id e h ⟨a, s⟩ = .ok .stopped ⟨b, s₁⟩
      else if allows limit (size + ((below doc id flow).length + 2)) then
        ∃ own inner b c, Gives a (e.styleUnder policy inherited) own b ∧
          Gives b (e.styleUnder policy inherited).inheritedPart.style inner c ∧
          enterElement doc v policy limit size id e h ⟨a, s⟩ =
            .ok (.opened own inner (flow = .descend)) ⟨c, s₁⟩
      else
        ∃ b, Lent a [] b ∧ enterElement doc v policy limit size id e h ⟨a, s⟩ =
          .error (overflow size ((below doc id flow).length + 2)) ⟨b, s₁⟩ := by
  obtain ⟨own, b, hown, hg⟩ := ownStyle_gives policy wf hb hs e s
  have hget := StyleArena.get_of_style? hg.holds
  obtain ⟨d, hd, hback⟩ := hg.release_back
  cases hv : v.enter id e (e.styleUnder policy inherited) s with
  | error fault s₁ =>
    -- The visitor failed, and its handle is all that is out.
    refine ⟨d, hback, ?_⟩
    simp [enterElement, bind, EStateM.bind, hown, releasingOnFault, styleAt, hget, visiting, hv,
      release, hd]
  | ok flow s₁ =>
    by_cases hf : flow = .stop
    · simp only [hf, if_true]
      refine ⟨d, hback, ?_⟩
      simp [enterElement, bind, EStateM.bind, hown, releasingOnFault, styleAt, hget, visiting, hv,
        release, hd, pure, EStateM.pure, hf]
    · obtain ⟨inner, c, hinner, hg'⟩ := StyleArena.inherited_gives hg.lent.wellFormed hg.holds
      have hlength : (below doc id flow).length =
          if flow = .descend then (doc.children id).length else 0 := by
        rw [below]
        split <;> rfl
      simp only [hf, if_false, hlength]
      by_cases ha : allows limit (size + ((if flow = .descend then (doc.children id).length else 0) + 2))
      · simp only [ha, if_true]
        refine ⟨own, inner, b, c, hg, hg', ?_⟩
        simp [enterElement, bind, EStateM.bind, hown, releasingOnFault, styleAt, hget, visiting, hv,
          allotting, hinner, pure, EStateM.pure, hf, ha]
      · simp only [ha]
        -- There is no room: what the children would have had comes back first.
        obtain ⟨c₁, hc₁, hl₁⟩ := Lent.release (hg.both hg')
        obtain ⟨c₂, hc₂, hl₂⟩ := hl₁.release_last
        refine ⟨c₂, hl₂, ?_⟩
        simp [enterElement, bind, EStateM.bind, hown, releasingOnFault, styleAt, hget, visiting, hv,
          allotting, hinner, hf, ha, release, hc₁, hc₂]

/-- Leaving an element gives its handle back, be it that the visitor fails. -/
theorem leaveNode_eq {own : StyleHandle} {style : Style} {e : Element}
    (he : doc.element? id = some e) (hs : a.style? own.slot = some style)
    {b : StyleArena} (hrel : a.release own = .ok b) :
    leaveNode doc v id own ⟨a, s⟩ =
      match v.leave id e style s with
      | .ok _ s₁ => .ok () ⟨b, s₁⟩
      | .error fault s₁ => .error fault ⟨b, s₁⟩ := by
  rw [leaveNode]
  simp only [he, bind, EStateM.bind, releasingOnFault, styleAt, StyleArena.get_of_style? hs,
    visiting]
  cases v.leave id e style s with
  | error fault s₁ => simp [release, hrel]
  | ok _ s₁ => simp [release, hrel]

theorem runBy_text {text : String} {rest : Stack} (ht : doc.text? id = some text)
    (hb : h.owned = false) (hs : a.style? h.slot = some inherited) :
    runBy cleanup doc v policy limit ((.enter id, h) :: rest) ⟨a, s⟩ =
      match v.text id text inherited s with
      | .ok flow s₁ =>
        if flow = .stop then cleanup rest ⟨a, s₁⟩
        else runBy cleanup doc v policy limit rest ⟨a, s₁⟩
      | .error fault s₁ => (do cleanup rest; throw fault : Walking σ Unit) ⟨a, s₁⟩ := by
  obtain ⟨parent, children, hn⟩ := Document.node?_of_text? ht
  rw [runBy]
  simp only [bind, EStateM.bind, guardingBy, enterNode, hn, enterText_eq hb hs]
  cases v.text id text inherited s with
  | error fault s₁ =>
    simp only
    cases cleanup rest ⟨a, s₁⟩ <;> rfl
  | ok flow s₁ => by_cases hf : flow = .stop <;> simp [hf]

theorem runBy_element {e : Element} {rest : Stack} (he : doc.element? id = some e) :
    runBy cleanup doc v policy limit ((.enter id, h) :: rest) ⟨a, s⟩ =
      match enterElement doc v policy limit rest.length id e h ⟨a, s⟩ with
      | .ok .stopped scene => cleanup rest scene
      | .ok .passed scene => runBy cleanup doc v policy limit rest scene
      | .ok (.opened own inner descend) scene =>
        runBy cleanup doc v policy limit (openedSteps doc id own inner descend ++ rest) scene
      | .error fault scene => (do cleanup rest; throw fault : Walking σ Unit) scene := by
  obtain ⟨parent, children, hn⟩ := Document.node?_of_element? he
  rw [runBy]
  simp only [bind, EStateM.bind, guardingBy, enterNode, hn]
  cases enterElement doc v policy limit rest.length id e h ⟨a, s⟩ with
  | error fault scene =>
    simp only
    cases cleanup rest scene <;> rfl
  | ok arrival scene => cases arrival <;> rfl

/-- The two steps that are left when an element has been visited with all below it. -/
theorem runBy_leave {e : Element} {own inner : StyleHandle} {style : Style} {rest : Stack}
    {b c : StyleArena} (he : doc.element? id = some e) (hs : a.style? own.slot = some style)
    (hown : a.release own = .ok b) (hinner : b.release inner = .ok c) :
    runBy cleanup doc v policy limit ((.leave id, own) :: (.release, inner) :: rest) ⟨a, s⟩ =
      match v.leave id e style s with
      | .ok _ s₁ => runBy cleanup doc v policy limit rest ⟨c, s₁⟩
      | .error fault s₁ =>
        (do cleanup ((.release, inner) :: rest); throw fault : Walking σ Unit) ⟨b, s₁⟩ := by
  rw [runBy]
  simp only [bind, EStateM.bind, guardingBy, leaveNode_eq he hs hown]
  cases v.leave id e style s with
  | error fault s₁ =>
    simp only
    cases cleanup ((.release, inner) :: rest) ⟨b, s₁⟩ <;> rfl
  | ok _ s₁ =>
    simp only
    rw [runBy]
    simp only [bind, EStateM.bind, guardingBy, release, hinner]

/-! ## The whole walk -/

/-- A walk that ends as a traversal does, with this arena left. -/
def endsWith (b : StyleArena) : EStateM.Result Fault σ Bool → EStateM.Result Fault (Scene σ) Unit
  | .ok _ s => .ok () ⟨b, s⟩
  | .error fault s => .error fault ⟨b, s⟩

/-- What a walk with `rest` below makes of a traversal.  When the traversal comes to its end, the walk goes
on with `rest`, in an arena where nothing more is out than in `a`; when the traversal was stopped or
failed, so does the walk, and nothing is out that was not in `a₀`. -/
def Resumes (doc : Document) (policy : ImportantPolicy) (limit : Option Nat) (v : Visitor σ)
    (a₀ a : StyleArena) (rest : Stack)
    (walked : (Stack → Walking σ Unit) → EStateM.Result Fault (Scene σ) Unit)
    (traversed : EStateM.Result Fault σ Bool) : Prop :=
  (∃ b s, traversed = .ok true s ∧ Lent a [] b ∧ ∀ cleanup, CleansUp cleanup →
    walked cleanup = runBy cleanup doc v policy limit rest ⟨b, s⟩) ∨
  ∃ b, (∀ s, traversed ≠ .ok true s) ∧ Lent a₀ [] b ∧ ∀ cleanup, CleansUp cleanup →
    walked cleanup = endsWith b traversed

/-- An end of the walk at which its stack is given back. -/
theorem Resumes.of_cleanup {rest : Stack} {traversed : EStateM.Result Fault σ Bool}
    {walked : (Stack → Walking σ Unit) → EStateM.Result Fault (Scene σ) Unit} {stack : Stack}
    (hl : Lent a₀ (outstanding stack) a)
    (hend : (traversed = .ok false s ∧ ∀ cleanup, CleansUp cleanup →
        walked cleanup = cleanup stack ⟨a, s⟩) ∨
      ∃ fault, traversed = .error fault s ∧ ∀ cleanup, CleansUp cleanup →
        walked cleanup = (do cleanup stack; throw fault : Walking σ Unit) ⟨a, s⟩) (a₁ : StyleArena) :
    Resumes doc policy limit v a₀ a₁ rest walked traversed := by
  obtain ⟨b, hb, hclean⟩ := cleanup_settles s hl
  refine Or.inr ⟨b, ?_, hb, fun cleanup hcleanup => ?_⟩
  · rcases hend with ⟨rfl, -⟩ | ⟨fault, rfl, -⟩ <;> simp
  · rcases hend with ⟨rfl, hw⟩ | ⟨fault, rfl, hw⟩
    · rw [hw cleanup hcleanup, (hclean cleanup hcleanup).1]
      rfl
    · rw [hw cleanup hcleanup, (hclean cleanup hcleanup).2]
      rfl

theorem Resumes.of_lent {b : StyleArena} {rest : Stack}
    {walked : (Stack → Walking σ Unit) → EStateM.Result Fault (Scene σ) Unit}
    {traversed : EStateM.Result Fault σ Bool} (hab : Lent a [] b)
    (hr : Resumes doc policy limit v a₀ b rest walked traversed) :
    Resumes doc policy limit v a₀ a rest walked traversed := by
  rcases hr with ⟨c, s, ht, hbc, hw⟩ | hend
  · exact Or.inl ⟨c, s, ht, hab.trans hbc, hw⟩
  · exact Or.inr hend

theorem Resumes.congr {rest : Stack} {traversed : EStateM.Result Fault σ Bool}
    {walked walked' : (Stack → Walking σ Unit) → EStateM.Result Fault (Scene σ) Unit}
    (hr : Resumes doc policy limit v a₀ a rest walked' traversed)
    (heq : ∀ cleanup, CleansUp cleanup → walked cleanup = walked' cleanup) :
    Resumes doc policy limit v a₀ a rest walked traversed := by
  rcases hr with ⟨c, s, ht, hl, hw⟩ | ⟨b, hne, hl, hw⟩
  · exact Or.inl ⟨c, s, ht, hl, fun cleanup hclean => (heq cleanup hclean).trans (hw cleanup hclean)⟩
  · exact Or.inr ⟨b, hne, hl, fun cleanup hclean => (heq cleanup hclean).trans (hw cleanup hclean)⟩

/-- An open element: its children come first, then the walk is at its leave step, and when its two handles
have come back the walk is where it was. -/
theorem Resumes.opened {e : Element} {own inner : StyleHandle} {style part : Style} {flow : Flow}
    {waiting rest : Stack} {b c : StyleArena} {traversed : EStateM.Result Fault σ Bool}
    {next : σ → EStateM.Result Fault σ Bool} (he : doc.element? id = some e)
    (hwaiting : Lent a₀ (outstanding waiting) a) (hown : Gives a style own b)
    (hinner : Gives b part inner c)
    (hchildren : Resumes doc policy limit v a₀ c ((.leave id, own) :: (.release, inner) :: waiting)
      (fun cleanup => runBy cleanup doc v policy limit
        ((below doc id flow).map (fun id => (.enter id, inner.borrow))
          ++ ((.leave id, own) :: (.release, inner) :: waiting)) ⟨c, s⟩) traversed)
    (hrest : ∀ d s₁, Lent a [] d → Resumes doc policy limit v a₀ d rest
      (fun cleanup => runBy cleanup doc v policy limit waiting ⟨d, s₁⟩) (next s₁)) :
    Resumes doc policy limit v a₀ a rest
      (fun cleanup => runBy cleanup doc v policy limit
        (openedSteps doc id own inner (flow = .descend) ++ waiting) ⟨c, s⟩)
      (andThen traversed fun go s₁ =>
        if go then andThen (v.leave id e style s₁) fun _ s₂ => next s₂ else .ok false s₁) := by
  have hsteps : openedSteps doc id own inner (flow = .descend) ++ waiting =
      (below doc id flow).map (fun id => (Step.enter id, inner.borrow))
        ++ ((.leave id, own) :: (.release, inner) :: waiting) := by
    by_cases hd : flow = .descend <;> simp [openedSteps, below, hd]
  rw [hsteps]
  rcases hchildren with ⟨d, s₁, rfl, hcd, hw⟩ | ⟨d, hne, hback, hw⟩
  · -- All is visited below, and the style that was lent for the element is still in its slot.
    have hheld : d.style? own.slot = some style := hcd.keeps (hinner.lent.keeps hown.holds)
    have hout : Lent a (inner.owns ++ own.owns) d := (hown.both hinner).trans hcd
    obtain ⟨d₁, hd₁, hl₁⟩ := Lent.release (hout.perm List.perm_append_comm)
    obtain ⟨d₂, hd₂, hl₂⟩ := hl₁.release_last
    simp only [andThen, if_true]
    cases hv : v.leave id e style s₁ with
    | error fault s₂ =>
      have hleft : Lent a₀ (outstanding ((.release, inner) :: waiting)) d₁ := hwaiting.trans hl₁
      refine .of_cleanup hleft (Or.inr ⟨fault, rfl, fun cleanup hclean => ?_⟩) a
      refine (hw cleanup hclean).trans ?_
      rw [runBy_leave he hheld hd₁ hd₂, hv]
    | ok _ s₂ =>
      refine (Resumes.of_lent hl₂ (hrest d₂ s₂ hl₂)).congr fun cleanup hclean => ?_
      refine (hw cleanup hclean).trans ?_
      rw [runBy_leave he hheld hd₁ hd₂, hv]
  · -- The walk ended below, and the element is not left.
    cases traversed with
    | error fault s₁ => exact Or.inr ⟨d, by simp [andThen], hback, hw⟩
    | ok go s₁ =>
      cases go with
      | true => exact absurd rfl (hne s₁)
      | false => exact Or.inr ⟨d, by simp [andThen], hback, hw⟩

/-- A walk that has the nodes `ids` on top of its stack traverses them, and then goes on with what
was below. -/
theorem runBy_enterAll (policy : ImportantPolicy) (limit : Option Nat) (v : Visitor σ)
    (a₀ : StyleArena) (rest : Stack) :
    ∀ (ids : List Nat) (inherited : Style) (h : StyleHandle) (a : StyleArena) (s : σ),
      (∀ id ∈ ids, id < doc.size) → Lent a₀ (outstanding rest) a → h.owned = false →
      a.style? h.slot = some inherited →
      Resumes doc policy limit v a₀ a rest
        (fun cleanup => runBy cleanup doc v policy limit
          (ids.map (fun id => (.enter id, h)) ++ rest) ⟨a, s⟩)
        (traverseWithin doc policy limit v rest.length inherited ids s)
  | [], inherited, h, a, s, _, hl, _, _ => by
    rw [traverseWithin_nil]
    exact Or.inl ⟨a, s, rfl, .refl hl.wellFormed, fun _ _ => rfl⟩
  | id :: ids, inherited, h, a, s, hin, hl, hb, hs => by
    have hids : ∀ x ∈ ids, x < doc.size := fun x hx => hin x (List.mem_cons_of_mem _ hx)
    -- The siblings wait with aliases, so that below this node nothing more is out.
    have hwaiting : Lent a₀ (outstanding (ids.map (fun id => (Step.enter id, h)) ++ rest)) a := by
      rwa [outstanding_enterAll h hb]
    have hlength : (ids.map (fun id => (Step.enter id, h)) ++ rest).length =
        ids.length + rest.length := by
      rw [List.length_append, List.length_map]
    simp only [List.map_cons, List.cons_append]
    rcases Document.text_or_element (hin id List.mem_cons_self) with ⟨text, ht⟩ | ⟨e, he⟩
    · simp only [runBy_text ht hb hs]
      rw [traverseWithin_text ht]
      cases v.text id text inherited s with
      | error fault s₁ => exact .of_cleanup hwaiting (Or.inr ⟨fault, rfl, fun _ _ => rfl⟩) a
      | ok flow s₁ =>
        simp only [andThen]
        by_cases hf : flow = .stop
        · simp only [hf, if_true]
          exact .of_cleanup hwaiting (Or.inl ⟨rfl, fun _ _ => rfl⟩) a
        · simp only [hf, if_false]
          exact runBy_enterAll policy limit v a₀ rest ids inherited h a s₁ hids hl hb hs
    · -- The four ways an arrival ends: a fault of the visitor, a stop, an open element, no room.
      have harrive := enterElement_spec doc policy limit v hl.wellFormed hb hs id e
        (ids.map (fun id => (Step.enter id, h)) ++ rest).length s
      simp only [runBy_element he]
      rw [traverseWithin_element he]
      cases hv : v.enter id e (e.styleUnder policy inherited) s with
      | error fault s₁ =>
        rw [hv] at harrive
        obtain ⟨b, hlb, harr⟩ := harrive
        simp only [harr]
        exact .of_cleanup (hwaiting.trans hlb) (Or.inr ⟨fault, rfl, fun _ _ => rfl⟩) a
      | ok flow s₁ =>
        simp only [hv] at harrive
        simp only [andThen]
        by_cases hf : flow = .stop
        · simp only [hf, if_true] at harrive ⊢
          obtain ⟨b, hlb, harr⟩ := harrive
          simp only [harr]
          exact .of_cleanup (hwaiting.trans hlb) (Or.inl ⟨rfl, fun _ _ => rfl⟩) a
        · simp only [hf, if_false, hlength] at harrive ⊢
          by_cases ha : allows limit (ids.length + rest.length + ((below doc id flow).length + 2))
          · simp only [ha, if_true] at harrive ⊢
            obtain ⟨own, inner, b, c, hown, hinner, harr⟩ := harrive
            simp only [harr]
            have hboth : Lent a₀ (outstanding ((.leave id, own) :: (.release, inner) ::
                (ids.map (fun id => (.enter id, h)) ++ rest))) c := by
              refine (hwaiting.trans (hown.both hinner)).perm ?_
              rw [outstanding_cons, outstanding_cons, ← List.append_assoc]
              exact List.perm_append_comm.append_right _
            -- For the children the two steps of the element count as part of what waits.
            have hchildren := runBy_enterAll policy limit v a₀ _ (below doc id flow) _ inner.borrow c s₁
              (fun x hx => lt_size_of_mem_below hx) hboth rfl hinner.holds
            rw [List.length_cons, List.length_cons, hlength] at hchildren
            refine Resumes.opened he hwaiting hown hinner hchildren fun d s₂ hl₂ => ?_
            exact runBy_enterAll policy limit v a₀ rest ids inherited h d s₂ hids (hl.trans hl₂) hb
              (hl₂.keeps hs)
          · simp only [ha] at harrive ⊢
            obtain ⟨b, hlb, harr⟩ := harrive
            simp only [harr]
            exact .of_cleanup (hwaiting.trans hlb) (Or.inr ⟨_, rfl, fun _ _ => rfl⟩) a
termination_by ids => doc.weights ids
decreasing_by
  · exact weights_tail_lt doc id ids
  · exact weights_below_lt doc id ids flow
  · exact weights_tail_lt doc id ids

/-- The traversal of a walk from `start`, which has to be an element. -/
def traverseFrom (doc : Document) (policy : ImportantPolicy) (limit : Option Nat) (v : Visitor σ)
    (style : Style) (start : Nat) : EStateM Fault σ Bool :=
  match doc.element? start with
  | none => throw (badStart doc start)
  | some _ =>
    if allows limit 1 then traverseWithin doc policy limit v 0 style [start] else throw (overflow 0 1)

/-- Without a limit there is room for the first step, and for all others. -/
theorem traverseFrom_none {start : Nat} {e : Element} (he : doc.element? start = some e) (style : Style) :
    traverseFrom doc policy none v style start s = traverse doc policy v style [start] s := by
  rw [traverseFrom]
  simp only [he]
  rw [if_pos (show allows none 1 = true from rfl), traverseWithin_none]

/-- A walk ends as its traversal does, with nothing out that was not out before. -/
theorem walkBy_ends (doc : Document) (limit : Option Nat) (start : Nat) {base : StyleHandle}
    (policy : ImportantPolicy) (v : Visitor σ) {style : Style} (wf : a.WellFormed)
    (hs : a.style? base.slot = some style) (s : σ) :
    ∃ b, Lent a [] b ∧ ∀ cleanup : Stack → Walking σ Unit, CleansUp cleanup →
      walkBy cleanup doc limit start base policy v ⟨a, s⟩ =
        endsWith b (traverseFrom doc policy limit v style start s) := by
  unfold walkBy traverseFrom
  cases he : doc.element? start with
  | none => exact ⟨a, .refl wf, fun _ _ => rfl⟩
  | some e =>
    by_cases ha : allows limit 1
    · simp only [ha, if_true]
      have hlt : start < doc.size := Document.lt_size_of_element? he
      have hrun := runBy_enterAll policy limit v a [] [start] style base.borrow a s (by simpa using hlt)
        (.refl wf) rfl hs
      rcases hrun with ⟨b, s₁, ht, hl, hw⟩ | ⟨b, -, hl, hw⟩
      · refine ⟨b, hl, fun cleanup hclean => (hw cleanup hclean).trans ?_⟩
        rw [List.length_nil] at ht
        rw [ht, runBy]
        rfl
      · exact ⟨b, hl, hw⟩
    · simp only [ha]
      exact ⟨a, .refl wf, fun _ _ => rfl⟩

theorem walk_eq_traverse (policy : ImportantPolicy) {start : Nat} {base : StyleHandle} {style : Style}
    {e : Element} (he : doc.element? start = some e) (wf : a.WellFormed)
    (hs : a.style? base.slot = some style) (v : Visitor σ) (s : σ) :
    ∃ b, walk doc start base policy v ⟨a, s⟩ = endsWith b (traverse doc policy v style [start] s) := by
  obtain ⟨b, -, hw⟩ := walkBy_ends doc none start policy v wf hs s
  refine ⟨b, ?_⟩
  rw [walk, walkWithin_eq_walkBy, hw releaseAll cleansUp_releaseAll, traverseFrom_none he]

theorem walk_of_no_element {start : Nat} (he : doc.element? start = none) (base : StyleHandle)
    (policy : ImportantPolicy) (v : Visitor σ) (scene : Scene σ) :
    walk doc start base policy v scene = .error (badStart doc start) scene := by
  rw [walk, walkWithin, he]
  rfl

/-- A walk makes the calls of the traversal, for whatever the visitor makes of them: it ends in the same
state, with the same fault if there is one.  Where it cannot begin, there is no call. -/
theorem walk_traverses (doc : Document) (start : Nat) {base : StyleHandle} (policy : ImportantPolicy)
    (v : Visitor σ) {style : Style} (wf : a.WellFormed) (hs : a.style? base.slot = some style)
    (s : σ) :
    (∀ e, doc.element? start = some e →
      ∃ b, walk doc start base policy v ⟨a, s⟩ =
        endsWith b (traverse doc policy v style [start] s)) ∧
    (doc.element? start = none →
      walk doc start base policy v ⟨a, s⟩ = .error (badStart doc start) ⟨a, s⟩ ∧
        (badStart doc start).kind = .malformedDocument) := by
  refine ⟨fun e he => walk_eq_traverse policy he wf hs v s, fun hnone => ?_⟩
  refine ⟨walk_of_no_element hnone base policy v ⟨a, s⟩, ?_⟩
  rw [badStart]
  split <;> rfl

/-- A title with a text and a break in it, between two texts. -/
def titledText : Document :=
  let doc := ((Document.withRoot "div").push 0 (.text "a")).push 0
    (.element (.ofName "h1" [⟨"style", "color: red; border: none"⟩]))
  ((doc.push 2 (.text "b")).push 2 (.element (.ofName "br" []))).push 0 (.text "c")

theorem walk_traverses_titledText :
    StyleArena.new.WellFormed ∧ StyleArena.new.style? StyleArena.root.slot = some Style.empty ∧
      (∃ b, walk titledText 0 StyleArena.root .localWins (Search.visitor fun id _ => id = 3)
          ⟨StyleArena.new, {}⟩ =
        endsWith b (traverse titledText .localWins (Search.visitor fun id _ => id = 3) Style.empty [0]
          {})) ∧
      walk titledText 1 StyleArena.root .localWins (Search.visitor fun id _ => id = 3)
          ⟨StyleArena.new, {}⟩ =
        .error (badStart titledText 1) ⟨StyleArena.new, {}⟩ := by
  have wf := StyleArena.wellFormed_new
  have hs : StyleArena.new.style? StyleArena.root.slot = some Style.empty := rfl
  have hwalk := fun start => walk_traverses titledText start .localWins
    (Search.visitor fun id _ => id = 3) wf hs {}
  exact ⟨wf, hs, (hwalk 0).1 (.ofName "div" []) rfl, ((hwalk 1).2 rfl).1⟩

/-- The calls that were made up to the end of a walk. -/
def callsOf (walked : EStateM.Result Fault (Scene (Recorded σ)) Unit) : List Call :=
  (after walked).state.calls

theorem callsOf_endsWith (b : StyleArena) (traversed : EStateM.Result Fault (Recorded σ) Bool) :
    callsOf (endsWith b traversed) = (after traversed).calls := by
  cases traversed <;> rfl

theorem calls_traverseFrom (limit : Option Nat) (style : Style) (start : Nat) (r : Recorded σ) :
    (after (traverseFrom doc policy limit v.recorded style start r)).calls <+:
      (after (traverseFrom doc policy none v.recorded style start r)).calls := by
  cases he : doc.element? start with
  | none =>
    have hsame : traverseFrom doc policy limit v.recorded style start r =
        traverseFrom doc policy none v.recorded style start r := by
      rw [traverseFrom, traverseFrom, he]
    exact hsame ▸ List.prefix_refl _
  | some e =>
    rw [traverseFrom_none he, traverseFrom]
    simp only [he]
    split
    · exact calls_traverseWithin limit [start] 0 style r
    · exact traverse_grows (recorded_grows v) [start] style r

/-- Nothing is left over from a walk, however it ends.  Every slot holds what it held, and what was lent in
between was given back as often.  No handle was found dead on the way: the walk ends as the traversal does,
which has no storage, and its cleanup gives back every handle.  A limit on the stack can do no more than
end the calls early. -/
theorem walkWithin_settles (doc : Document) (limit : Option Nat) (start : Nat) {base : StyleHandle}
    (policy : ImportantPolicy) (v : Visitor σ) {style : Style} (wf : a.WellFormed)
    (hs : a.style? base.slot = some style) (s : σ) :
    (∃ b, walkWithin doc limit start base policy v ⟨a, s⟩ =
        endsWith b (traverseFrom doc policy limit v style start s) ∧
      (∀ slot, b.style? slot = a.style? slot) ∧ b.live = a.live ∧
      ∃ n, b.allocations = a.allocations + n ∧ b.releases = a.releases + n) ∧
    walkBy releaseEach doc limit start base policy v ⟨a, s⟩ =
      walkWithin doc limit start base policy v ⟨a, s⟩ ∧
    callsOf (walkWithin doc limit start base policy v.recorded ⟨a, ⟨[], s⟩⟩) <+:
      callsOf (walk doc start base policy v.recorded ⟨a, ⟨[], s⟩⟩) := by
  obtain ⟨b, hl, hw⟩ := walkBy_ends doc limit start policy v wf hs s
  have hends := hw releaseAll cleansUp_releaseAll
  rw [← walkWithin_eq_walkBy] at hends
  obtain ⟨n, hn, hn'⟩ := hl.counted
  refine ⟨⟨b, hends, fun slot => hl.kept slot (by simp), ?_, n, hn, hn'⟩, ?_, ?_⟩
  · rw [StyleArena.live, StyleArena.live, hn, hn', List.length_nil]
    omega
  · rw [hw releaseEach cleansUp_releaseEach, hends]
  · obtain ⟨b₁, -, hw₁⟩ := walkBy_ends doc limit start policy v.recorded wf hs ⟨[], s⟩
    obtain ⟨b₂, -, hw₂⟩ := walkBy_ends doc none start policy v.recorded wf hs ⟨[], s⟩
    rw [walk, walkWithin_eq_walkBy, walkWithin_eq_walkBy, hw₁ releaseAll cleansUp_releaseAll,
      hw₂ releaseAll cleansUp_releaseAll, callsOf_endsWith, callsOf_endsWith]
    exact calls_traverseFrom limit style start _

/-- An arena with a style in it, and the handle that owns this style. -/
def lentBase : StyleHandle × StyleArena := StyleArena.new.alloc (Style.ofBlock "color: blue")

theorem walkWithin_settles_lentBase :
    lentBase.2.WellFormed ∧
      lentBase.2.style? lentBase.1.slot = some (Style.ofBlock "color: blue") ∧
      (∃ b, walkWithin titledText (some 4) 0 lentBase.1 .localWins (Search.visitor fun _ _ => false)
          ⟨lentBase.2, {}⟩ =
        endsWith b (traverseFrom titledText .localWins (some 4) (Search.visitor fun _ _ => false)
          (Style.ofBlock "color: blue") 0 {}) ∧
        (∀ slot, b.style? slot = lentBase.2.style? slot) ∧ b.live = lentBase.2.live ∧
        ∃ n, b.allocations = lentBase.2.allocations + n ∧ b.releases = lentBase.2.releases + n) := by
  have wf : lentBase.2.WellFormed := StyleArena.wellFormed_new.alloc _
  have hs : lentBase.2.style? lentBase.1.slot = some (Style.ofBlock "color: blue") := rfl
  exact ⟨wf, hs, (walkWithin_settles titledText (some 4) 0 .localWins
    (Search.visitor fun _ _ => false) wf hs {}).1⟩

end Refinement

end Walk

end MarkupTex
