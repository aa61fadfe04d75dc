import MarkupTex.Document.Scan
import MarkupTex.Style.Arena
import MarkupTex.Style.Declarations
/-!
# The styled walk

A walk goes through an element and everything below it in document order and shows each node to a
`Visitor` together with the style that holds there: on entering an element, at a text, and on
leaving the element.

The walk keeps a stack of steps to come, each with a handle on the style that it works with.  Every
handle that owns a slot is given back exactly once, be it that its step is taken or that the walk
ends before: a fault or a stop gives back what is left on the stack, the bottom first.

The stack may be given a limit.  A walk that would go beyond it ends with a fault.
-/

set_option autoImplicit false

namespace MarkupTex

/-- What a visitor wants next. -/
inductive Flow where
  | descend
  /-- Leave out what is below this element; it is still left. -/
  | skipChildren
  /-- End the walk here, without leaving anything. -/
  | stop
  deriving DecidableEq, Repr, Inhabited

/-- What is done at the nodes of a walk, over a state `σ` that outlives a fault. -/
structure Visitor (σ : Type) where
  enter : Nat → Element → Style → EStateM Fault σ Flow
  text : Nat → String → Style → EStateM Fault σ Flow
  leave : Nat → Element → Style → EStateM Fault σ Unit

/-- What a walk changes: the storage of the styles, and the state of the visitor. -/
structure Scene (σ : Type) where
  arena : StyleArena
  state : σ

abbrev Walking (σ : Type) := EStateM Fault (Scene σ)

namespace Walk

variable {σ α : Type}

/-- One thing to do. -/
inductive Step where
  /-- Come to a node; the style is the one that it inherits. -/
  | enter (id : Nat)
  /-- Leave an element; the style is its own. -/
  | leave (id : Nat)
  /-- Give back the style that was handed to the children of an element. -/
  | release
  deriving DecidableEq, Repr, Inhabited

/-- The steps to come, the next one in front. -/
abbrev Stack := List (Step × StyleHandle)

/-! ## Styles in a walk -/

def visiting (act : EStateM Fault σ α) : Walking σ α := fun scene =>
  match act scene.state with
  | .ok a state => .ok a { scene with state }
  | .error fault state => .error fault { scene with state }

def styleAt (h : StyleHandle) : Walking σ Style := fun scene =>
  match scene.arena.get h with
  | .ok style => .ok style scene
  | .error fault => .error fault scene

def release (h : StyleHandle) : Walking σ Unit := fun scene =>
  match scene.arena.release h with
  | .ok arena => .ok () { scene with arena }
  | .error fault => .error fault scene

/-- Does something in the storage that yields a handle. -/
def allotting (act : StyleArena → Except Fault (StyleHandle × StyleArena)) :
    Walking σ StyleHandle := fun scene =>
  match act scene.arena with
  | .ok (h, arena) => .ok h { scene with arena }
  | .error fault => .error fault scene

/-- Gives a handle back if `act` fails. -/
def releasingOnFault (h : StyleHandle) (act : Walking σ α) : Walking σ α := fun scene =>
  match act scene with
  | .ok a scene => .ok a scene
  | .error fault scene => (do release h; throw fault : Walking σ α) scene

/-- Gives back all the handles of a stack, the bottom first, whatever becomes of each. -/
def releaseAll (stack : Stack) : Walking σ Unit := fun scene =>
  .ok () { scene with
    arena := stack.reverse.foldl
      (fun arena entry => match arena.release entry.2 with
        | .ok arena => arena
        | .error _ => arena)
      scene.arena }

/-- Gives the handles of a stack back if `act` fails. -/
def guarding (stack : Stack) (act : Walking σ α) : Walking σ α := fun scene =>
  match act scene with
  | .ok a scene => .ok a scene
  | .error fault scene => (do releaseAll stack; throw fault : Walking σ α) scene

/-! ## Steps -/

/-- The style of an element: what it inherits, changed by its `style` attribute if it has one. -/
def ownStyle (policy : ImportantPolicy) (e : Element) (inherited : StyleHandle) :
    Walking σ StyleHandle :=
  match e.attribute? "style" with
  | none => pure inherited
  | some block => do
    let own ← releasingOnFault inherited
      (allotting fun arena => arena.merge inherited (Style.ofBlock block) policy)
    release inherited
    pure own

/-- How the arrival at a node turned out. -/
inductive Arrival where
  | stopped
  /-- A text was shown; there is nothing to come back to. -/
  | passed
  /-- An element is open.  It has a style of its own and one for its children, who are to be visited
  if `descend`. -/
  | opened (own forChildren : StyleHandle) (descend : Bool)

def overflow (size additional : Nat) : Fault :=
  ⟨.bufferOverflow, s!"walk stack of {size} entries cannot grow by {additional}"⟩

/-- Whether a stack may have that many entries. -/
def allows (limit : Option Nat) (size : Nat) : Bool := limit.all (size ≤ ·)

def enterElement (doc : Document) (v : Visitor σ) (policy : ImportantPolicy) (limit : Option Nat)
    (size id : Nat) (e : Element) (inherited : StyleHandle) : Walking σ Arrival := do
  let own ← ownStyle policy e inherited
  let flow ← releasingOnFault own do
    let style ← styleAt own
    visiting (v.enter id e style)
  if flow = .stop then
    release own
    return .stopped
  let forChildren ← releasingOnFault own (allotting fun arena => arena.inherited own)
  let descend : Bool := flow = .descend
  let entries := (if descend then (doc.children id).length else 0) + 2
  if allows limit (size + entries) then return .opened own forChildren descend
  else
    release forChildren
    release own
    throw (overflow size entries)

def enterText (v : Visitor σ) (id : Nat) (s : String) (inherited : StyleHandle) :
    Walking σ Arrival := do
  let style ← styleAt inherited
  let flow ← visiting (v.text id s style)
  release inherited
  return if flow = .stop then .stopped else .passed

/-- Comes to a node, with `size` entries on the stack below. -/
def enterNode (doc : Document) (v : Visitor σ) (policy : ImportantPolicy) (limit : Option Nat)
    (size id : Nat) (inherited : StyleHandle) : Walking σ Arrival :=
  match doc.node? id with
  | none => throw (Document.missing id)
  | some { content := .text s, .. } => enterText v id s inherited
  | some { content := .element e, .. } => enterElement doc v policy limit size id e inherited

def leftText : Fault := ⟨.internalInvariant, "leave step on a text node"⟩

def leaveNode (doc : Document) (v : Visitor σ) (id : Nat) (own : StyleHandle) :
    Walking σ Unit :=
  match doc.element? id with
  | none => throw leftText
  | some e => do
    releasingOnFault own do
      let style ← styleAt own
      visiting (v.leave id e style)
    release own

/-- The steps for an element that is open: its children in order, then leaving it, then giving back
the style of the children. -/
def openedSteps (doc : Document) (id : Nat) (own forChildren : StyleHandle) (descend : Bool) :
    Stack :=
  (if descend then (doc.children id).map fun child => (Step.enter child, forChildren.borrow)
   else [])
    ++ [(.leave id, own), (.release, forChildren)]

/-- How many steps can still come of one: at most three for each node. -/
def Step.cost (doc : Document) : Step → Nat
  | .enter id => 3 * doc.weight id
  | .leave _ => 1
  | .release => 1

def stackCost (doc : Document) (stack : Stack) : Nat := total (stack.map fun e => e.1.cost doc)

@[simp] theorem stackCost_cons (doc : Document) (step : Step) (h : StyleHandle) (stack : Stack) :
    stackCost doc ((step, h) :: stack) = step.cost doc + stackCost doc stack := by
  simp [stackCost]

@[simp] theorem stackCost_append (doc : Document) (first second : Stack) :
    stackCost doc (first ++ second) = stackCost doc first + stackCost doc second := by
  simp [stackCost]

theorem stackCost_enterAll (doc : Document) (h : StyleHandle) (ids : List Nat) :
    stackCost doc (ids.map fun id => (Step.enter id, h)) = 3 * doc.weights ids := by
  induction ids with
  | nil => rfl
  | cons id ids ih =>
    rw [List.map_cons, stackCost_cons, ih, Document.weights_cons, Nat.mul_add]
    rfl

theorem stackCost_openedSteps_lt (doc : Document) (id : Nat) (own forChildren : StyleHandle)
    (descend : Bool) :
    stackCost doc (openedSteps doc id own forChildren descend) < (Step.enter id).cost doc := by
  have hw := doc.weight_eq id
  cases descend
  · simp [openedSteps, stackCost, Step.cost]
    omega
  · rw [openedSteps, stackCost_append, if_pos rfl, stackCost_enterAll]
    simp [stackCost, Step.cost]
    omega

theorem Step.cost_pos (doc : Document) (step : Step) : 0 < step.cost doc := by
  cases step with
  | enter id =>
    have := doc.weight_pos id
    simp [cost]
    omega
  | leave id => simp [cost]
  | release => simp [cost]

/-- Takes the steps of a stack until none is left, the visitor stops or something fails. -/
def run (doc : Document) (v : Visitor σ) (policy : ImportantPolicy) (limit : Option Nat) :
    Stack → Walking σ Unit
  | [] => pure ()
  | (.release, style) :: rest => do
    guarding rest (release style)
    run doc v policy limit rest
  | (.leave id, style) :: rest => do
    guarding rest (leaveNode doc v id style)
    run doc v policy limit rest
  | (.enter id, style) :: rest => do
    match ← guarding rest (enterNode doc v policy limit rest.length id style) with
    | .stopped => releaseAll rest
    | .passed => run doc v policy limit rest
    | .opened own forChildren descend =>
      run doc v policy limit (openedSteps doc id own forChildren descend ++ rest)
termination_by stack => stackCost doc stack
decreasing_by
  · simp [Step.cost]
  · simp [Step.cost]
  · have := Step.cost_pos doc (.enter id)
    rw [stackCost_cons]
    omega
  · have := stackCost_openedSteps_lt doc id own forChildren descend
    rw [stackCost_append, stackCost_cons]
    omega

/-- Why a walk cannot begin at a node. -/
def badStart (doc : Document) (start : Nat) : Fault :=
  match doc.text? start with
  | some _ => ⟨.malformedDocument, "walk target is a text node"⟩
  | none => ⟨.malformedDocument, s!"walk target {start} is not in the document"⟩

end Walk

variable {σ : Type}

/-- Walks from the element `start`, on top of the style behind `base`, with at most `limit` steps
waiting. -/
def walkWithin (doc : Document) (limit : Option Nat) (start : Nat) (base : StyleHandle)
    (policy : ImportantPolicy) (v : Visitor σ) : Walking σ Unit :=
  match doc.element? start with
  | none => throw (Walk.badStart doc start)
  | some _ =>
    if Walk.allows limit 1 then Walk.run doc v policy limit [(.enter start, base.borrow)]
    else throw (Walk.overflow 0 1)

/-- Walks from the element `start`, on top of the style behind `base`. -/
def walk (doc : Document) (start : Nat) (base : StyleHandle) (policy : ImportantPolicy)
    (v : Visitor σ) : Walking σ Unit :=
  walkWithin doc none start base policy v

/-! ## Searching -/

/-- A search in progress: the nodes that were tested, in order, and the one that was found with the
style that it has. -/
structure Search where
  tested : List Nat := []
  found : Option (Nat × Style) := none
  deriving Repr, Inhabited

namespace Search

def test (wanted : Nat → Style → Bool) (id : Nat) (style : Style) : EStateM Fault Search Flow :=
  fun search =>
    let search := { search with tested := search.tested ++ [id] }
    if wanted id style then .ok .stop { search with found := some (id, style) }
    else .ok .descend search

/-- Stops at the first node that is wanted. -/
def visitor (wanted : Nat → Style → Bool) : Visitor Search where
  enter id _ style := test wanted id style
  text id _ style := test wanted id style
  leave _ _ _ := pure ()

end Search

/-- The first node in document order that is wanted with its style, and a handle that owns a copy
of this style. -/
def findFirst (doc : Document) (start : Nat) (base : StyleHandle) (policy : ImportantPolicy)
    (wanted : Nat → Style → Bool) : Walking Search (Option (Nat × StyleHandle)) := do
  walk doc start base policy (Search.visitor wanted)
  match (← get).state.found with
  | none => return none
  | some (id, style) =>
    let h ← Walk.allotting fun arena => .ok (arena.alloc style)
    return some (id, h)

end MarkupTex
