import MarkupTex.Fault
import MarkupTex.Style.Cascade
/-!
# Storage for styles

Styles live in the slots of a `StyleArena`, and a `StyleHandle` names a slot.  A handle either owns
its slot, and then has to be given back exactly once, or it is an alias of a slot that somebody
else owns.  Slot 0 holds the empty style from the beginning and is never given back.

Slots that were given back are used again, the last one first.
-/

set_option autoImplicit false

namespace MarkupTex

structure StyleHandle where
  slot : Nat
  owned : Bool
  deriving DecidableEq, Repr, Inhabited

/-- Another handle on the same slot, which does not own it. -/
def StyleHandle.borrow (h : StyleHandle) : StyleHandle := { h with owned := false }

structure StyleArena where
  slots : Array (Option Style)
  /-- Empty slots, the one to use next in front. -/
  free : List Nat
  allocations : Nat
  releases : Nat
  deriving Repr, Inhabited

namespace StyleArena

def new : StyleArena := ⟨#[some Style.empty], [], 0, 0⟩

/-- The handle on the empty style. -/
def root : StyleHandle := ⟨0, false⟩

/-- How many owning handles are out. -/
def live (a : StyleArena) : Nat := a.allocations - a.releases

def notLive (slot : Nat) : Fault := ⟨.internalInvariant, s!"style slot {slot} is not live"⟩

def releasedTwice (slot : Nat) : Fault :=
  ⟨.internalInvariant, s!"style slot {slot} released twice"⟩

def rootReleased : Fault := ⟨.internalInvariant, "attempt to release the root style"⟩

/-- The style in a slot, if there is one. -/
def style? (a : StyleArena) (slot : Nat) : Option Style := (a.slots[slot]?).join

def get (a : StyleArena) (h : StyleHandle) : Except Fault Style :=
  match a.style? h.slot with
  | some style => .ok style
  | none => .error (notLive h.slot)

/-- Stores a style and hands out the handle that owns it. -/
def alloc (a : StyleArena) (style : Style) : StyleHandle × StyleArena :=
  match a.free with
  | slot :: free =>
    (⟨slot, true⟩, { a with slots := a.slots.setIfInBounds slot (some style), free,
                            allocations := a.allocations + 1 })
  | [] =>
    (⟨a.slots.size, true⟩, { a with slots := a.slots.push (some style),
                                    allocations := a.allocations + 1 })

/-- A copy of the style behind a handle, in a slot of its own. -/
def duplicate (a : StyleArena) (h : StyleHandle) : Except Fault (StyleHandle × StyleArena) :=
  (a.get h).map a.alloc

/-- The style of a node that declares `overlay` where the style behind `base` is inherited.  A node
without declarations gets an alias of `base`. -/
def merge (a : StyleArena) (base : StyleHandle) (overlay : Style) (policy : ImportantPolicy) :
    Except Fault (StyleHandle × StyleArena) :=
  if overlay.isEmpty then .ok (base.borrow, a)
  else (a.get base).map fun inherited => a.alloc (Style.merge inherited overlay policy).style

/-- The style that the children start from: an alias, unless something in it does not inherit. -/
def inherited (a : StyleArena) (h : StyleHandle) : Except Fault (StyleHandle × StyleArena) :=
  (a.get h).map fun style =>
    match style.inheritedPart with
    | .shared _ => (h.borrow, a)
    | .fresh part => a.alloc part

/-- Gives a handle back.  For an alias there is nothing to do. -/
def release (a : StyleArena) (h : StyleHandle) : Except Fault StyleArena :=
  if !h.owned then .ok a
  else if h.slot = 0 then .error rootReleased
  else
    match a.style? h.slot with
    | some _ =>
      .ok { a with slots := a.slots.setIfInBounds h.slot none, free := h.slot :: a.free,
                   releases := a.releases + 1 }
    | none => .error (releasedTwice h.slot)

end StyleArena

end MarkupTex
