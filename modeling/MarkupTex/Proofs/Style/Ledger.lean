import MarkupTex.Document.Walk
import MarkupTex.Proofs.Style.Storage
/-!
# Who holds which style

A client of a `StyleArena` makes one call after the other, with the handles that it was given.  It keeps
account of the handles that own a slot, each with the style that it was made with, and it may copy aliases
as it likes, so that an alias may be of a slot that was given back and is in use again.

`Accounted` is what the account and the arena have to do with each other.  A call does one of three things:
it leaves the arena as it is, it fills a slot that was empty, or it empties one that the client owns.
-/

set_option autoImplicit false

namespace MarkupTex

namespace StyleArena

variable {a b : StyleArena} {style : Style} {h : StyleHandle}

theorem owned_alloc (a : StyleArena) (style : Style) : (a.alloc style).1.owned = true := by
  rw [alloc]
  split <;> rfl

/-! ## The list of empty slots -/

/-- No empty slot is lost: the next style goes there before the arena grows. -/
def ListsEmpty (a : StyleArena) : Prop :=
  ∀ slot < a.slots.size, a.style? slot = none → slot ∈ a.free

theorem listsEmpty_new : new.ListsEmpty := by
  intro slot hlt hnone
  obtain rfl : slot = 0 := Nat.lt_one_iff.mp hlt
  rw [style?_new_zero] at hnone
  cases hnone

theorem ListsEmpty.alloc (hl : a.ListsEmpty) (wf : a.WellFormed) (style : Style) :
    (a.alloc style).2.ListsEmpty := by
  intro slot hlt hnone
  cases hf : a.free with
  | nil =>
    rw [StyleArena.alloc, hf] at hlt hnone
    rw [style?_push rfl] at hnone
    rw [Array.size_push] at hlt
    split at hnone
    · cases hnone
    · have hmem := hl slot (by omega) hnone
      rw [hf] at hmem
      cases hmem
  | cons first free =>
    have hfirst : first < a.slots.size := wf.free_lt first (by simp [hf])
    rw [StyleArena.alloc, hf] at hlt hnone ⊢
    rw [style?_set hfirst rfl] at hnone
    rw [Array.size_setIfInBounds] at hlt
    split at hnone
    · cases hnone
    · next hne =>
      have hmem := hl slot hlt hnone
      rw [hf] at hmem
      exact (List.mem_cons.mp hmem).resolve_left hne

theorem ListsEmpty.release (hl : a.ListsEmpty) (hb : a.release h = .ok b) : b.ListsEmpty := by
  rw [StyleArena.release] at hb
  split at hb
  · cases hb
    exact hl
  · split at hb
    · cases hb
    · split at hb
      · next style hs =>
        cases hb
        intro slot hlt hnone
        rw [style?_set (lt_size_of_style? hs) rfl] at hnone
        rw [Array.size_setIfInBounds] at hlt
        split at hnone
        · next heq => exact heq ▸ List.mem_cons_self
        · exact List.mem_cons_of_mem _ (hl slot hlt hnone)
      · cases hb

/-- So the list has the empty slots and nothing else. -/
theorem mem_free_iff (wf : a.WellFormed) (hl : a.ListsEmpty) (slot : Nat) :
    slot ∈ a.free ↔ slot < a.slots.size ∧ a.style? slot = none :=
  ⟨fun hmem => ⟨wf.free_lt slot hmem, wf.free_empty slot hmem⟩, fun hslot => hl slot hslot.1 hslot.2⟩

/-! ## Calls -/

/-- What can be asked of an arena; `root` and `borrow` are aliases. -/
inductive Call where
  | root
  | alloc (style : Style)
  | duplicate (h : StyleHandle)
  | merge (base : StyleHandle) (overlay : Style) (policy : ImportantPolicy)
  | inherited (h : StyleHandle)
  | borrow (h : StyleHandle)
  | get (h : StyleHandle)
  | release (h : StyleHandle)

namespace Call

/-- The handle that a call is made with. -/
def handle? : Call → Option StyleHandle
  | root | alloc _ => none
  | duplicate h | merge h _ _ | inherited h | borrow h | get h | release h => some h

/-- What comes back from a call: a handle, if it is to give one, and the arena. -/
def answer (a : StyleArena) : Call → Except Fault (Option StyleHandle × StyleArena)
  | root => .ok (some StyleArena.root, a)
  | alloc style => .ok (some (a.alloc style).1, (a.alloc style).2)
  | duplicate h => (a.duplicate h).map fun (made, b) => (some made, b)
  | merge base overlay policy => (a.merge base overlay policy).map fun (made, b) => (some made, b)
  | inherited h => (a.inherited h).map fun (made, b) => (some made, b)
  | borrow h => .ok (some h.borrow, a)
  | get h => (a.get h).map fun _ => (none, a)
  | release h => (a.release h).map fun b => (none, b)

/-- The style that a handle is made with. -/
def style? (a : StyleArena) : Call → Option Style
  | root => some Style.empty
  | alloc style => some style
  | duplicate h | borrow h | get h | release h => a.style? h.slot
  | merge base overlay policy =>
    (a.style? base.slot).map fun style => (Style.merge style overlay policy).style
  | inherited h => (a.style? h.slot).map fun style => style.inheritedPart.style

/-- What an answer comes to. -/
inductive Effect (a : StyleArena) : Call → Option StyleHandle → StyleArena → Prop where
  /-- Nothing is stored or given back, and no slot is given out. -/
  | kept {call : Call} {made : Option StyleHandle} (keeps : ∀ h, call ≠ .release h)
      (borrowed : ∀ h, made = some h → h.owned = false) : Effect a call made a
  | stored {call : Call} (style : Style) (keeps : ∀ h, call ≠ .release h)
      (holds : call.style? a = some style) :
      Effect a call (some (a.alloc style).1) (a.alloc style).2
  | released {h : StyleHandle} {b : StyleArena} (released : a.release h = .ok b) :
      Effect a (.release h) none b

theorem Effect.of_alloc {call : Call} {made : Option StyleHandle} {style : Style}
    (keeps : ∀ h, call ≠ .release h) (holds : call.style? a = some style)
    (h : (some (a.alloc style).1, (a.alloc style).2) = (made, b)) : Effect a call made b := by
  obtain ⟨rfl, rfl⟩ := Prod.mk.inj h
  exact .stored style keeps holds

theorem effect_of_answer {call : Call} {made : Option StyleHandle} (h : call.answer a = .ok (made, b)) :
    Effect a call made b := by
  cases call with
  | root => cases h; exact .kept (by simp) fun _ hroot => by cases hroot; rfl
  | alloc style => exact .of_alloc (by simp) rfl (Except.ok.inj h)
  | borrow own => cases h; exact .kept (by simp) fun _ hborrow => by cases hborrow; rfl
  | get own =>
    cases hget : a.get own with
    | error f => rw [answer, hget] at h; cases h
    | ok style => rw [answer, hget] at h; cases h; exact .kept (by simp) (by simp)
  | release own =>
    cases hrelease : a.release own with
    | error f => rw [answer, hrelease] at h; cases h
    | ok c => rw [answer, hrelease] at h; cases h; exact .released hrelease
  | duplicate own =>
    rw [answer, StyleArena.duplicate] at h
    cases hs : a.style? own.slot with
    | none => rw [StyleArena.get, hs] at h; cases h
    | some style =>
      rw [get_of_style? hs] at h
      exact .of_alloc (by simp) hs (Except.ok.inj h)
  | merge base overlay policy =>
    rw [answer, StyleArena.merge] at h
    split at h
    · cases h; exact .kept (by simp) fun _ hborrow => by cases hborrow; rfl
    · cases hs : a.style? base.slot with
      | none => rw [StyleArena.get, hs] at h; cases h
      | some style =>
        rw [get_of_style? hs] at h
        exact .of_alloc (by simp) (by rw [style?, hs]; rfl) (Except.ok.inj h)
  | inherited own =>
    rw [answer, StyleArena.inherited] at h
    cases hs : a.style? own.slot with
    | none => rw [StyleArena.get, hs] at h; cases h
    | some style =>
      rw [get_of_style? hs] at h
      have hstyle : (Call.inherited own).style? a = some style.inheritedPart.style := by
        rw [style?, hs]
        rfl
      cases hpart : style.inheritedPart with
      | shared part =>
        simp only [Except.map, hpart] at h
        cases h
        exact .kept (by simp) fun _ hborrow => by cases hborrow; rfl
      | fresh part =>
        simp only [Except.map, hpart] at h
        rw [hpart] at hstyle
        exact .of_alloc (by simp) hstyle (Except.ok.inj h)

end Call

/-! ## The account of a client -/

/-- An arena and what its client has of it. -/
structure Client where
  arena : StyleArena
  /-- The handles that own a slot, each with the style that it was made with. -/
  owned : List (StyleHandle × Option Style)
  aliases : List StyleHandle

namespace Client

/-- A client that has not made a call yet. -/
def start : Client := ⟨new, [], []⟩

def Has (c : Client) (h : StyleHandle) : Prop := h ∈ c.owned.map Prod.fst ∨ h ∈ c.aliases

instance (c : Client) (h : StyleHandle) : Decidable (c.Has h) := inferInstanceAs (Decidable (_ ∨ _))

/-- A handle that is handed in with a release is gone. -/
def handingIn (c : Client) : Call → Client
  | .release h =>
    { c with owned := c.owned.eraseP fun entry => entry.1 = h, aliases := c.aliases.erase h }
  | _ => c

/-- A handle that comes back goes to the others. -/
def taking (c : Client) (made : Option StyleHandle) (style : Option Style) : Client :=
  match made with
  | none => c
  | some h =>
    if h.owned then { c with owned := (h, style) :: c.owned } else { c with aliases := h :: c.aliases }

/-- The client after a call.  If there is a fault, nothing comes back. -/
def perform (c : Client) (call : Call) : Client :=
  match call.answer c.arena with
  | .ok (made, arena) => { c.handingIn call with arena }.taking made (call.style? c.arena)
  | .error _ => c.handingIn call

/-- The client after one call after the other. -/
def after (c : Client) (calls : List Call) : Client := calls.foldl perform c

/-- Every call is made with a handle that the client has at that time. -/
def Allows (c : Client) : List Call → Prop
  | [] => True
  | call :: rest => (∀ h ∈ call.handle?, c.Has h) ∧ (c.perform call).Allows rest

/-- A client that has made some calls. -/
def Reached (c : Client) : Prop := ∃ calls, start.Allows calls ∧ start.after calls = c

/-- What the account says of the arena. -/
structure Accounted (c : Client) : Prop where
  wellFormed : c.arena.WellFormed
  listsEmpty : c.arena.ListsEmpty
  root : c.arena.style? 0 = some Style.empty
  counted : c.arena.allocations = c.arena.releases + c.owned.length
  distinct : (c.owned.map fun entry => entry.1.slot).Nodup
  owner : ∀ entry ∈ c.owned, entry.1.owned = true ∧ entry.1.slot ≠ 0
  holds : ∀ entry ∈ c.owned, ∃ style, entry.2 = some style ∧ c.arena.style? entry.1.slot = some style
  borrowed : ∀ h ∈ c.aliases, h.owned = false

variable {c : Client}

theorem handingIn_of_keeps {call : Call} (hkeeps : ∀ h, call ≠ .release h) : c.handingIn call = c := by
  cases call with
  | release h => exact absurd rfl (hkeeps h)
  | _ => rfl

theorem accounted_start : start.Accounted where
  wellFormed := wellFormed_new
  listsEmpty := listsEmpty_new
  root := style?_new_zero
  counted := rfl
  distinct := List.nodup_nil
  owner := nofun
  holds := nofun
  borrowed := nofun

namespace Accounted

/-- More aliases, or fewer, make no difference. -/
theorem aliases (h : c.Accounted) {aliases : List StyleHandle} (hb : ∀ h ∈ aliases, h.owned = false) :
    Accounted { c with aliases } :=
  { h with borrowed := hb }

/-- A style that is stored gets a slot that nobody has. -/
theorem store (h : c.Accounted) (style : Style) :
    Accounted { c with arena := (c.arena.alloc style).2,
                       owned := ((c.arena.alloc style).1, some style) :: c.owned } := by
  obtain ⟨slot, b, hb, hwf, h0, hnone, hstyle, halloc, hrel⟩ := alloc_spec h.wellFormed style
  have hlists := h.listsEmpty.alloc h.wellFormed style
  rw [hb] at hlists ⊢
  have hfresh : ∀ entry ∈ c.owned, entry.1.slot ≠ slot := by
    rintro entry hentry rfl
    obtain ⟨_, -, hold⟩ := h.holds entry hentry
    rw [hnone] at hold
    cases hold
  constructor
  case wellFormed => exact hwf
  case listsEmpty => exact hlists
  case root => rw [hstyle, if_neg h0.symm, h.root]
  case counted =>
    have hcounted := h.counted
    show b.allocations = b.releases + (c.owned.length + 1)
    omega
  case distinct =>
    refine List.nodup_cons.mpr ⟨fun hmem => ?_, h.distinct⟩
    obtain ⟨entry, hentry, hslot⟩ := List.mem_map.mp hmem
    exact hfresh entry hentry hslot
  case owner =>
    intro entry hentry
    rcases List.mem_cons.mp hentry with rfl | hentry
    · exact ⟨rfl, h0⟩
    · exact h.owner entry hentry
  case holds =>
    intro entry hentry
    rcases List.mem_cons.mp hentry with rfl | hentry
    · exact ⟨style, rfl, by rw [hstyle, if_pos rfl]⟩
    · obtain ⟨old, hold, hholds⟩ := h.holds entry hentry
      exact ⟨old, hold, by rw [hstyle, if_neg (hfresh entry hentry), hholds]⟩
  case borrowed => exact h.borrowed

/-- What the client owns is not the root, and there is a style. -/
theorem release_ok (h : c.Accounted) {entry : StyleHandle × Option Style} (hentry : entry ∈ c.owned) :
    ∃ b, c.arena.release entry.1 = .ok b ∧ b.WellFormed ∧
      (∀ x, b.style? x = if x = entry.1.slot then none else c.arena.style? x) ∧
      b.allocations = c.arena.allocations ∧ b.releases = c.arena.releases + 1 := by
  obtain ⟨howned, h0⟩ := h.owner entry hentry
  obtain ⟨style, -, hstyle⟩ := h.holds entry hentry
  exact release_owned h.wellFormed howned h0 hstyle

/-- A slot that is given back is nobody's. -/
theorem giveBack (h : c.Accounted) {own : StyleHandle} (hown : own ∈ c.owned.map Prod.fst)
    (hb : c.arena.release own = .ok b) :
    Accounted { c with arena := b, owned := c.owned.eraseP fun entry => entry.1 = own } := by
  obtain ⟨entry, hentry, rfl⟩ := List.mem_map.mp hown
  obtain ⟨found, before, behind, -, hfound, hsplit, herase⟩ :=
    List.exists_of_eraseP (p := fun e => decide (e.1 = entry.1)) hentry (by simp)
  have hsame : found.1 = entry.1 := by simpa using hfound
  obtain ⟨b', hb', hwf, hstyle, halloc, hrel⟩ := h.release_ok hentry
  obtain rfl : b' = b := Except.ok.inj (hb'.symm.trans hb)
  have hperm : c.owned.Perm (found :: (before ++ behind)) := by
    rw [hsplit]
    exact List.perm_middle
  have hslots : (found.1.slot :: (before ++ behind).map fun entry => entry.1.slot).Nodup :=
    (hperm.map fun entry : StyleHandle × Option Style => entry.1.slot).nodup h.distinct
  obtain ⟨hout, hnodup⟩ := List.nodup_cons.mp hslots
  have hrest : ∀ other ∈ before ++ behind, other ∈ c.owned ∧ other.1.slot ≠ entry.1.slot := by
    intro other hother
    refine ⟨hperm.mem_iff.mpr (List.mem_cons_of_mem _ hother), fun hslot => hout ?_⟩
    rw [hsame]
    exact List.mem_map.mpr ⟨other, hother, hslot⟩
  rw [herase]
  constructor
  case wellFormed => exact hwf
  case listsEmpty => exact h.listsEmpty.release hb
  case root => rw [hstyle, if_neg (h.owner entry hentry).2.symm, h.root]
  case counted =>
    have hcounted := h.counted
    rw [hperm.length_eq, List.length_cons] at hcounted
    show b'.allocations = b'.releases + (before ++ behind).length
    omega
  case distinct => exact hnodup
  case owner => exact fun other hother => h.owner other (hrest other hother).1
  case holds =>
    intro other hother
    obtain ⟨style, hmade, hholds⟩ := h.holds other (hrest other hother).1
    exact ⟨style, hmade, by rw [hstyle, if_neg (hrest other hother).2, hholds]⟩
  case borrowed => exact h.borrowed

/-- A handle that owns a slot is given back without a fault; an alias always is. -/
theorem release_of_has (h : c.Accounted) {own : StyleHandle} (hown : c.Has own) :
    ∃ b, c.arena.release own = .ok b := by
  rcases hown with hown | halias
  · obtain ⟨entry, hentry, rfl⟩ := List.mem_map.mp hown
    obtain ⟨b, hb, -⟩ := h.release_ok hentry
    exact ⟨b, hb⟩
  · exact ⟨c.arena, release_borrowed (h.borrowed own halias)⟩

theorem release (h : c.Accounted) {own : StyleHandle} (hown : c.Has own)
    (hb : c.arena.release own = .ok b) : Accounted { c.handingIn (.release own) with arena := b } := by
  cases ho : own.owned with
  | true =>
    have hmem : own ∈ c.owned.map Prod.fst := hown.resolve_right fun halias => by
      rw [h.borrowed own halias] at ho
      cases ho
    exact (h.giveBack hmem hb).aliases fun other hother => h.borrowed other (List.mem_of_mem_erase hother)
  | false =>
    have hsame : c.owned.eraseP (fun entry => decide (entry.1 = own)) = c.owned := by
      refine List.eraseP_of_forall_not fun entry hentry heq => ?_
      have htrue := (h.owner entry hentry).1
      rw [of_decide_eq_true heq, ho] at htrue
      cases htrue
    rw [release_borrowed ho] at hb
    cases hb
    rw [handingIn, hsame]
    exact h.aliases fun other hother => h.borrowed other (List.mem_of_mem_erase hother)

/-- One call, made with a handle that the client has. -/
theorem perform (h : c.Accounted) {call : Call} (hcall : ∀ own ∈ call.handle?, c.Has own) :
    (c.perform call).Accounted := by
  rw [Client.perform]
  cases hanswer : call.answer c.arena with
  | error f =>
    -- There is no fault when a handle is given back, so that no handle is lost.
    have hkeeps : ∀ own, call ≠ .release own := by
      rintro own rfl
      obtain ⟨b, hb⟩ := h.release_of_has (hcall own rfl)
      rw [Call.answer, hb] at hanswer
      cases hanswer
    rw [handingIn_of_keeps hkeeps]
    exact h
  | ok answer =>
    obtain ⟨made, arena⟩ := answer
    cases Call.effect_of_answer hanswer with
    | kept hkeeps halias =>
      rw [handingIn_of_keeps hkeeps]
      cases made with
      | none => exact h
      | some own =>
        have hown : own.owned = false := halias own rfl
        simp only [taking, hown, Bool.false_eq_true, if_false]
        refine h.aliases fun other hother => ?_
        rcases List.mem_cons.mp hother with rfl | hother
        · exact hown
        · exact h.borrowed other hother
    | stored style hkeeps hstyle =>
      have hown := owned_alloc c.arena style
      rw [handingIn_of_keeps hkeeps, hstyle]
      simp only [taking, hown, if_true]
      exact h.store style
    | @released own _ hb => exact h.release (hcall own rfl) hb

/-- And so for any calls. -/
theorem after (h : c.Accounted) {calls : List Call} (hcalls : c.Allows calls) :
    (c.after calls).Accounted := by
  induction calls generalizing c with
  | nil => exact h
  | cons call rest ih => exact ih (h.perform hcalls.1) hcalls.2

end Accounted

end Client

end StyleArena

/-! ## What a fault leaves -/

/-- Giving back and reading either do what they are to do, or they leave everything as it is. -/
theorem Walk.release_error {σ : Type} {h : StyleHandle} {scene scene' : Scene σ} {f : Fault}
    (herror : Walk.release h scene = .error f scene') : scene' = scene := by
  rw [Walk.release] at herror
  split at herror <;> cases herror
  rfl

theorem Walk.styleAt_error {σ : Type} {h : StyleHandle} {scene scene' : Scene σ} {f : Fault}
    (herror : Walk.styleAt h scene = .error f scene') : scene' = scene := by
  rw [Walk.styleAt] at herror
  split at herror <;> cases herror
  rfl

namespace StyleArena.Client

/-- Whatever a client does with the handles that it has, as many slots are in use as it owns handles; these
have slots of their own, not the root's, with the styles that they were made with, and each can be given back.
The list of empty slots is right, and the root has the empty style.  Giving back and reading leave everything
as it is if they end in a fault, be it that the client does not have the handle. -/
theorem accounts {c : Client} (hc : c.Reached) :
    c.arena.releases ≤ c.arena.allocations ∧ c.arena.live = c.owned.length ∧
      (c.owned.map fun entry => entry.1.slot).Nodup ∧
      (∀ entry ∈ c.owned, entry.1.owned = true ∧ entry.1.slot ≠ 0 ∧
        (∃ style, entry.2 = some style ∧ c.arena.get entry.1 = .ok style) ∧
        ∃ arena, c.arena.release entry.1 = .ok arena) ∧
      c.arena.free.Nodup ∧
      (∀ slot, slot ∈ c.arena.free ↔ slot < c.arena.slots.size ∧ c.arena.style? slot = none) ∧
      c.arena.style? 0 = some Style.empty ∧
      ∀ (h : StyleHandle) (f : Fault) (scene : Scene Unit),
        (Walk.release h ⟨c.arena, ()⟩ = .error f scene → scene.arena = c.arena) ∧
          (Walk.styleAt h ⟨c.arena, ()⟩ = .error f scene → scene.arena = c.arena) := by
  obtain ⟨calls, hcalls, rfl⟩ := hc
  have h : (start.after calls).Accounted := accounted_start.after hcalls
  have hcounted := h.counted
  refine ⟨by omega, ?_, h.distinct, fun entry hentry => ?_, h.wellFormed.free_nodup,
    mem_free_iff h.wellFormed h.listsEmpty, h.root, fun own f scene => ⟨fun herror => ?_, fun herror => ?_⟩⟩
  · rw [live]
    omega
  · obtain ⟨howned, h0⟩ := h.owner entry hentry
    obtain ⟨style, hmade, hholds⟩ := h.holds entry hentry
    obtain ⟨arena, harena, -⟩ := h.release_ok hentry
    exact ⟨howned, h0, ⟨style, hmade, get_of_style? hholds⟩, arena, harena⟩
  · rw [Walk.release_error herror]
  · rw [Walk.styleAt_error herror]

/-- A slot that was given back is used again, while an alias of it is still there. -/
def reusing : List Call :=
  [.alloc Style.empty, .borrow ⟨1, true⟩, .duplicate ⟨1, false⟩, .release ⟨1, true⟩, .inherited ⟨2, true⟩,
    .alloc (Style.ofBlock "color: red"), .get ⟨1, false⟩]

theorem accounts_reusing :
    (start.after reusing).Reached ∧ (start.after reusing).owned.map Prod.fst = [⟨1, true⟩, ⟨2, true⟩] ∧
      (start.after reusing).arena.live = 2 := by
  have hallows : start.Allows reusing := by
    simp only [reusing, Allows, and_true]
    decide +kernel
  have hreached : (start.after reusing).Reached := ⟨reusing, hallows, rfl⟩
  have howned : (start.after reusing).owned.map Prod.fst = [⟨1, true⟩, ⟨2, true⟩] := by decide +kernel
  refine ⟨hreached, howned, ?_⟩
  rw [(accounts hreached).2.1, ← List.length_map, howned]
  rfl

end StyleArena.Client

end MarkupTex
