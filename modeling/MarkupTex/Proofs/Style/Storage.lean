import MarkupTex.Style.Arena
/-!
# What a lent style leaves behind

Seen from outside, a `StyleArena` is the map from slots to the styles in them, and two counters.
`alloc` changes this map at one empty slot and `release` empties one slot, so that an arena from which
everything that was lent has come back holds what it held before, though its free list may be in
another order.

`Lent a slots b` says that `b` is `a` with these slots given out, whatever came and went in between.
The slots are a set: handles may come back in any order, which is what a walk lives by, since it gives
them back in one order when it comes to its end and in another when it is cut off.
-/

set_option autoImplicit false

namespace MarkupTex

namespace StyleArena

/-- What every operation may count on: the free slots are empty, each is listed once, and slot 0 is
not among them. -/
structure WellFormed (a : StyleArena) : Prop where
  size_pos : 0 < a.slots.size
  free_nodup : a.free.Nodup
  free_lt : ∀ slot ∈ a.free, slot < a.slots.size
  free_ne_zero : ∀ slot ∈ a.free, slot ≠ 0
  free_empty : ∀ slot ∈ a.free, a.style? slot = none

theorem wellFormed_new : new.WellFormed where
  size_pos := by decide
  free_nodup := List.nodup_nil
  free_lt := by simp [new]
  free_ne_zero := by simp [new]
  free_empty := by simp [new]

theorem style?_new_zero : new.style? 0 = some Style.empty := rfl

theorem lt_size_of_style? {a : StyleArena} {slot : Nat} {style : Style}
    (h : a.style? slot = some style) : slot < a.slots.size := by
  rcases Nat.lt_or_ge slot a.slots.size with hlt | hge
  · exact hlt
  · rw [style?, Array.getElem?_eq_none hge] at h
    exact absurd h (by simp)

theorem get_of_style? {a : StyleArena} {h : StyleHandle} {style : Style}
    (hs : a.style? h.slot = some style) : a.get h = .ok style := by
  rw [get, hs]

theorem style?_of_get {a : StyleArena} {h : StyleHandle} {style : Style} (hget : a.get h = .ok style) :
    a.style? h.slot = some style := by
  rw [get] at hget
  split at hget
  · next hfound => rw [hfound, Except.ok.inj hget]
  · cases hget

/-! ## The map from slots to styles -/

theorem style?_set {a b : StyleArena} {slot : Nat} {content : Option Style}
    (hlt : slot < a.slots.size) (hb : b.slots = a.slots.setIfInBounds slot content) (x : Nat) :
    b.style? x = if x = slot then content else a.style? x := by
  rw [style?, style?, hb, Array.getElem?_setIfInBounds]
  by_cases hx : x = slot
  · subst hx
    simp [hlt]
  · simp [hx, Ne.symm hx]

theorem style?_push {a b : StyleArena} {style : Style} (hb : b.slots = a.slots.push (some style))
    (x : Nat) : b.style? x = if x = a.slots.size then some style else a.style? x := by
  rw [style?, style?, hb, Array.getElem?_push]
  by_cases hx : x = a.slots.size
  · simp [hx]
  · simp [hx]

/-- A style goes into a slot that was empty, and never into slot 0. -/
theorem alloc_spec {a : StyleArena} (wf : a.WellFormed) (style : Style) :
    ∃ slot b, a.alloc style = (⟨slot, true⟩, b) ∧ b.WellFormed ∧ slot ≠ 0 ∧ a.style? slot = none ∧
      (∀ x, b.style? x = if x = slot then some style else a.style? x) ∧
      b.allocations = a.allocations + 1 ∧ b.releases = a.releases := by
  cases hf : a.free with
  | nil =>
    have hout : a.style? a.slots.size = none := by
      rw [style?, Array.getElem?_eq_none (Nat.le_refl _)]
      rfl
    refine ⟨a.slots.size, { a with slots := a.slots.push (some style),
                                   allocations := a.allocations + 1 }, ?_, ?_, ?_, hout, ?_, rfl, rfl⟩
    · simp [alloc, hf]
    · refine ⟨by simp, ?_, ?_, ?_, ?_⟩ <;> simp [hf]
    · exact Nat.ne_of_gt wf.size_pos
    · exact style?_push rfl
  | cons slot free =>
    have hmem : slot ∈ a.free := by simp [hf]
    have hnodup : (slot :: free).Nodup := hf ▸ wf.free_nodup
    have hrest : ∀ x ∈ free, x ∈ a.free := fun x hx => by simp [hf, hx]
    let b : StyleArena := { a with slots := a.slots.setIfInBounds slot (some style), free,
                                   allocations := a.allocations + 1 }
    have hstyle : ∀ x, b.style? x = if x = slot then some style else a.style? x :=
      style?_set (wf.free_lt slot hmem) rfl
    refine ⟨slot, b, by simp [alloc, hf, b], ?_, wf.free_ne_zero slot hmem,
      wf.free_empty slot hmem, hstyle, rfl, rfl⟩
    refine ⟨by simpa [b] using wf.size_pos, (List.nodup_cons.mp hnodup).2, ?_, ?_, ?_⟩
    · intro x hx
      simpa [b] using wf.free_lt x (hrest x hx)
    · intro x hx
      exact wf.free_ne_zero x (hrest x hx)
    · intro x hx
      have hne : x ≠ slot := fun he => (List.nodup_cons.mp hnodup).1 (he ▸ hx)
      rw [hstyle, if_neg hne]
      exact wf.free_empty x (hrest x hx)

@[simp] theorem release_borrowed {a : StyleArena} {h : StyleHandle} (hb : h.owned = false) :
    a.release h = .ok a := by
  simp [release, hb]

/-- Giving back a handle that owns a slot empties this slot and no other. -/
theorem release_owned {a : StyleArena} (wf : a.WellFormed) {h : StyleHandle} {style : Style}
    (ho : h.owned = true) (h0 : h.slot ≠ 0) (hs : a.style? h.slot = some style) :
    ∃ b, a.release h = .ok b ∧ b.WellFormed ∧
      (∀ x, b.style? x = if x = h.slot then none else a.style? x) ∧
      b.allocations = a.allocations ∧ b.releases = a.releases + 1 := by
  have hlt := lt_size_of_style? hs
  let b : StyleArena := { a with slots := a.slots.setIfInBounds h.slot none,
                                 free := h.slot :: a.free, releases := a.releases + 1 }
  have hstyle : ∀ x, b.style? x = if x = h.slot then none else a.style? x := style?_set hlt rfl
  refine ⟨b, by simp [release, ho, h0, hs, b], ?_, hstyle, rfl, rfl⟩
  have hnot : h.slot ∉ a.free := fun hm => by simp [wf.free_empty _ hm] at hs
  refine ⟨by simpa [b] using wf.size_pos, List.nodup_cons.mpr ⟨hnot, wf.free_nodup⟩, ?_, ?_, ?_⟩
  · intro x hx
    rcases List.mem_cons.mp hx with rfl | hx
    · simpa [b] using hlt
    · simpa [b] using wf.free_lt x hx
  · intro x hx
    rcases List.mem_cons.mp hx with rfl | hx
    · exact h0
    · exact wf.free_ne_zero x hx
  · intro x hx
    rw [hstyle]
    split
    · rfl
    · next hne =>
      rcases List.mem_cons.mp hx with rfl | hx
      · exact absurd rfl hne
      · exact wf.free_empty x hx

/-- Every operation leaves the arena in order: it stores a style or gives one back. -/
theorem WellFormed.release {a b : StyleArena} (wf : a.WellFormed) {h : StyleHandle}
    (hb : a.release h = .ok b) : b.WellFormed := by
  cases ho : h.owned with
  | false =>
    rw [release_borrowed ho] at hb
    cases hb
    exact wf
  | true =>
    by_cases h0 : h.slot = 0
    · simp [StyleArena.release, ho, h0] at hb
    · cases hs : a.style? h.slot with
      | none => simp [StyleArena.release, ho, h0, hs] at hb
      | some style =>
        obtain ⟨c, hc, hwf, -⟩ := release_owned wf ho h0 hs
        rw [hc] at hb
        cases hb
        exact hwf

theorem WellFormed.alloc {a : StyleArena} (wf : a.WellFormed) (style : Style) :
    (a.alloc style).2.WellFormed := by
  obtain ⟨slot, b, hb, hwf, -⟩ := alloc_spec wf style
  rw [hb]
  exact hwf

end StyleArena

/-- The slot that a handle has to give back. -/
def StyleHandle.owns (h : StyleHandle) : List Nat := if h.owned then [h.slot] else []

@[simp] theorem StyleHandle.owns_borrow (h : StyleHandle) : h.borrow.owns = [] := rfl

namespace StyleArena

/-! ## Lending -/

/-- `b` is `a` with these slots given out, which were empty, and nothing else changed.  What was given
out and has come back in between counts for both counters. -/
structure Lent (a : StyleArena) (slots : List Nat) (b : StyleArena) : Prop where
  wellFormed : b.WellFormed
  nodup : slots.Nodup
  ne_zero : ∀ slot ∈ slots, slot ≠ 0
  was_empty : ∀ slot ∈ slots, a.style? slot = none
  filled : ∀ slot ∈ slots, ∃ style, b.style? slot = some style
  kept : ∀ slot, slot ∉ slots → b.style? slot = a.style? slot
  counted : ∃ n, b.allocations = a.allocations + n + slots.length ∧ b.releases = a.releases + n

namespace Lent

variable {a b c : StyleArena} {xs ys : List Nat} {style : Style} {h : StyleHandle} {slot : Nat}

theorem refl (wf : a.WellFormed) : Lent a [] a where
  wellFormed := wf
  nodup := List.nodup_nil
  ne_zero := by simp
  was_empty := by simp
  filled := by simp
  kept := fun _ _ => rfl
  counted := ⟨0, by simp⟩

/-- What was held before is held still. -/
theorem keeps (hl : Lent a xs b) (hs : a.style? slot = some style) : b.style? slot = some style := by
  have hout : slot ∉ xs := by
    intro hm
    rw [hl.was_empty slot hm] at hs
    cases hs
  rw [hl.kept slot hout, hs]

theorem trans (hab : Lent a xs b) (hbc : Lent b ys c) : Lent a (ys ++ xs) c where
  wellFormed := hbc.wellFormed
  nodup := by
    refine List.nodup_append.mpr ⟨hbc.nodup, hab.nodup, ?_⟩
    -- A slot that is still out when the second part begins is not given out once more.
    rintro x hx _ hx' rfl
    obtain ⟨style, hs⟩ := hab.filled x hx'
    rw [hbc.was_empty x hx] at hs
    cases hs
  ne_zero := by
    intro x hx
    rcases List.mem_append.mp hx with hx | hx
    · exact hbc.ne_zero x hx
    · exact hab.ne_zero x hx
  was_empty := by
    intro x hx
    rcases List.mem_append.mp hx with hx | hx
    · by_cases hx' : x ∈ xs
      · exact hab.was_empty x hx'
      · rw [← hab.kept x hx', hbc.was_empty x hx]
    · exact hab.was_empty x hx
  filled := by
    intro x hx
    rcases List.mem_append.mp hx with hx | hx
    · exact hbc.filled x hx
    · obtain ⟨style, hs⟩ := hab.filled x hx
      exact ⟨style, hbc.keeps hs⟩
  kept := by
    intro x hx
    rw [List.mem_append, not_or] at hx
    rw [hbc.kept x hx.1, hab.kept x hx.2]
  counted := by
    obtain ⟨n, hn, hn'⟩ := hab.counted
    obtain ⟨m, hm, hm'⟩ := hbc.counted
    refine ⟨n + m, ?_, by omega⟩
    rw [List.length_append]
    omega

/-- In what order the slots are listed does not matter. -/
theorem perm (hl : Lent a xs b) (hp : xs.Perm ys) : Lent a ys b where
  wellFormed := hl.wellFormed
  nodup := hp.nodup hl.nodup
  ne_zero := fun x hx => hl.ne_zero x (hp.mem_iff.mpr hx)
  was_empty := fun x hx => hl.was_empty x (hp.mem_iff.mpr hx)
  filled := fun x hx => hl.filled x (hp.mem_iff.mpr hx)
  kept := fun x hx => hl.kept x fun hm => hx (hp.mem_iff.mp hm)
  counted := hp.length_eq ▸ hl.counted

/-- Of what is out, any handle can be given back. -/
theorem release (hl : Lent a (h.owns ++ xs) b) : ∃ c, b.release h = .ok c ∧ Lent a xs c := by
  cases ho : h.owned with
  | false =>
    refine ⟨b, release_borrowed ho, ?_⟩
    simpa [StyleHandle.owns, ho] using hl
  | true =>
    have howns : h.owns ++ xs = h.slot :: xs := by simp [StyleHandle.owns, ho]
    rw [howns] at hl
    obtain ⟨style, hs⟩ := hl.filled h.slot List.mem_cons_self
    have h0 := hl.ne_zero h.slot List.mem_cons_self
    obtain ⟨c, hc, hwf, hstyle, halloc, hrel⟩ := release_owned hl.wellFormed ho h0 hs
    obtain ⟨hnot, hnodup⟩ := List.nodup_cons.mp hl.nodup
    refine ⟨c, hc, hwf, hnodup, fun x hx => hl.ne_zero x (List.mem_cons_of_mem _ hx),
      fun x hx => hl.was_empty x (List.mem_cons_of_mem _ hx), ?_, ?_, ?_⟩
    · intro x hx
      have hne : x ≠ h.slot := fun he => hnot (he ▸ hx)
      obtain ⟨style, hs⟩ := hl.filled x (List.mem_cons_of_mem _ hx)
      exact ⟨style, by rw [hstyle, if_neg hne, hs]⟩
    · intro x hx
      rw [hstyle]
      split
      · next he => rw [he, hl.was_empty h.slot List.mem_cons_self]
      · next hne => exact hl.kept x (by simp [hne, hx])
    · obtain ⟨n, hn, hn'⟩ := hl.counted
      rw [List.length_cons] at hn
      exact ⟨n + 1, by omega, by omega⟩

/-- The last handle that is out. -/
theorem release_last (hl : Lent a h.owns b) : ∃ c, b.release h = .ok c ∧ Lent a [] c := by
  apply release
  rwa [List.append_nil]

end Lent

/-- `b` is `a` with the handle `h` on `style` given out, as an alias or with a slot of its own. -/
structure Gives (a : StyleArena) (style : Style) (h : StyleHandle) (b : StyleArena) : Prop where
  lent : Lent a h.owns b
  holds : b.style? h.slot = some style

namespace Gives

variable {a b c : StyleArena} {style part : Style} {h own inner : StyleHandle}

theorem of_alias (wf : a.WellFormed) (hs : a.style? h.slot = some style) :
    Gives a style h.borrow a := ⟨.refl wf, hs⟩

theorem of_alloc (wf : a.WellFormed) (style : Style) :
    Gives a style (a.alloc style).1 (a.alloc style).2 := by
  obtain ⟨slot, b, ha, hwf, h0, hnone, hb, halloc, hrel⟩ := alloc_spec wf style
  rw [ha]
  have hfilled : b.style? slot = some style := by rw [hb, if_pos rfl]
  refine ⟨⟨hwf, ?_, ?_, ?_, ?_, ?_, 0, ?_, hrel⟩, hfilled⟩
  · simp [StyleHandle.owns]
  · simpa [StyleHandle.owns] using h0
  · simpa [StyleHandle.owns] using hnone
  · simp [StyleHandle.owns, hfilled]
  · intro x hx
    rw [hb, if_neg (by simpa [StyleHandle.owns] using hx)]
  · simp [StyleHandle.owns, halloc]

/-- The two handles of an element. -/
theorem both (hown : Gives a style own b) (hinner : Gives b part inner c) :
    Lent a (inner.owns ++ own.owns) c := hown.lent.trans hinner.lent

theorem release_back (hg : Gives a style h b) : ∃ c, b.release h = .ok c ∧ Lent a [] c :=
  hg.lent.release_last

end Gives

theorem merge_gives {a : StyleArena} (wf : a.WellFormed) {h : StyleHandle} {inherited : Style}
    (hs : a.style? h.slot = some inherited) (overlay : Style) (policy : ImportantPolicy) :
    ∃ own b, a.merge h overlay policy = .ok (own, b) ∧
      Gives a (Style.merge inherited overlay policy).style own b := by
  by_cases he : overlay.isEmpty
  · refine ⟨h.borrow, a, by simp [merge, he], ?_⟩
    rw [Style.merge, if_pos he]
    exact .of_alias wf hs
  · refine ⟨_, _, ?_, .of_alloc wf _⟩
    simp [merge, he, get_of_style? hs, Except.map]

theorem inherited_gives {a : StyleArena} (wf : a.WellFormed) {h : StyleHandle} {style : Style}
    (hs : a.style? h.slot = some style) :
    ∃ part b, a.inherited h = .ok (part, b) ∧ Gives a style.inheritedPart.style part b := by
  cases hp : style.inheritedPart with
  | shared part =>
    have hpart : part = style := by
      rw [Style.inheritedPart] at hp
      split at hp <;> simp_all
    refine ⟨h.borrow, a, by simp [inherited, get_of_style? hs, Except.map, hp], ?_⟩
    exact .of_alias wf (hpart ▸ hs)
  | fresh part =>
    exact ⟨_, _, by simp [inherited, get_of_style? hs, Except.map, hp], .of_alloc wf part⟩

end StyleArena

end MarkupTex
