import MarkupTex.Proofs.Convert.Yields
import MarkupTex.Proofs.Document.Limit
/-!
# What an action leaves alone

The warnings of a conversion and the table that it is in are changed in few places.  `Notes W c c'` says
of two states that the table is the same, that neither of them is deeper in a verbatim block, and that the
warnings that were added are among `W`.  `Books W c c'` says of the warnings how the rest of the state goes
along with them: the slot has the last one, and of unknown elements those are reported that there was a
warning for.  `Noting W m` says both of an action, and the actions that a conversion is put together from have
a lemma each.

The rules by which they are put together serve any relation that is reflexive and transitive: those of
`Relates` where it is to hold if the action succeeds, and those of `Always` where it is to hold of the state
that a fault leaves as well.

Whether an action succeeds is of no concern here, so that an `Ensures` asks for less than a `Yields`.
-/

set_option autoImplicit false

namespace MarkupTex

/-- The fault that a warning tells of. -/
def Warning.fault (w : Warning) : Fault := ⟨w.kind, w.message⟩

namespace FaultSlot

/-- The slot after these warnings, which have come one after the other. -/
def noting (slot : FaultSlot) (ws : List Warning) : FaultSlot :=
  ws.foldl (fun slot w => slot.record w.fault) slot

theorem noting_append (slot : FaultSlot) (ws ws' : List Warning) :
    slot.noting (ws ++ ws') = (slot.noting ws).noting ws' := List.foldl_append

/-- It has the last one. -/
theorem current_noting (slot : FaultSlot) (ws : List Warning) :
    (slot.noting ws).current = (ws.getLast?.map (·.fault)).or slot.current := by
  rcases List.eq_nil_or_concat ws with rfl | ⟨front, last, rfl⟩
  · rfl
  · simp [noting, record]

end FaultSlot

end MarkupTex

namespace MarkupTex.Convert

open Latex

variable {α β : Type} {m : Conversion α} {c c' c₁ c₂ : Converter} {Q : α → Converter → Prop}

/-- If the action succeeds in `c`, then with a result and a state for which `Q` holds. -/
def Ensures (m : Conversion α) (c : Converter) (Q : α → Converter → Prop) : Prop :=
  ∀ a c', m c = .ok a c' → Q a c'

namespace Ensures

theorem pure {a : α} (h : Q a c) : Ensures (Pure.pure a) c Q := by
  intro a' c' hm
  cases hm
  exact h

theorem mono {Q' : α → Converter → Prop} (h : Ensures m c Q) (hQ : ∀ a c', Q a c' → Q' a c') :
    Ensures m c Q' := fun a c' hm => hQ a c' (h a c' hm)

theorem and {P : α → Converter → Prop} (h : Ensures m c P) (h' : Ensures m c Q) :
    Ensures m c fun a c' => P a c' ∧ Q a c' := fun a c' hm => ⟨h a c' hm, h' a c' hm⟩

/-- Only what the action does in this state matters. -/
theorem congr {m' : Conversion α} (h : Ensures m' c' Q) (hm : m c = m' c') : Ensures m c Q := by
  rwa [Ensures, hm]

theorem bind {next : α → Conversion β} {Q' : β → Converter → Prop} (h : Ensures m c Q)
    (hnext : ∀ a c', Q a c' → Ensures (next a) c' Q') : Ensures (m >>= next) c Q' := by
  intro b c₂ hm
  simp only [Bind.bind, EStateM.bind] at hm
  cases hfirst : m c with
  | error fault c₁ =>
    rw [hfirst] at hm
    cases hm
  | ok a c₁ =>
    rw [hfirst] at hm
    exact hnext a c₁ (h a c₁ hfirst) b c₂ hm

theorem get_bind {next : Converter → Conversion β} {Q' : β → Converter → Prop}
    (h : Ensures (next c) c Q') : Ensures (get >>= next) c Q' := h

theorem modifies {f : Converter → Converter} {Q : Unit → Converter → Prop} (h : Q () (f c)) :
    Ensures (modify f) c Q := by
  intro a c' hm
  cases hm
  exact h

theorem modify_bind {f : Converter → Converter} {next : Unit → Conversion β}
    {Q' : β → Converter → Prop} (h : Ensures (next ()) (f c) Q') :
    Ensures (modify f >>= next) c Q' := h

theorem throws {fault : Fault} : Ensures (throw fault : Conversion α) c Q := by
  intro a c' hm
  cases hm

theorem ite {p : Prop} [Decidable p] {m' : Conversion α} (h : p → Ensures m c Q)
    (h' : ¬ p → Ensures m' c Q) : Ensures (if p then m else m') c Q := by
  split
  · next hp => exact h hp
  · next hp => exact h' hp

theorem «unless» {p : Prop} [Decidable p] {m : Conversion Unit} {Q : Unit → Converter → Prop}
    (h : ¬ p → Ensures m c Q) (h' : p → Q () c) : Ensures (unless p do m) c Q := by
  by_cases hp : p
  · rw [if_pos hp]
    exact pure (h' hp)
  · rw [if_neg hp]
    exact h hp

end Ensures

theorem Yields.ensures (h : Yields m c Q) : Ensures m c Q := fun _ _ hm => h.of_ok hm

theorem Yields.and_ensures {P : α → Converter → Prop} (h : Yields m c P) (h' : Ensures m c Q) :
    Yields m c fun a c' => P a c' ∧ Q a c' := by
  unfold Yields at h ⊢
  cases hm : m c with
  | error fault c' => rwa [hm] at h
  | ok a c' =>
    rw [hm] at h
    exact ⟨h, h' a c' hm⟩

/-- If the action succeeds, the state before it and the state after it are related. -/
def Relates (R : Converter → Converter → Prop) (m : Conversion α) : Prop :=
  ∀ c, Ensures m c fun _ c' => R c c'

namespace Relates

variable {R : Converter → Converter → Prop}

theorem pure [Std.Refl R] (a : α) : Relates R (Pure.pure a : Conversion α) :=
  fun c => Ensures.pure (Std.Refl.refl c)

theorem bind [Trans R R R] {next : α → Conversion β} (h : Relates R m)
    (hnext : ∀ a, Relates R (next a)) : Relates R (m >>= next) := fun c =>
  (h c).bind fun a c₁ h₁ => (hnext a c₁).mono fun _ _ h₂ => Trans.trans h₁ h₂

theorem get_bind {next : Converter → Conversion β} (h : ∀ c, Relates R (next c)) :
    Relates R (get >>= next) := fun c => Ensures.get_bind (h c c)

theorem modifies {f : Converter → Converter} (h : ∀ c, R c (f c)) : Relates R (modify f) :=
  fun c => Ensures.modifies (h c)

theorem modify_bind [Trans R R R] {f : Converter → Converter} {next : Unit → Conversion β}
    (h : ∀ c, R c (f c)) (hnext : Relates R (next ())) : Relates R (modify f >>= next) :=
  (modifies h).bind fun _ => hnext

theorem throws {fault : Fault} : Relates R (throw fault : Conversion α) := fun _ => Ensures.throws

theorem ite {p : Prop} [Decidable p] {m' : Conversion α} (h : p → Relates R m)
    (h' : ¬ p → Relates R m') : Relates R (if p then m else m') := fun c =>
  Ensures.ite (fun hp => h hp c) fun hp => h' hp c

theorem «unless» [Std.Refl R] {p : Prop} [Decidable p] {m : Conversion Unit}
    (h : ¬ p → Relates R m) : Relates R (unless p do m) := fun c =>
  Ensures.unless (fun hp => h hp c) fun _ => Std.Refl.refl c

end Relates

/-- The state before the action and the state after it are related, also if there was a fault. -/
structure Always (R : Converter → Converter → Prop) (m : Conversion α) : Prop where
  after : ∀ c, R c (Walk.after (m c))

namespace Always

variable {R : Converter → Converter → Prop}

theorem relates (h : Always R m) : Relates R m := by
  intro c a c' hm
  have := h.after c
  rwa [hm] at this

theorem mono {R' : Converter → Converter → Prop} (h : Always R m) (hR : ∀ c c', R c c' → R' c c') :
    Always R' m := ⟨fun c => hR c _ (h.after c)⟩

theorem pure [Std.Refl R] (a : α) : Always R (Pure.pure a : Conversion α) := ⟨Std.Refl.refl⟩

theorem bind [Trans R R R] {next : α → Conversion β} (h : Always R m)
    (hnext : ∀ a, Always R (next a)) : Always R (m >>= next) := by
  refine ⟨fun c => ?_⟩
  have hfirst := h.after c
  simp only [Bind.bind, EStateM.bind]
  cases hm : m c with
  | error fault c₁ =>
    rw [hm] at hfirst
    exact hfirst
  | ok a c₁ =>
    rw [hm] at hfirst
    exact Trans.trans hfirst ((hnext a).after c₁)

theorem get_bind {next : Converter → Conversion β} (h : ∀ c, Always R (next c)) :
    Always R (get >>= next) := ⟨fun c => (h c).after c⟩

theorem modifies {f : Converter → Converter} (h : ∀ c, R c (f c)) : Always R (modify f) := ⟨h⟩

theorem modify_bind [Trans R R R] {f : Converter → Converter} {next : Unit → Conversion β}
    (h : ∀ c, R c (f c)) (hnext : Always R (next ())) : Always R (modify f >>= next) :=
  (modifies h).bind fun _ => hnext

theorem throws [Std.Refl R] {fault : Fault} : Always R (throw fault : Conversion α) := ⟨Std.Refl.refl⟩

theorem ite {p : Prop} [Decidable p] {m' : Conversion α} (h : p → Always R m)
    (h' : ¬ p → Always R m') : Always R (if p then m else m') := by
  split
  · next hp => exact h hp
  · next hp => exact h' hp

theorem «unless» [Std.Refl R] {p : Prop} [Decidable p] {m : Conversion Unit}
    (h : ¬ p → Always R m) : Always R (unless p do m) := by
  by_cases hp : p
  · rw [if_pos hp]
    exact pure ()
  · rw [if_neg hp]
    exact h hp

end Always

/-- New warnings are all among `W`. -/
def Warned (W : Warning → Prop) (c c' : Converter) : Prop :=
  ∃ ws, c'.warnings = c.warnings ++ ws ∧ ∀ w ∈ ws, W w

namespace Warned

variable {W V : Warning → Prop}

theorem of_eq (h : c'.warnings = c.warnings) : Warned W c c' := ⟨[], by simpa using h, by simp⟩

theorem trans (h : Warned W c c₁) (h' : Warned W c₁ c₂) : Warned W c c₂ := by
  obtain ⟨ws, hws, hW⟩ := h
  obtain ⟨ws', hws', hW'⟩ := h'
  refine ⟨ws ++ ws', by rw [hws', hws, List.append_assoc], fun w hw => ?_⟩
  rcases List.mem_append.mp hw with hw | hw
  · exact hW w hw
  · exact hW' w hw

/-- There is nothing to warn about. -/
theorem eq (h : Warned (fun _ => False) c c') : c'.warnings = c.warnings := by
  obtain ⟨ws, hws, hW⟩ := h
  cases ws with
  | nil => simpa using hws
  | cons w ws => exact absurd (hW w List.mem_cons_self) id

end Warned

/-- The same table, no step into a verbatim block, and no new warnings but those in `W`. -/
structure Notes (W : Warning → Prop) (c c' : Converter) : Prop where
  table : c'.table = c.table
  preDepth : c'.preDepth = c.preDepth
  warned : Warned W c c'

namespace Notes

variable {W V : Warning → Prop}

theorem of_eq (table : c'.table = c.table) (preDepth : c'.preDepth = c.preDepth)
    (warnings : c'.warnings = c.warnings) : Notes W c c' := ⟨table, preDepth, .of_eq warnings⟩

theorem refl (c : Converter) : Notes W c c := .of_eq rfl rfl rfl

theorem trans (h : Notes W c c₁) (h' : Notes W c₁ c₂) : Notes W c c₂ :=
  ⟨h'.table.trans h.table, h'.preDepth.trans h.preDepth, h.warned.trans h'.warned⟩

end Notes

/-! ## Bookkeeping -/

/-- What is noted of an unknown element. -/
def unknownWarning (name : String) : Warning :=
  .ofFault ⟨.unsupported, s!"unknown element <{name}> rendered as plain content"⟩ (some name)

/-- New warnings are all among `W`, and the slot has been given them all.  What is reported of unknown
elements is the same, but for those that there may be a warning for. -/
structure Books (W : Warning → Prop) (c c' : Converter) : Prop where
  warned : ∃ ws, c'.warnings = c.warnings ++ ws ∧ (∀ w ∈ ws, W w) ∧ c'.faults = c.faults.noting ws
  reported : ∀ name, ¬ W (unknownWarning name) → (name ∈ c'.reported ↔ name ∈ c.reported)

namespace Books

variable {W V : Warning → Prop}

theorem of_eq (h : (c'.warnings, c'.faults, c'.reported) = (c.warnings, c.faults, c.reported)) :
    Books W c c' := by
  simp only [Prod.mk.injEq] at h
  obtain ⟨hwarnings, hfaults, hreported⟩ := h
  exact ⟨⟨[], by simpa using hwarnings, by simp, hfaults⟩, fun name _ => by rw [hreported]⟩

theorem refl (c : Converter) : Books W c c := .of_eq rfl

theorem trans (h : Books W c c₁) (h' : Books W c₁ c₂) : Books W c c₂ where
  warned := by
    obtain ⟨ws, hws, hW, hslot⟩ := h.warned
    obtain ⟨ws', hws', hW', hslot'⟩ := h'.warned
    refine ⟨ws ++ ws', by rw [hws', hws, List.append_assoc], ?_, ?_⟩
    · exact List.forall_mem_append.mpr ⟨hW, hW'⟩
    · rw [hslot', hslot, FaultSlot.noting_append]
  reported := fun name hname => (h'.reported name hname).trans (h.reported name hname)

theorem mono (h : Books W c c') (hV : ∀ w, W w → V w) : Books V c c' where
  warned := by
    obtain ⟨ws, hws, hW, hslot⟩ := h.warned
    exact ⟨ws, hws, fun w hw => hV w (hW w hw), hslot⟩
  reported := fun name hname => h.reported name fun hW => hname (hV _ hW)

end Books

instance {W : Warning → Prop} : Std.Refl (Books W) := ⟨Books.refl⟩

instance {W : Warning → Prop} : Trans (Books W) (Books W) (Books W) := ⟨Books.trans⟩

/-- Both together. -/
structure Accounts (W : Warning → Prop) (c c' : Converter) : Prop where
  notes : Notes W c c'
  books : Books W c c'

namespace Accounts

variable {W : Warning → Prop}

theorem of_eq (table : c'.table = c.table) (preDepth : c'.preDepth = c.preDepth)
    (books : (c'.warnings, c'.faults, c'.reported) = (c.warnings, c.faults, c.reported)) :
    Accounts W c c' := ⟨.of_eq table preDepth (congrArg Prod.fst books), .of_eq books⟩

theorem refl (c : Converter) : Accounts W c c := ⟨.refl c, .refl c⟩

theorem trans (h : Accounts W c c₁) (h' : Accounts W c₁ c₂) : Accounts W c c₂ :=
  ⟨h.notes.trans h'.notes, h.books.trans h'.books⟩

end Accounts

instance {W : Warning → Prop} : Std.Refl (Accounts W) := ⟨Accounts.refl⟩

instance {W : Warning → Prop} : Trans (Accounts W) (Accounts W) (Accounts W) := ⟨Accounts.trans⟩

section Rules

variable {W : Warning → Prop}

/-- The action leaves the table alone, and no warning comes of it but those in `W`, which is kept the books
of. -/
abbrev Noting (W : Warning → Prop) (m : Conversion α) : Prop := Always (Accounts W) m

namespace Noting

theorem ensures (h : Noting W m) : Relates (Notes W) m := fun c =>
  (h.relates c).mono fun _ _ haccounts => haccounts.notes

theorem books (h : Noting W m) : Always (Books W) m := h.mono fun _ _ haccounts => haccounts.books

end Noting

/-- Where only success counts, it is enough to name the state. -/
instance : CoeFun (Always (Accounts W) m) fun _ => ∀ c, Ensures m c fun _ c' => Notes W c c' :=
  ⟨Noting.ensures⟩

/-! ## Writing -/

theorem write_noting (act : Buffer → Except Fault Buffer) : Noting W (write act) := by
  refine ⟨fun c => ?_⟩
  rw [write]
  split
  · exact .of_eq rfl rfl rfl
  · exact .refl c

theorem push_noting (s : String) : Noting W (push s) := write_noting _

theorem pushEscaped_noting (s : String) : Noting W (pushEscaped s) := write_noting _

theorem pushPath_noting (s : String) : Noting W (pushPath s) := write_noting _

theorem pushUrl_noting (s : String) : Noting W (pushUrl s) := write_noting _

theorem newline_noting : Noting W newline := write_noting _

theorem paragraphBreak_noting : Noting W paragraphBreak := write_noting _

theorem trimSpaces_noting : Noting W trimSpaces := .modifies fun _ => .of_eq rfl rfl rfl

theorem spaceApart_noting : Noting W spaceApart :=
  .get_bind fun _ => .unless fun _ => push_noting _

theorem pushTimes_noting (s : String) : ∀ n, Noting W (pushTimes s n)
  | 0 => .pure ()
  | n + 1 => (push_noting s).bind fun _ => pushTimes_noting s n

theorem pushLabel_noting (name : String) : Noting W (pushLabel name) :=
  (push_noting _).bind fun _ => (pushPath_noting name).bind fun _ => push_noting _

/-! ## Frames and what they owe -/

theorem onLeave_noting (closer : Closer) : Noting W (onLeave closer) :=
  .modifies fun c => by
    cases c.frames with
    | nil => exact .refl c
    | cons => exact .of_eq rfl rfl rfl

theorem modifyFrame_noting (f : Frame → Frame) : Noting W (modifyFrame f) := by
  unfold modifyFrame
  refine .get_bind fun c => ?_
  cases c.frames with
  | nil => exact .throws
  | cons => exact .modifies fun _ => .of_eq rfl rfl rfl

theorem braceOwed_noting (closing : String) : Noting W (braceOwed closing) := by
  unfold braceOwed
  exact .modify_bind (fun _ => .of_eq rfl rfl rfl) (onLeave_noting _)

theorem beginArgument_noting : Noting W beginArgument := by
  unfold beginArgument
  exact .modify_bind (fun _ => .of_eq rfl rfl rfl) (onLeave_noting _)

theorem argumentOwed_noting (closing : String) : Noting W (argumentOwed closing) :=
  (braceOwed_noting closing).bind fun _ => beginArgument_noting

theorem openGroup_noting (opening closing : String) : Noting W (openGroup opening closing) :=
  (push_noting opening).bind fun _ => braceOwed_noting closing

theorem openArgument_noting (opening closing : String) : Noting W (openArgument opening closing) :=
  (push_noting opening).bind fun _ => argumentOwed_noting closing

theorem emitCloser_noting (closer : Closer) : Noting W (emitCloser closer) := by
  cases closer with
  | text s => exact push_noting s
  | brace s => exact (push_noting s).bind fun _ => .modifies fun _ => .of_eq rfl rfl rfl
  | paragraphBreak => exact paragraphBreak_noting
  | newline => exact newline_noting
  | label name => exact pushLabel_noting name
  | endArgument => exact .modifies fun _ => .of_eq rfl rfl rfl

theorem emitClosers_noting : ∀ closers, Noting W (emitClosers closers)
  | [] => .pure ()
  | closer :: rest => (emitCloser_noting closer).bind fun _ => emitClosers_noting rest

theorem closeFrame_noting (frame : Frame) : Noting W (closeFrame frame) := emitClosers_noting _

theorem closeBraces_noting (saved : Nat) : ∀ n, Noting W (closeBraces saved n)
  | 0 => .pure ()
  | n + 1 => by
    unfold closeBraces
    refine .get_bind fun _ => .ite (fun _ => ?_) fun _ => .pure ()
    refine (push_noting _).bind fun _ => ?_
    exact .modify_bind (fun _ => .of_eq rfl rfl rfl) (closeBraces_noting saved n)

/-! ## Warnings -/

theorem warn_noting {fault : Fault} {element : Option String} (h : W (.ofFault fault element)) :
    Noting W (warn fault element) := by
  have hall : ∀ w ∈ [Warning.ofFault fault element], W w := by simpa using h
  refine .modifies fun c => ⟨⟨rfl, rfl, _, rfl, hall⟩, ⟨_, rfl, hall, rfl⟩, fun _ _ => Iff.rfl⟩

/-- An unknown element is reported together with a warning for it. -/
theorem reportUnknown_noting {name : String} (h : W (unknownWarning name)) :
    Noting W (reportUnknown name) := by
  unfold reportUnknown
  refine .get_bind fun c => .unless fun _ => .modify_bind (fun c => ?_) (warn_noting h)
  refine ⟨.of_eq rfl rfl rfl, ⟨[], by simp, by simp, rfl⟩, fun other hother => ?_⟩
  have hne : other ≠ name := by
    rintro rfl
    exact hother h
  simp [hne]

theorem orWarn_noting {name : String} {value : Except Fault α} {use : α → Conversion Unit}
    (hbad : ∀ fault, value = .error fault → W (.ofFault fault (some name)))
    (huse : ∀ a, Noting W (use a)) : Noting W (orWarn name value use) := by
  cases value with
  | ok a => exact huse a
  | error fault => exact warn_noting (hbad fault rfl)

/-! ## Formatting -/

theorem modifyFormatting_noting (f : Formatting → Formatting) : Noting W (modifyFormatting f) :=
  .modifies fun _ => .of_eq rfl rfl rfl

theorem applyEmphasis_noting (e : Emphasis) : Noting W (applyEmphasis e) := by
  unfold applyEmphasis
  refine .get_bind fun c => .unless fun _ => .ite (fun _ => ?_) fun _ => ?_
  · exact (openArgument_noting _ _).bind fun _ => modifyFormatting_noting _
  · cases e.group? with
    | some opening => exact (openGroup_noting _ _).bind fun _ => modifyFormatting_noting _
    | none => exact modifyFormatting_noting _

theorem applyColor_noting (hex : String) : Noting W (applyColor hex) := by
  unfold applyColor
  refine .get_bind fun c => .unless fun _ => .ite (fun _ => ?_) fun _ => ?_
  · exact (openGroup_noting _ _).bind fun _ => modifyFormatting_noting _
  · exact (openArgument_noting _ _).bind fun _ => modifyFormatting_noting _

theorem applyBackground_noting (hex : String) : Noting W (applyBackground hex) := by
  unfold applyBackground
  refine .get_bind fun c => .unless fun _ => .ite (fun _ => modifyFormatting_noting _) fun _ => ?_
  exact (openArgument_noting _ _).bind fun _ => modifyFormatting_noting _

theorem applyFamily_noting (family : Family) : Noting W (applyFamily family) := by
  unfold applyFamily
  refine .get_bind fun c => .unless fun _ => .ite (fun _ => ?_) fun _ => ?_
  · exact (openGroup_noting _ _).bind fun _ => modifyFormatting_noting _
  · exact (openArgument_noting _ _).bind fun _ => modifyFormatting_noting _

theorem applySize_noting (switch : String) : Noting W (applySize switch) := by
  unfold applySize
  refine .get_bind fun c => .unless fun _ => ?_
  exact (openGroup_noting _ _).bind fun _ => modifyFormatting_noting _

/-- A value of the style that cannot be read is all that is noted of a style. -/
theorem applyStyle_noting {e : Element} {style : Style}
    (hcolor : ∀ value fault, style.get? "color" = some value → Color.toHex value = .error fault →
      W (.ofFault fault (some e.name)))
    (hbackground : ∀ value fault, style.backgroundColor? = some value →
      Color.toHex value = .error fault → W (.ofFault fault (some e.name))) :
    Noting W (applyStyle e style) := by
  unfold applyStyle
  -- The rest of the action from each of its steps on, the last one first.
  extract_lets underline italic bold background
  have hunderline : Noting W (underline ()) :=
    .ite (fun _ => applyEmphasis_noting _) fun _ => .pure ()
  have hitalic : Noting W (italic ()) :=
    .ite (fun _ => (applyEmphasis_noting _).bind fun _ => hunderline) fun _ => hunderline
  have hbold : Noting W (bold ()) :=
    .ite (fun _ => (applyEmphasis_noting _).bind fun _ => hitalic) fun _ => hitalic
  have hback : Noting W (background ()) := by
    refine .ite (fun _ => ?_) fun _ => hbold
    cases hb : style.backgroundColor? with
    | none => exact hbold
    | some value =>
      exact (orWarn_noting (fun fault => hbackground value fault hb) applyBackground_noting).bind
        fun _ => hbold
  refine .ite (fun _ => ?_) fun _ => hback
  cases hc : style.get? "color" with
  | none => exact hback
  | some value =>
    exact (orWarn_noting (fun fault => hcolor value fault hc) applyColor_noting).bind fun _ => hback

end Rules

end MarkupTex.Convert
