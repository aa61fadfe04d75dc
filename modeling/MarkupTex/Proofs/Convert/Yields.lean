import MarkupTex.Convert.Run
import MarkupTex.Proofs.Latex.Inline
/-!
# What an action yields

`Yields m c Q` says that `m` succeeds in `c` with a result and a state for which `Q` holds, or else
that the output got no room.  No other fault is let pass: an action that can fail in its own right
yields nothing unless that is ruled out.

The rules follow the actions of which a conversion is made.  All the writing ones come down to
`Wrote`, which says by its tokens what was added to the output.
-/

set_option autoImplicit false

namespace MarkupTex

open Latex

/-- The output so far. -/
def Converter.output (c : Converter) : List Char := c.buffer.text.toList

/-- An output of ASCII is compared by its bytes, so that none of them has to be decoded. -/
instance (c : Converter) (cs : List Char) : Decidable (c.output = cs) :=
  if h : Text.isAscii c.buffer.text then
    decidable_of_iff (Text.byteChars c.buffer.text = cs) (by rw [Converter.output, Text.toList_of_isAscii h])
  else inferInstanceAs (Decidable (c.buffer.text.toList = cs))

/-- With a text it is compared as a text. -/
instance (c : Converter) (s : String) : Decidable (c.output = s.toList) :=
  decidable_of_iff (c.buffer.text = s) String.toList_inj.symm

namespace Convert

variable {α β : Type} {m : Conversion α} {c c' c'' : Converter} {Q : α → Converter → Prop}

def Yields (m : Conversion α) (c : Converter) (Q : α → Converter → Prop) : Prop :=
  match m c with
  | .ok a c' => Q a c'
  | .error fault _ => Buffer.Refused fault

/-- Either the action succeeds, or there was no room. -/
theorem Yields.cases (h : Yields m c Q) :
    (∃ a c', m c = .ok a c' ∧ Q a c') ∨ ∃ fault c', m c = .error fault c' ∧ Buffer.Refused fault := by
  unfold Yields at h
  cases hm : m c with
  | ok a c' =>
    rw [hm] at h
    exact Or.inl ⟨a, c', rfl, h⟩
  | error fault c' =>
    rw [hm] at h
    exact Or.inr ⟨fault, c', rfl, h⟩

namespace Yields

theorem of_ok {a : α} (h : Yields m c Q) (hm : m c = .ok a c') : Q a c' := by
  unfold Yields at h
  rwa [hm] at h

theorem pure {a : α} (h : Q a c) : Yields (Pure.pure a) c Q := h

/-- Only what the action does in this state matters. -/
theorem congr {m' : Conversion α} (h : Yields m' c' Q) (hm : m c = m' c') : Yields m c Q := by
  rwa [Yields, hm]

theorem mono {Q' : α → Converter → Prop} (h : Yields m c Q) (hQ : ∀ a c', Q a c' → Q' a c') :
    Yields m c Q' := by
  unfold Yields at h ⊢
  cases hm : m c with
  | error fault _ =>
    rw [hm] at h
    exact h
  | ok a c' =>
    rw [hm] at h
    exact hQ a c' h

theorem bind {next : α → Conversion β} {Q' : β → Converter → Prop} (h : Yields m c Q)
    (hnext : ∀ a c', Q a c' → Yields (next a) c' Q') : Yields (m >>= next) c Q' := by
  unfold Yields at h
  unfold Yields
  simp only [Bind.bind, EStateM.bind]
  cases hm : m c with
  | error fault _ =>
    rw [hm] at h
    exact h
  | ok a c' =>
    rw [hm] at h
    exact hnext a c' h

theorem pure_bind {a : α} {next : α → Conversion β} {Q' : β → Converter → Prop}
    (h : Yields (next a) c Q') : Yields (Pure.pure a >>= next) c Q' := h

/-- Reading the state, and going on with what was read. -/
theorem get_bind {next : Converter → Conversion β} {Q' : β → Converter → Prop}
    (h : Yields (next c) c Q') : Yields (get >>= next) c Q' := h

theorem modifies {f : Converter → Converter} {Q : Unit → Converter → Prop} (h : Q () (f c)) :
    Yields (modify f) c Q := h

/-- Changing the state, and going on with it. -/
theorem modify_bind {f : Converter → Converter} {next : Unit → Conversion β}
    {Q' : β → Converter → Prop} (h : Yields (next ()) (f c) Q') :
    Yields (modify f >>= next) c Q' := h

theorem ite {p : Prop} [Decidable p] {m' : Conversion α} (h : p → Yields m c Q)
    (h' : ¬ p → Yields m' c Q) : Yields (if p then m else m') c Q := by
  split
  · next hp => exact h hp
  · next hp => exact h' hp

/-- An action for which nothing is done unless something holds. -/
theorem «unless» {p : Prop} [Decidable p] {m : Conversion Unit} {Q : Unit → Converter → Prop}
    (h : ¬ p → Yields m c Q) (h' : p → Q () c) : Yields (unless p do m) c Q := by
  by_cases hp : p
  · rw [if_pos hp]
    exact h' hp
  · rw [if_neg hp]
    exact h hp

end Yields

/-! ## Writing -/

variable {ts us : List Token}

/-- The tokens were added to the output.  Besides, there may be new warnings, and images and figures
that were counted. -/
def Wrote (ts : List Token) (c c' : Converter) : Prop :=
  ∃ (b : Buffer) (figures images : Nat) (warnings : List Warning) (faults : FaultSlot),
    c' = { c with buffer := b, figures, images, warnings, faults } ∧
      b.text.toList = c.output ++ spell ts

namespace Wrote

theorem of_buffer {b : Buffer} (h : b.text.toList = c.output ++ spell ts) :
    Wrote ts c { c with buffer := b } := ⟨b, c.figures, c.images, c.warnings, c.faults, rfl, h⟩

theorem output (h : Wrote ts c c') : c'.output = c.output ++ spell ts := by
  obtain ⟨b, _, _, _, _, rfl, hb⟩ := h
  exact hb

theorem nil : Wrote [] c c := of_buffer (b := c.buffer) (by simp [Converter.output])

theorem trans (h : Wrote ts c c') (h' : Wrote us c' c'') : Wrote (ts ++ us) c c'' := by
  obtain ⟨b, _, _, _, _, rfl, hb⟩ := h
  obtain ⟨b', figures, images, warnings, faults, rfl, hb'⟩ := h'
  refine ⟨b', figures, images, warnings, faults, rfl, ?_⟩
  rw [hb', spell_append, ← List.append_assoc, ← hb]
  rfl

theorem congr (h : Wrote ts c c') (hs : spell ts = spell us) : Wrote us c c' := by
  obtain ⟨b, figures, images, warnings, faults, rfl, hb⟩ := h
  exact ⟨b, figures, images, warnings, faults, rfl, by rw [hb, hs]⟩

end Wrote

/-- One row after another. -/
theorem wrote_bind {m : Conversion Unit} {next : Unit → Conversion Unit}
    (h : Yields m c fun _ c' => Wrote ts c c')
    (hnext : ∀ c', Yields (next ()) c' fun _ c'' => Wrote us c' c'') :
    Yields (m >>= next) c fun _ c'' => Wrote (ts ++ us) c c'' :=
  h.bind fun _ c' hw => (hnext c').mono fun _ _ hw' => hw.trans hw'

/-- A change of the output that starts from a buffer `b₀`. -/
theorem write_adds {act : Buffer → Except Fault Buffer} {b₀ : Buffer} {cs : List Char}
    {Q : Unit → Converter → Prop} (h : b₀.Adds cs (act c.buffer))
    (hQ : ∀ b : Buffer, b.text.toList = b₀.text.toList ++ cs → Q () { c with buffer := b }) :
    Yields (write act) c Q := by
  unfold Yields write
  cases hb : act c.buffer with
  | error fault =>
    rw [hb] at h
    exact h
  | ok b =>
    rw [hb] at h
    exact hQ b h

theorem write_ok {act : Buffer → Except Fault Buffer} {b : Buffer} {Q : Unit → Converter → Prop}
    (h : act c.buffer = .ok b) (hQ : Q () { c with buffer := b }) : Yields (write act) c Q := by
  unfold Yields write
  rw [h]
  exact hQ

theorem write_yields {act : Buffer → Except Fault Buffer}
    (h : c.buffer.Adds (spell ts) (act c.buffer)) :
    Yields (write act) c fun _ c' => Wrote ts c c' :=
  write_adds h fun _ hb => .of_buffer hb

theorem push_yields {s : String} (ts : List Token) (h : s.toList = spell ts) :
    Yields (push s) c fun _ c' => Wrote ts c c' := by
  have hb := Buffer.append_adds c.buffer s
  rw [h] at hb
  exact write_yields hb

theorem pushEscaped_yields (s : String) :
    Yields (pushEscaped s) c fun _ c' => Wrote (s.toList.flatMap textTokens) c c' :=
  write_yields (Buffer.appendText_adds c.buffer s)

theorem pushPath_yields (s : String) :
    Yields (pushPath s) c fun _ c' => Wrote (s.toList.flatMap pathTokens) c c' :=
  write_yields (Buffer.appendPath_adds c.buffer s)

theorem pushUrl_yields (s : String) :
    Yields (pushUrl s) c fun _ c' => Wrote (s.toList.flatMap urlTokens) c c' :=
  write_yields (Buffer.appendUrl_adds c.buffer s)

theorem warn_wrote (fault : Fault) (element : Option String) :
    Yields (warn fault element) c fun _ c' => Wrote [] c c' :=
  Yields.modifies ⟨c.buffer, c.figures, c.images, _, _, rfl, by simp [Converter.output]⟩

end Convert

end MarkupTex
