import MarkupTex.Proofs.Convert.Opening
import MarkupTex.Proofs.Latex.Values
/-!
# The actions of a conversion

Each action that the conversion is put together from is an edit or opens a construct.  What an action
writes has to be fit for the place: `Flat` says that no argument of a command is open, and where one may
be open the tokens have to be `fluent`.

`Works` leaves out which constructs were opened; only that none is a verbatim block, which is
opened by preformatted elements alone.
-/

set_option autoImplicit false

namespace MarkupTex.Convert

open Latex

/-- `c'` comes from `c` by edits and by opening constructs other than a verbatim block. -/
def Works (o : Options) (c c' : Converter) : Prop :=
  ∃ ops, (∀ op ∈ ops, op.isVerbatim = false) ∧ Opens o ops c c'

variable {o : Options} {c c' c₁ c₂ : Converter} {ts us : List Token} {op : Opening}

namespace Works

theorem refl (c : Converter) : Works o c c := ⟨[], by simp, .refl c⟩

theorem of_opens (h : Opens o [] c c') : Works o c c' := ⟨[], by simp, h⟩

theorem of_edit (h : Edit o c c') : Works o c c' := of_opens (.of_edit h)

theorem of_open (hop : op.isVerbatim = false) (h : Open o op c c') : Works o c c' :=
  ⟨[op], by simpa using hop, (Opens.refl c).open h⟩

theorem trans (h : Works o c c₁) (h' : Works o c₁ c₂) : Works o c c₂ := by
  obtain ⟨ops, hops, h⟩ := h
  obtain ⟨ops', hops', h'⟩ := h'
  refine ⟨ops' ++ ops, fun op hop => ?_, h.trans h'⟩
  rcases List.mem_append.mp hop with hop | hop
  · exact hops' op hop
  · exact hops op hop

end Works

/-- The element that is open has a frame. -/
def Framed (c : Converter) : Prop := c.frames ≠ []

theorem Framed.exists (h : Framed c) : ∃ f fs, c.frames = f :: fs := List.exists_cons_of_ne_nil h

theorem Wrote.framed (h : Wrote ts c c') (hc : Framed c) : Framed c' := by
  rw [Framed, h.keeps.frames]
  exact hc

theorem Opens.framed {ops : List Opening} (h : Opens o ops c c') (hc : Framed c) : Framed c' := by
  obtain ⟨f, fs, hf⟩ := hc.exists
  obtain ⟨f', hf', -⟩ := (h.tally hf).frames
  exact fun hn => by simp [hn] at hf'

theorem Works.framed (h : Works o c c') (hc : Framed c) : Framed c' := by
  obtain ⟨ops, -, h⟩ := h
  exact h.framed hc

namespace Yields

/-- One action after another. -/
theorem andThen {α β : Type} {m : Conversion α} {next : α → Conversion β}
    (h : Yields m c fun _ c' => Works o c c')
    (hnext : ∀ a c', Works o c c' → Yields (next a) c' fun _ c'' => Works o c' c'') :
    Yields (m >>= next) c fun _ c'' => Works o c c'' :=
  h.bind fun a c' hc' => (hnext a c' hc').mono fun _ _ hc'' => hc'.trans hc''

end Yields

/-- The action works wherever an element is open. -/
def Steady {α : Type} (o : Options) (m : Conversion α) : Prop :=
  ∀ c, Framed c → Yields m c fun _ c' => Works o c c'

namespace Steady

variable {α β : Type} {m m' : Conversion α}

theorem pure (a : α) : Steady o (Pure.pure a : Conversion α) := fun c _ => .refl c

theorem bind {next : α → Conversion β} (h : Steady o m) (hnext : ∀ a, Steady o (next a)) :
    Steady o (m >>= next) := fun c hc =>
  (h c hc).andThen fun a c' hc' => hnext a c' (hc'.framed hc)

theorem ite {p : Prop} [Decidable p] (h : p → Steady o m) (h' : ¬ p → Steady o m') :
    Steady o (if p then m else m') := fun c hc =>
  Yields.ite (fun hp => h hp c hc) fun hp => h' hp c hc

end Steady

/-! ## Pieces -/

/-- No argument of a command is open. -/
def Flat (c : Converter) : Prop := c.argumentDepth = 0

theorem Opens.flat (h : Opens o [] c c') (hc : Flat c) : Flat c' := h.keeps.argumentDepth.trans hc

theorem flat_of_inlineOnly (h : c.inlineOnly = false) : Flat c := by
  simp only [Converter.inlineOnly, Bool.or_eq_false_iff, decide_eq_false_iff_not] at h
  exact Nat.eq_zero_of_not_pos h.2

section Turns

variable {old new : List Bracket}

theorem Turns.of_fluent (hnests : ∀ stack, nest (old ++ stack) ts = some (new ++ stack))
    (h : fluent ts) : Turns o old new c ts where
  nests := hnests
  guarded := by
    simp only [fluent, Bool.and_eq_true] at h
    exact h.2
  known := by
    have := sound_of_fluent o.figurePlacement h
    simp only [sound, Bool.and_eq_true] at this
    exact fun _ => this.1
  fits := by
    simp only [fluent, Bool.and_eq_true] at h
    exact fun _ _ => h.1.1
  single := by
    simp only [fluent, Bool.and_eq_true, Bool.not_eq_true'] at h
    intro _ _ hfirst
    simp [h.1.2] at hfirst

theorem Turns.of_sound (hc : Flat c) (hnests : ∀ stack, nest (old ++ stack) ts = some (new ++ stack))
    (h : sound o.figurePlacement ts) : Turns o old new c ts where
  nests := hnests
  guarded := by
    simp only [sound, Bool.and_eq_true] at h
    exact h.2
  known := by
    simp only [sound, Bool.and_eq_true] at h
    exact fun _ => h.1
  fits := fun _ hd => absurd hc (Nat.pos_iff_ne_zero.mp hd)
  single := fun _ hd => absurd hc (Nat.pos_iff_ne_zero.mp hd)

end Turns

/-- Text for a line. -/
theorem push_fluent {s : String} (ts : List Token) (hs : s.toList = spell ts) (h : fluent ts)
    (hneutral : ∀ stack, nest stack ts = some stack) (head : letterFirst ts = false) :
    Yields (push s) c fun _ c' => Opens o [] c c' :=
  (push_yields _ hs).mono fun _ _ hw => .of_edit (.write hw (.of_fluent hneutral h) head)

/-- Text for a place where no argument is open. -/
theorem push_sound {s : String} (ts : List Token) (hc : Flat c) (hs : s.toList = spell ts)
    (h : sound o.figurePlacement ts) (hneutral : ∀ stack, nest stack ts = some stack)
    (head : letterFirst ts = false) : Yields (push s) c fun _ c' => Opens o [] c c' :=
  (push_yields _ hs).mono fun _ _ hw => .of_edit (.write hw (.of_sound hc hneutral h) head)

theorem trimSpaces_opens : Yields trimSpaces c fun _ c' => Opens o [] c c' :=
  Yields.modifies (.of_edit .trim)

theorem newline_opens : Yields newline c fun _ c' => Opens o [] c c' := by
  rcases Buffer.newline_adds c.buffer with h | ⟨hlast, h⟩
  · exact write_ok h (.refl c)
  · have hs : ['\n'] = spell [.char '\n'] := rfl
    rw [hs] at h
    refine (write_yields h).mono fun _ c' hw => .of_edit (.write hw ?_ rfl)
    exact ⟨fun _ => rfl, rfl, fun _ => rfl, fun _ _ => rfl, fun _ _ _ => hlast⟩

theorem paragraphBreak_opens (hc : Flat c) :
    Yields paragraphBreak c fun _ c' => Opens o [] c c' := by
  have htrim : Opens o [] c { c with buffer := c.buffer.trimSpaces } := .of_edit .trim
  have hadd : ∀ (ts : List Token) (b : Buffer), sound o.figurePlacement ts →
      (∀ stack, nest stack ts = some stack) → letterFirst ts = false →
      b.text.toList = c.buffer.trimSpaces.text.toList ++ spell ts →
      Opens o [] c { c with buffer := b } := by
    intro ts b hsound hneutral hfirst hb
    have hw : Wrote ts { c with buffer := c.buffer.trimSpaces } { c with buffer := b } := .of_buffer hb
    exact htrim.edit (.write hw (.of_sound hc hneutral hsound) hfirst)
  rcases Buffer.paragraphBreak_adds c.buffer with h | h | h | h
  · exact write_ok h (.refl c)
  · exact write_ok h htrim
  · exact write_adds h fun b => hadd [.char '\n'] b rfl (fun _ => rfl) rfl
  · exact write_adds h fun b => hadd [.char '\n', .char '\n'] b rfl (fun _ => rfl) rfl

theorem spaceApart_opens : Yields spaceApart c fun _ c' => Opens o [] c c' := by
  unfold spaceApart
  refine Yields.get_bind (Yields.unless (fun _ => ?_) fun _ => .refl c)
  exact push_fluent [.char ' '] rfl rfl (fun _ => rfl) rfl

theorem warn_steady (fault : Fault) (element : Option String) : Steady o (warn fault element) :=
  fun c _ => Yields.modifies <| .of_edit <|
    .note c.tables c.figures c.images c.blockContent _ _ c.reported

theorem warn_opens (fault : Fault) (element : Option String) :
    Yields (warn fault element) c fun _ c' => Opens o [] c c' :=
  Yields.modifies (.of_edit (.note c.tables c.figures c.images c.blockContent _ _ c.reported))

theorem reportUnknown_steady (name : String) : Steady o (reportUnknown name) := by
  intro c _
  unfold reportUnknown
  refine Yields.get_bind (Yields.unless (fun _ => ?_) fun _ => .refl c)
  have hnote := Edit.note (o := o) (c := c) c.tables c.figures c.images c.blockContent c.warnings
    c.faults (name :: c.reported)
  exact Yields.modify_bind ((warn_opens _ _).mono fun _ _ h =>
    .of_opens ((Opens.of_edit hnote).trans h))

theorem modifyFormatting_steady (f : Formatting → Formatting)
    (tame : ∀ g : Formatting, g.Tame → (f g).Tame) : Steady o (modifyFormatting f) :=
  fun _ _ => Yields.modifies (.of_edit (.format _ (tame _)))

/-! ## Frames -/

theorem onLeave_yields {closer : Closer} {f : Frame} {fs : List Frame} {Q : Unit → Converter → Prop}
    (hf : c.frames = f :: fs)
    (h : Q () { c with frames := { f with closers := closer :: f.closers } :: fs }) :
    Yields (onLeave closer) c Q := by
  refine Yields.modifies ?_
  simpa only [hf] using h

theorem modifyFrame_yields {g : Frame → Frame} {f : Frame} {fs : List Frame}
    {Q : Unit → Converter → Prop} (hf : c.frames = f :: fs) (h : Q () { c with frames := g f :: fs }) :
    Yields (modifyFrame g) c Q := by
  unfold modifyFrame
  refine Yields.get_bind ?_
  rw [hf]
  exact Yields.modifies (by simpa only [hf] using h)

theorem braceOwed_yields (hc : Framed c) :
    Yields (braceOwed "\x7d") c fun _ c' => c' = Opening.group.owe c := by
  obtain ⟨f, fs, hf⟩ := hc.exists
  unfold braceOwed
  refine Yields.modify_bind (onLeave_yields hf ?_)
  rw [Opening.owe, hf]
  rfl

theorem beginArgument_yields {f : Frame} {fs : List Frame} {Q : Unit → Converter → Prop}
    (hf : c.frames = f :: fs)
    (h : Q () { c with
      argumentDepth := c.argumentDepth + 1
      arguments := { start := c.output.length } :: c.arguments
      frames := { f with closers := .endArgument :: f.closers } :: fs }) :
    Yields beginArgument c Q := by
  unfold beginArgument
  refine Yields.modify_bind (onLeave_yields hf ?_)
  rw [Converter.output, String.length_toList] at h
  exact h

theorem argumentOwed_yields (hc : Framed c) :
    Yields (argumentOwed "\x7d") c fun _ c' => c' = Opening.argument.owe c := by
  obtain ⟨f, fs, hf⟩ := hc.exists
  unfold argumentOwed
  refine (braceOwed_yields hc).bind ?_
  rintro _ _ rfl
  refine beginArgument_yields (by rw [Opening.owe, hf]; rfl) ?_
  rw [Opening.owe, Opening.owe, hf]
  rfl

/-! ## Groups and arguments -/

/-- The row opens one brace, and does not begin with a letter. -/
structure OpensBrace (o : Options) (c : Converter) (ts : List Token) : Prop where
  turns : Turns o [] [.brace] c ts
  head : letterFirst ts = false

theorem OpensBrace.of_fluent (hnests : ∀ stack, nest stack ts = some (.brace :: stack))
    (head : letterFirst ts = false) (h : fluent ts) : OpensBrace o c ts := ⟨.of_fluent hnests h, head⟩

theorem openGroup_works {s : String} (ts : List Token) (hc : Framed c) (hs : s.toList = spell ts)
    (h : OpensBrace o c ts) : Yields (openGroup s "\x7d") c fun _ c' => Works o c c' := by
  unfold openGroup
  refine (push_yields _ hs).bind fun _ c₁ hw => ?_
  refine (braceOwed_yields (hw.framed hc)).mono ?_
  rintro _ _ rfl
  refine @Works.of_open o c _ .group rfl ⟨ts, c₁, ⟨h.turns, h.head, ?_, ?_, ?_⟩, hw, rfl⟩
  · simp [Opening.isBlock]
  · simp [Opening.isArgument]
  · simp [Opening.isVerbatim, Opening.isList]

theorem argument_open (h : OpensBrace o c ts)
    (last : ∃ front, ts = front ++ [.opening] ∨ ts = front ++ [.char '[']) (hw : Wrote ts c c₁) :
    Open o .argument c (Opening.argument.owe c₁) := by
  refine ⟨ts, c₁, ⟨h.turns, h.head, ?_, fun _ => last, ?_⟩, hw, rfl⟩
  · simp [Opening.isBlock]
  · simp [Opening.isVerbatim, Opening.isList]

theorem openArgument_works {s : String} (ts : List Token) (hc : Framed c)
    (hs : s.toList = spell (ts ++ [.opening])) (h : OpensBrace o c (ts ++ [.opening])) :
    Yields (openArgument s "\x7d") c fun _ c' => Works o c c' := by
  unfold openArgument
  refine (push_yields _ hs).bind fun _ c₁ hw => ?_
  refine (argumentOwed_yields (hw.framed hc)).mono ?_
  rintro _ _ rfl
  exact .of_open rfl (argument_open h ⟨ts, Or.inl rfl⟩ hw)

end MarkupTex.Convert
