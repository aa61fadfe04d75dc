import MarkupTex.Proofs.Convert.Formatting
/-!
# Blocks open where no argument is open

The handlers of paragraphs, sections and lists.  Each asks first whether only inline material can be
written.  Where it can be more, no argument of a command is open, and this is all that a block needs.
-/

set_option autoImplicit false

namespace MarkupTex.Convert

open Latex Token

variable {o : Options} {c c₁ c' : Converter} {e : Element} {style : Style}

/-- The handler works, and the walk goes on after it. -/
def Proceeds (o : Options) (m : Conversion Flow) (c : Converter) : Prop :=
  Yields m c fun flow c' => flow ≠ .stop ∧ Works o c c'

namespace Proceeds

theorem pure {flow : Flow} (h : flow ≠ .stop) : Proceeds o (Pure.pure flow) c :=
  Yields.pure ⟨h, .refl c⟩

theorem descend {m : Conversion Unit} (h : Yields m c fun _ c' => Works o c c') :
    Proceeds o (m >>= fun _ => Pure.pure .descend) c :=
  h.bind fun _ _ hw => Yields.pure ⟨by decide, hw⟩

theorem get_bind {next : Converter → Conversion Flow} (h : Proceeds o (next c) c) :
    Proceeds o (get >>= next) c := h

theorem ite {p : Prop} [Decidable p] {m m' : Conversion Flow} (h : p → Proceeds o m c)
    (h' : ¬ p → Proceeds o m' c) : Proceeds o (if p then m else m') c := Yields.ite h h'

/-- A handler after an action that works. -/
theorem andThen {α : Type} {m : Conversion α} {next : α → Conversion Flow}
    (h : Yields m c fun _ c' => Works o c c')
    (hnext : ∀ a c', Works o c c' → Proceeds o (next a) c') : Proceeds o (m >>= next) c :=
  h.bind fun a c' hw => (hnext a c' hw).mono fun _ _ hp => ⟨hp.1, hw.trans hp.2⟩

theorem after {α : Type} {m : Conversion α} {next : α → Conversion Flow} (h : Steady o m)
    (hc : Framed c) (hnext : ∀ a c', Framed c' → Proceeds o (next a) c') : Proceeds o (m >>= next) c :=
  .andThen (h c hc) fun a c' hw => hnext a c' (hw.framed hc)

/-- A handler after edits. -/
theorem editThen {α : Type} {m : Conversion α} {next : α → Conversion Flow}
    (h : Yields m c fun _ c' => Opens o [] c c')
    (hnext : ∀ a c', Opens o [] c c' → Proceeds o (next a) c') : Proceeds o (m >>= next) c :=
  h.bind fun a c' he => (hnext a c' he).mono fun _ _ hp => ⟨hp.1, (Works.of_opens he).trans hp.2⟩

/-- What proceeds from a state that something led to. -/
theorem onward {m : Conversion Flow} (hw : Works o c c₁) (h : Proceeds o m c₁) :
    Yields m c₁ fun flow c' => flow ≠ .stop ∧ Works o c c' :=
  h.mono fun _ _ hp => ⟨hp.1, hw.trans hp.2⟩

end Proceeds

/-- Edits after edits. -/
theorem Yields.edits {α β : Type} {m : Conversion α} {next : α → Conversion β}
    (h : Yields m c fun _ c' => Opens o [] c c')
    (hnext : ∀ a c', Opens o [] c c' → Yields (next a) c' fun _ c'' => Opens o [] c' c'') :
    Yields (m >>= next) c fun _ c'' => Opens o [] c c'' :=
  h.bind fun a c' he => (hnext a c' he).mono fun _ _ he' => he.trans he'

/-- An action after edits. -/
theorem Yields.editThen {α β : Type} {m : Conversion α} {next : α → Conversion β}
    (h : Yields m c fun _ c' => Opens o [] c c')
    (hnext : ∀ a c', Opens o [] c c' → Yields (next a) c' fun _ c'' => Works o c' c'') :
    Yields (m >>= next) c fun _ c'' => Works o c c'' :=
  h.bind fun a c' he => (hnext a c' he).mono fun _ _ hw => (Works.of_opens he).trans hw

/-- What works from a state that something led to. -/
theorem Works.onward {α : Type} {m : Conversion α} (h : Works o c c₁)
    (hm : Yields m c₁ fun _ c' => Works o c₁ c') : Yields m c₁ fun _ c' => Works o c c' :=
  hm.mono fun _ _ hw => h.trans hw

/-- One more closer, and going on. -/
theorem onLeave_bind {β : Type} {closer : Closer} {next : Unit → Conversion β} {f : Frame}
    {fs : List Frame} {Q : β → Converter → Prop} (hf : c.frames = f :: fs)
    (h : Yields (next ()) { c with frames := { f with closers := closer :: f.closers } :: fs } Q) :
    Yields (onLeave closer >>= next) c Q :=
  Yields.bind (onLeave_yields (Q := fun _ c' =>
    c' = { c with frames := { f with closers := closer :: f.closers } :: fs }) hf rfl)
    (by rintro _ _ rfl; exact h)

theorem modifyFrame_bind {β : Type} {g : Frame → Frame} {next : Unit → Conversion β} {f : Frame}
    {fs : List Frame} {Q : β → Converter → Prop} (hf : c.frames = f :: fs)
    (h : Yields (next ()) { c with frames := g f :: fs } Q) : Yields (modifyFrame g >>= next) c Q :=
  Yields.bind (modifyFrame_yields (Q := fun _ c' => c' = { c with frames := g f :: fs }) hf rfl)
    (by rintro _ _ rfl; exact h)

theorem framed_cons {f : Frame} {fs : List Frame} : Framed { c with frames := f :: fs } :=
  List.cons_ne_nil f fs

/-- What an opening leaves of a state with a frame. -/
theorem Opening.owe_cons {op : Opening} {f : Frame} {fs : List Frame} (hf : c.frames = f :: fs) :
    op.owe c = { c with
      openBraces := c.openBraces + op.braces
      argumentDepth := c.argumentDepth + op.isArgument.toNat
      arguments := if op.isArgument then { start := c.output.length } :: c.arguments else c.arguments
      preDepth := c.preDepth + op.isVerbatim.toNat
      listDepth := c.listDepth + op.isList.toNat
      frames := op.mark f :: fs } := by
  rw [Opening.owe, hf]
  rfl

/-- A construct that writes nothing at its beginning, and one thing at its end. -/
theorem owed_works (op : Opening) {closer : Closer} {f : Frame} {fs : List Frame}
    (hf : c.frames = f :: fs) (hclosers : op.closers = [closer])
    (hplain : op.brackets = [] ∧ op.braces = 0 ∧ op.isArgument = false ∧ op.isVerbatim = false ∧
      op.isList = false)
    (hblock : op.isBlock → Flat c) :
    Works o c { c with frames := { f with closers := closer :: f.closers } :: fs } := by
  obtain ⟨hbrackets, hbraces, hargument, hverbatim, hlist⟩ := hplain
  have hbegins : Begins o op c [] := by
    refine ⟨.of_fluent (fun _ => by rw [hbrackets]; rfl) rfl, rfl, hblock, ?_, fun _ _ => ?_⟩
    · simp [hargument]
    · simp [hverbatim, hlist]
  have hopen : Open o op c (op.owe c) := ⟨[], c, hbegins, .nil, rfl⟩
  rw [Opening.owe_cons hf, Opening.mark, hclosers, hbraces, hargument, hverbatim, hlist] at hopen
  exact .of_open hverbatim hopen

/-- A text and three closers for it, and going on. -/
theorem pushOwing_bind {β : Type} {s : String} (ts : List Token) {x y z : Closer}
    {next : Unit → Conversion β} {Q : β → Converter → Prop} (hc : Framed c) (hs : s.toList = spell ts)
    (h : ∀ c₁ f fs, Wrote ts c c₁ → c₁.frames = f :: fs →
      Yields (next ()) { c₁ with frames := { f with closers := [x, y, z] ++ f.closers } :: fs } Q) :
    Yields (push s >>= fun _ => onLeave z >>= fun _ => onLeave y >>= fun _ => onLeave x >>= next)
      c Q := by
  refine (push_yields _ hs).bind fun _ c₁ hw => ?_
  obtain ⟨f, fs, hf⟩ := (hw.framed hc).exists
  exact onLeave_bind hf (onLeave_bind rfl (onLeave_bind rfl (h c₁ f fs hw hf)))

/-- Where no argument is open, a block may begin with a row that opens its brackets. -/
theorem block_open {op : Opening} {ts : List Token} (hflat : Flat c) (hw : Wrote ts c c₁)
    (hnests : ∀ stack, nest stack ts = some (op.brackets ++ stack))
    (hsound : sound o.figurePlacement ts) (hhead : letterFirst ts = false)
    (hargument : op.isArgument = false)
    (once : ∀ f ∈ c.frames.head?, (op.isVerbatim → f.pre = false) ∧ (op.isList → f.list = false)) :
    Open o op c (op.owe c₁) := by
  refine ⟨ts, c₁, ⟨.of_sound hflat hnests hsound, hhead, fun _ => hflat, ?_, once⟩, hw, rfl⟩
  simp [hargument]

/-! ## Paragraphs and alignment -/

theorem spaceApart_steady : Steady o spaceApart := fun _ _ =>
  spaceApart_opens.mono fun _ _ h => .of_opens h

theorem onLeave_space_steady : Steady o (onLeave (.text " ")) := by
  intro c hc
  obtain ⟨f, fs, hf⟩ := hc.exists
  refine onLeave_yields hf (owed_works .space hf rfl ⟨rfl, rfl, rfl, rfl, rfl⟩ ?_)
  simp [Opening.isBlock]

theorem openAlignment_works (hc : Framed c) (hflat : Flat c) :
    Yields (openAlignment e style) c fun _ c' => Works o c c' := by
  unfold openAlignment
  extract_lets value
  cases value.bind Alignment.ofText? with
  | none => exact .refl c
  | some alignment =>
    refine Yields.get_bind (Yields.unless (fun _ => ?_) fun _ => .refl c)
    refine pushOwing_bind [beginEnv alignment.environment, char '\n'] hc ?_
      fun c₁ f fs hw hf => ?_
    · cases alignment <;> rfl
    have hopen : Open o (.aligned alignment) c ((Opening.aligned alignment).owe c₁) := by
      refine block_open hflat hw ?_ ?_ rfl rfl fun _ _ => ?_
      · exact fun _ => rfl
      · cases alignment <;> rfl
      · simp [Opening.isVerbatim, Opening.isList]
    rw [Opening.owe_cons hf] at hopen
    exact (Works.of_open rfl hopen).onward
      (modifyFormatting_steady _ (by exact fun _ h => h) _ framed_cons)

theorem openBlock_works (hc : Framed c) (hflat : Flat c) :
    Yields (openBlock e style) c fun _ c' => Works o c c' := by
  unfold openBlock
  refine (paragraphBreak_opens hflat).editThen fun _ c₁ h₁ => ?_
  obtain ⟨f, fs, hf⟩ := (h₁.framed hc).exists
  have hflat₁ : Flat c₁ := h₁.flat hflat
  have hparagraph := owed_works (o := o) .paragraph hf rfl ⟨rfl, rfl, rfl, rfl, rfl⟩
    fun _ => hflat₁
  refine onLeave_bind hf (hparagraph.onward ?_)
  refine (openAlignment_works framed_cons hflat₁).andThen fun _ c₂ h₂ => ?_
  exact applyStyle_steady e style c₂ (h₂.framed framed_cons)

theorem openParagraph_proceeds (hc : Framed c) : Proceeds o (openParagraph e style) c := by
  unfold openParagraph
  refine .get_bind (.ite (fun _ => ?_) fun h => ?_)
  · refine .after spaceApart_steady hc fun _ c₁ hc₁ => ?_
    refine .after onLeave_space_steady hc₁ fun _ c₂ hc₂ => ?_
    exact .descend (applyStyle_steady e style c₂ hc₂)
  · exact .descend (openBlock_works hc (flat_of_inlineOnly (by simpa using h)))

theorem openDivision_proceeds (hc : Framed c) : Proceeds o (openDivision e style) c := by
  unfold openDivision
  refine .get_bind (.ite (fun _ => ?_) fun h => ?_)
  · exact .descend (applyStyle_steady e style c hc)
  · exact .descend (openBlock_works hc (flat_of_inlineOnly (by simpa using h)))

theorem openEnvironment_proceeds (hc : Framed c) (env : BlockEnvironment) :
    Proceeds o (openEnvironment e style env) c := by
  unfold openEnvironment
  refine .get_bind ?_
  extract_lets styled
  have hstyled : ∀ c', Framed c' → Proceeds o (styled ()) c' := fun c' hc' =>
    .descend (applyStyle_steady e style c' hc')
  refine .ite (fun _ => hstyled c hc) fun h => ?_
  have hflat : Flat c := flat_of_inlineOnly (by simpa using h)
  refine .editThen (paragraphBreak_opens hflat) fun _ c₁ h₁ => ?_
  refine pushOwing_bind [beginEnv env.name, char '\n'] (h₁.framed hc) ?_
    fun c₂ f fs hw hf => ?_
  · cases env <;> rfl
  have hopen : Open o (.block env) c₁ ((Opening.block env).owe c₂) := by
    refine block_open (h₁.flat hflat) hw ?_ ?_ rfl rfl fun _ _ => ?_
    · exact fun _ => rfl
    · cases env <;> rfl
    · simp [Opening.isVerbatim, Opening.isList]
  rw [Opening.owe_cons hf] at hopen
  refine Proceeds.onward (Works.of_open rfl hopen) (.ite (fun _ => ?_) fun _ => ?_)
  · exact .after (modifyFormatting_steady _ (by exact fun _ h => h)) framed_cons fun _ => hstyled
  · exact hstyled _ framed_cons

/-! ## Headings -/

theorem headingCommand_opens {level : Nat} {command : String}
    (h : headingCommand? level = some command) (hflat : Flat c) :
    ("\\" ++ command ++ "\x7b").toList = spell ([word command] ++ [opening]) ∧
      OpensBrace o c ([word command] ++ [opening]) := by
  unfold headingCommand? at h
  split at h <;> cases h
  all_goals exact ⟨rfl, .of_sound hflat (fun _ => rfl) rfl, rfl⟩

theorem openHeading_proceeds (hc : Framed c) (level : Nat) :
    Proceeds o (openHeading e style level) c := by
  unfold openHeading
  refine .get_bind (.ite (fun _ => ?_) fun h => ?_)
  · refine .after (applyStyle_steady e style) hc fun _ c₁ hc₁ => ?_
    exact .descend (applyEmphasis_steady .bold c₁ hc₁)
  · have hflat : Flat c := flat_of_inlineOnly (by simpa using h)
    refine .editThen (paragraphBreak_opens hflat) fun _ c₁ h₁ => ?_
    obtain ⟨f, fs, hf⟩ := (h₁.framed hc).exists
    have hflat₁ : Flat c₁ := h₁.flat hflat
    have hparagraph := owed_works (o := o) .paragraph hf rfl ⟨rfl, rfl, rfl, rfl, rfl⟩
      fun _ => hflat₁
    refine onLeave_bind hf (Proceeds.onward hparagraph ?_)
    split
    · exact .after (warn_steady _ _) framed_cons fun _ _ _ => .pure (by decide)
    · next command hcommand =>
      extract_lets sectioned
      -- The section itself, behind its label.
      have hsectioned : ∀ c', Framed c' → Flat c' → Proceeds o (sectioned ()) c' := by
        intro c' hc' hflat'
        obtain ⟨hs, hopens⟩ := headingCommand_opens (o := o) hcommand hflat'
        refine .andThen (openArgument_works _ hc' hs hopens) fun _ c'' h => ?_
        exact .descend (applyStyle_steady e style c'' (h.framed hc'))
      split
      · next id _ =>
        have hlabel := owed_works (o := o) (.label id)
          (c := { c₁ with frames := { f with closers := .paragraphBreak :: f.closers } :: fs })
          rfl rfl ⟨rfl, rfl, rfl, rfl, rfl⟩ fun _ => hflat₁
        exact onLeave_bind rfl (Proceeds.onward hlabel (hsectioned _ framed_cons hflat₁))
      · exact hsectioned _ framed_cons hflat₁

/-! ## Verbatim blocks -/

/-- The element that is open has begun neither a verbatim block nor a list so far. -/
def Fresh (c : Converter) : Prop := ∃ f fs, c.frames = f :: fs ∧ f.pre = false ∧ f.list = false

theorem Fresh.framed (h : Fresh c) : Framed c := by
  obtain ⟨f, fs, hf, -⟩ := h
  rw [Framed, hf]
  exact List.cons_ne_nil f fs

theorem Fresh.of_keeps (h : Fresh c) (hk : Keeps c c₁) : Fresh c₁ := by
  rw [Fresh, hk.frames]
  exact h

theorem Fresh.once {op : Opening} (h : Fresh c) :
    ∀ f ∈ c.frames.head?, (op.isVerbatim → f.pre = false) ∧ (op.isList → f.list = false) := by
  obtain ⟨f, fs, hf, hpre, hlist⟩ := h
  intro f' hf'
  rw [hf] at hf'
  cases hf'
  exact ⟨fun _ => hpre, fun _ => hlist⟩

/-- Where blocks can be written, preformatted text begins a verbatim block in a paragraph of its own. -/
theorem openPreformatted_block (hc : Fresh c) (hinline : c.inlineOnly = false) :
    Yields (openPreformatted e style) c fun flow c' => flow = .descend ∧
      ∃ c₁ c₂, Opens o [] c c₁ ∧ Wrote [beginEnv "verbatim", char '\n'] c₁ c₂ ∧
        c' = Opening.verbatim.owe c₂ ∧ Open o .verbatim c₁ c' := by
  have hflat : Flat c := flat_of_inlineOnly hinline
  unfold openPreformatted
  refine Yields.get_bind (Yields.ite (fun h => ?_) fun _ => ?_)
  · rw [hinline] at h
    cases h
  · refine (paragraphBreak_opens (o := o) hflat).bind fun _ c₁ h₁ => ?_
    have hfresh : Fresh c₁ := hc.of_keeps h₁.keeps
    refine pushOwing_bind [beginEnv "verbatim", char '\n'] hfresh.framed rfl
      fun c₂ f fs hw hf => ?_
    have hopen : Open o .verbatim c₁ (Opening.verbatim.owe c₂) :=
      block_open (h₁.flat hflat) hw (fun _ => rfl) rfl rfl rfl hfresh.once
    refine Yields.modify_bind (modifyFrame_bind rfl (Yields.pure ⟨rfl, c₁, c₂, h₁, hw, ?_⟩))
    have howe : Opening.verbatim.owe c₂ = _ := Opening.owe_cons hf
    exact ⟨howe.symm, howe ▸ hopen⟩

/-- Preformatted text opens a verbatim block, and then nothing besides. -/
theorem openPreformatted_yields (hc : Fresh c) :
    Yields (openPreformatted e style) c fun flow c' => flow ≠ .stop ∧
      ∃ ops, (∀ op ∈ ops, op.isVerbatim → ops = [op]) ∧ Opens o ops c c' := by
  cases hinline : c.inlineOnly with
  | true =>
    have hproceeds : Proceeds o (openPreformatted e style) c := by
      unfold openPreformatted
      refine .get_bind (.ite (fun _ => ?_) fun h => absurd hinline h)
      refine .after (applyStyle_steady e style) hc.framed fun _ c₁ hc₁ => ?_
      exact .descend (applyFamily_steady .monospace c₁ hc₁)
    refine Yields.mono hproceeds ?_
    rintro flow c' ⟨hflow, ops, hplain, hops⟩
    refine ⟨hflow, ops, fun op hop hv => ?_, hops⟩
    rw [hplain op hop] at hv
    cases hv
  | false =>
    refine (openPreformatted_block (o := o) hc hinline).mono ?_
    rintro _ c' ⟨rfl, c₁, c₂, h₁, -, -, hopen⟩
    exact ⟨by decide, [.verbatim], by simp, h₁.open hopen⟩

/-! ## Lists -/

theorem push_steady {s : String} (ts : List Token) (hs : s.toList = spell ts) (h : fluent ts)
    (hneutral : ∀ stack, nest stack ts = some stack) (head : letterFirst ts = false) :
    Steady o (push s) := fun _ _ =>
  (push_fluent _ hs h hneutral head).mono fun _ _ h => .of_opens h

theorem newline_steady : Steady o newline := fun _ _ => newline_opens.mono fun _ _ h => .of_opens h

theorem listCounter?_plain {n : Nat} {counter : String} (h : listCounter? n = some counter) :
    counter.toList.all isPlain := by
  unfold listCounter? at h
  split at h <;> cases h <;> decide

theorem setCounter_steady : Steady o (setCounter e) := by
  intro c hc
  unfold setCounter
  refine Yields.get_bind ?_
  split
  · next n counter _ hcounter =>
    refine Yields.unless (fun _ => ?_) fun _ => .refl c
    have hname := fluent_chars (listCounter?_plain hcounter)
    have hnumber := fluent_chars (all_isPlain_int (n - 1))
    refine push_steady ([word "setcounter", opening] ++ chars counter.toList ++
      [closing, opening] ++ chars (toString (n - 1)).toList ++ [closing, char '\n']) ?_ ?_ ?_ rfl c hc
    · simp [braced, render]
    · exact fluent_append (fluent_append (fluent_append (fluent_append rfl hname) rfl) hnumber) rfl
    · intro stack
      simp [nest_append, nest, turn, nest_chars, close]
  · exact .refl c

theorem openList_proceeds (hc : Fresh c) (kind : ListKind) :
    Proceeds o (openList e style kind) c := by
  unfold openList
  refine .get_bind (.ite (fun _ => .descend (applyStyle_steady e style c hc.framed)) fun h => ?_)
  have hflat : Flat c := flat_of_inlineOnly (by simpa using h)
  refine .editThen newline_opens fun _ c₁ h₁ => ?_
  have hfresh : Fresh c₁ := hc.of_keeps h₁.keeps
  refine pushOwing_bind [beginEnv kind.environment, char '\n'] hfresh.framed ?_
    fun c₂ f fs hw hf => ?_
  · cases kind <;> rfl
  have hopen : Open o (.list kind) c₁ ((Opening.list kind).owe c₂) := by
    refine block_open (h₁.flat hflat) hw ?_ ?_ rfl rfl hfresh.once
    · exact fun _ => rfl
    · cases kind <;> rfl
  rw [Opening.owe_cons hf] at hopen
  refine Yields.modify_bind (modifyFrame_bind rfl ?_)
  refine Proceeds.onward (Works.of_open rfl hopen) (.ite (fun _ => ?_) fun _ => .pure (by decide))
  exact .descend (setCounter_steady _ framed_cons)

/-- A term begins behind a bracket and is an argument up to the next. -/
theorem openTerm_steady :
    Steady o (do push "\\item["; onLeave (.text "] "); beginArgument) := by
  intro c hc
  refine (push_yields [word "item", char '['] rfl).bind fun _ c₁ hw => ?_
  obtain ⟨f, fs, hf⟩ := (hw.framed hc).exists
  have hbegins : Begins o .term c [word "item", char '['] := by
    refine ⟨.of_fluent (fun _ => rfl) rfl, rfl, ?_, fun _ => ⟨[word "item"], Or.inr rfl⟩, ?_⟩
    · simp [Opening.isBlock]
    · simp [Opening.isVerbatim, Opening.isList]
  have hopen : Open o .term c (Opening.term.owe c₁) := ⟨_, c₁, hbegins, hw, rfl⟩
  rw [Opening.owe_cons hf] at hopen
  exact onLeave_bind hf (beginArgument_yields rfl (.of_open rfl hopen))

theorem openItem_steady : Steady o (openItem e) := by
  unfold openItem
  split
  · exact newline_steady.bind fun _ => openTerm_steady
  · exact .pure ()
  · exact newline_steady.bind fun _ =>
      push_steady [word "item", char ' '] rfl rfl (fun _ => rfl) rfl

theorem openListItem_proceeds (hc : Framed c) : Proceeds o (openListItem e style) c := by
  unfold openListItem
  refine .get_bind (.ite (fun _ => ?_) fun _ => .ite (fun _ => openParagraph_proceeds hc) fun _ => ?_)
  · extract_lets styled
    have hstyled : ∀ c', Framed c' → Proceeds o (styled ()) c' := fun c' hc' =>
      .descend (applyStyle_steady e style c' hc')
    refine .ite (fun _ => ?_) fun _ => hstyled c hc
    refine .after spaceApart_steady hc fun _ c₁ hc₁ => ?_
    have hbullet : Steady o (push "\\textbullet\x7b\x7d ") :=
      push_steady [word "textbullet", opening, closing, char ' '] rfl rfl (fun _ => rfl) rfl
    exact .after hbullet hc₁ fun _ => hstyled
  · refine .after openItem_steady hc fun _ c₁ hc₁ => ?_
    exact .descend (applyStyle_steady e style c₁ hc₁)

/-! ## Rules and line breaks -/

theorem horizontalRule_works : Yields horizontalRule c fun _ c' => Opens o [] c c' := by
  unfold horizontalRule
  refine Yields.get_bind (Yields.unless (fun h => ?_) fun _ => .refl c)
  have hflat : Flat c := flat_of_inlineOnly (by simpa using h)
  refine newline_opens.edits fun _ c₁ h₁ => ?_
  exact push_sound ([word "par", word "noindent", word "rule", opening, word "textwidth",
    closing, opening] ++ chars "0.4pt".toList ++ [closing, word "par", char '\n']) (h₁.flat hflat)
    rfl rfl (fun _ => rfl) rfl

theorem lineBreak_works : Yields lineBreak c fun _ c' => Opens o [] c c' := by
  unfold lineBreak
  refine Yields.get_bind (Yields.ite (fun _ => ?_) fun h => Yields.unless (fun _ => ?_) fun _ => .refl c)
  · exact push_fluent [word "newline", char ' '] rfl rfl (fun _ => rfl) rfl
  · refine trimSpaces_opens.edits fun _ c₁ _ => ?_
    exact push_fluent [lineEnd] rfl rfl (fun _ => rfl) rfl

end MarkupTex.Convert
