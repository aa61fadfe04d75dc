import MarkupTex.Proofs.Convert.Actions
/-!
# The closers of a frame

A frame holds the closers of its constructs, the last one in front, and so they are carried out in the
order of `Closes`.  A block may end in a paragraph break, and that is all right because it was opened
where no argument was open: the arguments that were opened inside of it have ended by then.
-/

set_option autoImplicit false

namespace MarkupTex.Convert

open Latex Token

variable {o : Options} {c c' c₁ : Converter} {op : Opening}

theorem emitClosers_append (a b : List Closer) :
    emitClosers (a ++ b) = (do emitClosers a; emitClosers b) := by
  induction a with
  | nil => rfl
  | cons closer a ih => rw [List.cons_append, emitClosers, emitClosers, ih, bind_assoc]

theorem rowEnd_spell (setting : Setting) :
    (rowEnd setting).toList = spell (Opening.row setting).ending := by
  unfold rowEnd
  dsimp only [Opening.ending]
  cases setting.options.tableBorders <;> rfl

/-- Where the end of a construct is one row, with edits around it. -/
theorem close_of_opens {c₂ : Converter} (hflat : op.isBlock → Flat c) (hbefore : Opens o [] c c₁)
    (hw : Wrote op.ending (op.settle c₁) c₂) (hafter : Opens o [] c₂ c') : Close o op c c' :=
  ⟨c₁, c₂, hflat, hbefore, hw, hafter⟩

/-- A brace is settled when its closing is written. -/
theorem emitBrace_yields :
    Yields (emitCloser (.brace "\x7d")) c fun _ c' =>
      Wrote [closing] { c with openBraces := c.openBraces - 1 } c' := by
  refine (push_yields [closing] rfl).bind ?_
  rintro _ _ ⟨b, figures, images, warnings, faults, rfl, hb⟩
  exact Yields.modifies ⟨b, figures, images, warnings, faults, rfl, hb⟩

/-- The three closers of a block: its end stands on a line of its own. -/
theorem closeBlock_yields {s : String} {last : Closer} (hflat : op.isBlock → Flat c)
    (hs : s.toList = spell op.ending) (hclosers : op.closers = [.newline, .text s, last])
    (hsettle : ∀ c, op.settle c = c)
    (hlast : ∀ c', c'.argumentDepth = c.argumentDepth →
      Yields (emitCloser last) c' fun _ c'' => Opens o [] c' c'') :
    Yields (emitClosers op.closers) c fun _ c' => Close o op c c' := by
  rw [hclosers]
  refine (newline_opens (o := o)).bind fun _ c₁ h₁ => ?_
  refine (push_yields _ hs).bind fun _ c₂ h₂ => ?_
  have hdepth : c₂.argumentDepth = c.argumentDepth :=
    h₂.keeps.argumentDepth.trans h₁.keeps.argumentDepth
  refine (hlast c₂ hdepth).bind fun _ c₃ h₃ => Yields.pure ?_
  exact close_of_opens hflat h₁ (by rwa [hsettle]) h₃

theorem pushLabel_wrote (name : String) :
    Yields (emitCloser (.label name)) c fun _ c' => Wrote (Opening.label name).ending c c' := by
  refine (push_yields [word "label", opening] rfl).bind fun _ c₁ h₁ => ?_
  refine (pushPath_yields name).bind fun _ c₂ h₂ => ?_
  exact (push_yields [closing] rfl).mono fun _ c₃ h₃ => (h₁.trans h₂).trans h₃

/-- The closers of a construct close it, and nothing else. -/
theorem close_yields (op : Opening) (hflat : op.isBlock → Flat c) :
    Yields (emitClosers op.closers) c fun _ c' => Close o op c c' := by
  have hbreak : op.isBlock = true → ∀ c' : Converter, c'.argumentDepth = c.argumentDepth →
      Yields (emitCloser .paragraphBreak) c' fun _ c'' => Opens o [] c' c'' :=
    fun hblock c' hd => paragraphBreak_opens (hd.trans (hflat hblock))
  have hline : ∀ c' : Converter, c'.argumentDepth = c.argumentDepth →
      Yields (emitCloser .newline) c' fun _ c'' => Opens o [] c' c'' := fun _ _ => newline_opens
  cases op with
  | group =>
    refine emitBrace_yields.bind fun _ c₁ hw => Yields.pure ?_
    exact close_of_opens hflat (.refl c) hw (.refl c₁)
  | argument =>
    refine Yields.modify_bind (emitBrace_yields.bind fun _ c₁ hw => Yields.pure ?_)
    exact close_of_opens hflat (.refl c) hw (.refl c₁)
  | term =>
    refine Yields.modify_bind ((push_yields [char ']', char ' '] rfl).bind
      fun _ c₁ hw => Yields.pure ?_)
    exact close_of_opens hflat (.refl c) hw (.refl c₁)
  | aligned a => exact closeBlock_yields hflat (by cases a <;> rfl) rfl (fun _ => rfl) hline
  | block env => exact closeBlock_yields hflat (by cases env <;> rfl) rfl (fun _ => rfl) (hbreak rfl)
  | verbatim => exact closeBlock_yields hflat rfl rfl (fun _ => rfl) (hbreak rfl)
  | list kind => exact closeBlock_yields hflat (by cases kind <;> rfl) rfl (fun _ => rfl) hline
  | paragraph =>
    refine (paragraphBreak_opens (o := o) (hflat rfl)).bind fun _ c₁ h₁ => Yields.pure ?_
    exact close_of_opens hflat h₁ .nil (.refl c₁)
  | label name =>
    refine (pushLabel_wrote name).bind fun _ c₁ hw => Yields.pure ?_
    exact close_of_opens hflat (.refl c) hw (.refl c₁)
  | space =>
    refine (push_yields [char ' '] rfl).bind fun _ c₁ hw => Yields.pure ?_
    exact close_of_opens hflat (.refl c) hw (.refl c₁)
  | row setting =>
    refine (push_yields _ (rowEnd_spell setting)).bind fun _ c₁ hw => Yields.pure ?_
    exact close_of_opens hflat (.refl c) hw (.refl c₁)

/-! ## What is given back -/

/-- What is different after the constructs were closed. -/
structure GaveBack (ops : List Opening) (c c' : Converter) : Prop where
  frames : c'.frames = c.frames
  openBraces : c'.openBraces = c.openBraces - bracesOf ops
  argumentDepth : c'.argumentDepth = c.argumentDepth - argumentsOf ops
  preDepth : c'.preDepth = c.preDepth
  listDepth : c'.listDepth = c.listDepth

theorem GaveBack.trans {ops ops' : List Opening} {c₂ : Converter} (h : GaveBack ops c c₁)
    (h' : GaveBack ops' c₁ c₂) : GaveBack (ops ++ ops') c c₂ := by
  refine ⟨h'.frames.trans h.frames, ?_, ?_, h'.preDepth.trans h.preDepth,
    h'.listDepth.trans h.listDepth⟩
  · rw [h'.openBraces, h.openBraces, Nat.sub_sub]
    simp [bracesOf]
  · rw [h'.argumentDepth, h.argumentDepth, Nat.sub_sub]
    simp [argumentsOf]

theorem Keeps.gaveBack (h : Keeps c c') : GaveBack [] c c' :=
  ⟨h.frames, h.openBraces, h.argumentDepth, h.preDepth, h.listDepth⟩

theorem Opening.settle_gaveBack (op : Opening) (c : Converter) : GaveBack [op] c (op.settle c) :=
  ⟨rfl, rfl, rfl, rfl, rfl⟩

theorem Close.gaveBack (h : Close o op c c') : GaveBack [op] c c' := by
  obtain ⟨c₁, c₂, -, hbefore, hw, hafter⟩ := h
  have hrest := hw.keeps.trans hafter.keeps
  exact hbefore.keeps.gaveBack.trans ((op.settle_gaveBack c₁).trans hrest.gaveBack)

theorem Closes.gaveBack {ops : List Opening} (h : Closes o ops c c') : GaveBack ops c c' := by
  induction h with
  | nil c => exact (Keeps.refl c).gaveBack
  | cons h _ ih => exact h.gaveBack.trans ih

/-- Closing leaves the table alone. -/
theorem Closes.table {ops : List Opening} (h : Closes o ops c c') :
    c'.table.map TableState.core = c.table.map TableState.core := by
  induction h with
  | nil => rfl
  | cons h _ ih =>
    obtain ⟨c₁, c₂, -, hbefore, hw, hafter⟩ := h
    exact ih.trans (hafter.keeps.table.trans (hw.keeps.table.trans hbefore.keeps.table))

theorem argumentsOf_cons (op : Opening) (ops : List Opening) :
    argumentsOf (op :: ops) = op.isArgument.toNat + argumentsOf ops := rfl

/-- The closers of constructs that were opened in order close them all. -/
theorem closes_yields {depth : Nat} {ops : List Opening} (hordered : Ordered depth ops)
    (hdepth : c.argumentDepth = depth + argumentsOf ops) :
    Yields (emitClosers (ops.flatMap Opening.closers)) c fun _ c' => Closes o ops c c' := by
  induction ops generalizing c with
  | nil => exact Yields.pure (.nil c)
  | cons op ops ih =>
    obtain ⟨hblock, hrest⟩ := hordered
    -- At a block no argument is open any more: those inside it have ended, and there was none outside.
    have hflat : op.isBlock = true → Flat c := by
      intro hop
      have hargument : op.isArgument = false := by cases op <;> first | rfl | cases hop
      rw [Flat, hdepth, argumentsOf_cons, hargument, ← hblock hop]
      simp
    rw [List.flatMap_cons, emitClosers_append]
    refine (close_yields (o := o) op hflat).bind fun _ c₁ h₁ => ?_
    refine (ih hrest ?_).mono fun _ _ h => .cons h₁ h
    rw [h₁.gaveBack.argumentDepth, hdepth]
    simp only [argumentsOf, List.map_cons, List.map_nil, total_cons, total_nil]
    omega

end MarkupTex.Convert
