import MarkupTex.Proofs.Convert.Brackets
import MarkupTex.Proofs.Convert.Emphasis
import MarkupTex.Proofs.Convert.GridImages
/-!
# What sets cells apart

A cell is set apart from the one before it by an ampersand, and each further column that it spans brings another
one.  `enter_cell` counts those that are written on entering a cell, and `leave_cell` those on leaving it: what
the style of the cell opens has no ampersand in it, and it ends with nothing but braces.
-/

set_option autoImplicit false

namespace MarkupTex

open Latex MarkupTex.Convert

/-- The ampersands in the output. -/
def Converter.ampersands (c : Converter) : Nat := c.output.count '&'

namespace Convert

open Token

variable {doc : Document} {setting : Setting} {id colspan : Nat} {header : Bool} {e : Element} {style : Style}
  {c c' c₁ c₂ : Converter} {t : TableState} {f : Frame} {fs : List Frame} {w : Wish} {ts : List Token}
  {flow : Flow}

/-! ## Counting -/

/-- The ampersands that were written since an earlier state. -/
def separators (c₀ c : Converter) : Nat := (writtenSince c₀ c).count '&'

theorem count_dropSpaces (cs : List Char) :
    (Text.dropEndWhile (· = ' ') cs).count '&' = cs.count '&' := by
  obtain ⟨n, hn⟩ := Text.exists_spaces cs
  have hcount : cs.count '&' = (Text.dropEndWhile (· = ' ') cs ++ List.replicate n ' ').count '&' :=
    congrArg (List.count '&') hn
  rw [hcount, List.count_append, List.count_replicate]
  simp

/-- What is written comes on top of what there is, as nothing but spaces is taken back. -/
theorem ampersands_add_separators (h : Extends c c') : c.ampersands + separators c c' = c'.ampersands := by
  obtain ⟨more, hmore⟩ : leftOf c <+: c'.output :=
    h _ Text.dropEndWhile_prefix (Added.getLast?_leftOf c)
  have hwritten : writtenSince c c' = more := by rw [writtenSince, ← hmore, List.drop_left]
  rw [separators, hwritten, Converter.ampersands, Converter.ampersands, ← hmore, List.count_append, leftOf,
    count_dropSpaces]

/-- There is not one ampersand more. -/
def Unseparated (c c' : Converter) : Prop := c'.ampersands = c.ampersands

instance : Std.Refl Unseparated := ⟨fun _ => rfl⟩

instance : Trans Unseparated Unseparated Unseparated := ⟨fun h h' => Eq.trans h' h⟩

theorem AddsText.ampersands {cs : List Char} (h : AddsText cs c c') :
    c'.ampersands = c.ampersands + cs.count '&' := by
  rw [Converter.ampersands, h.output, List.count_append]
  rfl

theorem push_unseparated {s : String} (h : '&' ∉ s.toList) : Relates Unseparated (push s) := fun c =>
  (push_addsText s c).mono fun _ _ hadds => by
    rw [Unseparated, hadds.ampersands, List.count_eq_zero_of_not_mem h, Nat.add_zero]

theorem trimSpaces_unseparated : Relates Unseparated trimSpaces := by
  intro c
  refine Ensures.modifies ?_
  have hout : ({ c with buffer := c.buffer.trimSpaces } : Converter).output =
      Text.dropEndWhile (· = ' ') c.output := Buffer.toList_trimSpaces c.buffer
  rw [Unseparated, Converter.ampersands, hout, count_dropSpaces]
  rfl

/-! ## The style of a cell -/

/-- It ends something that stands in a line; there is no ampersand in it. -/
inductive Closer.IsEnd : Closer → Prop where
  | brace : IsEnd (.brace "\x7d")
  | argument : IsEnd .endArgument

/-- Something was opened in the current element, without an ampersand, that is closed in the same way. -/
structure Dressed (c c' : Converter) : Prop where
  ampersands : Unseparated c c'
  table : c'.table = c.table
  frames : ∀ f fs, c.frames = f :: fs → ∃ more : List Closer, (∀ closer ∈ more, closer.IsEnd) ∧
    c'.frames = { f with closers := more ++ f.closers } :: fs

namespace Dressed

theorem of_same (houtput : c'.output = c.output) (htable : c'.table = c.table)
    (hframes : c'.frames = c.frames) : Dressed c c' :=
  ⟨congrArg (List.count '&') houtput, htable, fun _ _ hf => ⟨[], by simp, hframes.trans hf⟩⟩

theorem trans (h : Dressed c c₁) (h' : Dressed c₁ c₂) : Dressed c c₂ := by
  refine ⟨Eq.trans h'.ampersands h.ampersands, h'.table.trans h.table, fun f fs hf => ?_⟩
  obtain ⟨more, hmore, hf₁⟩ := h.frames f fs hf
  obtain ⟨more', hmore', hf₂⟩ := h'.frames _ fs hf₁
  refine ⟨more' ++ more, List.forall_mem_append.mpr ⟨hmore', hmore⟩, ?_⟩
  rw [hf₂, List.append_assoc]

/-- A group or an argument is opened behind a row without an ampersand. -/
theorem of_opened {op : Opening} (hop : op = .group ∨ op = .argument) (hrow : '&' ∉ spell ts)
    (wrote : Wrote ts c c₁) {g : Formatting} : Dressed c { op.owe c₁ with formatting := g } := by
  obtain ⟨b, figures, images, warnings, faults, rfl, hb⟩ := wrote
  refine ⟨?_, rfl, fun f fs hf => ⟨op.closers, ?_, ?_⟩⟩
  · have hout : b.text.toList.count '&' = c.output.count '&' := by
      rw [hb, List.count_append, List.count_eq_zero_of_not_mem hrow, Nat.add_zero]
    exact hout
  · rcases hop with rfl | rfl
    · simpa [Opening.closers] using Closer.IsEnd.brace
    · simpa [Opening.closers] using ⟨Closer.IsEnd.argument, Closer.IsEnd.brace⟩
  · rcases hop with rfl | rfl <;>
      simp [Opening.owe, hf, Opening.markFirst, Opening.mark, Opening.isVerbatim, Opening.isList]

end Dressed

instance : Std.Refl Dressed := ⟨fun _ => .of_same rfl rfl rfl⟩

instance : Trans Dressed Dressed Dressed := ⟨Dressed.trans⟩

/-- A style asks for it, and a color has no ampersand in it. -/
inductive Wish.Dresses : Wish → Prop where
  | emphasis (k : Emphasis) : Dresses (.emphasis k)
  | color {hex : String} (h : '&' ∉ hex.toList) : Dresses (.color hex)
  | background {hex : String} (h : '&' ∉ hex.toList) : Dresses (.background hex)

theorem spell_colorCommand {name hex : String} (hname : '&' ∉ name.toList) (hhex : '&' ∉ hex.toList) :
    '&' ∉ spell (colorCommand name ++ chars hex.toList ++ [closing]) := by
  rw [← colorCommand_spell]
  simp [braced, hname, hhex]

theorem Wish.Dresses.command? (h : w.Dresses) (hrow : w.command? = some ts) : '&' ∉ spell ts := by
  cases h with
  | emphasis k => cases k <;> cases hrow <;> decide
  | color hhex | background hhex =>
    cases hrow
    exact spell_colorCommand (by decide) hhex

theorem Wish.Dresses.switches (h : w.Dresses) (hrow : w.Switches ts) : '&' ∉ spell ts := by
  cases h with
  | emphasis k => cases hrow <;> decide
  | color hhex =>
    cases hrow
    exact spell_colorCommand (by decide) hhex
  | background => cases hrow

theorem Granted.dressed (h : Granted w c c') (hw : w.Dresses) : Dressed c c' := by
  cases h with
  | held => exact .of_same rfl rfl rfl
  | putOff => exact .of_same rfl rfl rfl
  | argument _ _ row wrote =>
    refine .of_opened (.inr rfl) ?_ wrote
    rw [spell_append]
    simpa [render] using hw.command? row
  | group _ row wrote =>
    refine .of_opened (.inl rfl) ?_ wrote
    rw [spell_append]
    simpa [render] using hw.switches row

theorem applyEmphasis_dressed (k : Emphasis) : Relates Dressed (applyEmphasis k) := fun c =>
  (applyEmphasis_grants k c).mono fun _ _ h => h.dressed (.emphasis k)

/-- A color that a style may have. -/
theorem orWarn_dressed {name value : String} {use : String → Conversion Unit}
    (h : ∀ hex, '&' ∉ hex.toList → Relates Dressed (use hex)) :
    Relates Dressed (orWarn name (Color.toHex value) use) := by
  intro c
  cases hread : Color.toHex value with
  | ok hex => exact h hex (ampersand_not_mem_toHex hread) c
  | error fault => exact Ensures.modifies (.of_same rfl rfl rfl)

theorem applyStyle_dressed (e : Element) (style : Style) : Relates Dressed (applyStyle e style) := by
  have hcolor : ∀ hex, '&' ∉ hex.toList → Relates Dressed (applyColor hex) := fun hex hhex c =>
    (applyColor_grants hex c).mono fun _ _ h => h.dressed (.color hhex)
  have hback : ∀ hex, '&' ∉ hex.toList → Relates Dressed (applyBackground hex) := fun hex hhex c =>
    (applyBackground_grants hex c).mono fun _ _ h => h.dressed (.background hhex)
  unfold applyStyle
  -- The rest of the action from each of its steps on, the last one first.
  extract_lets underline italic bold background
  have hunderline : Relates Dressed (underline ()) :=
    .ite (fun _ => applyEmphasis_dressed _) fun _ => .pure ()
  have hitalic : Relates Dressed (italic ()) :=
    .ite (fun _ => (applyEmphasis_dressed _).bind fun _ => hunderline) fun _ => hunderline
  have hbold : Relates Dressed (bold ()) :=
    .ite (fun _ => (applyEmphasis_dressed _).bind fun _ => hitalic) fun _ => hitalic
  have hbackground : Relates Dressed (background ()) := by
    refine .ite (fun _ => ?_) fun _ => hbold
    cases style.backgroundColor? with
    | none => exact hbold
    | some value => exact (orWarn_dressed hback).bind fun _ => hbold
  refine .ite (fun _ => ?_) fun _ => hbackground
  cases style.get? "color" with
  | none => exact hbackground
  | some value => exact (orWarn_dressed hcolor).bind fun _ => hbackground

/-! ## Entering a cell -/

/-- A cell was begun in its row, and set apart from the one before it. -/
structure CellBegun (t : TableState) (colspan : Nat) (c c' : Converter) : Prop where
  ampersands : c'.ampersands = c.ampersands + if 0 < t.column then 1 else 0
  table : c'.table = some { t with column := t.column + colspan, inCell := true }
  frames : ∃ f, c'.frames = f :: c.frames.tail ∧ f.cellBraces.isSome ∧ f.padding = colspan - 1 ∧
    ∀ closer ∈ f.closers, closer.IsEnd

theorem CellBegun.dressed (h : CellBegun t colspan c c₁) (h' : Dressed c₁ c₂) :
    CellBegun t colspan c c₂ := by
  obtain ⟨f, hf, hcell, hpadding, hends⟩ := h.frames
  obtain ⟨more, hmore, hf₂⟩ := h'.frames f _ hf
  refine ⟨Eq.trans h'.ampersands h.ampersands, h'.table.trans h.table, _, hf₂, hcell, hpadding, ?_⟩
  exact List.forall_mem_append.mpr ⟨hmore, hends⟩

theorem beginCell_begun (ht : c.table = some t) (hf : c.frames = f :: fs) (hclosers : f.closers = []) :
    Ensures (beginCell colspan) c fun _ c' => CellBegun t colspan c c' := by
  -- The mark of the cell is put on the frame in the end.
  have hmark : ∀ c₁ : Converter, c₁.ampersands = c.ampersands + (if 0 < t.column then 1 else 0) →
      c₁.table = some { t with column := t.column + colspan, inCell := true } → c₁.frames = c.frames →
      Ensures (do
        let braces := (← get).openBraces
        modifyFrame fun frame => { frame with cellBraces := some braces, padding := colspan - 1 })
        c₁ fun _ c' => CellBegun t colspan c c' := by
    intro c₁ hcount htable hframes
    unfold modifyFrame
    refine Ensures.get_bind (Ensures.get_bind ?_)
    rw [hframes, hf]
    refine Ensures.modifies ⟨hcount, htable, ?_⟩
    refine ⟨{ f with cellBraces := some c₁.openBraces, padding := colspan - 1 }, ?_, rfl, rfl, ?_⟩
    · rw [hf]
      rfl
    · simp [hclosers]
  have hcolumn : (c.table.map (·.column)).getD 0 = t.column := by rw [ht]; rfl
  have htable : c.table.map (fun t => { t with column := t.column + colspan, inCell := true }) =
      some { t with column := t.column + colspan, inCell := true } := by rw [ht]; rfl
  unfold beginCell
  refine Ensures.get_bind ?_
  rw [hcolumn]
  extract_lets finish
  refine Ensures.modify_bind (Ensures.ite (fun hpos => ?_) fun hzero => ?_)
  · refine Ensures.modify_bind ((push_addsText " & " _).bind fun _ c₂ hadds => ?_)
    have hone : c₂.ampersands = _ + 1 := hadds.ampersands
    rw [trimSpaces_unseparated _ () _ rfl] at hone
    obtain ⟨b, rfl, -⟩ := hadds
    refine hmark _ ?_ htable rfl
    rw [hone, if_pos hpos]
    rfl
  · exact hmark _ (by rw [if_neg hzero]; rfl) htable rfl

/-- Entering a cell between the cells of a table sets it apart, unless it is the first of its row. -/
theorem enter_cell (htag : e.tag = .tableCell header colspan) (hpre : c.preDepth = 0) (ht : c.table = some t)
    (hbetween : t.inCell = false) :
    Ensures (enter doc setting id e style) c fun _ c' =>
      ∃ blocks, CellBegun t colspan (c.opened blocks) c' := by
  refine .enter hpre ?_
  unfold openElement
  rw [htag]
  unfold openCell
  refine Ensures.get_bind ?_
  extract_lets finish styled
  refine Ensures.ite (fun hnone => ?_) fun _ => Ensures.ite (fun hcell => ?_) fun _ => ?_
  · simp [Converter.opened, ht] at hnone
  · simp [Converter.inCell, Converter.opened, ht, hbetween] at hcell
  · have hstyled : ∀ c₁, Ensures (styled ()) c₁ fun _ c' => Dressed c₁ c' := fun c₁ =>
      (applyStyle_dressed e style c₁).bind fun _ _ h => Ensures.pure h
    refine (beginCell_begun (c := c.opened _) ht rfl rfl).bind fun _ c₁ hbegun => ?_
    refine Ensures.ite (fun _ => ?_) fun _ => ?_
    · refine (applyEmphasis_dressed .bold c₁).bind fun _ c₂ h₂ => ?_
      exact (hstyled c₂).mono fun _ _ h₃ => ⟨_, hbegun.dressed (h₂.trans h₃)⟩
    · exact (hstyled c₁).mono fun _ _ h₂ => ⟨_, hbegun.dressed h₂⟩

/-! ## Leaving a cell -/

theorem emitClosers_unseparated : ∀ {closers : List Closer}, (∀ closer ∈ closers, closer.IsEnd) →
    Relates Unseparated (emitClosers closers)
  | [], _ => .pure ()
  | closer :: closers, h => by
    obtain ⟨hcloser, hclosers⟩ := List.forall_mem_cons.mp h
    refine Relates.bind ?_ fun _ => emitClosers_unseparated hclosers
    cases hcloser with
    | brace => exact (push_unseparated (by decide)).bind fun _ => .modifies fun _ => rfl
    | argument => exact .modifies fun _ => rfl

theorem closeBraces_unseparated (saved : Nat) : ∀ n, Relates Unseparated (closeBraces saved n)
  | 0 => .pure ()
  | n + 1 => by
    refine .get_bind fun c => .ite (fun _ => ?_) fun _ => .pure ()
    refine (push_unseparated (by decide)).bind fun _ => .modify_bind (fun _ => rfl) ?_
    exact closeBraces_unseparated saved n

/-- Each empty column brings an ampersand. -/
theorem pushTimes_ampersands (n : Nat) (c : Converter) :
    Ensures (pushTimes " &" n) c fun _ c' => c'.ampersands = c.ampersands + n := by
  induction n generalizing c with
  | zero => exact Ensures.pure rfl
  | succ n ih =>
    refine (push_addsText " &" c).bind fun _ c₁ hadds => (ih c₁).mono fun _ _ h => ?_
    have hone : " &".toList.count '&' = 1 := by decide
    rw [h, hadds.ampersands, hone]
    omega

theorem closeCell_ampersands (hends : ∀ closer ∈ f.closers, closer.IsEnd) (c : Converter) :
    Ensures (closeCell f) c fun _ c' => c'.ampersands = c.ampersands + f.padding := by
  unfold closeCell closeFrame
  refine (trimSpaces_unseparated c).bind fun _ c₁ h₁ => ?_
  refine (emitClosers_unseparated hends c₁).bind fun _ c₂ h₂ => Ensures.get_bind ?_
  refine (closeBraces_unseparated _ _ c₂).bind fun _ c₃ h₃ => ?_
  refine (pushTimes_ampersands f.padding c₃).bind fun _ c₄ h₄ => Ensures.modifies ?_
  have hsame : c₃.ampersands = c.ampersands := Eq.trans h₃ (Eq.trans h₂ h₁)
  rw [← hsame]
  exact h₄

theorem closeCell_table (f : Frame) (c : Converter) :
    Ensures (closeCell f) c fun _ c' => c'.table = c.table.map fun t => { t with inCell := false } := by
  unfold closeCell
  refine (trimSpaces_noting (W := fun _ => False) c).bind fun _ c₁ h₁ => ?_
  refine (closeFrame_noting (W := fun _ => False) f c₁).bind fun _ c₂ h₂ => Ensures.get_bind ?_
  refine (closeBraces_noting (W := fun _ => False) _ _ c₂).bind fun _ c₃ h₃ => ?_
  refine (pushTimes_noting (W := fun _ => False) _ _ c₃).bind fun _ c₄ h₄ => Ensures.modifies ?_
  have hsame : c₄.table = c.table := h₄.table.trans (h₃.table.trans (h₂.table.trans h₁.table))
  exact congrArg (Option.map fun t => { t with inCell := false }) hsame

/-- Leaving a cell writes an ampersand for each further column that it spans. -/
theorem leave_cell (htag : e.tag = .tableCell header colspan) (hf : c.frames = f :: fs)
    (hcell : f.cellBraces.isSome) (hends : ∀ closer ∈ f.closers, closer.IsEnd) :
    Ensures (leave e) c fun _ c' => c'.ampersands = c.ampersands + f.padding ∧
      c'.table = c.table.map fun t => { t with inCell := false } := by
  refine Ensures.leave hf ?_
  unfold closeElement
  rw [htag]
  refine Ensures.ite (fun _ => ?_) fun h => absurd hcell h
  exact (closeCell_ampersands hends _).and (closeCell_table f _)

end Convert

end MarkupTex
