import MarkupTex.Proofs.Convert.Effects
import MarkupTex.Proofs.Convert.Formatting
import MarkupTex.Proofs.Latex.Quiet
/-!
# Formatting that is asked for

A `Wish` is a piece of formatting that is asked for, by the style of an element, by its tag or by one of its
attributes.  `Granted` says what becomes of it: it holds already, or it is opened as the argument of a
command or as a group, or it is put off.  Each of the actions that open formatting grants one wish.
-/

set_option autoImplicit false

namespace MarkupTex.Convert

open Latex Token

variable {α : Type} {c c' : Converter} {m : Conversion α} {ts : List Token}

/-! ## Formatting that is asked for -/

/-- A piece of formatting. -/
inductive Wish where
  | emphasis (kind : Emphasis)
  | color (hex : String)
  | background (hex : String)
  | family (family : Family)
  | size (switch : String)
  deriving DecidableEq, Repr

namespace Wish

/-- It holds already. -/
def held (f : Formatting) : Wish → Bool
  | emphasis k => f.active.contains k.kind
  | color hex => f.active.contains Kinds.color && f.color = some hex
  | background hex => f.active.contains Kinds.background && f.background = some hex
  | family g => f.family = some g
  | size s => f.size = some s

/-- The formatting with it. -/
def grant (f : Formatting) : Wish → Formatting
  | emphasis k => { f with active := f.active ∪ k.kind }
  | color hex => { f with active := f.active ∪ Kinds.color, color := some hex }
  | background hex => { f with active := f.active ∪ Kinds.background, background := some hex }
  | family g => { f with active := f.active ∪ Kinds.fontFamily, family := some g }
  | size s => { f with active := f.active ∪ Kinds.fontSize, size := some s }

/-- The formatting that has it put off, for what can be put off. -/
def putOff? (f : Formatting) : Wish → Option Formatting
  | emphasis .underline => some { f with pendingUnderline := true }
  | background hex => some { f with pendingBackground := some hex }
  | _ => none

/-- The row of the command for it, up to the brace of its argument. -/
def command? : Wish → Option (List Token)
  | emphasis .bold => some [word "textbf"]
  | emphasis .italic => some [word "textit"]
  | emphasis .underline => some [word "underline"]
  | color hex => some (colorCommand "textcolor" ++ chars hex.toList ++ [closing])
  | background hex => some (colorCommand "colorbox" ++ chars hex.toList ++ [closing])
  | family g => some [word g.command]
  | size _ => none

/-- The row may stand behind the brace of a group. -/
inductive Switches : Wish → List Token → Prop where
  | bold : Switches (emphasis .bold) [word "bfseries", char ' ']
  | italic : Switches (emphasis .italic) [word "itshape", char ' ']
  | color (hex : String) :
      Switches (color hex) (colorCommand "color" ++ chars hex.toList ++ [closing])
  | family (g : Family) : Switches (family g) [word g.declaration, char ' ']
  | size {s : String} {ts : List Token} (spelled : s.toList = spell ts) (quiet : ts.all isQuiet)
      (level : depthAfter 1 ts = some 1) : Switches (size s) (ts ++ [char ' '])

/-- A color is written with plain characters. -/
def Plain : Wish → Prop
  | color hex | background hex => hex.toList.all isPlain
  | _ => True

end Wish

/-! ### The rows of a wish -/

theorem colorCommand_quiet {word hex : String} (hw : (colorCommand word).all isQuiet)
    (hhex : hex.toList.all isPlain) :
    (colorCommand word ++ chars hex.toList ++ [closing]).all isQuiet := by
  rw [List.all_append, List.all_append, hw, quiet_chars (inert_of_plain hhex)]
  rfl

/-- Only an emphasis sets something apart. -/
theorem Wish.command?_quiet {w : Wish} (h : w.command? = some ts) (hw : w.Plain)
    (hnot : ∀ k, w ≠ .emphasis k) : ts.all isQuiet := by
  cases w with
  | emphasis k => exact absurd rfl (hnot k)
  | color hex | background hex =>
    cases h
    exact colorCommand_quiet rfl hw
  | family g =>
    cases h
    cases g <;> rfl
  | size => cases h

theorem Wish.command?_regular {w : Wish} (h : w.command? = some ts) (hw : w.Plain) :
    ts.all isRegular := by
  cases w with
  | emphasis k => cases k <;> cases h <;> rfl
  | _ => exact regular_of_quiet (Wish.command?_quiet h hw (by simp))

theorem Wish.Switches.quiet {w : Wish} (h : w.Switches ts) (hw : w.Plain)
    (hnot : ∀ k, w ≠ .emphasis k) : ts.all isQuiet := by
  cases h with
  | bold | italic => exact absurd rfl (hnot _)
  | color hex => exact colorCommand_quiet rfl hw
  | family g => cases g <;> rfl
  | size _ quiet =>
    rw [List.all_append, quiet]
    rfl

theorem Wish.Switches.regular {w : Wish} (h : w.Switches ts) (hw : w.Plain) : ts.all isRegular := by
  cases w with
  | emphasis k => cases h <;> rfl
  | _ => exact regular_of_quiet (h.quiet hw (by simp))

/-! ### What becomes of it -/

/-- What becomes of a wish. -/
inductive Granted : Wish → Converter → Converter → Prop where
  | held {w : Wish} {c : Converter} (holds : w.held c.formatting = true) : Granted w c c
  | argument {w : Wish} {ts : List Token} {c c₁ : Converter} (fresh : w.held c.formatting = false)
      (inline : c.blockContent = false) (row : w.command? = some ts)
      (wrote : Wrote (ts ++ [opening]) c c₁) :
      Granted w c { Opening.argument.owe c₁ with formatting := w.grant c.formatting }
  | group {w : Wish} {ts : List Token} {c c₁ : Converter} (fresh : w.held c.formatting = false)
      (row : w.Switches ts) (wrote : Wrote ([opening] ++ ts) c c₁) :
      Granted w c { Opening.group.owe c₁ with formatting := w.grant c.formatting }
  | putOff {w : Wish} {f : Formatting} {c : Converter} (fresh : w.held c.formatting = false)
      (later : w.putOff? c.formatting = some f) : Granted w c { c with formatting := f }

/-- Underlines and backgrounds can be put off. -/
theorem Wish.putOff?_cases {w : Wish} {f g : Formatting} (h : w.putOff? f = some g) :
    (w = .emphasis .underline ∧ g = { f with pendingUnderline := true }) ∨
      ∃ hex, w = .background hex ∧ g = { f with pendingBackground := some hex } := by
  cases w with
  | emphasis k =>
    cases k with
    | underline =>
      cases h
      exact .inl ⟨rfl, rfl⟩
    | _ => cases h
  | background hex =>
    cases h
    exact .inr ⟨hex, rfl, rfl⟩
  | _ => cases h

/-- What a granted wish does to formatting. -/
theorem Granted.formatting {w : Wish} (h : Granted w c c') :
    (w.held c.formatting = true ∧ c'.formatting = c.formatting) ∨
      c'.formatting = w.grant c.formatting ∨ w.putOff? c.formatting = some c'.formatting := by
  cases h with
  | held holds => exact .inl ⟨holds, rfl⟩
  | argument | group => exact .inr (.inl rfl)
  | putOff _ later => exact .inr (.inr later)

/-! ### The actions that grant wishes -/

theorem braceOwed_owes (c : Converter) :
    Ensures (braceOwed "\x7d") c fun _ c' => c' = Opening.group.owe c := by
  unfold braceOwed onLeave
  refine Ensures.modify_bind (Ensures.modifies ?_)
  cases hf : c.frames <;> simp [Opening.owe, Opening.markFirst, Opening.mark, Opening.closers,
    Opening.braces, Opening.isArgument, Opening.isVerbatim, Opening.isList, hf]

theorem argumentOwed_opens (c : Converter) :
    Ensures (argumentOwed "\x7d") c fun _ c' => c' = Opening.argument.owe c := by
  unfold argumentOwed beginArgument onLeave
  refine (braceOwed_owes c).bind ?_
  rintro _ _ rfl
  refine Ensures.modify_bind (Ensures.modifies ?_)
  cases hf : c.frames <;> simp [Opening.owe, Opening.markFirst, Opening.mark, Opening.closers,
    Opening.braces, Opening.isArgument, Opening.isVerbatim, Opening.isList, hf, Converter.output,
    String.length_toList]

theorem openGroup_owes {s : String} (ts : List Token) (hs : s.toList = spell ts) :
    Ensures (openGroup s "\x7d") c fun _ c' => ∃ c₁, Wrote ts c c₁ ∧ c' = Opening.group.owe c₁ := by
  unfold openGroup
  refine (push_yields ts hs).ensures.bind fun _ c₁ hw => (braceOwed_owes c₁).mono ?_
  rintro _ _ rfl
  exact ⟨c₁, hw, rfl⟩

theorem openArgument_owes {s : String} (ts : List Token) (hs : s.toList = spell ts) :
    Ensures (openArgument s "\x7d") c fun _ c' =>
      ∃ c₁, Wrote ts c c₁ ∧ c' = Opening.argument.owe c₁ := by
  unfold openArgument
  refine (push_yields ts hs).ensures.bind fun _ c₁ hw => (argumentOwed_opens c₁).mono ?_
  rintro _ _ rfl
  exact ⟨c₁, hw, rfl⟩

/-- An argument is opened, and then the wish holds. -/
theorem argument_grants {w : Wish} {s : String} {ts : List Token} {g : Formatting → Formatting}
    (fresh : w.held c.formatting = false) (inline : c.blockContent = false)
    (row : w.command? = some ts) (hs : s.toList = spell (ts ++ [opening]))
    (hg : g c.formatting = w.grant c.formatting) :
    Ensures (openArgument s "\x7d" >>= fun _ => modifyFormatting g) c fun _ c' => Granted w c c' := by
  refine (openArgument_owes _ hs).bind ?_
  rintro _ _ ⟨c₁, hw, rfl⟩
  have hgrant := Granted.argument fresh inline row hw
  have hformatting : c₁.formatting = c.formatting := by
    obtain ⟨_, _, _, _, _, rfl, -⟩ := hw
    rfl
  refine Ensures.modifies ?_
  rw [show (Opening.argument.owe c₁).formatting = c.formatting from hformatting, hg]
  exact hgrant

/-- A group is opened, and then the wish holds. -/
theorem group_grants {w : Wish} {s : String} {ts : List Token} {g : Formatting → Formatting}
    (fresh : w.held c.formatting = false) (row : w.Switches ts)
    (hs : s.toList = spell ([opening] ++ ts)) (hg : g c.formatting = w.grant c.formatting) :
    Ensures (openGroup s "\x7d" >>= fun _ => modifyFormatting g) c fun _ c' => Granted w c c' := by
  refine (openGroup_owes _ hs).bind ?_
  rintro _ _ ⟨c₁, hw, rfl⟩
  have hgrant := Granted.group fresh row hw
  have hformatting : c₁.formatting = c.formatting := by
    obtain ⟨_, _, _, _, _, rfl, -⟩ := hw
    rfl
  refine Ensures.modifies ?_
  rw [show (Opening.group.owe c₁).formatting = c.formatting from hformatting, hg]
  exact hgrant

theorem applyEmphasis_grants (k : Emphasis) (c : Converter) :
    Ensures (applyEmphasis k) c fun _ c' => Granted (.emphasis k) c c' := by
  unfold applyEmphasis
  refine Ensures.get_bind (Ensures.unless (fun hheld => ?_) fun h => .held (w := .emphasis k) h)
  have fresh : (Wish.emphasis k).held c.formatting = false := by simpa [Wish.held] using hheld
  extract_lets activate
  refine Ensures.ite (fun hinline => ?_) fun _ => ?_
  · have inline : c.blockContent = false := by simpa using hinline
    cases k with
    | bold => exact argument_grants fresh inline rfl rfl rfl
    | italic => exact argument_grants fresh inline rfl rfl rfl
    | underline => exact argument_grants fresh inline rfl rfl rfl
  · cases k with
    | bold => exact group_grants fresh .bold rfl rfl
    | italic => exact group_grants fresh .italic rfl rfl
    | underline => exact Ensures.modifies (.putOff fresh rfl)

theorem colorCommand_spell (w hex : String) :
    ("\\" ++ w ++ "[HTML]" ++ braced hex).toList =
      spell (colorCommand w ++ chars hex.toList ++ [closing]) := by
  simp [colorCommand, braced, render]

theorem applyColor_grants (hex : String) (c : Converter) :
    Ensures (applyColor hex) c fun _ c' => Granted (.color hex) c c' := by
  unfold applyColor
  refine Ensures.get_bind (Ensures.unless (fun hheld => ?_) fun h => .held (w := .color hex) h)
  have fresh : (Wish.color hex).held c.formatting = false := Bool.eq_false_iff.mpr hheld
  extract_lets activate
  refine Ensures.ite (fun _ => ?_) fun hblocks => ?_
  · have hs := colorCommand_spell "color" hex
    exact group_grants fresh (.color hex) (by simpa [render] using hs) rfl
  · have hs := colorCommand_spell "textcolor" hex
    refine argument_grants fresh (Bool.eq_false_iff.mpr hblocks) rfl ?_ rfl
    rw [spell_append, ← hs]
    simp [render]

theorem applyBackground_grants (hex : String) (c : Converter) :
    Ensures (applyBackground hex) c fun _ c' => Granted (.background hex) c c' := by
  unfold applyBackground
  refine Ensures.get_bind (Ensures.unless (fun hheld => ?_) fun h => .held (w := .background hex) h)
  have fresh : (Wish.background hex).held c.formatting = false := Bool.eq_false_iff.mpr hheld
  refine Ensures.ite (fun _ => Ensures.modifies (.putOff fresh rfl)) fun hblocks => ?_
  have hs := colorCommand_spell "colorbox" hex
  refine argument_grants fresh (Bool.eq_false_iff.mpr hblocks) rfl ?_ rfl
  rw [spell_append, ← hs]
  simp [render]

theorem applyFamily_grants (family : Family) (c : Converter) :
    Ensures (applyFamily family) c fun _ c' => Granted (.family family) c c' := by
  unfold applyFamily
  refine Ensures.get_bind (Ensures.unless (fun hheld => ?_) fun h => .held (by simpa [Wish.held] using h))
  have fresh : (Wish.family family).held c.formatting = false := by simpa [Wish.held] using hheld
  extract_lets activate
  refine Ensures.ite (fun _ => ?_) fun hblocks => ?_
  · exact group_grants fresh (.family family) (by cases family <;> rfl) rfl
  · exact argument_grants fresh (Bool.eq_false_iff.mpr hblocks) rfl (by cases family <;> rfl) rfl

theorem applySize_grants {switch : String} (h : IsSize switch) (c : Converter) :
    Ensures (applySize switch) c fun _ c' => Granted (.size switch) c c' := by
  obtain ⟨ts, hs, hquiet, hlevel⟩ := h.sized
  unfold applySize
  refine Ensures.get_bind (Ensures.unless (fun hheld => ?_) fun h => .held (by simpa [Wish.held] using h))
  have fresh : (Wish.size switch).held c.formatting = false := by simpa [Wish.held] using hheld
  exact group_grants fresh (.size hs hquiet hlevel) (by simp [hs, render]) rfl

end MarkupTex.Convert
