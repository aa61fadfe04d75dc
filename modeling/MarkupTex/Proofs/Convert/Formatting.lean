import MarkupTex.Proofs.Convert.Actions
/-!
# Formatting is groups and arguments

Whatever formatting an element asks for, it is opened as a group or as the argument of a command, or put
off; a value that cannot be read becomes a warning.
-/

set_option autoImplicit false

namespace MarkupTex.Convert

open Latex Token

variable {o : Options} {c : Converter}

theorem applyEmphasis_steady (e : Emphasis) : Steady o (applyEmphasis e) := by
  intro c hc
  have hactivate : Steady o (modifyFormatting fun f => { f with active := f.active ∪ e.kind }) :=
    modifyFormatting_steady _ fun _ h => h
  unfold applyEmphasis
  refine Yields.get_bind (Yields.unless (fun _ => Yields.ite (fun _ => ?_) fun _ => ?_)
    fun _ => .refl c)
  · refine Yields.andThen ?_ fun _ c' hc' => hactivate c' (hc'.framed hc)
    cases e with
    | bold => exact openArgument_works [word "textbf"] hc rfl (.of_fluent (fun _ => rfl) rfl rfl)
    | italic => exact openArgument_works [word "textit"] hc rfl (.of_fluent (fun _ => rfl) rfl rfl)
    | underline =>
      exact openArgument_works [word "underline"] hc rfl (.of_fluent (fun _ => rfl) rfl rfl)
  · cases e with
    | bold =>
      refine Yields.andThen ?_ fun _ c' hc' => hactivate c' (hc'.framed hc)
      exact openGroup_works [opening, word "bfseries", char ' '] hc rfl
        (.of_fluent (fun _ => rfl) rfl rfl)
    | italic =>
      refine Yields.andThen ?_ fun _ c' hc' => hactivate c' (hc'.framed hc)
      exact openGroup_works [opening, word "itshape", char ' '] hc rfl
        (.of_fluent (fun _ => rfl) rfl rfl)
    | underline => exact modifyFormatting_steady _ (by exact fun _ h => h) c hc

/-- A command that takes a color, up to the color. -/
def colorCommand (w : String) : List Token := [word w] ++ chars ['[', 'H', 'T', 'M', 'L', ']'] ++ [opening]

theorem colorArgument_works (hc : Framed c) {w hex : String} (hhex : hex.toList.all isPlain)
    (hw : fluent (colorCommand w)) :
    Yields (openArgument ("\\" ++ w ++ "[HTML]" ++ braced hex ++ "\x7b") "\x7d") c
      fun _ c' => Works o c c' := by
  refine openArgument_works (colorCommand w ++ chars hex.toList ++ [closing]) hc ?_
    (.of_fluent ?_ rfl ?_)
  · simp [colorCommand, braced, render]
  · intro stack
    simp [colorCommand, nest_append, nest, turn, nest_chars, close]
  · exact fluent_append (fluent_append (fluent_append hw (fluent_chars hhex)) rfl) rfl

theorem applyColor_steady {hex : String} (hhex : hex.toList.all isPlain) :
    Steady o (applyColor hex) := by
  intro c hc
  unfold applyColor
  refine Yields.get_bind (Yields.unless (fun _ => ?_) fun _ => .refl c)
  extract_lets activate
  have hactivate : Steady o (activate ()) := modifyFormatting_steady _ fun _ h => h
  refine Yields.ite (fun _ => ?_) fun _ => ?_
  · refine Yields.andThen ?_ fun _ c' hc' => hactivate c' (hc'.framed hc)
    refine openGroup_works ([opening] ++ (colorCommand "color" ++ chars hex.toList ++ [closing]))
      hc ?_ (.of_fluent ?_ rfl ?_)
    · simp [colorCommand, braced, render]
    · intro stack
      simp [colorCommand, nest_append, nest, turn, nest_chars, close]
    · exact fluent_append rfl (fluent_append (fluent_append rfl (fluent_chars hhex)) rfl)
  · exact (colorArgument_works (w := "textcolor") hc hhex rfl).andThen
      fun _ c' hc' => hactivate c' (hc'.framed hc)

theorem applyBackground_steady {hex : String} (hhex : hex.toList.all isPlain) :
    Steady o (applyBackground hex) := by
  intro c hc
  unfold applyBackground
  refine Yields.get_bind (Yields.unless (fun _ => ?_) fun _ => .refl c)
  refine Yields.ite (fun _ => ?_) fun _ => ?_
  · refine modifyFormatting_steady _ (fun _ _ hex' h => ?_) c hc
    cases h
    exact hhex
  · exact (colorArgument_works (w := "colorbox") hc hhex rfl).andThen
      fun _ c' hc' => modifyFormatting_steady _ (by exact fun _ h => h) c' (hc'.framed hc)

theorem applyFamily_steady (family : Family) : Steady o (applyFamily family) := by
  intro c hc
  unfold applyFamily
  refine Yields.get_bind (Yields.unless (fun _ => ?_) fun _ => .refl c)
  extract_lets activate
  have hactivate : Steady o (activate ()) := modifyFormatting_steady _ fun _ h => h
  refine Yields.ite (fun _ => ?_) fun _ => ?_
  · refine Yields.andThen ?_ fun _ c' hc' => hactivate c' (hc'.framed hc)
    refine openGroup_works [opening, word family.declaration, char ' '] hc ?_ ?_
    · cases family <;> rfl
    · cases family <;> exact .of_fluent (fun _ => rfl) rfl rfl
  · refine Yields.andThen ?_ fun _ c' hc' => hactivate c' (hc'.framed hc)
    refine openArgument_works [word family.command] hc ?_ ?_
    · cases family <;> rfl
    · cases family <;> exact .of_fluent (fun _ => rfl) rfl rfl

theorem applySize_steady {switch : String} (h : IsSize switch) :
    Steady o (applySize switch) := by
  intro c hc
  obtain ⟨ts, hs, hfluent, -, hneutral⟩ := h.spells
  unfold applySize
  refine Yields.get_bind (Yields.unless (fun _ => ?_) fun _ => .refl c)
  refine Yields.andThen ?_ fun _ c' hc' =>
    modifyFormatting_steady _ (by exact fun _ h => h) c' (hc'.framed hc)
  refine openGroup_works ([opening] ++ (ts ++ [char ' '])) hc ?_ (.of_fluent ?_ rfl ?_)
  · simp [hs, render]
  · intro stack
    simp [nest_append, nest, turn, hneutral]
  · exact fluent_append rfl hfluent

theorem orWarn_steady {α : Type} {name : String} {value : Except Fault α} {use : α → Conversion Unit}
    (h : ∀ a, value = .ok a → Steady o (use a)) : Steady o (orWarn name value use) := by
  cases value with
  | ok a => exact h a rfl
  | error fault => exact warn_steady fault (some name)

theorem orWarn_color_steady {name value : String} {use : String → Conversion Unit}
    (h : ∀ {hex : String}, hex.toList.all isPlain → Steady o (use hex)) :
    Steady o (orWarn name (Color.toHex value) use) :=
  orWarn_steady fun _ hv => h (toHex_plain hv)

theorem applyStyle_steady (e : Element) (style : Style) : Steady o (applyStyle e style) := by
  unfold applyStyle
  intro c hc
  -- The rest of the action from each of its steps on, the last one first.
  extract_lets underline italic bold background
  have hunderline : Steady o (underline ()) :=
    .ite (fun _ => applyEmphasis_steady .underline) fun _ => .pure ()
  have hitalic : Steady o (italic ()) :=
    .ite (fun _ => (applyEmphasis_steady .italic).bind fun _ => hunderline) fun _ => hunderline
  have hbold : Steady o (bold ()) :=
    .ite (fun _ => (applyEmphasis_steady .bold).bind fun _ => hitalic) fun _ => hitalic
  have hbackground : Steady o (background ()) := by
    refine .ite (fun _ => ?_) fun _ => hbold
    cases style.backgroundColor? with
    | some value => exact (orWarn_color_steady applyBackground_steady).bind fun _ => hbold
    | none => exact hbold
  refine Steady.ite (fun _ => ?_) (fun _ => hbackground) c hc
  cases style.get? "color" with
  | some value => exact (orWarn_color_steady applyColor_steady).bind fun _ => hbackground
  | none => exact hbackground

end MarkupTex.Convert
