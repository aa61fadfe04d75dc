import MarkupTex.Proofs.Convert.Handlers
/-!
# Images and tables

The handlers of images and tables apply no style.  An image leaves alone all that holds around it, and so
does a table that is left out or that becomes a figure; one that is begun puts formatting back to its
beginning.

Where an argument is open there are no floats.  Then an image is one row, and a table is the grid alone.
-/

set_option autoImplicit false

namespace MarkupTex.Convert

open Latex Token

variable {α : Type} {doc : Document} {setting : Setting} {id : Nat} {e : Element} {style : Style}
  {m : Conversion α} {c c' c₁ : Converter} {ts : List Token}

/-! ## What is left alone -/

/-- Formatting, frames and arguments are the same. -/
structure Unmoved (c c' : Converter) : Prop where
  formatting : c'.formatting = c.formatting
  frames : c'.frames = c.frames
  arguments : c'.arguments = c.arguments

instance : Std.Refl Unmoved := ⟨fun _ => ⟨rfl, rfl, rfl⟩⟩

instance : Trans Unmoved Unmoved Unmoved :=
  ⟨fun h h' => ⟨h'.formatting.trans h.formatting, h'.frames.trans h.frames,
    h'.arguments.trans h.arguments⟩⟩

/-- The action leaves these alone, wherever it succeeds. -/
abbrev Unmoving (m : Conversion α) : Prop := Relates Unmoved m

theorem Wrote.unmoved (h : Wrote ts c c') : Unmoved c c' := by
  obtain ⟨_, _, _, _, _, rfl, -⟩ := h
  exact ⟨rfl, rfl, rfl⟩

theorem Unmoving.of_wrote {m : Conversion Unit} (h : ∀ c, Yields m c fun _ c' => ∃ ts, Wrote ts c c') :
    Unmoving m := fun c => (h c).ensures.mono fun _ _ ⟨_, hw⟩ => hw.unmoved

theorem Emits.unmoving {m : Conversion Unit} (h : Emits m) : Unmoving m :=
  .of_wrote fun c => (h c).mono fun _ _ ⟨ts, _, hw⟩ => ⟨ts, hw⟩

theorem write_unmoving (act : Buffer → Except Fault Buffer) : Unmoving (write act) := by
  intro c a c' hm
  rw [write] at hm
  split at hm
  · cases hm
    exact ⟨rfl, rfl, rfl⟩
  · cases hm

theorem nextFigure_unmoving : Unmoving nextFigure :=
  .modify_bind (fun _ => ⟨rfl, rfl, rfl⟩) (.get_bind fun _ => .pure _)

theorem pushFloatLabel_unmoving (id : Option String) (fallback : String) :
    Unmoving (pushFloatLabel id fallback) := by
  unfold pushFloatLabel
  refine (write_unmoving _).bind fun _ => ?_
  cases id <;> exact write_unmoving _

/-- What comes behind the caption of a figure. -/
theorem endFigure_unmoving (id : Option String) (fallback : String) : Unmoving (do
    pushFloatLabel id fallback
    push ("\x7d\n" ++ endEnvironment "figure")
    paragraphBreak) :=
  (pushFloatLabel_unmoving id fallback).bind fun _ => (write_unmoving _).bind fun _ => write_unmoving _

theorem pushFigure_unmoving {options : String} (h : Spells options [char ']']) (path caption : String) :
    Unmoving (pushFigure setting e path options caption) := by
  unfold pushFigure
  refine nextFigure_unmoving.bind fun _ => (write_unmoving _).bind fun _ => (write_unmoving _).bind fun _ => ?_
  refine (includeImage_emits path h).unmoving.bind fun _ => (write_unmoving _).bind fun _ => ?_
  exact (write_unmoving _).bind fun _ => endFigure_unmoving _ _

theorem pushImageGrid_unmoving (table : Nat) : Unmoving (pushImageGrid doc setting table e) := by
  unfold pushImageGrid
  refine nextFigure_unmoving.bind fun number => ?_
  extract_lets columns options finish
  have hfinish : Unmoving (finish ()) := endFigure_unmoving _ _
  refine (write_unmoving _).bind fun _ => (write_unmoving _).bind fun _ => ?_
  refine (pushGridRows_emits doc setting (imageOptions_spells _) _).unmoving.bind fun _ => ?_
  refine (write_unmoving _).bind fun _ => ?_
  split
  · exact (write_unmoving _).bind fun _ => hfinish
  · exact (write_unmoving _).bind fun _ => hfinish

/-! ## Images -/

/-- A length that is asked for and can be read. -/
def imageLength? (e : Element) (style : Style) (name : String) : Option Length :=
  ((style.get? name).or (e.attribute? name)).bind fun value => (Length.parse value).toOption

/-- The options of the command that includes an image. -/
def imageOptions (e : Element) (style : Style) : String :=
  ({ width := imageLength? e style "width", height := imageLength? e style "height" } :
    Image.Options).toLatex

/-- The row of an image in a line. -/
inductive ImageRow (setting : Setting) (e : Element) (style : Style) : List Token → Prop where
  | nothing : ImageRow setting e style []
  | alt {src alt : String} {fault : Fault} (asks : e.nonBlankAttribute? "src" = some src)
      (missing : setting.resolve src = .error fault) (given : e.nonBlankAttribute? "alt" = some alt) :
      ImageRow setting e style (alt.toList.flatMap textTokens)
  | included {src path : String} {ots : List Token} (asks : e.nonBlankAttribute? "src" = some src)
      (found : setting.resolve src = .ok path) (spelled : (imageOptions e style).toList = spell ots)
      (phrase : Phrase (imageRow (imageOptions e style).isEmpty ots path)) :
      ImageRow setting e style (imageRow (imageOptions e style).isEmpty ots path)

theorem imageLength_reads (name : String) :
    Ensures (imageLength e style name) c fun length c' =>
      length = imageLength? e style name ∧ Wrote [] c c' := by
  unfold imageLength imageLength?
  generalize (style.get? name).or (e.attribute? name) = asked
  cases asked with
  | none => exact Ensures.pure ⟨rfl, .nil⟩
  | some value =>
    rw [Option.bind_some]
    dsimp only
    cases Length.parse value with
    | ok length => exact Ensures.pure ⟨rfl, .nil⟩
    | error fault => exact (warn_wrote _ _).ensures.bind fun _ _ hw => Ensures.pure ⟨rfl, hw⟩

theorem allowsFigure_congr (h : Wrote [] c c') : allowsFigure c' = allowsFigure c := by
  obtain ⟨_, _, _, _, _, rfl, -⟩ := h
  rfl

/-- An image is one row, or a figure where there can be one. -/
theorem openImage_writes (doc : Document) (setting : Setting) (id : Nat) (e : Element) (style : Style)
    (c : Converter) : Ensures (openImage doc setting id e style) c fun _ c' =>
      (∃ ts, ImageRow setting e style ts ∧ Wrote ts c c') ∨ (allowsFigure c = true ∧ Unmoved c c') := by
  unfold openImage
  cases hsrc : e.nonBlankAttribute? "src" with
  | none => exact (warn_wrote _ _).ensures.mono fun _ _ hw => .inl ⟨[], .nothing, hw⟩
  | some src =>
    have hcount : Wrote [] c { c with images := c.images + 1 } := countImage_wrote (c := c)
    refine Ensures.modify_bind ?_
    cases hresolve : setting.resolve src with
    | error fault =>
      refine (warn_wrote fault (some e.name)).ensures.bind fun _ c₁ h₁ => ?_
      cases halt : e.nonBlankAttribute? "alt" with
      | none => exact Ensures.pure (.inl ⟨[], .nothing, hcount.trans h₁⟩)
      | some alt =>
        exact (pushEscaped_yields alt).ensures.mono fun _ _ hw =>
          .inl ⟨_, .alt hsrc hresolve halt, (hcount.trans h₁).trans hw⟩
    | ok path =>
      refine (imageLength_reads "width").bind ?_
      rintro _ c₁ ⟨rfl, h₁⟩
      refine (imageLength_reads "height").bind ?_
      rintro _ c₂ ⟨rfl, h₂⟩
      have hbefore : Wrote [] c c₂ := hcount.trans (h₁.trans h₂)
      have hspells : Spells (imageOptions e style) [char ']'] := imageOptions_spells _
      have hinclude : Ensures (includeImage path (imageOptions e style)) c₂ fun _ c' =>
          (∃ ts, ImageRow setting e style ts ∧ Wrote ts c c') ∨ (allowsFigure c = true ∧ Unmoved c c') := by
        obtain ⟨ots, hs, hfluent, -, hneutral⟩ := hspells
        have hphrase := phrase_imageRow hneutral hfluent (imageOptions e style).isEmpty path
        exact (includeImage_wrote hs).ensures.mono fun _ _ hw =>
          .inl ⟨_, .included hsrc hresolve hs hphrase, hbefore.trans hw⟩
      cases imageCaption? e with
      | none => exact hinclude
      | some caption =>
        refine Ensures.get_bind (Ensures.ite (fun hfigure => ?_) fun _ => hinclude)
        simp only [Bool.and_eq_true] at hfigure
        refine (pushFigure_unmoving hspells path caption c₂).mono fun _ _ h => .inr ⟨?_, ?_⟩
        · rw [← allowsFigure_congr hbefore]
          exact hfigure.1
        · exact Trans.trans hbefore.unmoved h

theorem openImage_unmoving : Unmoving (openImage doc setting id e style) := fun c =>
  (openImage_writes doc setting id e style c).mono fun _ _ h =>
    h.elim (fun ⟨_, _, hw⟩ => hw.unmoved) And.right

/-! ## Tables -/

theorem spaceApart_unmoving : Unmoving spaceApart := .get_bind fun _ => .unless fun _ => write_unmoving _

theorem nextTable_unmoving : Unmoving nextTable :=
  .modify_bind (fun _ => ⟨rfl, rfl, rfl⟩) (.get_bind fun _ => .pure _)

theorem beginTable_installs (hc : Framed c) (bare : Bool) :
    Ensures (beginTable doc setting id e bare) c fun _ c' => ∃ t c₁, Unmoved c c₁ ∧ c' = c₁.install t := by
  unfold beginTable
  extract_lets columns borders begun
  have hbegun : ∀ number c₁, Unmoved c c₁ →
      Ensures (begun number) c₁ fun _ c' => ∃ t c₁, Unmoved c c₁ ∧ c' = c₁.install t := by
    intro number c₁ h₁
    have hgrid : ∀ c₂, Unmoved c c₂ → Ensures (do
        push (beginEnvironment "tabular" ++ braced (columnSpec columns borders) ++ "\n")
        if borders then push "\\hline\n"
        installTable { node := id, number, columns, nested := bare, label := e.nonBlankAttribute? "id" })
          c₂ fun _ c' => ∃ t c₁, Unmoved c c₁ ∧ c' = c₁.install t := fun c₂ h₂ => by
      have hc₂ : Framed c₂ := by
        rw [Framed, h₂.frames]
        exact hc
      refine (beginGrid_yields hc₂ columns borders _).ensures.mono ?_
      rintro _ _ ⟨c₃, h₃, rfl⟩
      exact ⟨_, c₃, Trans.trans h₂ h₃.unmoved, rfl⟩
    refine Ensures.ite (fun _ => ?_) fun _ => ?_
    · exact (spaceApart_unmoving c₁).bind fun _ c₂ h₂ => hgrid c₂ (Trans.trans h₁ h₂)
    · refine (write_unmoving _ c₁).bind fun _ c₂ h₂ => (write_unmoving _ c₂).bind fun _ c₃ h₃ => ?_
      exact hgrid c₃ (Trans.trans h₁ (Trans.trans h₂ h₃))
  refine Ensures.ite (fun _ => ?_) fun _ => ?_
  · exact (Relates.pure (R := Unmoved) 0 c).bind hbegun
  · exact (nextTable_unmoving c).bind hbegun

/-- A table is left out or becomes a figure, or it is begun. -/
theorem openTable_begins (hc : Framed c) :
    Ensures (openTable doc setting id e) c fun _ c' =>
      Unmoved c c' ∨ ∃ t c₁, Unmoved c c₁ ∧ c' = c₁.install t := by
  unfold openTable
  refine Ensures.get_bind (Ensures.ite (fun _ => ?_) fun _ => ?_)
  · exact (warn_wrote _ _).ensures.bind fun _ _ hw => Ensures.pure (.inl hw.unmoved)
  · extract_lets bare
    refine Ensures.ite (fun _ => ?_) fun _ => ?_
    · exact (pushImageGrid_unmoving id c).bind fun _ _ h => Ensures.pure (.inl h)
    · exact (beginTable_installs hc bare).bind fun _ _ h => Ensures.pure (.inr h)

end MarkupTex.Convert
