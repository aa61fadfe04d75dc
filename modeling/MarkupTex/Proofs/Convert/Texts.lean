import MarkupTex.Proofs.Convert.Inline
import MarkupTex.Proofs.Convert.Wishes
import MarkupTex.Proofs.Text.Trim
/-!
# What a text writes

Outside of verbatim blocks a text writes one row of escaped characters, and nothing between the cells of a
table.  Its characters are those of the text, but for the spaces that stand for blanks.  An underline and a
background that were put off, and are not in effect, go around the part of it that is not blank.
-/

set_option autoImplicit false

namespace MarkupTex

theorem Text.mem_collapseFrom {inRun : Bool} {c : Char} {cs : List Char}
    (h : c ∈ collapseFrom inRun cs) : c = ' ' ∨ c ∈ cs := by
  induction cs generalizing inRun with
  | nil => cases h
  | cons first cs ih =>
    rw [collapseFrom] at h
    split at h
    · split at h
      · exact (ih h).imp_right (List.mem_cons_of_mem first)
      · rcases List.mem_cons.mp h with rfl | h
        · exact .inl rfl
        · exact (ih h).imp_right (List.mem_cons_of_mem first)
    · rcases List.mem_cons.mp h with rfl | h
      · exact .inr List.mem_cons_self
      · exact (ih h).imp_right (List.mem_cons_of_mem first)

namespace Convert

open Latex Token

variable {c c' : Converter} {f : Formatting} {s t : String} {ts : List Token}

/-- The background that a run of text brings with it. -/
def Formatting.runBackground (f : Formatting) : Option String :=
  f.pendingBackground.filter fun _ => !f.active.contains Kinds.background

/-- A run of text brings an underline with it. -/
def Formatting.runUnderline (f : Formatting) : Bool :=
  f.pendingUnderline && !f.active.contains Kinds.underline

/-- The characters of a part of a text, which may have spaces instead of blanks. -/
def PartOf (s : String) (cs : List Char) : Prop := ∀ c ∈ cs, c = ' ' ∨ c ∈ s.toList

/-- A row that is written for a text. -/
inductive TextRow (f : Formatting) (s : String) : List Token → Prop where
  | nothing : TextRow f s []
  | plain {cs : List Char} (part : PartOf s cs) : TextRow f s (cs.flatMap textTokens)
  | wrapped {front middle rest : List Char} (start : PartOf s front) (core : PartOf s middle)
      (stop : PartOf s rest) : TextRow f s (front.flatMap textTokens ++
        (boxed f.runBackground (underlined f.runUnderline (middle.flatMap textTokens)) ++
          rest.flatMap textTokens))

theorem PartOf.trans {cs : List Char} (h : PartOf s t.toList) (h' : PartOf t cs) : PartOf s cs :=
  fun c hc => (h' c hc).elim .inl (h c)

theorem PartOf.of_subset {cs : List Char} (h : cs ⊆ s.toList) : PartOf s cs := fun _ hc => .inr (h hc)

theorem TextRow.of_part (h : PartOf s t.toList) (ht : TextRow f t ts) : TextRow f s ts := by
  cases ht with
  | nothing => exact .nothing
  | plain part => exact .plain (h.trans part)
  | wrapped start core stop => exact .wrapped (h.trans start) (h.trans core) (h.trans stop)

/-- A run is written as it is, or with something around its middle. -/
theorem appendRun_writes (s : String) (c : Converter) :
    Ensures (appendRun s) c fun _ c' => ∃ ts, TextRow c.formatting s ts ∧ Wrote ts c c' := by
  unfold appendRun
  refine Ensures.get_bind (Ensures.ite (fun _ => ?_) fun _ => ?_)
  · exact (pushEscaped_yields s).ensures.mono fun _ _ hw =>
      ⟨_, .plain (.of_subset fun _ hc => hc), hw⟩
  · refine (pushWrapped_yields _ _ _ _ _).ensures.mono fun _ _ hw => ⟨_, .wrapped ?_ ?_ ?_, hw⟩
    · rw [String.toList_ofList]
      exact .of_subset (List.takeWhile_subset _)
    · rw [String.toList_ofList]
      exact .of_subset (Text.trimList_isInfix _).subset
    · rw [String.toList_ofList]
      exact .of_subset (List.drop_subset _ _)

/-- A text that is visited outside of verbatim blocks. -/
theorem visitText_writes (setting : Setting) (s : String) (hpre : c.preDepth = 0) :
    Ensures (visitText setting s) c fun _ c' => ∃ ts, TextRow c.formatting s ts ∧ Wrote ts c c' := by
  have hclear : Wrote [] c { c with faults := c.faults.clear } :=
    ⟨c.buffer, c.figures, c.images, c.warnings, _, rfl, by simp [Converter.output]⟩
  have hemit : Ensures (emitText setting s) { c with faults := c.faults.clear } fun _ c' =>
      ∃ ts, TextRow c.formatting s ts ∧ Wrote ts { c with faults := c.faults.clear } c' := by
    unfold emitText
    refine Ensures.get_bind (Ensures.ite (fun h => absurd hpre (Nat.pos_iff_ne_zero.mp h)) fun _ => ?_)
    refine Ensures.ite (fun _ => Ensures.unless (fun _ => ?_) fun _ => ⟨[], .nothing, .nil⟩) fun _ => ?_
    · exact (warn_wrote _ _).ensures.mono fun _ _ hw => ⟨[], .nothing, hw⟩
    refine Ensures.ite (fun _ => appendRun_writes s _) fun _ => ?_
    refine Ensures.unless (fun _ => ?_) fun _ => ⟨[], .nothing, .nil⟩
    refine (appendRun_writes _ _).mono ?_
    rintro _ _ ⟨ts, hrow, hw⟩
    refine ⟨ts, hrow.of_part fun ch hc => ?_, hw⟩
    -- Blanks that are dropped at the beginning are no more than a part of what is collapsed.
    have hcollapsed : ∀ ch ∈ (Text.collapse s).toList, ch = ' ' ∨ ch ∈ s.toList := fun ch hc => by
      rw [Text.collapse, String.toList_ofList] at hc
      exact Text.mem_collapseFrom hc
    split at hc
    · rw [Text.trimStart, String.toList_ofList] at hc
      exact hcollapsed ch (List.dropWhile_subset _ hc)
    · exact hcollapsed ch hc
  unfold visitText
  refine Ensures.modify_bind (hemit.bind ?_)
  rintro _ c' ⟨ts, hrow, hw⟩
  exact Ensures.pure ⟨ts, hrow, hclear.trans hw⟩

theorem regular_boxed {background : Option String}
    (hhex : ∀ hex, background = some hex → hex.toList.all isPlain) (h : ts.all isRegular) :
    (boxed background ts).all isRegular := by
  cases background with
  | none => exact h
  | some hex =>
    have hdigits := regular_of_quiet (quiet_chars (inert_of_plain (hhex hex rfl)))
    rw [boxed, List.all_append, List.all_append, List.all_append, List.all_append, hdigits, h]
    rfl

theorem regular_underlined {underline : Bool} (h : ts.all isRegular) :
    (underlined underline ts).all isRegular := by
  cases underline with
  | false => exact h
  | true =>
    rw [underlined, List.all_append, List.all_append, h]
    rfl

/-- A background that is put off has the digits of a color. -/
theorem TextRow.regular (h : TextRow f s ts) (tame : f.Tame) : ts.all isRegular := by
  have htext : ∀ cs : List Char, (cs.flatMap textTokens).all isRegular := fun cs =>
    regular_of_quiet (quiet_text cs)
  cases h with
  | nothing => rfl
  | plain => exact htext _
  | wrapped =>
    have hplain : ∀ hex, f.runBackground = some hex → hex.toList.all isPlain := fun hex h =>
      tame hex (Option.filter_eq_some_iff.mp h).1
    rw [List.all_append, List.all_append, htext, htext, regular_boxed hplain (regular_underlined (htext _))]
    rfl

end Convert

end MarkupTex
