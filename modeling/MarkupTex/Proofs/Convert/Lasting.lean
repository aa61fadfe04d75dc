import MarkupTex.Proofs.Convert.Outcome
import MarkupTex.Proofs.Text.Trim
/-!
# What is written stays

What is written stays, but for spaces at the end.  The caption of a table is kept for the end of the table,
where it is written if the table is a float: `Holds piece c` says that a piece of text is in the output, or in
a caption that is still to be written.

Leaving an element keeps such a piece, `leave_keeping`.  What entering an element does to a caption is told by
its `Outcome`.
-/

set_option autoImplicit false

namespace MarkupTex.Convert

open Latex

variable {o : Options} {α : Type} {m : Conversion α} {c c' c₁ c₂ : Converter} {piece : List Char}

/-! ## Entering an element -/

theorem Wrote.extends {ts : List Token} (h : Wrote ts c c') : Extends c c' := by
  rw [Extends, h.output]
  exact .append _ _

/-- The output goes on when something is opened. -/
theorem Opens.extends {ops : List Opening} (h : Opens o ops c c') : Extends c c' := by
  induction h with
  | refl c => exact .refl c
  | @edit _ c c₁ c₂ _ e ih =>
    refine ih.trans ?_
    cases e with
    | note | format | table => exact .of_eq rfl
    | trim => exact .trims _
    | write wrote => exact wrote.extends
  | «open» _ e ih =>
    obtain ⟨ts, c₁, -, hw, rfl⟩ := e
    exact ih.trans (hw.extends.trans (.of_eq rfl))

theorem Entered.extends {e : Element} {scope : Scope} {blocks : Bool}
    (h : Entered o e (c.opened blocks) scope c') : Extends c c' := by
  have hopened : Extends c (c.opened blocks) := .of_eq rfl
  refine hopened.trans ?_
  cases h with
  | opens h => exact h.extends
  | row h =>
    obtain ⟨ts, -, hw⟩ := h
    exact hw.extends
  | cell tag h =>
    obtain ⟨c₁, padding, -, -, hbefore, hops⟩ := h
    exact hbefore.extends.trans (.trans (.of_eq rfl) hops.extends)
  | table tag h =>
    obtain ⟨ts, c₁, c₂, -, hbefore, -, -, hw, rfl⟩ := h
    exact hbefore.extends.trans (hw.extends.trans (.of_eq rfl))

/-! ## Texts that are written, and those to be written -/

/-- What is written for a text of the document. -/
def writtenText (s : String) : List Char :=
  s.toList.flatMap (Buffer.substituted textSubstitution)

theorem pushEscaped_output (s : String) (c : Converter) :
    Ensures (pushEscaped s) c fun _ c' => c'.output = c.output ++ writtenText s := by
  intro a c' hm
  have hw := (pushEscaped_yields (c := c) s).of_ok hm
  rw [hw.output, spell_flatMap, ← funext substituted_text, writtenText]

/-- The caption of the current table, which will be a float, has the piece in it. -/
def Pending (piece : List Char) (c : Converter) : Prop :=
  ∃ t s, c.table = some t ∧ t.nested = false ∧ t.caption = some s ∧ piece <:+: writtenText s

/-- The piece has been written, or it will be at the end of the table. -/
def Holds (piece : List Char) (c : Converter) : Prop := piece <:+: c.output ∨ Pending piece c

/-- A table with the same caption, or none before. -/
def SameCaption (c c' : Converter) : Prop :=
  ∀ t, c.table = some t → ∃ t', c'.table = some t' ∧ t'.nested = t.nested ∧ t'.caption = t.caption

theorem SameCaption.of_eq (h : c'.table = c.table) : SameCaption c c' :=
  fun t ht => ⟨t, h.trans ht, rfl, rfl⟩

theorem Pending.same (h : Pending piece c) (hsame : SameCaption c c') : Pending piece c' := by
  obtain ⟨t, s, ht, hnested, hcaption, hin⟩ := h
  obtain ⟨t', ht', hn, hc⟩ := hsame t ht
  exact ⟨t', s, ht', hn.trans hnested, hc.trans hcaption, hin⟩

section Keeping

variable (hlast : piece.getLast? ≠ some ' ')

include hlast

theorem Holds.goes_on (h : Holds piece c) (hout : Extends c c') (hsame : SameCaption c c') :
    Holds piece c' :=
  h.imp (hout.keepsPiece hlast) fun hpending => hpending.same hsame

/-- The end of a float writes the caption that the table was given. -/
theorem endFloat_writes {t : TableState} {s : String} (hcaption : t.caption = some s)
    (hin : piece <:+: writtenText s) :
    Ensures (endFloat t) c fun _ c' => piece <:+: c'.output := by
  have hrest : Extending (do
      pushFloatLabel t.label ("table_" ++ toString t.number)
      push ("\x7d\n" ++ endEnvironment "table")
      paragraphBreak) :=
    (pushFloatLabel_extending _ _).bind fun _ => (push_extending _).bind fun _ => paragraphBreak_extending
  have hwritten : ∀ c, Ensures (pushTableCaption t) c fun _ c' => piece <:+: c'.output := by
    intro c
    unfold pushTableCaption
    rw [hcaption]
    cases hempty : s.isEmpty with
    | true =>
      -- Of an empty caption there is no piece but the empty one.
      have hnil : piece = [] := by
        have hs : s = "" := by simpa using hempty
        rw [hs] at hin
        exact List.infix_nil.mp hin
      subst hnil
      exact fun _ _ _ => List.nil_infix
    | false =>
      rw [Option.filter_some_pos (by simpa using hempty)]
      refine (pushEscaped_output s c).mono fun _ c' h => ?_
      rw [h]
      exact hin.trans (List.suffix_append _ _).isInfix
  unfold endFloat
  refine (push_extending _ c).bind fun _ c₁ _ => (hwritten c₁).bind fun _ c₂ h₂ => ?_
  exact (hrest c₂).mono fun _ c₃ h₃ => h₃.keepsPiece hlast h₂

end Keeping

/-! ## Leaving an element -/

/-- A piece that was written, or was to be written, still is. -/
def Sustains (piece : List Char) (c c' : Converter) : Prop := Holds piece c → Holds piece c'

instance : Std.Refl (Sustains piece) := ⟨fun _ h => h⟩

instance : Trans (Sustains piece) (Sustains piece) (Sustains piece) := ⟨fun h h' hc => h' (h hc)⟩

theorem Sustains.of_same (hout : c'.output = c.output) (hsame : SameCaption c c') :
    Sustains piece c c' := fun hc => by
  refine hc.imp (fun hin => ?_) fun hpending => hpending.same hsame
  rwa [hout]

/-- The action leaves such a piece where it is, or writes it. -/
abbrev Keeping (piece : List Char) (m : Conversion α) : Prop := Relates (Sustains piece) m

section Leaving

variable (hlast : piece.getLast? ≠ some ' ')

include hlast

theorem Extending.keeping (hextending : Extending m) (hnoting : Noting (fun _ => False) m) :
    Keeping piece m := by
  intro c a c' hm hc
  exact hc.goes_on hlast (hextending c a c' hm) (.of_eq (hnoting c a c' hm).table)

theorem closeFrame_keeping (frame : Frame) : Keeping piece (closeFrame frame) :=
  (closeFrame_extending frame).keeping hlast (closeFrame_noting frame)

theorem closeRow_keeping (frame : Frame) : Keeping piece (closeRow frame) := by
  refine (closeFrame_keeping hlast frame).bind fun _ => .modifies fun c => ?_
  refine .of_same rfl fun t ht => ?_
  exact ⟨{ t with inRow := false }, by rw [ht]; rfl, rfl, rfl⟩

theorem closeCell_keeping (frame : Frame) : Keeping piece (closeCell frame) := by
  unfold closeCell
  refine (trimSpaces_extending.keeping hlast trimSpaces_noting).bind fun _ => ?_
  refine (closeFrame_keeping hlast frame).bind fun _ => .get_bind fun c => ?_
  refine ((closeBraces_extending _ _).keeping hlast (closeBraces_noting _ _)).bind fun _ => ?_
  refine ((pushTimes_extending _ _).keeping hlast (pushTimes_noting _ _)).bind fun _ => ?_
  refine .modifies fun c => .of_same rfl fun t ht => ?_
  exact ⟨{ t with inCell := false }, by rw [ht]; rfl, rfl, rfl⟩

/-- A float writes its caption on its end.  What was to be written for the table around it is none of its
business, as this table is not the current one. -/
theorem closeTable_keeping (frame : Frame) : Keeping piece (closeTable frame) := by
  unfold closeTable
  refine (closeFrame_keeping hlast frame).bind fun _ => ?_
  cases frame.outerTable with
  | none => exact .pure ()
  | some outer =>
    refine fun c => Ensures.get_bind ?_
    cases ht : c.table with
    | none => exact Ensures.throws
    | some t =>
      refine Ensures.modify_bind ?_
      refine (trimSpaces_extending _).bind fun _ c₁ h₁ => (newline_extending c₁).bind fun _ c₂ h₂ => ?_
      refine (push_extending _ c₂).bind fun _ c₃ h₃ => ?_
      have hout : Extends c c₃ := .trans (.of_eq rfl) (h₁.trans (h₂.trans h₃))
      extract_lets outwards
      have houtwards : ∀ c₄, (Holds piece c → piece <:+: c₄.output) →
          Ensures (outwards ()) c₄ fun _ c₅ => Holds piece c → Holds piece c₅ :=
        fun c₄ hin => Ensures.modifies fun hc => Or.inl (hin hc)
      refine Ensures.ite (fun hnested => houtwards c₃ ?_) fun hfloat => ?_
      · rintro (hin | ⟨t', s, ht', hnot, -⟩)
        · exact hout.keepsPiece hlast hin
        · rw [ht] at ht'
          cases ht'
          rw [hnested] at hnot
          cases hnot
      · have hwritten : Ensures (endFloat t) c₃ fun _ c₄ => Holds piece c → piece <:+: c₄.output := by
          rintro a c₄ hm (hin | ⟨t', s, ht', -, hcaption, hin⟩)
          · have hfloat := endFloat_extending t c₃ a c₄ hm
            exact hfloat.keepsPiece hlast (hout.keepsPiece hlast hin)
          · rw [ht] at ht'
            cases ht'
            exact endFloat_writes hlast hcaption hin a c₄ hm
        exact hwritten.bind fun _ c₄ h₄ => houtwards c₄ h₄

theorem closeElement_keeping (e : Element) (frame : Frame) : Keeping piece (closeElement e frame) := by
  unfold closeElement
  split
  · exact .ite (fun _ => closeCell_keeping hlast frame) fun _ => closeFrame_keeping hlast frame
  · exact closeTable_keeping hlast frame
  · exact closeRow_keeping hlast frame
  · exact closeFrame_keeping hlast frame

/-- Leaving an element keeps what was written and what is to be written. -/
theorem leave_keeping (e : Element) : Keeping piece (leave e) := by
  unfold leave
  refine .modify_bind (fun _ => .of_same rfl (.of_eq rfl)) (.get_bind fun c => ?_)
  cases c.frames with
  | nil => exact .throws
  | cons f fs =>
    refine .modify_bind (fun _ => .of_same rfl (.of_eq rfl)) ?_
    exact (closeElement_keeping hlast e f).bind fun _ => .modifies fun _ => .of_same rfl (.of_eq rfl)

end Leaving

/-- When a table that was begun is left, the table around it is the current one again. -/
theorem leave_table {e : Element} {f : Frame} {fs : List Frame} {outer : Option TableState}
    (htag : e.tag = .table) (hf : c.frames = f :: fs) (houter : f.outerTable = some outer) :
    Ensures (leave e) c fun _ c' => c'.table = outer := by
  have hclose : ∀ c, Ensures (closeTable f) c fun _ c' => c'.table = outer := by
    intro c
    unfold closeTable
    refine (closeFrame_noting (W := fun _ => False) f c).bind fun _ c₁ _ => ?_
    rw [houter]
    refine Ensures.get_bind ?_
    cases c₁.table with
    | none => exact Ensures.throws
    | some t =>
      refine Ensures.modify_bind ((trimSpaces_extending _).bind fun _ c₂ _ => ?_)
      refine (newline_extending c₂).bind fun _ c₃ _ => (push_extending _ c₃).bind fun _ c₄ _ => ?_
      extract_lets outwards
      have houtwards : ∀ c, Ensures (outwards ()) c fun _ c' => c'.table = outer :=
        fun c => Ensures.modifies rfl
      exact Ensures.ite (fun _ => houtwards c₄) fun _ =>
        (endFloat_extending t c₄).bind fun _ c₅ _ => houtwards c₅
  refine Ensures.leave hf ?_
  unfold closeElement
  rw [htag]
  exact hclose _

end MarkupTex.Convert
