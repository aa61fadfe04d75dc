import MarkupTex.Proofs.Convert.Causes
/-!
# What leaving an element does to the output

A conversion writes at the end of the output, and takes nothing away but spaces at the end: the output
`Extends`, and what does not end in a space stays where it is.  When an element is left, nothing else comes
of it, `leave_goesOn`: there is nothing to warn about.
-/

set_option autoImplicit false

namespace MarkupTex.Convert

open Latex

variable {α : Type} {m : Conversion α} {c c' c₁ c₂ : Converter} {piece cs ds es : List Char}

/-! ## Output that goes on -/

/-- The first parts of a text that do not end in a space are first parts of the other one. -/
def Prolongs (cs ds : List Char) : Prop :=
  ∀ front, front <+: cs → front.getLast? ≠ some ' ' → front <+: ds

namespace Prolongs

theorem refl (cs : List Char) : Prolongs cs cs := fun _ h _ => h

theorem trans (h : Prolongs cs ds) (h' : Prolongs ds es) : Prolongs cs es :=
  fun front hfront hlast => h' front (h front hfront hlast) hlast

theorem append (cs ds : List Char) : Prolongs cs (cs ++ ds) :=
  fun _ h _ => h.trans (List.prefix_append cs ds)

theorem trim (cs : List Char) : Prolongs cs (Text.dropEndWhile (· = ' ') cs) := by
  rintro front ⟨rest, rfl⟩ hlast
  rw [Text.dropSpaces_append hlast]
  exact List.prefix_append _ _

/-- A piece that does not end in a space stays, wherever it is. -/
theorem keepsPiece (h : Prolongs cs ds) (hlast : piece.getLast? ≠ some ' ') (hin : piece <:+: cs) :
    piece <:+: ds := by
  obtain ⟨front, back, rfl⟩ := hin
  cases hp : piece.getLast? with
  | none =>
    rw [List.getLast?_eq_none_iff.mp hp]
    exact List.nil_infix
  | some last =>
    have hend : (front ++ piece).getLast? ≠ some ' ' := by
      rw [List.getLast?_append, hp, Option.some_or, ← hp]
      exact hlast
    obtain ⟨rest, rfl⟩ := h (front ++ piece) (List.prefix_append _ back) hend
    exact ⟨front, rest, rfl⟩

end Prolongs

/-- The output goes on. -/
def Extends (c c' : Converter) : Prop := Prolongs c.output c'.output

namespace Extends

theorem refl (c : Converter) : Extends c c := Prolongs.refl c.output

theorem trans (h : Extends c c₁) (h' : Extends c₁ c₂) : Extends c c₂ := Prolongs.trans h h'

theorem of_eq (h : c'.output = c.output) : Extends c c' := by
  rw [Extends, h]
  exact .refl _

theorem trims (c : Converter) : Extends c { c with buffer := c.buffer.trimSpaces } := by
  rw [Extends, Converter.output, Converter.output, Buffer.toList_trimSpaces]
  exact .trim _

end Extends

instance : Std.Refl Extends := ⟨Extends.refl⟩

instance : Trans Extends Extends Extends := ⟨Extends.trans⟩

/-- The output goes on with the action, wherever it succeeds. -/
abbrev Extending (m : Conversion α) : Prop := Relates Extends m

/-! ## Writing -/

theorem write_extending {act : Buffer → Except Fault Buffer}
    (h : ∀ b b', act b = .ok b' → Prolongs b.text.toList b'.text.toList) : Extending (write act) := by
  intro c a c' hm
  rw [write] at hm
  split at hm
  · next b hb =>
    cases hm
    exact h c.buffer b hb
  · cases hm

theorem prolongs_of_adds {b b' : Buffer} {r : Except Fault Buffer} (h : b.Adds cs r) (hr : r = .ok b') :
    Prolongs b.text.toList b'.text.toList := by
  subst hr
  rw [show b'.text.toList = b.text.toList ++ cs from h]
  exact .append _ _

theorem push_extending (s : String) : Extending (push s) :=
  write_extending fun b _ => prolongs_of_adds (Buffer.append_adds b s)

theorem pushEscaped_extending (s : String) : Extending (pushEscaped s) :=
  write_extending fun b _ => prolongs_of_adds (Buffer.appendText_adds b s)

theorem pushPath_extending (s : String) : Extending (pushPath s) :=
  write_extending fun b _ => prolongs_of_adds (Buffer.appendPath_adds b s)

theorem newline_extending : Extending newline := by
  refine write_extending fun b b' h => ?_
  rcases Buffer.newline_adds b with hsame | ⟨-, hadds⟩
  · rw [hsame] at h
    cases h
    exact .refl _
  · exact prolongs_of_adds hadds h

theorem paragraphBreak_extending : Extending paragraphBreak := by
  have htrim : ∀ b : Buffer, Prolongs b.text.toList b.trimSpaces.text.toList := fun b => by
    rw [Buffer.toList_trimSpaces]
    exact .trim _
  refine write_extending fun b b' h => ?_
  rcases Buffer.paragraphBreak_adds b with hsame | hcut | hadds | hadds
  · rw [hsame] at h
    cases h
    exact .refl _
  · rw [hcut] at h
    cases h
    exact htrim b
  · exact (htrim b).trans (prolongs_of_adds hadds h)
  · exact (htrim b).trans (prolongs_of_adds hadds h)

theorem trimSpaces_extending : Extending trimSpaces := fun c => Ensures.modifies (.trims c)

theorem pushTimes_extending (s : String) : ∀ n, Extending (pushTimes s n)
  | 0 => .pure ()
  | n + 1 => (push_extending s).bind fun _ => pushTimes_extending s n

theorem emitCloser_extending (closer : Closer) : Extending (emitCloser closer) := by
  cases closer with
  | text s => exact push_extending s
  | brace s => exact (push_extending s).bind fun _ => .modifies fun _ => .of_eq rfl
  | paragraphBreak => exact paragraphBreak_extending
  | newline => exact newline_extending
  | label name =>
    exact (push_extending _).bind fun _ => (pushPath_extending name).bind fun _ => push_extending _
  | endArgument => exact .modifies fun _ => .of_eq rfl

theorem emitClosers_extending : ∀ closers, Extending (emitClosers closers)
  | [] => .pure ()
  | closer :: rest => (emitCloser_extending closer).bind fun _ => emitClosers_extending rest

theorem closeFrame_extending (frame : Frame) : Extending (closeFrame frame) := emitClosers_extending _

theorem closeBraces_extending (saved : Nat) : ∀ n, Extending (closeBraces saved n)
  | 0 => .pure ()
  | n + 1 => by
    unfold closeBraces
    refine .get_bind fun c => ?_
    split
    · refine (push_extending _).bind fun _ => ?_
      exact .modify_bind (fun _ => .of_eq rfl) (closeBraces_extending saved n)
    · exact .pure ()

theorem pushFloatLabel_extending (id : Option String) (fallback : String) :
    Extending (pushFloatLabel id fallback) := by
  refine (push_extending _).bind fun _ => ?_
  cases id with
  | some id => exact pushPath_extending id
  | none => exact push_extending fallback

theorem endFloat_extending (t : TableState) : Extending (endFloat t) := by
  have hcaption : Extending (pushTableCaption t) := by
    unfold pushTableCaption
    split
    · exact pushEscaped_extending _
    · exact push_extending _
  exact (push_extending _).bind fun _ => hcaption.bind fun _ => (pushFloatLabel_extending _ _).bind
    fun _ => (push_extending _).bind fun _ => paragraphBreak_extending

theorem endFloat_noting {W : Warning → Prop} (t : TableState) : Noting W (endFloat t) := by
  have hcaption : Noting W (pushTableCaption t) := by
    unfold pushTableCaption
    split
    · exact pushEscaped_noting _
    · exact push_noting _
  exact (push_noting _).bind fun _ => hcaption.bind fun _ => (pushFloatLabel_noting _ _).bind fun _ =>
    (push_noting _).bind fun _ => paragraphBreak_noting

/-! ## Leaving -/

/-- The output goes on, and there is no new warning. -/
structure GoesOn (c c' : Converter) : Prop where
  warnings : c'.warnings = c.warnings
  output : Extends c c'

instance : Std.Refl GoesOn := ⟨fun c => ⟨rfl, .refl c⟩⟩

instance : Trans GoesOn GoesOn GoesOn :=
  ⟨fun h h' => ⟨h'.warnings.trans h.warnings, h.output.trans h'.output⟩⟩

theorem GoesOn.of_eq (hwarnings : c'.warnings = c.warnings) (houtput : c'.output = c.output) :
    GoesOn c c' := ⟨hwarnings, .of_eq houtput⟩

theorem Extending.goesOn (h : Extending m) (hnoting : Noting (fun _ => False) m) :
    Relates GoesOn m := by
  intro c a c' hm
  exact ⟨(hnoting c a c' hm).warned.eq, h c a c' hm⟩

theorem closeFrame_goesOn (frame : Frame) : Relates GoesOn (closeFrame frame) :=
  (closeFrame_extending frame).goesOn (closeFrame_noting frame)

theorem closeCell_goesOn (frame : Frame) : Relates GoesOn (closeCell frame) := by
  unfold closeCell
  refine (trimSpaces_extending.goesOn trimSpaces_noting).bind fun _ => ?_
  refine (closeFrame_goesOn frame).bind fun _ => .get_bind fun c => ?_
  refine ((closeBraces_extending _ _).goesOn (closeBraces_noting _ _)).bind fun _ => ?_
  refine ((pushTimes_extending _ _).goesOn (pushTimes_noting _ _)).bind fun _ => ?_
  exact .modifies fun _ => .of_eq rfl rfl

theorem closeTable_goesOn (frame : Frame) : Relates GoesOn (closeTable frame) := by
  unfold closeTable
  refine (closeFrame_goesOn frame).bind fun _ => ?_
  cases frame.outerTable with
  | none => exact .pure ()
  | some outer =>
    refine .get_bind fun c => ?_
    cases c.table with
    | none => exact .throws
    | some t =>
      refine .modify_bind (fun _ => .of_eq rfl rfl) ?_
      refine (trimSpaces_extending.goesOn trimSpaces_noting).bind fun _ => ?_
      refine (newline_extending.goesOn newline_noting).bind fun _ => ?_
      refine ((push_extending _).goesOn (push_noting _)).bind fun _ => ?_
      extract_lets outwards
      have houtwards : Relates GoesOn (outwards ()) := .modifies fun _ => .of_eq rfl rfl
      refine .ite (fun _ => houtwards) fun _ => ?_
      exact ((endFloat_extending t).goesOn (endFloat_noting t)).bind fun _ => houtwards

theorem closeElement_goesOn (e : Element) (frame : Frame) :
    Relates GoesOn (closeElement e frame) := by
  have hclose : Relates GoesOn (closeFrame frame) := closeFrame_goesOn frame
  unfold closeElement
  split
  · exact .ite (fun _ => closeCell_goesOn frame) fun _ => hclose
  · exact closeTable_goesOn frame
  · exact hclose.bind fun _ => .modifies fun _ => .of_eq rfl rfl
  · exact hclose

/-- On leaving an element the output goes on, and nothing is warned about. -/
theorem leave_goesOn (e : Element) : Relates GoesOn (leave e) := by
  unfold leave
  refine .modify_bind (fun _ => .of_eq rfl rfl) (.get_bind fun c => ?_)
  cases c.frames with
  | nil => exact .throws
  | cons f fs =>
    refine .modify_bind (fun _ => .of_eq rfl rfl) ((closeElement_goesOn e f).bind fun _ => ?_)
    exact .modifies fun _ => .of_eq rfl rfl

end MarkupTex.Convert
