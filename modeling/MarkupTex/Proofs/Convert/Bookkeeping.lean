import MarkupTex.Proofs.Convert.Suppression
import MarkupTex.Proofs.Document.Cells
/-!
# The books of a conversion

Entering an element, coming to a text and leaving an element only append to the list of warnings.  After the
call the slot has the last warning of those that it appended, and nothing if there were none: the slot is
cleared first, and from then on each warning goes into both.  This holds from whatever state the call is made,
and also if it ends with a fault (`enter_booked`, `visitText_booked`, `leave_booked`).

The handlers that leave the table alone have their books kept by `Noting` already.  Here are the others, which
change the table or begin a verbatim block.  Of the warnings it is also kept that none is about an unknown
element but the one that is entered (`Own`).
-/

set_option autoImplicit false

namespace MarkupTex.Convert

open Latex Walk

variable {doc : Document} {setting : Setting} {place : Place} {id : Nat} {e : Element} {style : Style}
  {c c' c₁ c₂ : Converter} {w : Warning} {W : Warning → Prop} {name : String}

/-! ## Unknown names -/

/-- An element of this name is unknown; the name is in lower case. -/
def IsUnknown (name : String) : Prop := Tag.resolve name [] = .other name

theorem IsUnknown.tag (h : IsUnknown name) (attributes : List Attribute) :
    Tag.resolve name attributes = .other name := by
  rw [IsUnknown, Tag.resolve] at h
  rw [Tag.resolve]
  split at h
  · cases h
  · exact h
  · exact h

theorem IsUnknown.tag_of_name (h : IsUnknown name) (hname : e.name = name) : e.tag = .other name := by
  rw [Element.tag, hname]
  exact h.tag _

/-- A warning about an unknown element is about this one. -/
def Own (e : Element) (w : Warning) : Prop :=
  ∀ name, IsUnknown name → w = unknownWarning name → e.tag = .other name

namespace Own

theorem of_known {fault : Fault} {known : String} (h : ¬ IsUnknown known) :
    Own e (.ofFault fault (some known)) := by
  intro name hname hw
  obtain rfl : known = name := Option.some.inj (congrArg Warning.element hw)
  exact absurd hname h

theorem of_name (fault : Fault) : Own e (.ofFault fault (some e.name)) := by
  intro name hname hw
  exact hname.tag_of_name (Option.some.inj (congrArg Warning.element hw))

theorem not_unknownWarning (hname : IsUnknown name) (htag : e.tag ≠ .other name) :
    ¬ Own e (unknownWarning name) := fun h => htag (h name hname rfl)

end Own

theorem not_isUnknown_row : ¬ IsUnknown "tr" := by
  have htag : Tag.resolve "tr" [] = .tableRow := by decide +kernel
  rw [IsUnknown, htag]
  exact fun h => by cases h

/-- So it is with all that an element is warned about. -/
theorem Cause.own (h : Cause doc setting place id e style w) : Own e w := by
  have hgrid : ∀ {image : Nat} {e' : Element} {fault : Fault}, GridImage doc id image →
      doc.element? image = some e' → Own e (.ofFault fault (some e'.name)) := by
    rintro image e' fault ⟨row, -, cell, -, himage⟩ he'
    refine .of_known fun hname => ?_
    have htag := (Document.mem_cellImages.mp himage).1
    rw [Document.isImage, Document.tag?_of_element? he', hname.tag_of_name rfl] at htag
    cases htag
  cases h with
  | color | background | colorAttribute | size | length | heading | strike | script | noSource
  | unresolved | table | cell => exact .of_name _
  | unknown tag =>
    intro name _ hw
    rw [tag, Option.some.inj (congrArg Warning.element hw)]
  | gridNoSource _ mem isElement => exact hgrid mem isElement
  | gridUnresolved _ mem isElement => exact hgrid mem isElement
  | row => exact .of_known not_isUnknown_row

theorem Noting.own {α : Type} {m : Conversion α} (h : Noting (Cause doc setting place id e style) m) :
    Always (Books (Own e)) m := h.books.mono fun _ _ hbooks => hbooks.mono fun _ => Cause.own

/-! ## Entering -/

theorem installTable_books (t : TableState) : Always (Books W) (installTable t) := by
  unfold installTable
  refine .get_bind fun c => .modify_bind (fun _ => .of_eq rfl) ?_
  exact (modifyFrame_noting _).books.bind fun _ => .modifies fun _ => .of_eq rfl

theorem beginTable_books (bare : Bool) : Always (Books W) (beginTable doc setting id e bare) := by
  unfold beginTable
  extract_lets columns borders begun
  have hgrid : ∀ number : Nat, Always (Books W) (do
      push (beginEnvironment "tabular" ++ braced (columnSpec columns borders) ++ "\n")
      if borders then push "\\hline\n"
      installTable
        { node := id, number, columns, nested := bare, label := e.nonBlankAttribute? "id" }) := by
    refine fun number => (push_noting _).books.bind fun _ => .ite (fun _ => ?_) fun _ => ?_
    · exact (push_noting _).books.bind fun _ => installTable_books _
    · exact installTable_books _
  cases bare with
  | true => exact (Always.pure 0).bind fun number => spaceApart_noting.books.bind fun _ => hgrid number
  | false =>
    refine nextTable_noting.books.bind fun number => paragraphBreak_noting.books.bind fun _ => ?_
    exact (push_noting _).books.bind fun _ => hgrid number

theorem openTable_books (htag : e.tag = .table) : Always (Books (Own e)) (openTable doc setting id e) := by
  unfold openTable
  refine .get_bind fun c => .ite (fun _ => ?_) fun _ => ?_
  · exact (warn_noting (.of_name _)).books.bind fun _ => .pure _
  · extract_lets bare
    refine .ite (fun _ => ?_) fun _ => (beginTable_books bare).bind fun _ => .pure _
    have himages : Noting (Cause doc setting .outside id e Style.empty) (pushImageGrid doc setting id e) :=
      pushImageGrid_caused htag
    exact himages.own.bind fun _ => .pure _

theorem openRow_books : Always (Books (Own e)) (openRow setting) := by
  have hwarn : ∀ message, Always (Books (Own e)) (warn (structureFault message) (some "tr")) :=
    fun _ => (warn_noting (.of_known not_isUnknown_row)).books
  unfold openRow
  refine .get_bind fun c => ?_
  extract_lets finish
  refine .ite (fun _ => (hwarn _).bind fun _ => .pure _) fun _ => ?_
  refine .ite (fun _ => (hwarn _).bind fun _ => .pure _) fun _ => ?_
  exact .modify_bind (fun _ => .of_eq rfl) ((onLeave_noting _).books.bind fun _ => .pure _)

theorem beginCell_books (colspan : Nat) : Always (Books W) (beginCell colspan) := by
  unfold beginCell
  refine .get_bind fun c => ?_
  extract_lets column mark
  have hmark : Always (Books W) (mark ()) := .get_bind fun _ => (modifyFrame_noting _).books
  refine .modify_bind (fun _ => .of_eq rfl) (.ite (fun _ => ?_) fun _ => hmark)
  exact trimSpaces_noting.books.bind fun _ => (push_noting _).books.bind fun _ => hmark

theorem applyStyle_books : Always (Books (Own e)) (applyStyle e style) :=
  (applyStyle_noting (fun _ fault _ _ => .of_name fault) fun _ fault _ _ => .of_name fault).books

theorem openCell_books (header : Bool) (colspan : Nat) :
    Always (Books (Own e)) (openCell e style header colspan) := by
  have hplain : ∀ message, Always (Books (Own e)) (do
      warn (structureFault message) (some e.name)
      applyStyle e style
      return Flow.descend) :=
    fun _ => (warn_noting (.of_name _)).books.bind fun _ => applyStyle_books.bind fun _ => .pure _
  unfold openCell
  refine .get_bind fun c => ?_
  extract_lets finish styled
  have hstyled : Always (Books (Own e)) (styled ()) := applyStyle_books.bind fun _ => .pure _
  refine .ite (fun _ => hplain _) fun _ => .ite (fun _ => hplain _) fun _ => ?_
  refine (beginCell_books colspan).bind fun _ => .ite (fun _ => ?_) fun _ => hstyled
  exact (applyEmphasis_noting _).books.bind fun _ => hstyled

theorem stageCaption_books : Always (Books W) (stageCaption doc id) := by
  unfold stageCaption
  refine .get_bind fun c => ?_
  cases c.table with
  | none => exact .pure _
  | some t => exact .modify_bind (fun _ => .of_eq rfl) (.pure _)

theorem openPreformatted_books : Always (Books (Own e)) (openPreformatted e style) := by
  unfold openPreformatted
  refine .get_bind fun c => .ite (fun _ => ?_) fun _ => ?_
  · exact applyStyle_books.bind fun _ => (applyFamily_noting _).books.bind fun _ => .pure _
  · refine paragraphBreak_noting.books.bind fun _ => (push_noting _).books.bind fun _ => ?_
    refine (onLeave_noting _).books.bind fun _ => (onLeave_noting _).books.bind fun _ => ?_
    refine (onLeave_noting _).books.bind fun _ => .modify_bind (fun _ => .of_eq rfl) ?_
    exact (modifyFrame_noting _).books.bind fun _ => .pure _

theorem openElement_books (doc : Document) (setting : Setting) (id : Nat) (e : Element) (style : Style) :
    Always (Books (Own e)) (openElement doc setting id e style) := by
  have own {m : Conversion Flow} (h : Descends (Cause doc setting .outside id e style) m) :
      Always (Books (Own e)) m := h.noting.own
  have himage (htag : e.tag = .image) :
      Noting (Cause doc setting .outside id e style) (openImage doc setting id e style) :=
    openImage_caused htag
  unfold openElement
  cases htag : e.tag with
  | document | html | body | tableSection | head | title | script | style => exact .pure _
  | paragraph => exact own openParagraph_caused
  | division => exact own openDivision_caused
  | center | blockquote => exact own (openEnvironment_caused _)
  | heading level => exact own (openHeading_caused htag)
  | preformatted => exact openPreformatted_books
  | bold | italic | underline => exact own (openEmphasis_caused _)
  | strike => exact own (openStrike_caused htag)
  | code => exact own openCode_caused
  | subscript | superscript => exact own (openCommand_caused _)
  | anchor => exact own (openAnchor_caused htag)
  | span => exact own (openSpan_caused (.inl htag))
  | font => exact own (openSpan_caused (.inr htag))
  | unorderedList | orderedList | descriptionList => exact own (openList_caused _)
  | listItem | descriptionTerm | descriptionDetails => exact own openListItem_caused
  | table => exact openTable_books htag
  | tableRow => exact openRow_books
  | tableCell header colspan => exact openCell_books header colspan
  | caption =>
    exact stageCaption_books.bind fun _ => .ite (fun _ => .pure _) fun _ => own openParagraph_caused
  | image => exact (himage htag).own.bind fun _ => .pure _
  | horizontalRule => exact horizontalRule_noting.books.bind fun _ => .pure _
  | lineBreak => exact lineBreak_noting.books.bind fun _ => .pure _
  | other name =>
    exact own (.after (reportUnknown_caused htag) fun _ => .after applyStyle_caused fun _ => .pure)

/-! ## Texts and leaving -/

/-- In a verbatim block nothing is noted of an element. -/
theorem openVerbatim_books : Always (Books W) (openVerbatim e) := by
  unfold openVerbatim
  exact .ite (fun _ => (push_noting _).books.bind fun _ => .pure _) fun _ => .pure _

theorem emitText_books (s : String) : Always (Books fun w => w = .ofFault strayText none) (emitText setting s) := by
  unfold emitText
  refine .get_bind fun c => .ite (fun _ => (push_noting _).books) fun _ => ?_
  refine .ite (fun _ => .unless fun _ => (warn_noting (by rfl)).books) fun _ => ?_
  exact .ite (fun _ => (appendRun_noting _).books) fun _ => .unless fun _ => (appendRun_noting _).books

theorem closeTable_books (frame : Frame) : Always (Books W) (closeTable frame) := by
  unfold closeTable
  refine (closeFrame_noting frame).books.bind fun _ => ?_
  cases frame.outerTable with
  | none => exact .pure ()
  | some outer =>
    refine .get_bind fun c => ?_
    cases c.table with
    | none => exact .throws
    | some t =>
      refine .modify_bind (fun _ => .of_eq rfl) (trimSpaces_noting.books.bind fun _ => ?_)
      refine newline_noting.books.bind fun _ => (push_noting _).books.bind fun _ => ?_
      extract_lets outwards
      have houtwards : Always (Books W) (outwards ()) := .modifies fun _ => .of_eq rfl
      exact .ite (fun _ => houtwards) fun _ => (endFloat_noting t).books.bind fun _ => houtwards

theorem closeCell_books (frame : Frame) : Always (Books W) (closeCell frame) := by
  unfold closeCell
  refine trimSpaces_noting.books.bind fun _ => (closeFrame_noting frame).books.bind fun _ => ?_
  refine .get_bind fun c => (closeBraces_noting _ _).books.bind fun _ => ?_
  exact (pushTimes_noting _ _).books.bind fun _ => .modifies fun _ => .of_eq rfl

theorem closeElement_books (e : Element) (frame : Frame) : Always (Books W) (closeElement e frame) := by
  have hclose : Always (Books W) (closeFrame frame) := (closeFrame_noting frame).books
  unfold closeElement
  split
  · exact .ite (fun _ => closeCell_books frame) fun _ => hclose
  · exact closeTable_books frame
  · exact hclose.bind fun _ => .modifies fun _ => .of_eq rfl
  · exact hclose

/-! ## Calls -/

/-- Warnings were only appended, and the slot has the last of those that were, or nothing if there were none. -/
def Booked (c c' : Converter) : Prop :=
  ∃ ws, c'.warnings = c.warnings ++ ws ∧ c'.faults.current = ws.getLast?.map (·.fault)

/-- The books of a call are kept from where its slot was cleared. -/
theorem Books.booked (h : Books W c₁ c') (hwarnings : c₁.warnings = c.warnings)
    (hslot : c₁.faults.current = none) : Booked c c' := by
  obtain ⟨ws, hws, -, hnoting⟩ := h.warned
  exact ⟨ws, by rw [hws, hwarnings], by rw [hnoting, FaultSlot.current_noting, hslot, Option.or_none]⟩

theorem enter_books (doc : Document) (setting : Setting) (id : Nat) (e : Element) (style : Style)
    (c : Converter) : ∃ blocks, Books (Own e) (c.opened blocks) (after (enter doc setting id e style c)) := by
  refine ⟨decide (c.preDepth = 0) && mayFormat e style && doc.hasBlockContent id, ?_⟩
  rw [enter_apply]
  split
  · exact openVerbatim_books.after _
  · exact (openElement_books doc setting id e style).after _

theorem visitText_books (setting : Setting) (s : String) (c : Converter) :
    Books (fun w => w = .ofFault strayText none) { c with faults := c.faults.clear }
      (after (visitText setting s c)) :=
  ((emitText_books s).bind fun _ => .pure Flow.descend).after _

theorem after_modify_bind {β : Type} (f : Converter → Converter) (next : Unit → Conversion β) (c : Converter) :
    after ((modify f >>= next) c) = after (next () (f c)) := rfl

/-- On leaving an element there is nothing to warn about. -/
theorem leave_books (e : Element) (c : Converter) :
    Books (fun _ => False) { c with faults := c.faults.clear } (after (leave e c)) := by
  unfold leave clearFaults
  rw [after_modify_bind]
  refine Always.after (.get_bind fun c => ?_) _
  cases c.frames with
  | nil => exact .throws
  | cons frame frames =>
    refine .modify_bind (fun _ => .of_eq rfl) ((closeElement_books e frame).bind fun _ => ?_)
    exact .modifies fun _ => .of_eq rfl

theorem enter_booked (doc : Document) (setting : Setting) (id : Nat) (e : Element) (style : Style)
    (c : Converter) : Booked c (after (enter doc setting id e style c)) := by
  obtain ⟨blocks, h⟩ := enter_books doc setting id e style c
  exact h.booked rfl rfl

theorem visitText_booked (setting : Setting) (s : String) (c : Converter) :
    Booked c (after (visitText setting s c)) := (visitText_books setting s c).booked rfl rfl

theorem leave_booked (e : Element) (c : Converter) : Booked c (after (leave e c)) :=
  (leave_books e c).booked rfl rfl

end MarkupTex.Convert
