import MarkupTex.Proofs.Convert.Effects
/-!
# What a conversion warns about

A `Cause` is what an element can be warned about, with the reason for it: a value that cannot be read, an
element or a link that has no counterpart, an image that is not there, a part of a table that is out of
place.  Here are the handlers that leave the table alone: they note nothing without a cause.
-/

set_option autoImplicit false

namespace MarkupTex

open Latex

/-- Where something stands with respect to the tables around it. -/
inductive Place where
  | outside
  /-- In a table, between its cells. -/
  | between
  | cell
  deriving DecidableEq, Repr, Inhabited

/-- Where the conversion is. -/
def Converter.place (c : Converter) : Place :=
  match c.table with
  | none => .outside
  | some t => if t.inCell then .cell else .between

namespace Converter

variable {c : Converter}

theorem place_outside_iff : c.place = .outside ↔ c.table = none := by
  rw [place]
  cases c.table with
  | none => simp
  | some t => cases ht : t.inCell <;> simp [ht]

theorem place_between_iff : c.place = .between ↔ ∃ t, c.table = some t ∧ t.inCell = false := by
  rw [place]
  cases c.table with
  | none => simp
  | some t => cases ht : t.inCell <;> simp [ht]

theorem inTableSkeleton_iff : c.inTableSkeleton = true ↔ c.place = .between := by
  rw [place_between_iff, inTableSkeleton]
  cases c.table with
  | none => simp
  | some t => simp

theorem inCell_iff : c.inCell = true ↔ c.place = .cell := by
  rw [place, inCell]
  cases c.table with
  | none => simp
  | some t => cases ht : t.inCell <;> simp [ht]

end Converter

namespace Convert

variable {doc : Document} {setting : Setting} {place : Place} {id : Nat} {e : Element} {style : Style}

/-- The images in the cells of a table. -/
def GridImage (doc : Document) (table image : Nat) : Prop :=
  ∃ row ∈ doc.tableRows table, ∃ cell ∈ doc.rowCells row, image ∈ doc.cellImages cell.1

/-- An element that reads a color and a size from its attributes. -/
def IsSpan (e : Element) : Prop := e.tag = .span ∨ e.tag = .font

/-- What an element that stands at a place is warned about, and why. -/
inductive Cause (doc : Document) (setting : Setting) (place : Place) (id : Nat) (e : Element)
    (style : Style) : Warning → Prop where
  | color {value : String} {fault : Fault} (asks : style.get? "color" = some value)
      (bad : Color.toHex value = .error fault) :
      Cause doc setting place id e style (.ofFault fault (some e.name))
  | background {value : String} {fault : Fault} (asks : style.backgroundColor? = some value)
      (bad : Color.toHex value = .error fault) :
      Cause doc setting place id e style (.ofFault fault (some e.name))
  | colorAttribute {value : String} {fault : Fault} (span : IsSpan e)
      (asks : e.attribute? "color" = some value) (bad : Color.toHex value = .error fault) :
      Cause doc setting place id e style (.ofFault fault (some e.name))
  | size {fault : Fault} (span : IsSpan e) (bad : spanSize? e style = some (.error fault)) :
      Cause doc setting place id e style (.ofFault fault (some e.name))
  | length {name value : String} {fault : Fault} (tag : e.tag = .image)
      (dimension : name = "width" ∨ name = "height")
      (asks : (style.get? name).or (e.attribute? name) = some value)
      (bad : Length.parse value = .error fault) :
      Cause doc setting place id e style (.ofFault fault (some e.name))
  | heading {level : Nat} (tag : e.tag = .heading level) (bad : headingCommand? level = none) :
      Cause doc setting place id e style
        (.ofFault ⟨.unsupported, s!"heading level {level}"⟩ (some e.name))
  | strike (tag : e.tag = .strike) :
      Cause doc setting place id e style
        (.ofFault ⟨.unsupported, "strike-through rendered as plain text"⟩ (some e.name))
  | script {href : String} (tag : e.tag = .anchor) (asks : e.nonBlankAttribute? "href" = some href)
      (bad : Text.beginsWith (Text.lower href) "javascript:") :
      Cause doc setting place id e style
        (.ofFault ⟨.unsupported, "script link rendered as plain text"⟩ (some e.name))
  | unknown {name : String} (tag : e.tag = .other name) :
      Cause doc setting place id e style
        (.ofFault ⟨.unsupported, s!"unknown element <{name}> rendered as plain content"⟩ (some name))
  | noSource (tag : e.tag = .image) (bad : e.nonBlankAttribute? "src" = none) :
      Cause doc setting place id e style (.ofFault Convert.noSource (some e.name))
  | unresolved {src : String} {fault : Fault} (tag : e.tag = .image)
      (asks : e.nonBlankAttribute? "src" = some src) (bad : setting.resolve src = .error fault) :
      Cause doc setting place id e style (.ofFault fault (some e.name))
  | gridNoSource {image : Nat} {e' : Element} (tag : e.tag = .table) (mem : GridImage doc id image)
      (isElement : doc.element? image = some e') (bad : e'.nonBlankAttribute? "src" = none) :
      Cause doc setting place id e style (.ofFault Convert.noSource (some e'.name))
  | gridUnresolved {image : Nat} {e' : Element} {src : String} {fault : Fault} (tag : e.tag = .table)
      (mem : GridImage doc id image) (isElement : doc.element? image = some e')
      (asks : e'.nonBlankAttribute? "src" = some src) (bad : setting.resolve src = .error fault) :
      Cause doc setting place id e style (.ofFault fault (some e'.name))
  | table (tag : e.tag = .table) (bad : place = .between) :
      Cause doc setting place id e style
        (.ofFault (structureFault "table outside a cell of its parent table") (some e.name))
  | row {message : String} (tag : e.tag = .tableRow) (bad : place ≠ .between) :
      Cause doc setting place id e style (.ofFault (structureFault message) (some "tr"))
  | cell {header : Bool} {colspan : Nat} {message : String} (tag : e.tag = .tableCell header colspan)
      (bad : place ≠ .between) :
      Cause doc setting place id e style (.ofFault (structureFault message) (some e.name))

/-! ## Handlers that leave the table alone -/

/-- The handler goes on to what is below, and leaves the table alone. -/
structure Descends (W : Warning → Prop) (m : Conversion Flow) : Prop where
  goesOn : ∀ c, Ensures m c fun flow _ => flow = .descend
  noting : Noting W m

namespace Descends

variable {α : Type} {W : Warning → Prop} {m m' : Conversion Flow}

theorem ensures (h : Descends W m) (c : Converter) :
    Ensures m c fun flow c' => flow = .descend ∧ Notes W c c' :=
  fun flow c' hm => ⟨h.goesOn c flow c' hm, h.noting c flow c' hm⟩

instance : CoeFun (Descends W m) fun _ =>
    ∀ c, Ensures m c fun flow c' => flow = .descend ∧ Notes W c c' := ⟨ensures⟩

theorem pure : Descends W (Pure.pure .descend) := ⟨fun _ => Ensures.pure rfl, .pure _⟩

theorem after {first : Conversion α} {next : α → Conversion Flow} (h : Noting W first)
    (hnext : ∀ a, Descends W (next a)) : Descends W (first >>= next) where
  goesOn := fun c => (h c).bind fun a c₁ _ => (hnext a).goesOn c₁
  noting := h.bind fun a => (hnext a).noting

theorem get_bind {next : Converter → Conversion Flow} (h : ∀ c, Descends W (next c)) :
    Descends W (get >>= next) where
  goesOn := fun c => Ensures.get_bind ((h c).goesOn c)
  noting := .get_bind fun c => (h c).noting

theorem ite {p : Prop} [Decidable p] (h : p → Descends W m) (h' : ¬ p → Descends W m') :
    Descends W (if p then m else m') where
  goesOn := fun c => Ensures.ite (fun hp => (h hp).goesOn c) fun hp => (h' hp).goesOn c
  noting := .ite (fun hp => (h hp).noting) fun hp => (h' hp).noting

end Descends

theorem applyStyle_caused : Noting (Cause doc setting place id e style) (applyStyle e style) :=
  applyStyle_noting (fun _ _ => .color) fun _ _ => .background

theorem openAlignment_noting {W : Warning → Prop} : Noting W (openAlignment e style) := by
  unfold openAlignment
  extract_lets value
  cases value.bind Alignment.ofText? with
  | none => exact .pure ()
  | some alignment =>
    refine .get_bind fun c => .unless fun _ => (push_noting _).bind fun _ => ?_
    exact (onLeave_noting _).bind fun _ => (onLeave_noting _).bind fun _ =>
      (onLeave_noting _).bind fun _ => modifyFormatting_noting _

theorem openBlock_caused : Noting (Cause doc setting place id e style) (openBlock e style) :=
  paragraphBreak_noting.bind fun _ => (onLeave_noting _).bind fun _ =>
    openAlignment_noting.bind fun _ => applyStyle_caused

theorem openParagraph_caused :
    Descends (Cause doc setting place id e style) (openParagraph e style) := by
  unfold openParagraph
  refine .get_bind fun c => .ite (fun _ => ?_) fun _ => .after openBlock_caused fun _ => .pure
  exact .after spaceApart_noting fun _ => .after (onLeave_noting _) fun _ =>
    .after applyStyle_caused fun _ => .pure

theorem openDivision_caused :
    Descends (Cause doc setting place id e style) (openDivision e style) := by
  unfold openDivision
  refine .get_bind fun c => .ite (fun _ => ?_) fun _ => .after openBlock_caused fun _ => .pure
  exact .after applyStyle_caused fun _ => .pure

theorem openEnvironment_caused (env : BlockEnvironment) :
    Descends (Cause doc setting place id e style) (openEnvironment e style env) := by
  unfold openEnvironment
  extract_lets finish
  have hfinish : Descends (Cause doc setting place id e style) (finish ()) :=
    .after applyStyle_caused fun _ => .pure
  refine .get_bind fun c => .ite (fun _ => hfinish) fun _ => ?_
  refine .after paragraphBreak_noting fun _ => .after (push_noting _) fun _ => ?_
  refine .after (onLeave_noting _) fun _ => .after (onLeave_noting _) fun _ => ?_
  refine .after (onLeave_noting _) fun _ => .ite (fun _ => ?_) fun _ => hfinish
  exact .after (modifyFormatting_noting _) fun _ => hfinish

theorem openHeading_caused {level : Nat} (htag : e.tag = .heading level) :
    Descends (Cause doc setting place id e style) (openHeading e style level) := by
  unfold openHeading
  refine .get_bind fun c => .ite (fun _ => ?_) fun _ => ?_
  · exact .after applyStyle_caused fun _ => .after (applyEmphasis_noting _) fun _ => .pure
  · refine .after paragraphBreak_noting fun _ => .after (onLeave_noting _) fun _ => ?_
    cases hcommand : headingCommand? level with
    | none => exact .after (warn_noting (.heading htag hcommand)) fun _ => .pure
    | some command =>
      have hopen : Descends (Cause doc setting place id e style) (do
          openArgument ("\\" ++ command ++ "\x7b") "\x7d"
          applyStyle e style
          return .descend) :=
        .after (openArgument_noting _ _) fun _ => .after applyStyle_caused fun _ => .pure
      dsimp only
      split
      · exact .after (onLeave_noting _) fun _ => hopen
      · exact hopen

theorem openEmphasis_caused (emphasis : Emphasis) :
    Descends (Cause doc setting place id e style) (openEmphasis e style emphasis) :=
  .after applyStyle_caused fun _ => .after (applyEmphasis_noting _) fun _ => .pure

theorem openStrike_caused (htag : e.tag = .strike) :
    Descends (Cause doc setting place id e style) (openStrike e style) :=
  .after applyStyle_caused fun _ => .after (warn_noting (.strike htag)) fun _ => .pure

theorem openCode_caused : Descends (Cause doc setting place id e style) (openCode e style) :=
  .after applyStyle_caused fun _ => .after (applyFamily_noting _) fun _ => .pure

theorem openCommand_caused (command : String) :
    Descends (Cause doc setting place id e style) (openCommand e style command) :=
  .after applyStyle_caused fun _ => .after (openArgument_noting _ _) fun _ => .pure

theorem openLink_caused (htag : e.tag = .anchor) {href : String}
    (hhref : e.nonBlankAttribute? "href" = some href) :
    Noting (Cause doc setting place id e style) (openLink e href) := by
  unfold openLink
  split
  · refine .unless fun _ => (push_noting _).bind fun _ => (pushPath_noting _).bind fun _ => ?_
    exact (push_noting _).bind fun _ => argumentOwed_noting _
  · refine .ite (fun hscript => warn_noting (.script htag hhref hscript)) fun _ => ?_
    refine (push_noting _).bind fun _ => (pushUrl_noting _).bind fun _ => ?_
    exact (push_noting _).bind fun _ => argumentOwed_noting _

theorem openAnchor_caused (htag : e.tag = .anchor) :
    Descends (Cause doc setting place id e style) (openAnchor e style) := by
  unfold openAnchor
  extract_lets finish link
  have hfinish : Descends (Cause doc setting place id e style) (finish ()) := .pure
  have hlink : Descends (Cause doc setting place id e style) (link ()) := by
    refine .after applyStyle_caused fun _ => ?_
    cases hhref : e.nonBlankAttribute? "href" with
    | none => exact hfinish
    | some href => exact .after (openLink_caused htag hhref) fun _ => hfinish
  cases anchorName? e with
  | none => exact hlink
  | some name => exact .after (pushLabel_noting name) fun _ => hlink

theorem openSpan_caused (hspan : IsSpan e) :
    Descends (Cause doc setting place id e style) (openSpan e style) := by
  unfold openSpan
  refine .after applyStyle_caused fun _ => ?_
  extract_lets finish family size
  have hfinish : Descends (Cause doc setting place id e style) (finish ()) := .pure
  have hfamily : Descends (Cause doc setting place id e style) (family ()) := by
    dsimp only [family]
    split
    · exact .after (applyFamily_noting _) fun _ => hfinish
    · exact hfinish
  have hsize : Descends (Cause doc setting place id e style) (size ()) := by
    dsimp only [size]
    cases hvalue : spanSize? e style with
    | none => exact hfamily
    | some value =>
      refine .after (orWarn_noting (fun fault hbad => ?_) applySize_noting) fun _ => hfamily
      exact .size hspan (hvalue.trans (congrArg some hbad))
  refine .ite (fun _ => hsize) fun _ => ?_
  cases hcolor : e.attribute? "color" with
  | none => exact hsize
  | some value =>
    exact .after (orWarn_noting (fun fault => .colorAttribute hspan hcolor) applyColor_noting)
      fun _ => hsize

theorem setCounter_noting {W : Warning → Prop} : Noting W (setCounter e) := by
  unfold setCounter
  refine .get_bind fun c => ?_
  split
  · exact .unless fun _ => push_noting _
  · exact .pure ()

theorem openList_caused (kind : ListKind) :
    Descends (Cause doc setting place id e style) (openList e style kind) := by
  unfold openList
  extract_lets finish
  have hfinish : Descends (Cause doc setting place id e style) (finish ()) := .pure
  refine .get_bind fun c => .ite (fun _ => .after applyStyle_caused fun _ => hfinish) fun _ => ?_
  refine .after newline_noting fun _ => .after (push_noting _) fun _ => ?_
  refine .after (onLeave_noting _) fun _ => .after (onLeave_noting _) fun _ => ?_
  refine .after (onLeave_noting _) fun _ => ?_
  refine .after (Always.modifies fun _ => .of_eq rfl rfl rfl) fun _ => ?_
  refine .after (modifyFrame_noting _) fun _ => .ite (fun _ => ?_) fun _ => hfinish
  exact .after setCounter_noting fun _ => hfinish

theorem openItem_noting {W : Warning → Prop} : Noting W (openItem e) := by
  unfold openItem
  split
  · exact newline_noting.bind fun _ => (push_noting _).bind fun _ => (onLeave_noting _).bind fun _ =>
      beginArgument_noting
  · exact .pure ()
  · exact newline_noting.bind fun _ => push_noting _

theorem openListItem_caused :
    Descends (Cause doc setting place id e style) (openListItem e style) := by
  unfold openListItem
  have happly : Descends (Cause doc setting place id e style) (do
      applyStyle e style
      return .descend) := .after applyStyle_caused fun _ => .pure
  refine .get_bind fun c => .ite (fun _ => .ite (fun _ => ?_) fun _ => happly) fun _ => ?_
  · exact .after spaceApart_noting fun _ => .after (push_noting _) fun _ => happly
  · exact .ite (fun _ => openParagraph_caused) fun _ => .after openItem_noting fun _ => happly

theorem reportUnknown_caused {name : String} (htag : e.tag = .other name) :
    Noting (Cause doc setting place id e style) (reportUnknown name) :=
  reportUnknown_noting (.unknown htag)

theorem horizontalRule_noting {W : Warning → Prop} : Noting W horizontalRule := by
  unfold horizontalRule
  exact .get_bind fun c => .unless fun _ => newline_noting.bind fun _ => push_noting _

theorem lineBreak_noting {W : Warning → Prop} : Noting W lineBreak := by
  unfold lineBreak
  refine .get_bind fun c => .ite (fun _ => push_noting _) fun _ => .unless fun _ => ?_
  exact trimSpaces_noting.bind fun _ => push_noting _

/-! ## Images -/

theorem imageLength_caused (htag : e.tag = .image) {name : String}
    (hname : name = "width" ∨ name = "height") :
    Noting (Cause doc setting place id e style) (imageLength e style name) := by
  unfold imageLength
  cases hvalue : (style.get? name).or (e.attribute? name) with
  | none => exact .pure none
  | some value =>
    dsimp only
    cases hparse : Length.parse value with
    | ok length => exact .pure (some length)
    | error fault =>
      exact (warn_noting (.length htag hname hvalue hparse)).bind fun _ => .pure none

section Figures

variable {W : Warning → Prop}

theorem includeImage_noting (path options : String) : Noting W (includeImage path options) := by
  unfold includeImage
  refine (push_noting _).bind fun _ => ?_
  extract_lets finish
  have hfinish : Noting W (finish ()) :=
    (push_noting _).bind fun _ => (pushPath_noting _).bind fun _ => push_noting _
  refine .ite (fun _ => hfinish) fun _ => (push_noting _).bind fun _ => ?_
  exact (push_noting _).bind fun _ => (push_noting _).bind fun _ => hfinish

theorem pushFloatLabel_noting (label : Option String) (fallback : String) :
    Noting W (pushFloatLabel label fallback) := by
  unfold pushFloatLabel
  refine (push_noting _).bind fun _ => ?_
  cases label with
  | none => exact push_noting _
  | some label => exact pushPath_noting _

theorem nextFigure_noting : Noting W nextFigure := by
  unfold nextFigure
  exact .modify_bind (fun _ => .of_eq rfl rfl rfl) (.get_bind fun _ => .pure _)

theorem pushFigure_noting (path options caption : String) :
    Noting W (pushFigure setting e path options caption) := by
  unfold pushFigure
  refine nextFigure_noting.bind fun _ => paragraphBreak_noting.bind fun _ => ?_
  refine (push_noting _).bind fun _ => (includeImage_noting _ _).bind fun _ => ?_
  refine (push_noting _).bind fun _ => (pushEscaped_noting _).bind fun _ => ?_
  exact (pushFloatLabel_noting _ _).bind fun _ => (push_noting _).bind fun _ => paragraphBreak_noting

end Figures

theorem openImage_caused (htag : e.tag = .image) :
    Noting (Cause doc setting place id e style) (openImage doc setting id e style) := by
  unfold openImage
  cases hsrc : e.nonBlankAttribute? "src" with
  | none => exact warn_noting (.noSource htag hsrc)
  | some src =>
    refine .modify_bind (fun _ => .of_eq rfl rfl rfl) ?_
    cases hresolve : setting.resolve src with
    | error fault =>
      refine (warn_noting (.unresolved htag hsrc hresolve)).bind fun _ => ?_
      split
      · exact pushEscaped_noting _
      · exact .pure ()
    | ok path =>
      refine (imageLength_caused htag (.inl rfl)).bind fun width => ?_
      refine (imageLength_caused htag (.inr rfl)).bind fun height => ?_
      extract_lets options
      cases imageCaption? e with
      | none => exact includeImage_noting _ _
      | some caption =>
        exact .get_bind fun c => .ite (fun _ => pushFigure_noting _ _ _) fun _ => includeImage_noting _ _

theorem pushGridImages_caused (htag : e.tag = .table) (options : String) :
    ∀ (first : Bool) (images : List Nat), (∀ image ∈ images, GridImage doc id image) →
      Noting (Cause doc setting place id e style) (pushGridImages doc setting options first images)
  | _, [], _ => .pure ()
  | first, image :: images, hmem => by
    have hrest := fun first => pushGridImages_caused htag options first images fun image h =>
      hmem image (List.mem_cons_of_mem _ h)
    have himage := hmem image List.mem_cons_self
    unfold pushGridImages
    cases he : doc.element? image with
    | none => exact hrest first
    | some e' =>
      dsimp only
      cases hsrc : e'.nonBlankAttribute? "src" with
      | none => exact (warn_noting (.gridNoSource htag himage he hsrc)).bind fun _ => hrest first
      | some src =>
        refine .modify_bind (fun _ => .of_eq rfl rfl rfl) ?_
        cases hresolve : setting.resolve src with
        | error fault =>
          exact (warn_noting (.gridUnresolved htag himage he hsrc hresolve)).bind fun _ => hrest first
        | ok path =>
          have hnext := (includeImage_noting path options).bind fun _ => hrest false
          exact .ite (fun _ => hnext) fun _ => (push_noting _).bind fun _ => hnext

theorem pushGridCells_caused (htag : e.tag = .table) (options : String) :
    ∀ (column : Nat) (cells : List (Nat × Nat)),
      (∀ cell ∈ cells, ∀ image ∈ doc.cellImages cell.1, GridImage doc id image) →
      Noting (Cause doc setting place id e style) (pushGridCells doc setting options column cells)
  | _, [], _ => .pure ()
  | column, (cell, colspan) :: cells, hmem => by
    have hrest := pushGridCells_caused htag options (column + colspan) cells fun cell h =>
      hmem cell (List.mem_cons_of_mem _ h)
    have himages : Noting (Cause doc setting place id e style)
        (pushGridImages doc setting options true (doc.cellImages cell)) :=
      pushGridImages_caused htag options true _ (hmem _ List.mem_cons_self)
    have hcell := himages.bind fun _ => (pushTimes_noting " &" (colspan - 1)).bind fun _ => hrest
    unfold pushGridCells
    exact .ite (fun _ => (push_noting _).bind fun _ => hcell) fun _ => hcell

theorem pushGridRows_caused (htag : e.tag = .table) (options : String) :
    ∀ rows : List Nat, (∀ row ∈ rows, row ∈ doc.tableRows id) →
      Noting (Cause doc setting place id e style) (pushGridRows doc setting options rows)
  | [], _ => .pure ()
  | row :: rows, hmem => by
    have hrow := hmem row List.mem_cons_self
    unfold pushGridRows
    refine (pushGridCells_caused htag options 0 _ fun cell hcell image himage => ?_).bind fun _ => ?_
    · exact ⟨row, hrow, cell, hcell, himage⟩
    · refine (push_noting _).bind fun _ => pushGridRows_caused htag options rows fun row h => ?_
      exact hmem row (List.mem_cons_of_mem _ h)

theorem pushImageGrid_caused (htag : e.tag = .table) :
    Noting (Cause doc setting place id e style) (pushImageGrid doc setting id e) := by
  unfold pushImageGrid
  refine nextFigure_noting.bind fun number => ?_
  extract_lets columns options
  refine paragraphBreak_noting.bind fun _ => (push_noting _).bind fun _ => ?_
  refine (pushGridRows_caused htag options _ fun _ h => h).bind fun _ => (push_noting _).bind fun _ => ?_
  have hend : Noting (Cause doc setting place id e style) (do
      pushFloatLabel (e.nonBlankAttribute? "id") (figureName number)
      push ("\x7d\n" ++ endEnvironment "figure")
      paragraphBreak) :=
    (pushFloatLabel_noting _ _).bind fun _ => (push_noting _).bind fun _ => paragraphBreak_noting
  cases doc.tableCaption? id with
  | some caption => exact (pushEscaped_noting _).bind fun _ => hend
  | none => exact (push_noting _).bind fun _ => hend

end Convert

end MarkupTex
