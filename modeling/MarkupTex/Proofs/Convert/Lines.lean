import MarkupTex.Proofs.Convert.Inlining
/-!
# Which elements end a line

The handlers are gone through once for two questions.  Blocks come only of an element whose tag stands for
one, where more than inline material is allowed: any other one goes on with the line.  And a float is counted
only for an image or a table that becomes one.
-/

set_option autoImplicit false

namespace MarkupTex

open Latex MarkupTex.Convert

namespace Convert

open Token

variable {α : Type} {blocks grids : Prop} {doc : Document} {setting : Setting} {id : Nat} {e : Element}
  {style : Style} {m : Conversion α} {c c' c₁ c₂ : Converter} {f : Frame} {fs : List Frame}

/-! ## Blocks

Where only inline material is allowed these handlers write no block, and where they do, blocks are allowed. -/

/-- The handler counts no float in this state, and without blocks it goes on with the line. -/
abbrev InlinesFrom (blocks grids : Prop) (m : Conversion α) (c : Converter) : Prop :=
  Ensures m c fun _ c' => Inlines blocks grids c c'

section Blocks

variable (hblock : c.inlineOnly = false → blocks)

/-- A handler that goes by what is allowed. -/
theorem byInline_inlines {m m' : Conversion α} (hm : Inlining blocks grids m)
    (hm' : blocks → Inlining blocks grids m') (hblock : c.inlineOnly = false → blocks) :
    InlinesFrom blocks grids (if c.inlineOnly = true then m else m') c :=
  Ensures.ite (fun _ => hm c) fun h => hm' (hblock (Bool.eq_false_iff.mpr h)) c

theorem openAlignment_block (hb : blocks) : Inlining blocks grids (openAlignment e style) := by
  unfold openAlignment
  extract_lets value
  cases value.bind Alignment.ofText? with
  | none => exact .pure ()
  | some alignment =>
    refine .get_bind fun _ => .unless fun _ => ?_
    exact (write_block hb _).bind fun _ => (onLeave_block hb _).bind fun _ => (onLeave_block hb _).bind
      fun _ => (onLeave_block hb _).bind fun _ => modifyFormatting_inlines fun _ h => h

theorem openBlock_block (hb : blocks) : Inlining blocks grids (openBlock e style) :=
  (write_block hb _).bind fun _ => (onLeave_block hb _).bind fun _ =>
    (openAlignment_block hb).bind fun _ => applyStyle_inlines e style

include hblock

theorem openParagraph_inlines : InlinesFrom blocks grids (openParagraph e style) c := by
  unfold openParagraph
  refine Ensures.get_bind (byInline_inlines ?_ (fun hb => (openBlock_block hb).bind fun _ => .pure _) hblock)
  refine spaceApart_inlines.bind fun _ => Relates.bind ?_ fun _ => styled_inlines e style
  exact onLeave_inlines fun _ => .text [char ' '] rfl rfl

theorem openDivision_inlines : InlinesFrom blocks grids (openDivision e style) c := by
  unfold openDivision
  exact Ensures.get_bind (byInline_inlines (styled_inlines e style)
    (fun hb => (openBlock_block hb).bind fun _ => .pure _) hblock)

theorem openEnvironment_inlines (env : BlockEnvironment) :
    InlinesFrom blocks grids (openEnvironment e style env) c := by
  unfold openEnvironment
  extract_lets finish
  have hfinish : Inlining blocks grids (finish ()) := styled_inlines e style
  refine Ensures.get_bind (byInline_inlines hfinish (fun hb => ?_) hblock)
  refine (write_block hb _).bind fun _ => (write_block hb _).bind fun _ => (onLeave_block hb _).bind fun _ => ?_
  refine (onLeave_block hb _).bind fun _ => (onLeave_block hb _).bind fun _ => ?_
  refine .ite (fun _ => ?_) fun _ => hfinish
  exact (modifyFormatting_inlines (by exact fun _ h => h)).bind fun _ => hfinish

theorem openHeading_inlines (level : Nat) : InlinesFrom blocks grids (openHeading e style level) c := by
  unfold openHeading
  refine Ensures.get_bind (byInline_inlines ?_ (fun hb => ?_) hblock)
  · exact (applyStyle_inlines e style).bind fun _ => (applyEmphasis_inlines _).bind fun _ => .pure _
  · refine (write_block hb _).bind fun _ => (onLeave_block hb _).bind fun _ => ?_
    cases headingCommand? level with
    | none => exact (warn_inlines _ _).bind fun _ => .pure _
    | some command =>
      have hopen : Inlining blocks grids (do
          openArgument ("\\" ++ command ++ "\x7b") "\x7d"
          applyStyle e style
          return Flow.descend) :=
        Relates.bind ((write_block hb _).bind fun _ => argumentOwed_inlines) fun _ => styled_inlines e style
      dsimp only
      split
      · exact (onLeave_block hb _).bind fun _ => hopen
      · exact hopen

theorem openPreformatted_inlines : InlinesFrom blocks grids (openPreformatted e style) c := by
  unfold openPreformatted
  refine Ensures.get_bind (byInline_inlines ?_ (fun hb => ?_) hblock)
  · exact (applyStyle_inlines e style).bind fun _ => (applyFamily_inlines _).bind fun _ => .pure _
  · have hdeeper : ∀ c : Converter, Inlines blocks grids c { c with preDepth := c.preDepth + 1 } := fun _ =>
      ⟨rfl, rfl, id, fun hn => absurd hb hn, fun _ => .refl _, fun _ => id⟩
    refine (write_block hb _).bind fun _ => (write_block hb _).bind fun _ => ?_
    refine (onLeave_block hb _).bind fun _ => (onLeave_block hb _).bind fun _ => ?_
    refine (onLeave_block hb _).bind fun _ => .modify_bind hdeeper ?_
    refine Relates.bind ?_ fun _ => .pure _
    exact modifyFrame_inlines fun _ => rfl

omit hblock in
theorem setCounter_block (hb : blocks) : Inlining blocks grids (setCounter e) := by
  unfold setCounter
  refine .get_bind fun c => ?_
  split
  · exact .unless fun _ => write_block hb _
  · exact .pure ()

theorem openList_inlines (kind : ListKind) : InlinesFrom blocks grids (openList e style kind) c := by
  unfold openList
  extract_lets finish
  refine Ensures.get_bind (byInline_inlines ((applyStyle_inlines e style).bind fun _ => .pure _)
    (fun hb => ?_) hblock)
  refine newline_inlines.bind fun _ => (write_block hb _).bind fun _ => (onLeave_block hb _).bind fun _ => ?_
  refine (onLeave_block hb _).bind fun _ => (onLeave_block hb _).bind fun _ => ?_
  refine .modify_bind (fun _ => .of_eq rfl rfl rfl rfl rfl rfl) ?_
  refine Relates.bind (modifyFrame_inlines (by exact fun _ => rfl)) fun _ => .ite (fun _ => ?_) fun _ => .pure _
  exact (setCounter_block hb).bind fun _ => .pure _

omit hblock in
theorem openItem_block (hb : blocks) : Inlining blocks grids (openItem e) := by
  unfold openItem
  split
  · exact newline_inlines.bind fun _ => (write_block hb _).bind fun _ => (onLeave_block hb _).bind fun _ =>
      beginArgument_inlines
  · exact .pure ()
  · exact newline_inlines.bind fun _ => write_block hb _

theorem openListItem_inlines : InlinesFrom blocks grids (openListItem e style) c := by
  unfold openListItem
  have hstyled : Inlining blocks grids (applyStyle e style >>= fun _ => pure Flow.descend) := styled_inlines e style
  refine Ensures.get_bind (Ensures.ite (fun _ => Ensures.ite (fun _ => ?_) fun _ => hstyled c) fun hinline => ?_)
  · refine (spaceApart_inlines.bind fun _ => Relates.bind ?_ fun _ => hstyled) c
    exact push_row [word "textbullet", opening, closing, char ' '] rfl rfl
  · refine Ensures.ite (fun _ => openParagraph_inlines hblock) fun _ => ?_
    exact ((openItem_block (hblock (Bool.eq_false_iff.mpr hinline))).bind fun _ => hstyled) c

theorem horizontalRule_inlines : InlinesFrom blocks grids horizontalRule c := by
  unfold horizontalRule
  refine Ensures.get_bind (Ensures.unless (fun hinline => ?_) fun _ => .refl c)
  have hb : blocks := hblock (Bool.eq_false_iff.mpr hinline)
  exact (newline_inlines.bind fun _ => write_block hb _) c

end Blocks

theorem lineBreak_inlines : Inlining blocks grids lineBreak := by
  unfold lineBreak
  refine .get_bind fun c => .ite (fun _ => push_row [word "newline", char ' '] rfl rfl) fun _ => ?_
  exact .unless fun _ => trimSpaces_inlines.bind fun _ => push_row [lineEnd] rfl rfl

/-! ## Inline elements and text -/

theorem openEmphasis_inlines (k : Emphasis) : Inlining blocks grids (openEmphasis e style k) :=
  (applyStyle_inlines e style).bind fun _ => (applyEmphasis_inlines k).bind fun _ => .pure _

theorem openCode_inlines : Inlining blocks grids (openCode e style) :=
  (applyStyle_inlines e style).bind fun _ => (applyFamily_inlines _).bind fun _ => .pure _

theorem openCommand_inlines {w : String} (hw : joins [word w, opening]) :
    Inlining blocks grids (openCommand e style w) := by
  refine (applyStyle_inlines e style).bind fun _ => Relates.bind ?_ fun _ => .pure _
  exact openArgument_inlines [word w, opening] (by simp [render]) hw

theorem openStrike_inlines : Inlining blocks grids (openStrike e style) :=
  (applyStyle_inlines e style).bind fun _ => (warn_inlines _ _).bind fun _ => .pure _

theorem openLink_inlines (href : String) : Inlining blocks grids (openLink e href) := by
  unfold openLink
  split
  · refine .unless fun _ => (push_row [word "hyperref", char '['] rfl rfl).bind fun _ => ?_
    refine (pushPath_inlines _).bind fun _ => (push_row [char ']', opening] rfl rfl).bind fun _ => ?_
    exact argumentOwed_inlines
  · refine .ite (fun _ => warn_inlines _ _) fun _ => (push_row [word "href", opening] rfl rfl).bind fun _ => ?_
    refine (pushUrl_inlines _).bind fun _ => (push_row [closing, opening] rfl rfl).bind fun _ => ?_
    exact argumentOwed_inlines

theorem openAnchor_inlines : Inlining blocks grids (openAnchor e style) := by
  unfold openAnchor
  extract_lets finish link
  have hlink : Inlining blocks grids (link ()) := by
    refine (applyStyle_inlines e style).bind fun _ => ?_
    cases e.nonBlankAttribute? "href" with
    | none => exact .pure _
    | some href => exact (openLink_inlines href).bind fun _ => .pure _
  cases anchorName? e with
  | none => exact hlink
  | some name => exact (pushLabel_inlines name).bind fun _ => hlink

theorem openSpan_inlines : Inlining blocks grids (openSpan e style) := by
  unfold openSpan
  refine (applyStyle_inlines e style).bind fun _ => ?_
  extract_lets finish family size
  have hfamily : Inlining blocks grids (family ()) := by
    dsimp only [family]
    split
    · exact (applyFamily_inlines _).bind fun _ => .pure _
    · exact .pure _
  have hsize : Inlining blocks grids (size ()) := by
    dsimp only [size]
    split
    · next value hvalue =>
      exact (orWarn_inlines fun _ hv => applySize_inlines (spanSize?_isSize (hv ▸ hvalue))).bind fun _ => hfamily
    · exact hfamily
  refine .ite (fun _ => hsize) fun _ => ?_
  split
  · exact (orWarn_inlines fun _ h => applyColor_inlines (toHex_plain h)).bind fun _ => hsize
  · exact hsize

theorem reportUnknown_inlines (name : String) : Inlining blocks grids (reportUnknown name) := by
  unfold reportUnknown
  refine .get_bind fun _ => .unless fun _ => ?_
  exact .modify_bind (fun _ => .of_eq rfl rfl rfl rfl rfl rfl) (warn_inlines _ _)

/-- A run of text goes on in a line if the background that was put off for it is made of digits. -/
theorem appendRun_inlines (s : String) (htame : ¬ blocks → c.formatting.Tame) :
    InlinesFrom blocks grids (appendRun s) c := by
  unfold appendRun
  refine Ensures.get_bind ?_
  extract_lets f background underline cs before core finish unboxed inside run
  have hfinish : Inlining blocks grids (finish ()) := pushEscaped_inlines _
  have hclosing : ∀ {next : Unit → Conversion Unit}, Inlining blocks grids (next ()) →
      Inlining blocks grids (push "\x7d" >>= next) := fun h => (push_row [closing] rfl rfl).bind fun _ => h
  have hunboxed : Inlining blocks grids (unboxed ()) := .ite (fun _ => hclosing hfinish) fun _ => hfinish
  have hinside : Inlining blocks grids (inside ()) :=
    (pushEscaped_inlines _).bind fun _ => .ite (fun _ => hclosing hunboxed) fun _ => hunboxed
  have hrun : Inlining blocks grids (run ()) :=
    .ite (fun _ => (push_row [word "underline", opening] rfl rfl).bind fun _ => hinside) fun _ => hinside
  have hplain : ¬ blocks → ∀ hex, background = some hex → hex.toList.all isPlain := fun hn hex h =>
    htame hn hex (Option.filter_eq_some_iff.mp h).1
  refine Ensures.ite (fun _ => pushEscaped_inlines _ c) fun _ => ?_
  refine ((pushEscaped_inlines _).bind fun _ => ?_) c
  clear_value background
  cases background with
  | none => exact hrun
  | some hex =>
    refine Relates.bind (push_inlines fun hn => ?_) fun _ => hrun
    refine ⟨colorCommand "colorbox" ++ chars hex.toList ++ [closing] ++ [opening], ?_,
      joins_append (joins_colored rfl (hplain hn hex rfl)) rfl⟩
    rw [spell_append, ← colorCommand_spell]
    simp [render]

/-- In a verbatim block a text is written as it is, and so it may hold anything. -/
theorem visitText_inlines (s : String) (hpre : ¬ blocks → c.preDepth = 0)
    (htame : ¬ blocks → c.formatting.Tame) : InlinesFrom blocks grids (visitText setting s) c := by
  have hclear : Inlines blocks grids c { c with faults := c.faults.clear } := .of_eq rfl rfl rfl rfl rfl rfl
  have hrun : ∀ t, InlinesFrom blocks grids (appendRun t) { c with faults := c.faults.clear } := fun t =>
    appendRun_inlines t htame
  have htext : InlinesFrom blocks grids (emitText setting s) { c with faults := c.faults.clear } := by
    unfold emitText
    refine Ensures.get_bind (Ensures.ite (fun hpos => ?_) fun _ => Ensures.ite (fun _ => ?_) fun _ => ?_)
    · exact push_inlines (fun hn => absurd (hpre hn) (Nat.pos_iff_ne_zero.mp hpos)) _
    · exact (Relates.unless (R := Inlines blocks grids) fun _ => warn_inlines _ _) _
    · refine Ensures.ite (fun _ => hrun s) fun _ => ?_
      exact Ensures.unless (fun _ => hrun _) fun _ => .refl _
  unfold visitText
  exact Ensures.modify_bind (htext.bind fun _ _ h => Ensures.pure (hclear.trans h))

/-! ## Parts of tables -/

theorem modifyTable_inlines (f : TableState → TableState) : Inlining blocks grids (modifyTable f) :=
  .modifies fun _ => .of_eq rfl rfl rfl rfl rfl rfl

theorem openRow_inlines : Inlining blocks grids (openRow setting) := by
  unfold openRow
  extract_lets finish
  have hfinish : Inlining blocks grids (finish ()) := .pure _
  have hwarned : ∀ fault, Inlining blocks grids (warn fault (some "tr") >>= finish) := fun fault =>
    (warn_inlines fault _).bind fun _ => hfinish
  refine .get_bind fun _ => .ite (fun _ => hwarned _) fun _ => .ite (fun _ => hwarned _) fun _ => ?_
  refine (modifyTable_inlines _).bind fun _ => Relates.bind (onLeave_inlines fun _ => ?_) fun _ => hfinish
  unfold rowEnd
  cases setting.options.tableBorders with
  | true => exact .text [char ' ', ruleEnd] rfl rfl
  | false => exact .text [char ' ', lineEnd] rfl rfl

theorem beginCell_inlines (colspan : Nat) : Inlining blocks grids (beginCell colspan) := by
  unfold beginCell
  refine .get_bind fun _ => ?_
  extract_lets column mark
  have hmark : Inlining blocks grids (mark ()) := .get_bind fun _ => modifyFrame_inlines fun _ => rfl
  refine (modifyTable_inlines _).bind fun _ => .ite (fun _ => ?_) fun _ => hmark
  refine trimSpaces_inlines.bind fun _ => Relates.bind ?_ fun _ => hmark
  exact push_row [char ' ', char '&', char ' '] rfl rfl

theorem openCell_inlines (header : Bool) (colspan : Nat) :
    Inlining blocks grids (openCell e style header colspan) := by
  have hstyled : Inlining blocks grids (applyStyle e style >>= fun _ => pure Flow.descend) := styled_inlines e style
  unfold openCell
  extract_lets finish styled
  have hwarned : ∀ fault, Inlining blocks grids (warn fault (some e.name) >>= fun _ => styled ()) := fun fault =>
    (warn_inlines fault _).bind fun _ => hstyled
  refine .get_bind fun _ => .ite (fun _ => hwarned _) fun _ => .ite (fun _ => hwarned _) fun _ => ?_
  refine (beginCell_inlines colspan).bind fun _ => .ite (fun _ => ?_) fun _ => hstyled
  exact (applyEmphasis_inlines _).bind fun _ => hstyled

/-! ## Images in a line -/

theorem imageLength_inlines (name : String) : Inlining blocks grids (imageLength e style name) := by
  unfold imageLength
  split
  · exact .pure none
  · split
    · exact .pure _
    · exact (warn_inlines _ _).bind fun _ => .pure none

theorem includeImage_inlines (path : String) {options : String} (h : Spells options [char ']']) :
    Inlining blocks grids (includeImage path options) := by
  obtain ⟨ots, hs, hfluent, hnone, -⟩ := h
  unfold includeImage
  refine (push_row [word "includegraphics"] rfl rfl).bind fun _ => ?_
  extract_lets finish
  have hfinish : Inlining blocks grids (finish ()) :=
    (push_row [opening] rfl rfl).bind fun _ => (pushPath_inlines path).bind fun _ => push_row [closing] rfl rfl
  refine .ite (fun _ => hfinish) fun _ => (push_row [char '['] rfl rfl).bind fun _ => ?_
  have hjoins : joins (ots ++ [char ']']) :=
    joins_of_fluent hfluent (by rw [noEnvironment_append, hnone]; rfl)
  refine (push_row ots hs (joins_of_append hjoins)).bind fun _ => ?_
  exact (push_row [char ']'] rfl rfl).bind fun _ => hfinish

/-- An image that becomes a figure: it is there, it has a caption, it stands alone, and there may be floats. -/
def becomesFigure (doc : Document) (setting : Setting) (id : Nat) (e : Element) (c : Converter) : Bool :=
  ((e.nonBlankAttribute? "src").any fun src => (setting.resolve src).toOption.isSome) &&
    (imageCaption? e).isSome && allowsFigure c && doc.isBlockImage id

theorem openImage_inlines (hfigure : becomesFigure doc setting id e c = false) :
    InlinesFrom blocks grids (openImage doc setting id e style) c := by
  have hwarn : ∀ fault, Inlining blocks grids (warn fault (some e.name)) := fun fault => warn_inlines fault _
  have hlength : ∀ name, Inlining blocks grids (imageLength e style name) := imageLength_inlines
  unfold openImage
  cases hsrc : e.nonBlankAttribute? "src" with
  | none => exact hwarn _ c
  | some src =>
    have hcount : Inlines blocks grids c { c with images := c.images + 1 } := .of_eq rfl rfl rfl rfl rfl rfl
    refine Ensures.modify_bind ?_
    cases hresolve : setting.resolve src with
    | error fault =>
      refine (hwarn fault _).bind fun _ c₁ h₁ => ?_
      cases e.nonBlankAttribute? "alt" with
      | none => exact Ensures.pure (hcount.trans h₁)
      | some alt => exact (pushEscaped_inlines alt c₁).mono fun _ _ h₂ => (hcount.trans h₁).trans h₂
    | ok path =>
      refine ((hlength "width" _).and (imageLength_reads "width")).bind fun width c₁ ⟨h₁, _, hw₁⟩ => ?_
      refine ((hlength "height" c₁).and (imageLength_reads "height")).bind fun height c₂ ⟨h₂, _, hw₂⟩ => ?_
      extract_lets options
      have hinclude : Ensures (includeImage path options) c₂ fun _ c' => Inlines blocks grids c c' :=
        (includeImage_inlines path (imageOptions_spells _) c₂).mono fun _ _ h =>
          hcount.trans (h₁.trans (h₂.trans h))
      cases hcaption : imageCaption? e with
      | none => exact hinclude
      | some caption =>
        refine Ensures.get_bind (Ensures.ite (fun hallowed => ?_) fun _ => hinclude)
        -- There may be floats in this state only if there might be in the first one.
        have hsame : allowsFigure c₂ = allowsFigure c := allowsFigure_congr (hw₁.trans hw₂)
        rw [hsame] at hallowed
        simp only [Bool.and_eq_true] at hallowed
        simp [becomesFigure, hsrc, hresolve, hcaption, Except.toOption, hallowed] at hfigure

/-! ## Elements

What an element does in a state is a matter of its tag, and of what is allowed there. -/

/-- The element writes blocks: its tag stands for one, and more than inline material is allowed.  A table is
none of them, nor is its caption. -/
def startsBlock (e : Element) (c : Converter) : Bool :=
  !c.inlineOnly && e.tag.isBlockLevel && e.tag ≠ .table && !(e.tag = .caption && c.table.isSome)

/-- Neither in a table nor in an argument: here a table would be a float. -/
def isOutermost (c : Converter) : Bool := c.table.isNone && c.argumentDepth = 0

theorem not_isOutermost (c : Converter) :
    (!isOutermost c) = (c.table.isSome || decide (0 < c.argumentDepth)) := by
  cases htable : c.table <;> simp [isOutermost, htable, Nat.pos_iff_ne_zero]

/-- Entering the element writes a figure: an image that stands alone, or a table of nothing but images. -/
def makesFigure (doc : Document) (setting : Setting) (id : Nat) (e : Element) (c : Converter) : Bool :=
  c.preDepth = 0 && match e.tag with
    | .image => becomesFigure doc setting id e c
    | .table => isOutermost c && doc.isImageOnly id
    | _ => false

/-- Entering the element begins a table with a float of its own. -/
def beginsFloat (doc : Document) (id : Nat) (e : Element) (c : Converter) : Bool :=
  c.preDepth = 0 && e.tag = .table && isOutermost c && !doc.isImageOnly id

theorem startsBlock_of_tag (hinline : c.inlineOnly = false) (hlevel : e.tag.isBlockLevel = true)
    (htable : e.tag ≠ .table) (hcaption : e.tag = .caption → c.table = none) : startsBlock e c := by
  simp only [startsBlock, hinline, hlevel, htable, decide_true, Bool.not_false, ne_eq,
    not_false_eq_true, Bool.and_true, Bool.true_and, Bool.not_eq_true', Bool.and_eq_false_imp,
    decide_eq_true_eq]
  intro h
  rw [hcaption h]
  rfl

theorem installTable_inlines (t : TableState) : Inlining blocks grids (installTable t) := by
  have htame : Formatting.Tame {} := by
    intro hex h
    cases h
  unfold installTable
  refine .get_bind fun _ => .modify_bind (fun _ => .of_eq rfl rfl rfl rfl rfl rfl) ?_
  refine Relates.bind (modifyFrame_inlines (by exact fun _ => rfl)) fun _ => .modifies fun c => ?_
  exact ⟨rfl, rfl, fun _ => htame, fun _ => rfl, fun _ => .refl _, fun _ => id⟩

/-- The mark of an environment stands in a line where there may be grids. -/
theorem push_mark {s : String} (ts : List Token) (hs : s.toList = spell ts) (hts : fitsLine ts)
    (hfirst : lineEndFirst ts = false) (hgrids : ¬ blocks → grids) : Inlining blocks grids (push s) := by
  refine write_inlines fun hn b b' hb => ?_
  have hadds := Buffer.append_adds b s
  rw [hb] at hadds
  rw [show b'.text.toList = b.text.toList ++ spell ts from hs ▸ hadds]
  exact .write hts (fun hnot => absurd (hgrids hn) hnot) fun h => by rw [hfirst] at h; cases h

theorem beginTable_inlines (hgrids : ¬ blocks → grids) :
    Inlining blocks grids (beginTable doc setting id e true) := by
  unfold beginTable
  extract_lets columns borders begun
  have hplain := columnSpec_plain columns borders
  have hinstall : ∀ t, Inlining blocks grids (installTable t) := installTable_inlines
  refine Relates.bind (Relates.pure 0) fun _ => spaceApart_inlines.bind fun _ => ?_
  have hfluent := fluent_tabularStart hplain
  simp only [fluent, Bool.and_eq_true, Bool.not_eq_true'] at hfluent
  refine (push_mark _ (tabularStart_spell _) hfluent.1.1 hfluent.1.2 hgrids).bind fun _ => ?_
  refine .ite (fun _ => ?_) fun _ => hinstall _
  exact (push_row [word "hline", char '\n'] rfl rfl).bind fun _ => hinstall _

/-- Below a table or in an argument a table is the grid alone, if it is not left out. -/
theorem openTable_inlines (houtermost : isOutermost c = false) (hgrids : ¬ blocks → grids) :
    InlinesFrom blocks grids (openTable doc setting id e) c := by
  unfold openTable
  refine Ensures.get_bind (Ensures.ite (fun _ => ?_) fun _ => ?_)
  · exact ((warn_inlines _ _).bind fun _ => Relates.pure _) c
  · extract_lets bare
    have hbare : bare = true := (not_isOutermost c).symm.trans (by rw [houtermost]; rfl)
    refine Ensures.ite (fun h => ?_) fun _ => ?_
    · simp [hbare] at h
    · rw [hbare]
      exact ((beginTable_inlines hgrids).bind fun _ => Relates.pure _) c

theorem openElement_inlines (hpre : c.preDepth = 0) (hfigure : makesFigure doc setting id e c = false)
    (hfloat : beginsFloat doc id e c = false) (hblock : startsBlock e c → blocks)
    (hgrids : ¬ blocks → e.tag = .table → grids) :
    InlinesFrom blocks grids (openElement doc setting id e style) c := by
  -- More than inline material is allowed only if blocks are.
  have hlevel : e.tag.isBlockLevel = true → e.tag ≠ .table → (e.tag = .caption → c.table = none) →
      c.inlineOnly = false → blocks := fun hlevel htable hcaption hinline =>
    hblock (startsBlock_of_tag hinline hlevel htable hcaption)
  have hmove : ∀ flow : Flow, InlinesFrom blocks grids (pure flow) c := fun flow => Ensures.pure (.refl c)
  unfold openElement
  cases htag : e.tag <;>
    simp only [htag, Tag.isBlockLevel, reduceCtorEq, ne_eq, not_false_eq_true, forall_const, false_implies,
      not_true_eq_false, Bool.false_eq_true] at hlevel ⊢
  case document | html | body | tableSection | head | title | script | style => exact hmove _
  case paragraph => exact openParagraph_inlines hlevel
  case division => exact openDivision_inlines hlevel
  case center => exact openEnvironment_inlines hlevel .center
  case blockquote => exact openEnvironment_inlines hlevel .quote
  case heading level => exact openHeading_inlines hlevel level
  case preformatted => exact openPreformatted_inlines hlevel
  case bold => exact openEmphasis_inlines .bold c
  case italic => exact openEmphasis_inlines .italic c
  case underline => exact openEmphasis_inlines .underline c
  case strike => exact openStrike_inlines c
  case code => exact openCode_inlines c
  case subscript => exact openCommand_inlines rfl c
  case superscript => exact openCommand_inlines rfl c
  case anchor => exact openAnchor_inlines c
  case span | font => exact openSpan_inlines c
  case unorderedList => exact openList_inlines hlevel .bulleted
  case orderedList => exact openList_inlines hlevel .numbered
  case descriptionList => exact openList_inlines hlevel .described
  case listItem | descriptionTerm | descriptionDetails => exact openListItem_inlines hlevel
  case table =>
    refine openTable_inlines ?_ fun hn => hgrids hn htag
    simp only [makesFigure, beginsFloat, htag, hpre, decide_true, Bool.true_and] at hfigure hfloat
    cases houter : isOutermost c with
    | false => rfl
    | true =>
      rw [houter, Bool.true_and] at hfigure hfloat
      rw [hfigure] at hfloat
      exact absurd hfloat (by decide)
  case tableRow => exact openRow_inlines c
  case tableCell header colspan => exact openCell_inlines header colspan c
  case caption =>
    refine stageCaption_stages.bind ?_
    rintro _ c' (⟨rfl, hnone, rfl⟩ | ⟨t, rfl, ht, rfl⟩)
    · exact openParagraph_inlines (hlevel hnone)
    · exact Ensures.pure (.of_eq rfl rfl rfl rfl rfl rfl)
  case image =>
    have hnot : becomesFigure doc setting id e c = false := by
      simpa [makesFigure, htag, hpre] using hfigure
    exact (openImage_inlines hnot).bind fun _ _ h => Ensures.pure h
  case horizontalRule => exact (horizontalRule_inlines hlevel).bind fun _ _ h => Ensures.pure h
  case lineBreak => exact (lineBreak_inlines.bind fun _ => Relates.pure _) c
  case other name =>
    exact ((reportUnknown_inlines name).bind fun _ => styled_inlines e style) c

/-- Entering an element that makes no float. -/
theorem enter_inlines (hfigure : makesFigure doc setting id e c = false)
    (hfloat : beginsFloat doc id e c = false) (hblock : 0 < c.preDepth ∨ startsBlock e c → blocks)
    (hgrids : ¬ blocks → e.tag = .table → grids) :
    Ensures (enter doc setting id e style) c fun _ c' => ∃ b, Inlines blocks grids (c.opened b) c' := by
  rcases Nat.eq_zero_or_pos c.preDepth with hpre | hpre
  · have hopened : InlinesFrom blocks grids (openElement doc setting id e style)
        (c.opened (mayFormat e style && doc.hasBlockContent id)) :=
      openElement_inlines hpre hfigure hfloat (fun h => hblock (.inr h)) hgrids
    exact .enter hpre (hopened.mono fun _ _ h => ⟨_, h⟩)
  · have hb : blocks := hblock (.inl hpre)
    have hverbatim : Inlining blocks grids (openVerbatim e) := by
      unfold openVerbatim
      exact .ite (fun _ => (write_block hb _).bind fun _ => .pure _) fun _ => .pure _
    refine Ensures.congr ?_ (enter_eq_verbatim hpre)
    exact (hverbatim _).mono fun _ _ h => ⟨_, h⟩

/-! ## Leaving -/

theorem closeCell_inlines (h : ¬ blocks → ∀ closer ∈ f.closers, closer.InLine) :
    Inlining blocks grids (closeCell f) := by
  unfold closeCell
  refine trimSpaces_inlines.bind fun _ => (closeFrame_inlines h).bind fun _ => .get_bind fun _ => ?_
  refine (closeBraces_inlines _ _).bind fun _ => Relates.bind ?_ fun _ => modifyTable_inlines _
  exact pushTimes_inlines [char ' ', char '&'] rfl rfl _

theorem closeRow_inlines (h : ¬ blocks → ∀ closer ∈ f.closers, closer.InLine) :
    Inlining blocks grids (closeRow f) := (closeFrame_inlines h).bind fun _ => modifyTable_inlines _

theorem endFloat_block (hb : blocks) (t : TableState) : Inlining blocks grids (endFloat t) := by
  have hcaption : Inlining blocks grids (pushTableCaption t) := by
    unfold pushTableCaption
    split <;> exact write_block hb _
  have hlabel : Inlining blocks grids (pushFloatLabel t.label ("table_" ++ toString t.number)) := by
    refine (write_block hb _).bind fun _ => ?_
    cases t.label <;> exact write_block hb _
  exact (write_block hb _).bind fun _ => hcaption.bind fun _ => hlabel.bind fun _ =>
    (write_block hb _).bind fun _ => write_block hb _

/-- The end of a grid is written at the beginning of a line; a float goes on behind it. -/
theorem closeTable_inlines (hclosers : ¬ blocks → ∀ closer ∈ f.closers, closer.InLine)
    (hnested : ¬ blocks → ∀ t, c.table = some t → f.outerTable.isSome → t.nested = true)
    (hgrids : ¬ blocks → grids) : InlinesFrom blocks grids (closeTable f) c := by
  unfold closeTable
  have hclose : Noting (fun _ => False) (closeFrame f) := closeFrame_noting f
  have hframe : Inlining blocks grids (closeFrame f) := closeFrame_inlines hclosers
  refine ((hframe c).and (hclose c)).bind fun _ c₁ ⟨h₁, hsame⟩ => ?_
  cases houter : f.outerTable with
  | none => exact Ensures.pure h₁
  | some outer =>
    refine Ensures.get_bind ?_
    cases ht : c₁.table with
    | none => exact Ensures.throws
    | some t =>
      have hfloat : t.nested = false → blocks := fun hflat => Classical.byContradiction fun hn => by
        rw [hnested hn t (hsame.table.symm.trans ht) (by rw [houter]; rfl)] at hflat
        cases hflat
      extract_lets outwards
      have houtwards : Inlining blocks grids (outwards ()) := .modifies fun _ => .of_eq rfl rfl rfl rfl rfl rfl
      have hend : Inlining blocks grids (push (endEnvironment "tabular")) :=
        push_mark [endEnv "tabular"] rfl rfl rfl hgrids
      have hrest : Inlining blocks grids (do
          modify fun c => { c with table := none }
          trimSpaces
          newline
          push (endEnvironment "tabular")
          if t.nested = true then outwards () else endFloat t >>= outwards) := by
        refine .modify_bind (fun _ => .of_eq rfl rfl rfl rfl rfl rfl) ?_
        refine trimSpaces_inlines.bind fun _ => newline_inlines.bind fun _ => hend.bind fun _ => ?_
        refine .ite (fun _ => houtwards) fun hflat => ?_
        exact (endFloat_block (hfloat (Bool.eq_false_iff.mpr hflat)) t).bind fun _ => houtwards
      exact (hrest c₁).mono fun _ _ h => h₁.trans h

theorem closeElement_inlines (hclosers : ¬ blocks → ∀ closer ∈ f.closers, closer.InLine)
    (hnested : ¬ blocks → e.tag = .table →
      ∀ t, c.table = some t → f.outerTable.isSome → t.nested = true)
    (hgrids : ¬ blocks → e.tag = .table → grids) : InlinesFrom blocks grids (closeElement e f) c := by
  have hclose : Inlining blocks grids (closeFrame f) := closeFrame_inlines hclosers
  unfold closeElement
  split
  · exact Ensures.ite (fun _ => closeCell_inlines hclosers c) fun _ => hclose c
  · next htag => exact closeTable_inlines hclosers (fun hn => hnested hn htag) fun hn => hgrids hn htag
  · exact closeRow_inlines hclosers c
  · exact hclose c

/-- Leaving an element counts no float, and goes on with the line if what is owed does. -/
theorem leave_inlines (hclosers : ¬ blocks → OwesLine c)
    (hnested : ¬ blocks → e.tag = .table →
      ∀ g ∈ c.frames.head?, g.outerTable.isSome → ∀ t, c.table = some t → t.nested = true)
    (hgrids : ¬ blocks → e.tag = .table → grids) :
    Ensures (leave e) c fun _ c' => c'.tables = c.tables ∧ c'.figures = c.figures ∧
      (¬ blocks → ContinuesIn grids c.output c'.output) := by
  unfold leave
  refine Ensures.modify_bind (Ensures.get_bind ?_)
  dsimp only
  cases hf : c.frames with
  | nil => exact Ensures.throws
  | cons g fs =>
    have hhead : g ∈ c.frames.head? := by rw [hf]; rfl
    refine Ensures.modify_bind ?_
    have hclose : InlinesFrom blocks grids (closeElement e g) (c.popped fs) :=
      closeElement_inlines (fun hn => hclosers hn g hhead)
        (fun hn htag t ht houter => hnested hn htag g hhead houter t ht) hgrids
    exact hclose.bind fun _ c₁ h => Ensures.modifies ⟨h.tables, h.figures, h.line⟩

end Convert

end MarkupTex
