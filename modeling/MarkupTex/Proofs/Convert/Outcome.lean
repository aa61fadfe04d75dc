import MarkupTex.Proofs.Convert.Leaving
import MarkupTex.Proofs.Convert.Output
/-!
# What comes of entering an element

An `Outcome` says which way the handler of an element took, as far as it matters to the table and to the
nodes below.  `enter_comes` shows that nothing else comes of entering an element outside of verbatim blocks,
and no warnings but those that have a cause.  A text has one warning of its own, `visitText_notes`.

As there is none on leaving an element, each warning of a conversion was given on coming to some node,
`warning_raised`.
-/

set_option autoImplicit false

namespace MarkupTex.Convert

open Latex Walk

variable {doc : Document} {setting : Setting} {id : Nat} {e : Element} {style : Style}
  {c c' c₁ : Converter} {w : Warning}

/-! ## Ways to go -/

/-- Why an element does not go on to what is below. -/
inductive Skips (doc : Document) (setting : Setting) (id : Nat) (e : Element) (c c' : Converter) :
    Prop where
  | suppressed (tag : e.tag.isSuppressed = true)
  | void (tag : e.tag = .image ∨ e.tag = .horizontalRule ∨ e.tag = .lineBreak)
  | grid {c₀ : Converter} (tag : e.tag = .table) (outside : c.table = none)
      (images : doc.isImageOnly id = true) (written : pushImageGrid doc setting id e c₀ = .ok () c')
  | misplaced (tag : e.tag = .table) (between : c.place = .between) (warned : c'.warnings ≠ [])

/-- What an element does to the table, and whether it goes on to what is below. -/
inductive Outcome (doc : Document) (setting : Setting) (id : Nat) (e : Element) (c : Converter) :
    Flow → Converter → Prop where
  | stays {c' : Converter} (table : c'.table = c.table) (preDepth : c'.preDepth = c.preDepth)
      (shown : e.tag.isSuppressed = false) (noTable : e.tag ≠ .table)
      (noCaption : e.tag = .caption → c.place = .outside)
      (noCell : ∀ header colspan, e.tag = .tableCell header colspan → c.place ≠ .between) :
      Outcome doc setting id e c .descend c'
  | verbatim {c' : Converter} (tag : e.tag = .preformatted) (table : c'.table = c.table)
      (preDepth : c'.preDepth = c.preDepth + 1) : Outcome doc setting id e c .descend c'
  | table {c' : Converter} {t : TableState} {f : Frame} {fs : List Frame} (tag : e.tag = .table)
      (place : c.place ≠ .between) (table : c'.table = some t) (between : t.inCell = false)
      (frames : c'.frames = f :: fs) (outer : f.outerTable = some c.table)
      (preDepth : c'.preDepth = c.preDepth) : Outcome doc setting id e c .descend c'
  | row {c' : Converter} {t : TableState} (tag : e.tag = .tableRow) (inside : c.table = some t)
      (between : t.inCell = false) (table : c'.table = some { t with inRow := true, column := 0 })
      (preDepth : c'.preDepth = c.preDepth) : Outcome doc setting id e c .descend c'
  | cell {c' : Converter} {t : TableState} {header : Bool} {colspan : Nat}
      (tag : e.tag = .tableCell header colspan) (inside : c.table = some t)
      (between : t.inCell = false)
      (table : c'.table = some { t with column := t.column + colspan, inCell := true })
      (preDepth : c'.preDepth = c.preDepth) : Outcome doc setting id e c .descend c'
  | staged {c' : Converter} {t : TableState} (tag : e.tag = .caption) (inside : c.table = some t)
      (table : c'.table = some { t with caption := some (doc.captionText id) })
      (preDepth : c'.preDepth = c.preDepth) : Outcome doc setting id e c .skipChildren c'
  | skips {c' : Converter} (table : c'.table = c.table) (preDepth : c'.preDepth = c.preDepth)
      (why : Skips doc setting id e c c') : Outcome doc setting id e c .skipChildren c'

theorem place_congr (h : c₁.table = c.table) : c₁.place = c.place := by
  rw [Converter.place, Converter.place, h]

/-- Of the state before, only the table and the verbatim blocks matter. -/
theorem Outcome.congr {flow : Flow} (htable : c₁.table = c.table) (hpre : c₁.preDepth = c.preDepth)
    (h : Outcome doc setting id e c₁ flow c') : Outcome doc setting id e c flow c' := by
  have hplace := place_congr htable
  cases h with
  | stays table preDepth shown noTable noCaption noCell =>
    rw [hplace] at noCaption noCell
    exact .stays (table.trans htable) (preDepth.trans hpre) shown noTable noCaption noCell
  | verbatim tag table preDepth =>
    exact .verbatim tag (table.trans htable) (preDepth.trans (congrArg (· + 1) hpre))
  | table tag place table between frames outer preDepth =>
    exact .table tag (hplace ▸ place) table between frames (htable ▸ outer) (preDepth.trans hpre)
  | row tag inside between table preDepth =>
    exact .row tag (htable ▸ inside) between table (preDepth.trans hpre)
  | cell tag inside between table preDepth =>
    exact .cell tag (htable ▸ inside) between table (preDepth.trans hpre)
  | staged tag inside table preDepth =>
    exact .staged tag (htable ▸ inside) table (preDepth.trans hpre)
  | skips table preDepth why =>
    refine .skips (table.trans htable) (preDepth.trans hpre) ?_
    cases why with
    | suppressed tag => exact .suppressed tag
    | void tag => exact .void tag
    | grid tag outside images written => exact .grid tag (htable ▸ outside) images written
    | misplaced tag between warned => exact .misplaced tag (hplace ▸ between) warned

/-- What comes of a handler: warnings that have a cause, and one of the outcomes. -/
def Comes (doc : Document) (setting : Setting) (id : Nat) (e : Element) (style : Style)
    (m : Conversion Flow) (c : Converter) : Prop :=
  Ensures m c fun flow c' =>
    Warned (Cause doc setting c.place id e style) c c' ∧ Outcome doc setting id e c flow c'

/-- The tag has no part in tables and is not left out. -/
def IsOrdinary : Tag → Bool
  | .head | .title | .script | .style | .table | .caption | .tableCell .. => false
  | _ => true

/-- Elements with such tags do nothing but what is in their style and their attributes. -/
theorem Outcome.of_ordinary (h : IsOrdinary e.tag) (table : c'.table = c.table)
    (preDepth : c'.preDepth = c.preDepth) : Outcome doc setting id e c .descend c' := by
  refine .stays table preDepth ?_ ?_ ?_ ?_
  · cases htag : e.tag <;> rw [htag] at h <;> first | rfl | cases h
  · rintro htag
    simp [htag, IsOrdinary] at h
  · intro htag
    simp [htag, IsOrdinary] at h
  · intro header colspan htag
    simp [htag, IsOrdinary] at h

namespace Comes

variable {α : Type} {m m' : Conversion Flow}

theorem of_descends (hplain : IsOrdinary e.tag)
    (h : Descends (Cause doc setting c.place id e style) m) : Comes doc setting id e style m c :=
  (h c).mono fun flow c' ⟨hflow, hnotes⟩ => by
    subst hflow
    exact ⟨hnotes.warned, .of_ordinary hplain hnotes.table hnotes.preDepth⟩

/-- Something that leaves the table alone may be done first. -/
theorem after {first : Conversion α} {next : α → Conversion Flow}
    (h : Noting (Cause doc setting c.place id e style) first)
    (hnext : ∀ a c₁, c₁.table = c.table → Comes doc setting id e style (next a) c₁) :
    Comes doc setting id e style (first >>= next) c := by
  refine (h c).bind fun a c₁ hnotes => (hnext a c₁ hnotes.table).mono ?_
  rintro flow c' ⟨hwarned, houtcome⟩
  rw [place_congr hnotes.table] at hwarned
  exact ⟨hnotes.warned.trans hwarned, houtcome.congr hnotes.table hnotes.preDepth⟩

/-- A handler that does something and skips what is below. -/
theorem skip {m : Conversion Unit} (h : Noting (Cause doc setting c.place id e style) m)
    (why : ∀ c', m c = .ok () c' → Skips doc setting id e c c') :
    Comes doc setting id e style (m >>= fun _ => pure .skipChildren) c := by
  have hboth : Ensures m c fun _ c' =>
      Notes (Cause doc setting c.place id e style) c c' ∧ Skips doc setting id e c c' :=
    fun a c' hm => ⟨h c a c' hm, why c' hm⟩
  exact hboth.bind fun _ c' ⟨hnotes, hskips⟩ =>
    Ensures.pure ⟨hnotes.warned, .skips hnotes.table hnotes.preDepth hskips⟩

end Comes

theorem openPreformatted_comes (htag : e.tag = .preformatted) :
    Comes doc setting id e style (openPreformatted e style) c := by
  have hplain : IsOrdinary e.tag := by rw [htag]; rfl
  unfold openPreformatted
  refine Ensures.get_bind (Ensures.ite (fun _ => ?_) fun _ => ?_)
  · exact Comes.of_descends hplain (.after applyStyle_caused fun _ =>
      .after (applyFamily_noting _) fun _ => .pure)
  · refine Comes.after paragraphBreak_noting fun _ _ _ => .after (push_noting _) fun _ _ _ => ?_
    refine .after (onLeave_noting _) fun _ _ _ => .after (onLeave_noting _) fun _ _ _ => ?_
    refine .after (onLeave_noting _) fun _ c₁ _ => Ensures.modify_bind ?_
    refine (modifyFrame_noting _ _).bind fun _ c₂ (h₂ : Notes (fun _ => False) _ c₂) => Ensures.pure ?_
    exact ⟨.of_eq h₂.warned.eq, .verbatim htag h₂.table h₂.preDepth⟩

/-! ## Tables -/

/-- A table was made the current one, with the table around it in its frame. -/
def Begun (c c' : Converter) : Prop :=
  c'.preDepth = c.preDepth ∧ c'.warnings = c.warnings ∧ ∃ t f fs,
    c'.table = some t ∧ t.inCell = false ∧ c'.frames = f :: fs ∧ f.outerTable = some c.table

theorem Begun.after {α : Type} {first : Conversion α} {next : α → Conversion Unit}
    (h : Noting (fun _ => False) first) (hnext : ∀ a c, Ensures (next a) c fun _ c' => Begun c c') :
    Ensures (first >>= next) c fun _ c' => Begun c c' := by
  refine (h c).bind fun a c₁ hnotes => (hnext a c₁).mono ?_
  rintro _ c' ⟨hpre, hwarnings, t, f, fs, ht, hcell, hf, houter⟩
  exact ⟨hpre.trans hnotes.preDepth, hwarnings.trans hnotes.warned.eq, t, f, fs, ht, hcell, hf,
    houter.trans (congrArg some hnotes.table)⟩

theorem installTable_begun {t : TableState} (ht : t.inCell = false) :
    Ensures (installTable t) c fun _ c' => Begun c c' := by
  have hframe : Ensures (modifyFrame fun frame => { frame with outerTable := some c.table })
      { c with table := none } fun _ c' => ∃ f fs, f.outerTable = some c.table ∧
        c' = { c with table := none, frames := f :: fs } := by
    unfold modifyFrame
    refine Ensures.get_bind ?_
    cases c.frames with
    | nil => exact Ensures.throws
    | cons f fs => exact Ensures.modifies ⟨_, fs, rfl, rfl⟩
  unfold installTable
  refine Ensures.get_bind (Ensures.modify_bind (hframe.bind ?_))
  rintro _ _ ⟨f, fs, houter, rfl⟩
  exact Ensures.modifies ⟨rfl, rfl, t, f, fs, rfl, ht, rfl, houter⟩

theorem nextTable_noting {W : Warning → Prop} : Noting W nextTable := by
  unfold nextTable
  exact .modify_bind (fun _ => .of_eq rfl rfl rfl) (.get_bind fun _ => .pure _)

theorem beginTable_begun (bare : Bool) :
    Ensures (beginTable doc setting id e bare) c fun _ c' => Begun c c' := by
  unfold beginTable
  extract_lets columns borders begun
  have hgrid : ∀ (number : Nat) (c : Converter), Ensures (do
      push (beginEnvironment "tabular" ++ braced (columnSpec columns borders) ++ "\n")
      if borders then push "\\hline\n"
      installTable { node := id, number, columns, nested := bare, label := e.nonBlankAttribute? "id" })
        c fun _ c' => Begun c c' := by
    intro number c
    refine Begun.after (push_noting _) fun _ c => Ensures.ite (fun _ => ?_) fun _ => ?_
    · exact Begun.after (push_noting _) fun _ c => installTable_begun rfl
    · exact installTable_begun rfl
  cases bare with
  | true =>
    refine Begun.after (Always.pure 0) fun number c => ?_
    exact Begun.after spaceApart_noting fun _ => hgrid number
  | false =>
    refine Begun.after nextTable_noting fun number c => ?_
    exact Begun.after paragraphBreak_noting fun _ c => Begun.after (push_noting _) fun _ => hgrid number

theorem openTable_comes (htag : e.tag = .table) :
    Comes doc setting id e style (openTable doc setting id e) c := by
  unfold openTable
  refine Ensures.get_bind (Ensures.ite (fun hbetween => ?_) fun hplace => ?_)
  · have hplace := Converter.inTableSkeleton_iff.mp hbetween
    refine Comes.skip (warn_noting (.table htag hplace)) fun c' hwarn => .misplaced htag hplace ?_
    cases hwarn
    simp
  · have hplace : c.place ≠ .between := fun h => hplace (Converter.inTableSkeleton_iff.mpr h)
    extract_lets bare
    refine Ensures.ite (fun hgrid => ?_) fun _ => ?_
    · simp only [bare, Bool.and_eq_true, Bool.not_eq_true', Bool.or_eq_false_iff,
        Option.isSome_eq_false_iff, Option.isNone_iff_eq_none] at hgrid
      exact Comes.skip (pushImageGrid_caused htag) fun c' h => .grid htag hgrid.1.1 hgrid.2 h
    · refine (beginTable_begun bare).bind ?_
      rintro _ c' ⟨hpre, hwarnings, t, f, fs, ht, hcell, hf, houter⟩
      exact Ensures.pure ⟨.of_eq hwarnings, .table htag hplace ht hcell hf houter hpre⟩

theorem openRow_comes (htag : e.tag = .tableRow) :
    Comes doc setting id e style (openRow setting) c := by
  have hplain : IsOrdinary e.tag := by rw [htag]; rfl
  unfold openRow
  refine Ensures.get_bind ?_
  extract_lets finish
  refine Ensures.ite (fun hnone => ?_) fun hsome => Ensures.ite (fun hcell => ?_) fun hcell => ?_
  · have hplace : c.place ≠ .between := by
      rw [Converter.place_outside_iff.mpr (by simpa using hnone)]
      decide
    exact Comes.of_descends hplain (.after (warn_noting (.row htag hplace)) fun _ => .pure)
  · have hplace : c.place ≠ .between := by
      rw [Converter.inCell_iff.mp hcell]
      decide
    exact Comes.of_descends hplain (.after (warn_noting (.row htag hplace)) fun _ => .pure)
  · obtain ⟨t, ht⟩ := Option.ne_none_iff_exists'.mp (by simpa using hsome)
    have hbetween : t.inCell = false := by simpa [Converter.inCell, ht] using hcell
    refine Ensures.modify_bind ?_
    refine (onLeave_noting _ _).bind fun _ c' (h : Notes (fun _ => False) _ c') => Ensures.pure ?_
    refine ⟨.of_eq h.warned.eq, .row htag ht hbetween ?_ h.preDepth⟩
    rw [h.table, ht]
    rfl

/-- A cell is begun between the cells of the table. -/
theorem beginCell_begins {t : TableState} (ht : c.table = some t) (colspan : Nat) :
    Ensures (beginCell colspan) c fun _ c' => c'.preDepth = c.preDepth ∧ c'.warnings = c.warnings ∧
      c'.table = some { t with column := t.column + colspan, inCell := true } := by
  unfold beginCell
  refine Ensures.get_bind ?_
  extract_lets column mark
  refine Ensures.modify_bind ?_
  have hmark : Noting (fun _ => False) (mark ()) :=
    .get_bind fun _ => modifyFrame_noting _
  have hrest : Noting (fun _ => False) (if 0 < column then do
      trimSpaces
      push " & "
      mark ()
    else mark ()) :=
    .ite (fun _ => trimSpaces_noting.bind fun _ => (push_noting _).bind fun _ => hmark) fun _ => hmark
  refine (hrest _).mono fun _ c' h => ⟨h.preDepth, h.warned.eq, ?_⟩
  rw [h.table, ht]
  rfl

theorem openCell_comes {header : Bool} {colspan : Nat} (htag : e.tag = .tableCell header colspan) :
    Comes doc setting id e style (openCell e style header colspan) c := by
  -- In a place that is none for a cell the style counts, and that is all.
  have hplain : ∀ (message : String), c.place ≠ .between → Comes doc setting id e style (do
      warn (structureFault message) (some e.name)
      applyStyle e style
      return .descend) c := by
    intro message hplace
    have hdescends : Descends (Cause doc setting c.place id e style) (do
        warn (structureFault message) (some e.name)
        applyStyle e style
        return .descend) :=
      .after (warn_noting (.cell htag hplace)) fun _ => .after applyStyle_caused fun _ => .pure
    refine (hdescends c).mono fun flow c' hcame => ?_
    obtain ⟨rfl, hnotes⟩ := hcame
    refine ⟨hnotes.warned, ?_⟩
    exact .stays hnotes.table hnotes.preDepth (by rw [htag]; rfl) (by simp [htag])
      (by simp [htag]) fun _ _ _ => hplace
  unfold openCell
  refine Ensures.get_bind ?_
  extract_lets finish styled
  refine Ensures.ite (fun hnone => ?_) fun hsome => Ensures.ite (fun hcell => ?_) fun hcell => ?_
  · refine hplain _ ?_
    rw [Converter.place_outside_iff.mpr (by simpa using hnone)]
    decide
  · refine hplain _ ?_
    rw [Converter.inCell_iff.mp hcell]
    decide
  · obtain ⟨t, ht⟩ := Option.ne_none_iff_exists'.mp (by simpa using hsome)
    have hbetween : t.inCell = false := by simpa [Converter.inCell, ht] using hcell
    have hstyled : Descends (Cause doc setting c.place id e style) (styled ()) :=
      .after applyStyle_caused fun _ => .pure
    have hrest : Descends (Cause doc setting c.place id e style) (if header = true then do
        applyEmphasis .bold
        styled ()
      else styled ()) :=
      .ite (fun _ => .after (applyEmphasis_noting _) fun _ => hstyled) fun _ => hstyled
    refine (beginCell_begins ht colspan).bind fun _ c₁ hbegun => ?_
    obtain ⟨hpre, hwarnings, htable⟩ := hbegun
    refine (hrest c₁).mono fun flow c' hcame => ?_
    obtain ⟨rfl, hnotes⟩ := hcame
    exact ⟨(Warned.of_eq hwarnings).trans hnotes.warned,
      .cell htag ht hbetween (hnotes.table.trans htable) (hnotes.preDepth.trans hpre)⟩

theorem stageCaption_stages :
    Ensures (stageCaption doc id) c fun staged c' =>
      (staged = false ∧ c.table = none ∧ c' = c) ∨ ∃ t, staged = true ∧ c.table = some t ∧
        c' = { c with table := some { t with caption := some (doc.captionText id) } } := by
  unfold stageCaption
  refine Ensures.get_bind ?_
  cases ht : c.table with
  | none => exact Ensures.pure (.inl ⟨rfl, rfl, rfl⟩)
  | some t => exact Ensures.modify_bind (Ensures.pure (.inr ⟨t, rfl, rfl, rfl⟩))

theorem openCaption_comes (htag : e.tag = .caption) :
    Comes doc setting id e style (do
      if ← stageCaption doc id then return .skipChildren
      else openParagraph e style) c := by
  refine stageCaption_stages.bind ?_
  rintro _ c' (⟨rfl, hnone, rfl⟩ | ⟨t, rfl, ht, rfl⟩)
  · refine (openParagraph_caused c').mono fun flow c' ⟨hflow, hnotes⟩ => ⟨hnotes.warned, ?_⟩
    subst hflow
    exact .stays hnotes.table hnotes.preDepth (by rw [htag]; rfl) (by simp [htag])
      (fun _ => Converter.place_outside_iff.mpr hnone) (by simp [htag])
  · exact Ensures.pure ⟨.of_eq rfl, .staged htag ht rfl rfl⟩

/-! ## Entering, texts and leaving -/

/-- A handler that does nothing, because nothing below is to be shown. -/
theorem Comes.suppressed (h : e.tag.isSuppressed = true) :
    Comes doc setting id e style (pure .skipChildren) c :=
  Ensures.pure ⟨.of_eq rfl, .skips rfl rfl (.suppressed h)⟩

theorem openElement_comes (doc : Document) (setting : Setting) (id : Nat) (e : Element) (style : Style)
    (c : Converter) : Comes doc setting id e style (openElement doc setting id e style) c := by
  unfold openElement
  cases htag : e.tag with
  | document | html | body | tableSection => exact .of_descends (by rw [htag]; rfl) .pure
  | head | title | script | style => exact .suppressed (by rw [htag]; rfl)
  | paragraph => exact .of_descends (by rw [htag]; rfl) openParagraph_caused
  | division => exact .of_descends (by rw [htag]; rfl) openDivision_caused
  | center | blockquote => exact .of_descends (by rw [htag]; rfl) (openEnvironment_caused _)
  | heading level => exact .of_descends (by rw [htag]; rfl) (openHeading_caused htag)
  | preformatted => exact openPreformatted_comes htag
  | bold | italic | underline => exact .of_descends (by rw [htag]; rfl) (openEmphasis_caused _)
  | strike => exact .of_descends (by rw [htag]; rfl) (openStrike_caused htag)
  | code => exact .of_descends (by rw [htag]; rfl) openCode_caused
  | subscript | superscript => exact .of_descends (by rw [htag]; rfl) (openCommand_caused _)
  | anchor => exact .of_descends (by rw [htag]; rfl) (openAnchor_caused htag)
  | span => exact .of_descends (by rw [htag]; rfl) (openSpan_caused (.inl htag))
  | font => exact .of_descends (by rw [htag]; rfl) (openSpan_caused (.inr htag))
  | unorderedList | orderedList | descriptionList =>
    exact .of_descends (by rw [htag]; rfl) (openList_caused _)
  | listItem | descriptionTerm | descriptionDetails =>
    exact .of_descends (by rw [htag]; rfl) openListItem_caused
  | table => exact openTable_comes htag
  | tableRow => exact openRow_comes htag
  | tableCell header colspan => exact openCell_comes htag
  | caption => exact openCaption_comes htag
  | image => exact .skip (openImage_caused htag) fun _ _ => .void (.inl htag)
  | horizontalRule => exact .skip horizontalRule_noting fun _ _ => .void (.inr (.inl htag))
  | lineBreak => exact .skip lineBreak_noting fun _ _ => .void (.inr (.inr htag))
  | other name =>
    exact .of_descends (by rw [htag]; rfl) (.after (reportUnknown_caused htag) fun _ =>
      .after applyStyle_caused fun _ => .pure)

/-- Entering an element outside of verbatim blocks is a frame and its handler. -/
theorem Ensures.enter {Q : Flow → Converter → Prop} (hpre : c.preDepth = 0)
    (h : Ensures (openElement doc setting id e style)
      (c.opened (mayFormat e style && doc.hasBlockContent id)) Q) :
    Ensures (enter doc setting id e style) c Q := h.congr (enter_eq hpre)

/-- Leaving an element takes off its frame, and writes what is owed at its end. -/
theorem Ensures.leave {fs : List Frame} {frame : Frame} {Q : Unit → Converter → Prop}
    (hframes : c.frames = frame :: fs)
    (h : Ensures (closeElement e frame) (c.popped fs) fun _ c₁ => Q () (c₁.restored frame)) :
    Ensures (leave e) c Q :=
  (h.bind fun _ _ hQ => Ensures.modifies hQ).congr (leave_eq hframes)

/-- Entering an element outside of verbatim blocks. -/
theorem enter_comes (hpre : c.preDepth = 0) :
    Comes doc setting id e style (enter doc setting id e style) c := by
  refine Ensures.enter hpre ((openElement_comes doc setting id e style _).mono ?_)
  intro flow c' ⟨hwarned, houtcome⟩
  exact ⟨hwarned, houtcome.congr (by rfl) (by rfl)⟩

/-- In a verbatim block nothing is noted of an element. -/
theorem enter_verbatim_notes (hpre : 0 < c.preDepth) :
    Ensures (enter doc setting id e style) c fun flow c' =>
      flow = .descend ∧ Notes (fun _ => False) c c' := by
  have hverbatim : Descends (fun _ => False) (openVerbatim e) := by
    unfold openVerbatim
    exact .ite (fun _ => .after (push_noting _) fun _ => .pure) fun _ => .pure
  refine Ensures.congr ((hverbatim _).mono fun flow c' ⟨hflow, hnotes⟩ => ⟨hflow, ?_⟩)
    (enter_eq_verbatim hpre)
  exact ⟨hnotes.table, hnotes.preDepth, .of_eq hnotes.warned.eq⟩

theorem appendRun_noting {W : Warning → Prop} (s : String) : Noting W (appendRun s) := by
  unfold appendRun
  refine .get_bind fun c => ?_
  extract_lets f background underline cs before core finish unboxed inside run
  have hfinish : Noting W (finish ()) := pushEscaped_noting _
  have hunboxed : Noting W (unboxed ()) :=
    .ite (fun _ => (push_noting _).bind fun _ => hfinish) fun _ => hfinish
  have hinside : Noting W (inside ()) :=
    (pushEscaped_noting _).bind fun _ =>
      .ite (fun _ => (push_noting _).bind fun _ => hunboxed) fun _ => hunboxed
  have hrun : Noting W (run ()) :=
    .ite (fun _ => (push_noting _).bind fun _ => hinside) fun _ => hinside
  refine .ite (fun _ => pushEscaped_noting _) fun _ => (pushEscaped_noting _).bind fun _ => ?_
  clear_value background
  cases background with
  | some hex => exact (push_noting _).bind fun _ => hrun
  | none => exact hrun

/-- The one warning that there is about a text: it is dropped, because it stands between the cells of a
table. -/
theorem visitText_notes (setting : Setting) (s : String) (c : Converter) :
    Ensures (visitText setting s) c fun flow c' => flow = .descend ∧
      Notes (fun w => w = .ofFault strayText none ∧ c.preDepth = 0 ∧ c.place = .between ∧
        Text.isBlankText s = false) c c' := by
  unfold visitText
  refine Ensures.modify_bind ?_
  have hemit : Ensures (emitText setting s) { c with faults := c.faults.clear } fun _ c' =>
      Notes (fun w => w = .ofFault strayText none ∧ c.preDepth = 0 ∧ c.place = .between ∧
        Text.isBlankText s = false) { c with faults := c.faults.clear } c' := by
    unfold emitText
    refine Ensures.get_bind (Ensures.ite (fun _ => push_noting _ _) fun hpre => ?_)
    refine Ensures.ite (fun hbetween => Ensures.unless (fun hblank => ?_) fun _ => .refl _) fun _ => ?_
    · refine warn_noting ⟨rfl, Nat.eq_zero_of_not_pos hpre, ?_, by simpa using hblank⟩ _
      exact Converter.inTableSkeleton_iff.mp hbetween
    · refine Ensures.ite (fun _ => appendRun_noting _ _) fun _ => ?_
      exact Ensures.unless (fun _ => appendRun_noting _ _) fun _ => .refl _
  refine hemit.bind fun _ c' h => Ensures.pure ⟨rfl, ?_⟩
  exact ⟨h.table, h.preDepth, h.warned⟩

/-! ## Where a warning comes from -/

variable {policy : ImportantPolicy} {options : Options} {resolve : Image.Resolver} {output : Output}

/-- On coming to a node there is this warning. -/
def WarnsAt (doc : Document) (setting : Setting) (policy : ImportantPolicy) (w : Warning)
    (style : Style) (id : Nat) (c : Converter) : Prop :=
  ∃ flow c' ws, arrival doc setting policy style id c = .ok flow c' ∧
    c'.warnings = c.warnings ++ ws ∧ w ∈ ws

/-- There is a cause for it, or it is about a text between the cells of a table. -/
theorem WarnsAt.cause (h : WarnsAt doc setting policy w style id c) :
    c.preDepth = 0 ∧
      ((∃ s, doc.text? id = some s ∧ w = .ofFault strayText none ∧ c.place = .between ∧
        Text.isBlankText s = false) ∨
      ∃ e, doc.element? id = some e ∧
        Cause doc setting c.place id e (e.styleUnder policy style) w) := by
  obtain ⟨flow, c', ws, hv, hws, hmem⟩ := h
  have hnew : ∀ {W : Warning → Prop}, Warned W c c' → W w := by
    rintro W ⟨ws', hws', hW⟩
    rw [hws, List.append_cancel_left_eq] at hws'
    exact hW _ (hws' ▸ hmem)
  cases hn : doc.node? id with
  | none =>
    rw [arrival, hn] at hv
    cases hv
  | some node =>
    obtain ⟨content, parent, children⟩ := node
    rw [arrival, hn] at hv
    cases content with
    | text s =>
      obtain ⟨hw, hpre, hplace, hblank⟩ := hnew (visitText_notes setting s c flow c' hv).2.warned
      exact ⟨hpre, .inl ⟨s, by rw [Document.text?, hn], hw, hplace, hblank⟩⟩
    | element e =>
      rcases Nat.eq_zero_or_pos c.preDepth with hpre | hpre
      · exact ⟨hpre, .inr ⟨e, by rw [Document.element?, hn], hnew (enter_comes hpre flow c' hv).1⟩⟩
      · exact (hnew (enter_verbatim_notes hpre flow c' hv).2.warned).elim

/-- Coming to a node takes no warning back, and the walk goes on. -/
theorem arrival_warned {flow : Flow} (h : arrival doc setting policy style id c = .ok flow c') :
    flow ≠ .stop ∧ ∃ ws, c'.warnings = c.warnings ++ ws := by
  rw [arrival] at h
  cases hn : doc.node? id with
  | none =>
    rw [hn] at h
    cases h
  | some node =>
    obtain ⟨content, parent, children⟩ := node
    rw [hn] at h
    cases content with
    | text s =>
      obtain ⟨rfl, hnotes⟩ := visitText_notes setting s c flow c' h
      obtain ⟨ws, hws, -⟩ := hnotes.warned
      exact ⟨by decide, ws, hws⟩
    | element e =>
      rcases Nat.eq_zero_or_pos c.preDepth with hpre | hpre
      · obtain ⟨⟨ws, hws, -⟩, houtcome⟩ := enter_comes hpre flow c' h
        exact ⟨by cases houtcome <;> decide, ws, hws⟩
      · obtain ⟨rfl, hnotes⟩ := enter_verbatim_notes hpre flow c' h
        exact ⟨by decide, [], by rw [hnotes.warned.eq, List.append_nil]⟩

/-- A relation that is kept by coming to a node and by leaving an element is kept by a whole traversal,
wherever it succeeds. -/
theorem tracks_of_steps {event : Style → Nat → Converter → Prop} {R : Prop → Converter → Converter → Prop}
    (refl : ∀ c, R False c c)
    (trans : ∀ {p q c₁ c₂ c₃}, R p c₁ c₂ → R q c₂ c₃ → R (p ∨ q) c₁ c₃)
    (arrive : ∀ {style id flow c c'}, arrival doc setting policy style id c = .ok flow c' →
      R (event style id c) c c')
    (quit : ∀ {e c c'}, leave e c = .ok () c' → R False c c') :
    Tracks doc policy (visitor doc setting) event R fun _ => True where
  refl := refl
  trans := trans
  text := by
    intro id t style c ht
    have hcall : (visitor doc setting).text id t style c = arrival doc setting policy style id c := by
      rw [arrival_text ht]
      rfl
    rw [hcall]
    cases hv : arrival doc setting policy style id c with
    | error fault c' => trivial
    | ok flow c' => exact ⟨(arrival_warned hv).1, arrive hv⟩
  element := by
    intro id e style c he
    have hcall : (visitor doc setting).enter id e (e.styleUnder policy style) c =
        arrival doc setting policy style id c := by
      rw [arrival_element he]
      rfl
    rw [hcall]
    cases hv : arrival doc setting policy style id c with
    | error fault c' => trivial
    | ok flow c₁ =>
      refine ⟨(arrival_warned hv).1, fun p c₂ hbelow => ?_⟩
      have hcall : (visitor doc setting).leave id e (e.styleUnder policy style) c₂ = leave e c₂ := rfl
      rw [hcall]
      cases hl : leave e c₂ with
      | error fault c' => trivial
      | ok _ c₃ =>
        have hall := trans (trans (arrive hv) hbelow) (quit hl)
        rwa [or_false] at hall

/-- The warnings are kept, and where this one is new there was a moment for it. -/
def Raised (w : Warning) (p : Prop) (c c' : Converter) : Prop :=
  ∃ ws, c'.warnings = c.warnings ++ ws ∧ (w ∈ ws → p)

theorem raised_tracks (doc : Document) (setting : Setting) (policy : ImportantPolicy) (w : Warning) :
    Tracks doc policy (visitor doc setting) (WarnsAt doc setting policy w) (Raised w) fun _ => True := by
  refine tracks_of_steps (fun c => ⟨[], by simp, by simp⟩) ?_ ?_ ?_
  · rintro p q c₁ c₂ c₃ ⟨ws, hws, hp⟩ ⟨ws', hws', hq⟩
    refine ⟨ws ++ ws', by rw [hws', hws, List.append_assoc], fun hw => ?_⟩
    exact (List.mem_append.mp hw).imp hp hq
  · intro style id flow c c' hv
    obtain ⟨-, ws, hws⟩ := arrival_warned hv
    exact ⟨ws, hws, fun hw => ⟨flow, c', ws, hv, hws, hw⟩⟩
  · intro e c c' hl
    exact ⟨[], by rw [(leave_goesOn e c () c' hl).warnings, List.append_nil], by simp⟩

/-- Each warning of a run was given on coming to some node. -/
theorem warning_raised {root : Nat} (h : runFrom doc setting root = .ok c) (hw : w ∈ c.warnings) :
    Happens doc setting.options.importantPolicy (visitor doc setting)
      (WarnsAt doc setting setting.options.importantPolicy w) Style.empty [root] Converter.start := by
  obtain ⟨ws, hws, hraised⟩ := runFrom_ends (raised_tracks doc setting _ w) h
  rw [hws] at hw
  exact hraised (by simpa [Converter.start] using hw)

end MarkupTex.Convert
