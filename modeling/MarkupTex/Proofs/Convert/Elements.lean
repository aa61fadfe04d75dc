import MarkupTex.Proofs.Convert.Tables
import MarkupTex.Proofs.Document.Traversal
/-!
# Entering and leaving an element

What an element does when it is entered is one of a few things, and its `Scope` says what has to be
undone at its end.  `leave_yields` is the reason why nothing is left over: if what was below the element
gave back all that it took, the closers in the frame are those of the scope, and they give back all that
the element took.
-/

set_option autoImplicit false

namespace MarkupTex

open Latex MarkupTex.Convert

/-- A frame of its own for an element that is entered. -/
def Converter.opened (c : Converter) (blocks : Bool) : Converter :=
  { c with
    frames := { saved := some c.formatting } :: c.frames
    blockContent := blocks
    faults := c.faults.clear }

/-- The frame of the element is taken off. -/
def Converter.popped (c : Converter) (frames : List Frame) : Converter :=
  { c with frames, faults := c.faults.clear }

/-- What held around the element holds again. -/
def Converter.restored (c : Converter) (f : Frame) : Converter :=
  { c with
    preDepth := if f.pre then c.preDepth - 1 else c.preDepth
    listDepth := if f.list then c.listDepth - 1 else c.listDepth
    formatting := f.saved.getD c.formatting }

namespace Convert

variable {o : Options} {c c' c₁ c₂ : Converter} {e : Element} {style : Style}

/-! ## The steps of a visit -/

section Steps

variable {doc : Document} {setting : Setting} {id : Nat} {f : Frame} {fs : List Frame}

theorem enter_opened (c : Converter) :
    enter doc setting id e style c =
      (if 0 < c.preDepth then openVerbatim e else openElement doc setting id e style)
        (c.opened (c.preDepth = 0 && mayFormat e style && doc.hasBlockContent id)) := rfl

/-- Entering an element outside of verbatim blocks is a frame and its handler. -/
theorem enter_eq (hpre : c.preDepth = 0) :
    enter doc setting id e style c =
      openElement doc setting id e style (c.opened (mayFormat e style && doc.hasBlockContent id)) := by
  have hflag : (c.preDepth = 0 && mayFormat e style && doc.hasBlockContent id) =
      (mayFormat e style && doc.hasBlockContent id) := by simp [hpre]
  rw [enter_opened, hflag, if_neg (by simp [hpre])]

/-- In a verbatim block the handler is the same for all elements. -/
theorem enter_eq_verbatim (hpre : 0 < c.preDepth) :
    enter doc setting id e style c = openVerbatim e (c.opened false) := by
  have hflag : (c.preDepth = 0 && mayFormat e style && doc.hasBlockContent id) = false := by
    simp [Nat.ne_of_gt hpre]
  rw [enter_opened, hflag, if_pos hpre]

/-- Leaving an element takes off its frame, writes what is owed at its end, and goes back to what held around
it. -/
theorem leave_eq (hf : c.frames = f :: fs) :
    leave e c = (closeElement e f >>= fun _ => modify (·.restored f)) (c.popped fs) := by
  have hclear : ∀ next : Unit → Conversion Unit, (clearFaults >>= next) c =
      next () { c with faults := c.faults.clear } := fun _ => rfl
  have hget : ∀ (next : Converter → Conversion Unit) (c : Converter), (get >>= next) c = next c c :=
    fun _ _ => rfl
  rw [leave, hclear, hget, hf]
  rfl

/-- The frame of an element that began neither a cell nor a table is all that it closes, but for the end of a
row. -/
theorem closeElement_cases (e : Element) (houter : f.outerTable = none) (hcell : f.cellBraces = none) :
    closeElement e f = closeFrame f ∨ closeElement e f = closeRow f := by
  unfold closeElement
  split
  · exact .inl (by rw [hcell]; rfl)
  · refine .inl ?_
    rw [closeTable, houter]
    exact bind_pure_unit
  · exact .inr rfl
  · exact .inl rfl

end Steps

/-- What an element opened when it was entered. -/
inductive Scope where
  | plain (ops : List Opening)
  | cell (ops : List Opening)
  | table (nested : Bool)

/-- What was done on entering an element, from the state with its frame on. -/
inductive Entered (o : Options) (e : Element) (c : Converter) : Scope → Converter → Prop where
  | opens {ops : List Opening} {c' : Converter} (h : Opens o ops c c')
      (verbatim : ∀ op ∈ ops, op.isVerbatim → e.tag = .preformatted ∧ ops = [op]) :
      Entered o e c (.plain ops) c'
  | row {c' : Converter} (h : AddsRow o c c') : Entered o e c (.plain []) c'
  | cell {header : Bool} {colspan : Nat} {ops : List Opening} {c' : Converter}
      (tag : e.tag = .tableCell header colspan) (h : BeginsCell o ops c c')
      (verbatim : ∀ op ∈ ops, op.isVerbatim = false) : Entered o e c (.cell ops) c'
  | table {t : TableState} {c' : Converter} (tag : e.tag = .table) (h : BeginsTable o t c c') :
      Entered o e c (.table t.nested) c'

/-- What was done on leaving an element with the frame `f`, from the state with the frame off. -/
inductive Left (o : Options) (f : Frame) (c : Converter) : Scope → Converter → Prop where
  | closes {ops : List Opening} {c₁ c' : Converter} (h : Closes o ops c c₁) (rest : Opens o [] c₁ c') :
      Left o f c (.plain ops) c'
  | cell {ops : List Opening} {c' : Converter} (h : EndsCell o ops c c') : Left o f c (.cell ops) c'
  | table {nested : Bool} {outer : Option TableState} {c' : Converter}
      (put : f.outerTable = some outer) (h : EndsTable o nested outer c c') :
      Left o f c (.table nested) c'

/-! ## Entering -/

/-- The handler of an element goes on with the walk and has entered the element. -/
def Enters (o : Options) (e : Element) (m : Conversion Flow) (c : Converter) : Prop :=
  Yields m c fun flow c' => flow ≠ .stop ∧ ∃ scope, Entered o e c scope c'

theorem Enters.of_proceeds {m : Conversion Flow} (h : Proceeds o m c) : Enters o e m c :=
  h.mono fun _ _ ⟨hflow, ops, hops, ho⟩ => ⟨hflow, .plain ops, .opens ho fun op hop hv => by
    rw [hops op hop] at hv
    cases hv⟩

/-- A handler that only edits, and skips what is below. -/
theorem Enters.skip {m : Conversion Unit} (h : Yields m c fun _ c' => Opens o [] c c') :
    Enters o e (m >>= fun _ => pure .skipChildren) c :=
  h.bind fun _ _ ho => Yields.pure ⟨by decide, .plain [], .opens ho (by simp)⟩

theorem openElement_enters (doc : Document) (setting : Setting) (id : Nat) (hc : Fresh c) :
    Enters setting.options e (openElement doc setting id e style) c := by
  have hf := hc.framed
  unfold openElement
  cases htag : e.tag with
  | document | html | body | tableSection | head | title | script | style =>
    exact .of_proceeds (.pure (by decide))
  | paragraph => exact .of_proceeds (openParagraph_proceeds hf)
  | division => exact .of_proceeds (openDivision_proceeds hf)
  | center => exact .of_proceeds (openEnvironment_proceeds hf .center)
  | blockquote => exact .of_proceeds (openEnvironment_proceeds hf .quote)
  | heading level => exact .of_proceeds (openHeading_proceeds hf level)
  | preformatted =>
    exact (openPreformatted_yields hc).mono fun _ _ ⟨hflow, ops, halone, ho⟩ =>
      ⟨hflow, .plain ops, .opens ho fun op hop hv => ⟨htag, halone op hop hv⟩⟩
  | bold => exact .of_proceeds (openEmphasis_proceeds hf .bold)
  | italic => exact .of_proceeds (openEmphasis_proceeds hf .italic)
  | underline => exact .of_proceeds (openEmphasis_proceeds hf .underline)
  | strike => exact .of_proceeds (openStrike_proceeds hf)
  | code => exact .of_proceeds (openCode_proceeds hf)
  | subscript => exact .of_proceeds (openCommand_proceeds hf rfl)
  | superscript => exact .of_proceeds (openCommand_proceeds hf rfl)
  | anchor => exact .of_proceeds (openAnchor_proceeds hf)
  | span | font => exact .of_proceeds (openSpan_proceeds hf)
  | unorderedList => exact .of_proceeds (openList_proceeds hc .bulleted)
  | orderedList => exact .of_proceeds (openList_proceeds hc .numbered)
  | descriptionList => exact .of_proceeds (openList_proceeds hc .described)
  | listItem | descriptionTerm | descriptionDetails => exact .of_proceeds (openListItem_proceeds hf)
  | table =>
    refine (openTable_yields doc setting id hf).mono ?_
    rintro flow c' ⟨hflow, ho | ⟨t, ht⟩⟩
    · exact ⟨hflow, .plain [], .opens ho (by simp)⟩
    · exact ⟨hflow, .table t.nested, .table htag ht⟩
  | tableRow => exact .of_proceeds (openRow_proceeds setting hf)
  | tableCell header colspan =>
    refine (openCell_yields (o := setting.options) header colspan hf).mono ?_
    rintro flow c' ⟨hflow, ⟨ops, hops, ho⟩ | ⟨ops, hops, ho⟩⟩
    · exact ⟨hflow, .plain ops, .opens ho fun op hop hv => by rw [hops op hop] at hv; cases hv⟩
    · exact ⟨hflow, .cell ops, .cell htag ho hops⟩
  | caption =>
    exact .of_proceeds (.editThen (stageCaption_opens doc id) fun _ c₁ h₁ =>
      .ite (fun _ => .pure (by decide)) fun _ => openParagraph_proceeds (h₁.framed hf))
  | image =>
    refine (openImage_yields doc setting id).bind ?_
    rintro _ c' (ho | hs)
    · exact Yields.pure ⟨by decide, .plain [], .opens ho (by simp)⟩
    · exact Yields.pure ⟨by decide, .plain [], .row hs⟩
  | horizontalRule => exact .skip horizontalRule_works
  | lineBreak => exact .skip lineBreak_works
  | other name =>
    exact .of_proceeds (.after (reportUnknown_steady name) hf fun _ c₁ hc₁ =>
      .descend (applyStyle_steady e style c₁ hc₁))

/-- In a verbatim block a line break is a line end, which may be the second in a row. -/
theorem openVerbatim_enters (hpre : 0 < c.preDepth) : Enters o e (openVerbatim e) c := by
  have hpiece : Piece o c [.char '\n'] :=
    .of_tame (fun _ => rfl) rfl fun ht => absurd ht.pre (Nat.pos_iff_ne_zero.mp hpre)
  refine .of_proceeds ?_
  unfold openVerbatim
  refine .ite (fun _ => .descend ?_) fun _ => .pure (by decide)
  exact (push_yields [.char '\n'] rfl).mono fun _ _ hw => .of_edit (.write hw hpiece rfl)

theorem fresh_opened (c : Converter) (blocks : Bool) : Fresh (c.opened blocks) :=
  ⟨_, _, rfl, rfl, rfl⟩

/-- Entering an element puts on a frame, and does one of the things that a scope stands for. -/
theorem enter_yields (doc : Document) (setting : Setting) (id : Nat) (e : Element) (style : Style)
    (c : Converter) : Yields (enter doc setting id e style) c fun flow c' => flow ≠ .stop ∧
      ∃ blocks scope, Entered setting.options e (c.opened blocks) scope c' := by
  rcases Nat.eq_zero_or_pos c.preDepth with hpre | hpre
  · refine Yields.congr ?_ (enter_eq hpre)
    exact (openElement_enters doc setting id (fresh_opened c _)).mono
      fun _ _ ⟨hflow, scope, hs⟩ => ⟨hflow, _, scope, hs⟩
  · refine Yields.congr ?_ (enter_eq_verbatim hpre)
    exact (openVerbatim_enters (c := c.opened false) hpre).mono
      fun _ _ ⟨hflow, scope, hs⟩ => ⟨hflow, _, scope, hs⟩

/-- In a verbatim block an element opens nothing, and writes no more than a line end. -/
theorem enter_verbatim {doc : Document} {setting : Setting} {id : Nat} (hpre : 0 < c.preDepth) :
    Yields (enter doc setting id e style) c fun flow c' => flow = .descend ∧
      ∃ blocks, Wrote (if e.tag = .lineBreak then [.char '\n'] else []) (c.opened blocks) c' := by
  refine Yields.congr ?_ (enter_eq_verbatim hpre)
  unfold openVerbatim
  by_cases hbreak : e.tag = .lineBreak
  · rw [if_pos hbreak]
    simp only [if_pos hbreak]
    exact (push_yields [.char '\n'] rfl).bind fun _ _ hw => Yields.pure ⟨rfl, _, hw⟩
  · rw [if_neg hbreak]
    simp only [if_neg hbreak]
    exact Yields.pure ⟨rfl, _, .nil⟩

theorem AddsRow.of_wrote_nil (hw : Wrote [] c c₁) (h : AddsRow o c₁ c') : AddsRow o c c' := by
  obtain ⟨ts, hpiece, hw'⟩ := h
  have houtput : c₁.output = c.output := by simpa using hw.output
  refine ⟨ts, ⟨hpiece.nests, hpiece.guarded, fun ht => hpiece.known ?_, fun ht hd =>
    hpiece.fits ?_ ?_, fun ht hd => houtput ▸ hpiece.single ?_ ?_⟩, hw.trans hw'⟩
  all_goals obtain ⟨b, _, _, _, _, rfl, -⟩ := hw
  all_goals first
    | exact hd
    | exact ⟨ht.pre, ht.formatting⟩

/-- At a text one row is written at most. -/
theorem visitText_addsRow (setting : Setting) (s : String) (c : Converter) :
    Yields (visitText setting s) c fun flow c' => flow ≠ .stop ∧ AddsRow o c c' := by
  have hclear : Wrote [] c { c with faults := c.faults.clear } :=
    ⟨c.buffer, c.figures, c.images, c.warnings, _, rfl, by simp [Converter.output]⟩
  exact Yields.modify_bind ((emitText_addsRow setting s).bind fun _ _ hs =>
    Yields.pure ⟨by decide, hs.of_wrote_nil hclear⟩)

/-! ## Leaving -/

/-- All that belongs to an element is as it was. -/
structure Restored (c c' : Converter) : Prop where
  frames : c'.frames = c.frames
  openBraces : c'.openBraces = c.openBraces
  argumentDepth : c'.argumentDepth = c.argumentDepth
  listDepth : c'.listDepth = c.listDepth
  preDepth : c'.preDepth = c.preDepth
  formatting : c'.formatting = c.formatting
  table : c'.table.map TableState.core = c.table.map TableState.core

namespace Restored

theorem refl (c : Converter) : Restored c c := ⟨rfl, rfl, rfl, rfl, rfl, rfl, rfl⟩

theorem trans (h : Restored c c₁) (h' : Restored c₁ c') : Restored c c' :=
  ⟨h'.frames.trans h.frames, h'.openBraces.trans h.openBraces,
    h'.argumentDepth.trans h.argumentDepth, h'.listDepth.trans h.listDepth,
    h'.preDepth.trans h.preDepth, h'.formatting.trans h.formatting, h'.table.trans h.table⟩

end Restored

/-- The constructs of a scope. -/
def Scope.openings : Scope → List Opening
  | plain ops | cell ops => ops
  | table _ => []

/-- What a scope does to the table, and the kinds of element that can have it. -/
def Scope.Places (e : Element) (f : Frame) (c c' : Converter) : Scope → Prop
  | plain _ => f.outerTable = none ∧ f.cellBraces = none ∧
    c'.table.map TableState.core = c.table.map TableState.core
  | cell _ => (∃ header colspan, e.tag = .tableCell header colspan) ∧
    f.cellBraces = some c.openBraces ∧ ∃ t, c.table = some t ∧ t.inCell = false ∧
      c'.table.map TableState.core = some { t.core with inCell := true }
  | table nested => e.tag = .table ∧ (nested = false → c.argumentDepth = 0) ∧
    ∃ t outer, c'.table = some t ∧ t.nested = nested ∧ f.outerTable = some outer ∧
      outer.map TableState.core = c.table.map TableState.core

/-- What is owed for an element that was entered in `c`: the frame `f` holds the closers of the scope,
and the counters have gone up by what these will bring them down. -/
structure Owed (e : Element) (scope : Scope) (f : Frame) (c c' : Converter) : Prop where
  frames : c'.frames = f :: c.frames
  closers : f.closers = scope.openings.flatMap Opening.closers
  saved : f.saved = some c.formatting
  openBraces : c'.openBraces = c.openBraces + bracesOf scope.openings
  argumentDepth : c'.argumentDepth = c.argumentDepth + argumentsOf scope.openings
  ordered : Ordered c.argumentDepth scope.openings
  preDepth : c'.preDepth = c.preDepth + f.pre.toNat
  listDepth : c'.listDepth = c.listDepth + f.list.toNat
  places : scope.Places e f c c'

theorem Entered.owed {scope : Scope} {blocks : Bool} (h : Entered o e (c.opened blocks) scope c₁) :
    ∃ f, Owed e scope f c c₁ := by
  cases h with
  | @opens ops _ h =>
    obtain ⟨⟨f, hf, hclosers, hsaved, houter, hcell, -, hpre, hlist⟩, hb, ha, ho, ht⟩ := h.tally rfl
    exact ⟨f, hf, hclosers.trans (List.append_nil _), hsaved, hb, ha, ho, hpre, hlist, houter, hcell, ht⟩
  | row h =>
    obtain ⟨ts, -, hw⟩ := h
    have hk := hw.keeps
    exact ⟨{ saved := some c.formatting }, hk.frames, rfl, rfl, hk.openBraces, hk.argumentDepth, trivial,
      hk.preDepth, hk.listDepth, rfl, rfl, hk.table⟩
  | @cell header colspan ops _ tag h =>
    obtain ⟨c', padding, hsome, hcell, hbefore, hops⟩ := h
    have hk := hbefore.keeps
    -- The mark of the cell is put on the frame before anything is opened in it.
    have hframes : (c'.enterCell padding).frames =
        { saved := some c.formatting, cellBraces := some c'.openBraces, padding } :: c.frames := by
      simp [Converter.enterCell, hk.frames, Converter.opened]
    obtain ⟨⟨f, hf, hclosers, hsaved, houter, hbraces, -, hpre, hlist⟩, hb, ha, ho, ht⟩ :=
      hops.tally hframes
    have hbraces₀ : (c'.enterCell padding).openBraces = c.openBraces := hk.openBraces
    have hdepth₀ : (c'.enterCell padding).argumentDepth = c.argumentDepth := hk.argumentDepth
    have hpre₀ : (c'.enterCell padding).preDepth = c.preDepth := hk.preDepth
    have hlist₀ : (c'.enterCell padding).listDepth = c.listDepth := hk.listDepth
    rw [hbraces₀] at hb
    rw [hdepth₀] at ha ho
    rw [hpre₀] at hpre
    rw [hlist₀] at hlist
    rw [hk.openBraces] at hbraces
    obtain ⟨t, htable⟩ := Option.isSome_iff_exists.mp hsome
    have htable : c.table = some t := htable
    refine ⟨f, hf, hclosers.trans (List.append_nil _), hsaved, hb, ha, ho, hpre, hlist,
      ⟨header, colspan, tag⟩, hbraces, t, htable, ?_, ht.trans ?_⟩
    · simpa [Converter.inCell, Converter.opened, htable] using hcell
    · obtain ⟨t', ht', hcore⟩ : ∃ t', c'.table = some t' ∧ t'.core = t.core := by
        simpa [Converter.opened, htable] using hk.table
      rw [Converter.enterCell, ht', ← hcore]
      rfl
  | @table t _ tag h =>
    obtain ⟨ts, c', c'', hflat, hbefore, -, -, hw, rfl⟩ := h
    have hk := hbefore.keeps.trans hw.keeps
    have hframes : (c''.install t).frames =
        { saved := some c.formatting, outerTable := some c''.table } :: c.frames := by
      simp [Converter.install, hk.frames, Converter.opened]
    exact ⟨_, hframes, rfl, rfl, hk.openBraces, hk.argumentDepth, trivial, hk.preDepth, hk.listDepth,
      tag, hflat, t, c''.table, rfl, rfl, rfl, hk.table⟩

/-- In a table an element is entered into a table again. -/
theorem Owed.table_isSome {scope : Scope} {f : Frame} (h : Owed e scope f c c₁) (ht : c.table.isSome) :
    c₁.table.isSome := by
  have hplaces := h.places
  cases scope with
  | plain ops => rw [← Option.isSome_map (f := TableState.core), hplaces.2.2, Option.isSome_map, ht]
  | cell ops =>
    obtain ⟨-, -, t, -, -, hcore⟩ := hplaces
    rw [← Option.isSome_map (f := TableState.core), hcore]
    rfl
  | table nested =>
    obtain ⟨-, -, t, outer, ht, -⟩ := hplaces
    rw [ht]
    rfl

theorem Left.gaveBack {scope : Scope} {f : Frame} (h : Left o f c scope c') :
    GaveBack scope.openings c c' := by
  cases h with
  | closes h rest =>
    have := h.gaveBack.trans rest.keeps.gaveBack
    rwa [List.append_nil] at this
  | cell h =>
    obtain ⟨c₁, c₂, c₃, hbefore, hclosed, hafter, rfl⟩ := h
    have hcell : GaveBack [] c₃ c₃.leaveCell := ⟨rfl, rfl, rfl, rfl, rfl⟩
    have := hbefore.keeps.gaveBack.trans
      (hclosed.gaveBack.trans (hafter.keeps.gaveBack.trans hcell))
    rwa [List.append_nil, List.append_nil] at this
  | @table _ outer _ _ h =>
    obtain ⟨ts, c₁, c₂, c₃, hbefore, -, -, hw, hafter, rfl⟩ := h
    have hfirst : GaveBack [] c { c with table := none } := ⟨rfl, rfl, rfl, rfl, rfl⟩
    have hlast : GaveBack [] c₃ { c₃ with table := outer } := ⟨rfl, rfl, rfl, rfl, rfl⟩
    exact hfirst.trans ((hbefore.keeps.trans (hw.keeps.trans hafter.keeps)).gaveBack.trans hlast)

/-- The table after an element was left, if it was given back by what is below. -/
theorem Left.table_core {scope : Scope} {f : Frame} (h : Left o f (c₂.popped c.frames) scope c')
    (hplaces : scope.Places e f c c₁)
    (ht : c₂.table.map TableState.core = c₁.table.map TableState.core) :
    c'.table.map TableState.core = c.table.map TableState.core := by
  cases h with
  | closes h rest =>
    obtain ⟨-, -, hcore⟩ := hplaces
    exact rest.keeps.table.trans (h.table.trans (ht.trans hcore))
  | cell h =>
    obtain ⟨-, -, t, htable, hcell, hcore⟩ := hplaces
    obtain ⟨c₃, c₄, c₅, hbefore, hclosed, hafter, rfl⟩ := h
    have hlast := hafter.keeps.table.trans (hclosed.table.trans (hbefore.keeps.table.trans
      (ht.trans hcore)))
    obtain ⟨t', ht', hcore'⟩ := Option.map_eq_some_iff.mp hlast
    rw [Converter.leaveCell, ht', htable]
    -- The mark of a cell is off again, as it was before.
    have hoff : ({ t' with inCell := false } : TableState).core = { t'.core with inCell := false } := rfl
    have hsame : ({ t.core with inCell := false } : TableState) = t.core := by
      rw [← hcell]
      rfl
    exact congrArg some (by rw [hoff, hcore', ← hsame])
  | table put h =>
    obtain ⟨-, -, t, outer, -, -, houter, hcore⟩ := hplaces
    obtain ⟨ts, c₃, c₄, c₅, -, -, -, -, -, rfl⟩ := h
    rw [put] at houter
    cases houter
    exact hcore

/-- What was owed has been given back. -/
theorem Owed.restored {scope : Scope} {f : Frame} (howed : Owed e scope f c c₁)
    (hr : Restored c₁ c₂) (h : Left o f (c₂.popped c.frames) scope c') :
    Restored c (c'.restored f) := by
  have hg := h.gaveBack
  refine ⟨hg.frames, ?_, ?_, ?_, ?_, ?_, h.table_core howed.places hr.table⟩
  · have : c'.openBraces = c₂.openBraces - bracesOf scope.openings := hg.openBraces
    exact this.trans (by rw [hr.openBraces, howed.openBraces, Nat.add_sub_cancel])
  · have : c'.argumentDepth = c₂.argumentDepth - argumentsOf scope.openings := hg.argumentDepth
    exact this.trans (by rw [hr.argumentDepth, howed.argumentDepth, Nat.add_sub_cancel])
  · have : c'.listDepth = c₂.listDepth := hg.listDepth
    rw [Converter.restored, this, hr.listDepth, howed.listDepth]
    cases f.list <;> simp
  · have : c'.preDepth = c₂.preDepth := hg.preDepth
    rw [Converter.restored, this, hr.preDepth, howed.preDepth]
    cases f.pre <;> simp
  · rw [Converter.restored, howed.saved]
    rfl

/-- The end of an element does what its scope is owed. -/
theorem closeElement_yields {scope : Scope} {f : Frame} (howed : Owed e scope f c c₁)
    (hr : Restored c₁ c₂) :
    Yields (closeElement e f) (c₂.popped c.frames) fun _ c' =>
      Left o f (c₂.popped c.frames) scope c' := by
  have hdepth : (c₂.popped c.frames).argumentDepth =
      c.argumentDepth + argumentsOf scope.openings := hr.argumentDepth.trans howed.argumentDepth
  have hbraces : (c₂.popped c.frames).openBraces = c.openBraces + bracesOf scope.openings :=
    hr.openBraces.trans howed.openBraces
  have hclosers := howed.closers
  have hordered := howed.ordered
  cases scope with
  | plain ops =>
    obtain ⟨houter, hcell, -⟩ := howed.places
    have hclose : Yields (closeFrame f) (c₂.popped c.frames) fun _ c' =>
        Closes o ops (c₂.popped c.frames) c' := by
      unfold closeFrame
      rw [hclosers]
      exact closes_yields hordered hdepth
    -- By its tag the element might be a cell or a table, but its frame says that it began none.
    rcases closeElement_cases e houter hcell with heq | heq
    · rw [heq]
      exact hclose.mono fun _ _ h => .closes h (.refl _)
    · rw [heq]
      exact hclose.bind fun _ _ h => Yields.modifies (.closes h (modifyTable_opens fun _ => rfl))
  | cell ops =>
    obtain ⟨⟨header, colspan, htag⟩, hcell, -⟩ := howed.places
    unfold closeElement
    rw [htag, hcell]
    exact (closeCell_yields hclosers hcell hbraces hordered hdepth).mono fun _ _ h => .cell h
  | table nested =>
    obtain ⟨htag, hflat, t, outer, ht, hnested, houter, -⟩ := howed.places
    -- The table at the end is the one of the beginning, as all below has given back what it took.
    obtain ⟨t', ht', hcore⟩ : ∃ t', c₂.table = some t' ∧ t'.core = t.core := by
      simpa [ht] using hr.table
    have hsame : t'.nested = nested := (congrArg TableState.nested hcore).trans hnested
    unfold closeElement
    rw [htag]
    have htable : (c₂.popped c.frames).table = some t' := ht'
    refine (closeTable_yields hclosers houter htable fun hn => ?_).mono fun _ _ h =>
      Left.table houter (hsame ▸ h)
    exact hdepth.trans (hflat (hsame ▸ hn))

theorem leave_yields {scope : Scope} {f : Frame} (howed : Owed e scope f c c₁)
    (hr : Restored c₁ c₂) :
    Yields (leave e) c₂ fun _ c' =>
      ∃ c₃, Left o f (c₂.popped c.frames) scope c₃ ∧ c' = c₃.restored f := by
  refine Yields.congr ?_ (leave_eq (hr.frames.trans howed.frames))
  exact (closeElement_yields (o := o) howed hr).bind fun _ c₃ h => Yields.modifies ⟨c₃, h, rfl⟩

end Convert

end MarkupTex
