import MarkupTex.Proofs.Convert.Closing
import MarkupTex.Proofs.Convert.Images
/-!
# Tables, rows and cells

A table and a cell change more than an opening does: a table puts away the state around it, and a cell
remembers how many braces are open.  So each has a relation of its own for its beginning and for its
end.  What lies between the two is made of openings and closings again.
-/

set_option autoImplicit false

namespace MarkupTex

open Latex MarkupTex.Convert

/-- Makes a table the current one, and puts the one around it into the frame. -/
def Converter.install (c : Converter) (t : TableState) : Converter :=
  { c with
    table := some t
    formatting := {}
    frames := match c.frames with
      | [] => []
      | f :: fs => { f with outerTable := some c.table } :: fs }

/-- Goes into a cell, and puts the number of open braces into the frame. -/
def Converter.enterCell (c : Converter) (padding : Nat) : Converter :=
  { c with
    table := c.table.map fun t => { t with inCell := true }
    frames := match c.frames with
      | [] => []
      | f :: fs => { f with cellBraces := some c.openBraces, padding } :: fs }

def Converter.leaveCell (c : Converter) : Converter :=
  { c with table := c.table.map fun t => { t with inCell := false } }

namespace Convert

open Token

variable {o : Options} {c c' c₁ : Converter} {e : Element} {style : Style} {ts : List Token}

/-- What a table opens: a grid, in a float unless it is nested. -/
def tableBrackets (nested : Bool) : List Bracket :=
  .environment "tabular".toList :: if nested then [] else [.environment "table".toList]

/-- A table is begun. -/
def BeginsTable (o : Options) (t : TableState) (c c' : Converter) : Prop :=
  ∃ ts c₁ c₂, (t.nested = false → Flat c) ∧ Opens o [] c c₁ ∧
    Turns o [] (tableBrackets t.nested) c₁ ts ∧ letterFirst ts = false ∧ Wrote ts c₁ c₂ ∧
    c' = c₂.install t

/-- A table is ended, and the one around it is current again. -/
def EndsTable (o : Options) (nested : Bool) (outer : Option TableState) (c c' : Converter) : Prop :=
  ∃ ts c₁ c₂ c₃, Opens o [] { c with table := none } c₁ ∧
    Turns o (tableBrackets nested) [] c₁ ts ∧ letterFirst ts = false ∧ Wrote ts c₁ c₂ ∧
    Opens o [] c₂ c₃ ∧ c' = { c₃ with table := outer }

/-- A cell is begun, and constructs in it. -/
def BeginsCell (o : Options) (ops : List Opening) (c c' : Converter) : Prop :=
  ∃ c₁ padding, c.table.isSome ∧ c.inCell = false ∧ Opens o [] c c₁ ∧
    Opens o ops (c₁.enterCell padding) c'

/-- The constructs in a cell are closed, and the cell is ended. -/
def EndsCell (o : Options) (ops : List Opening) (c c' : Converter) : Prop :=
  ∃ c₁ c₂ c₃, Opens o [] c c₁ ∧ Closes o ops c₁ c₂ ∧ Opens o [] c₂ c₃ ∧ c' = c₃.leaveCell

/-! ## Beginning a table -/

theorem columnSpec_plain (columns : Nat) (borders : Bool) :
    (columnSpec columns borders).toList.all isPlain := by
  unfold columnSpec
  have hplain := repeated_plain (s := "l") (by decide) columns
  have hlines := repeated_plain (s := "l|") (by decide) columns
  cases borders with
  | false => exact hplain
  | true =>
    rw [if_pos rfl, String.toList_append, List.all_append, hlines]
    rfl

/-- The beginning of a grid, and a line above it if cells have borders. -/
def gridStart (columns : String) (borders : Bool) : List Token :=
  tabularStart columns ++ if borders = true then [word "hline", char '\n'] else []

theorem fluent_gridStart {columns : String} (h : columns.toList.all isPlain) (borders : Bool) :
    fluent (gridStart columns borders) := by
  cases borders with
  | false => exact fluent_append (fluent_tabularStart h) rfl
  | true => exact fluent_append (fluent_tabularStart h) rfl

theorem nest_gridStart (columns : String) (borders : Bool) (stack : List Bracket) :
    nest stack (gridStart columns borders) = some (.environment "tabular".toList :: stack) := by
  rw [gridStart, nest_append, nest_tabularStart, Option.bind_some]
  cases borders <;> rfl

theorem installTable_yields (hc : Framed c) (t : TableState) :
    Yields (installTable t) c fun _ c' => c' = c.install t := by
  obtain ⟨f, fs, hf⟩ := hc.exists
  unfold installTable
  refine Yields.get_bind (Yields.modify_bind (modifyFrame_bind hf (Yields.modifies ?_)))
  rw [Converter.install, hf]

/-- The grid itself, up to its first row. -/
theorem beginGrid_yields (hc : Framed c) (columns : Nat) (borders : Bool) (t : TableState) :
    Yields (do
        push (beginEnvironment "tabular" ++ braced (columnSpec columns borders) ++ "\n")
        if borders then push "\\hline\n"
        installTable t) c fun _ c' =>
      ∃ c₁, Wrote (gridStart (columnSpec columns borders) borders) c c₁ ∧ c' = c₁.install t := by
  refine (push_yields _ (tabularStart_spell _)).bind fun _ c₁ h₁ => ?_
  cases borders with
  | false =>
    refine (installTable_yields (h₁.framed hc) t).mono ?_
    rintro _ _ rfl
    exact ⟨c₁, h₁.trans .nil, rfl⟩
  | true =>
    refine (push_yields [word "hline", char '\n'] rfl).bind fun _ c₂ h₂ => ?_
    refine (installTable_yields (h₂.framed (h₁.framed hc)) t).mono ?_
    rintro _ _ rfl
    exact ⟨c₂, h₁.trans h₂, rfl⟩

/-- The beginning of the float around a table. -/
def floatStart : List Token :=
  [beginEnv "table", char '[', char 'h', char ']', char '\n', word "centering", char '\n']

theorem nextTable_opens : Yields nextTable c fun _ c' => Opens o [] c c' :=
  Yields.modify_bind (Yields.pure (.of_edit
    (.note _ c.figures c.images c.blockContent c.warnings c.faults c.reported)))

theorem beginTable_yields (doc : Document) (setting : Setting) (id : Nat) (hc : Framed c)
    {bare : Bool} (hflat : bare = false → Flat c) :
    Yields (beginTable doc setting id e bare) c fun _ c' =>
      ∃ t : TableState, t.nested = bare ∧ BeginsTable setting.options t c c' := by
  unfold beginTable
  extract_lets columns borders begun
  have hplain := columnSpec_plain columns borders
  have hgrid := fluent_gridStart hplain borders
  cases bare with
  | true =>
    refine (spaceApart_opens (o := setting.options)).bind fun _ c₁ h₁ => ?_
    refine (beginGrid_yields (h₁.framed hc) columns borders _).mono ?_
    rintro _ _ ⟨c₂, h₂, rfl⟩
    refine ⟨_, rfl, _, c₁, c₂, Bool.noConfusion, h₁, .of_fluent ?_ hgrid, rfl, h₂, rfl⟩
    exact nest_gridStart _ borders
  | false =>
    have hflat := hflat rfl
    refine (nextTable_opens (o := setting.options)).bind fun number c₁ h₁ => ?_
    refine (paragraphBreak_opens (o := setting.options) (h₁.flat hflat)).bind fun _ c₂ h₂ => ?_
    have h₁₂ := h₁.trans h₂
    refine (push_yields floatStart rfl).bind fun _ c₃ h₃ => ?_
    refine (beginGrid_yields (h₃.framed (h₁₂.framed hc)) columns borders _).mono ?_
    rintro _ _ ⟨c₄, h₄, rfl⟩
    refine ⟨_, rfl, _, c₂, c₄, fun _ => hflat, h₁₂, .of_sound (h₁₂.flat hflat) (fun stack => ?_) ?_,
      rfl, h₃.trans h₄, rfl⟩
    · rw [List.nil_append, nest_append]
      exact nest_gridStart _ borders _
    · exact sound_append rfl (sound_of_fluent _ hgrid)

/-- What the handler of a table does: it begins one, or leaves it out or makes it a figure. -/
theorem openTable_yields (doc : Document) (setting : Setting) (id : Nat) (hc : Framed c) :
    Yields (openTable doc setting id e) c fun flow c' => flow ≠ .stop ∧
      (Opens setting.options [] c c' ∨ ∃ t, BeginsTable setting.options t c c') := by
  unfold openTable
  refine Yields.get_bind (Yields.ite (fun _ => ?_) fun _ => ?_)
  · exact (warn_opens _ _).bind fun _ _ h => Yields.pure ⟨by decide, Or.inl h⟩
  · extract_lets bare
    have hflat : bare = false → Flat c := by
      intro h
      simp only [bare, Bool.or_eq_false_iff, decide_eq_false_iff_not] at h
      exact Nat.eq_zero_of_not_pos h.2
    refine Yields.ite (fun h => ?_) fun _ => ?_
    · simp only [Bool.and_eq_true, Bool.not_eq_true'] at h
      exact (pushImageGrid_opens doc setting id (hflat h.1)).bind fun _ _ h =>
        Yields.pure ⟨by decide, Or.inl h⟩
    · refine (beginTable_yields doc setting id hc hflat).bind ?_
      rintro _ _ ⟨t, -, ht⟩
      exact Yields.pure ⟨by decide, Or.inr ⟨t, ht⟩⟩

/-! ## Ending a table -/

theorem pushTableCaption_yields (t : TableState) :
    Yields (pushTableCaption t) c fun _ c' => ∃ caption, Words caption ∧ Wrote caption c c' := by
  unfold pushTableCaption
  split
  · exact (pushEscaped_yields _).mono fun _ _ hw => ⟨_, words_text _, hw⟩
  · have hname : ("Table " ++ toString t.number).toList.all isPlain := by
      rw [String.toList_append, List.all_append, all_isPlain_nat]
      rfl
    exact (push_yields _ (spell_chars _).symm).mono fun _ _ hw => ⟨_, words_chars hname, hw⟩

theorem tableName_plain (n : Nat) : ("table_" ++ toString n).toList.all isPlain := by
  rw [String.toList_append, List.all_append, all_isPlain_nat]
  rfl

/-- The end of a float, in one row. -/
theorem endFloat_yields (t : TableState) (hflat : Flat c) :
    Yields (endFloat t) c fun _ c' => ∃ ts c₁,
      (∀ stack, nest (.environment "table".toList :: stack) ts = some stack) ∧
      sound o.figurePlacement ts ∧ Wrote ts c c₁ ∧ Opens o [] c₁ c' := by
  unfold endFloat
  refine (push_yields [char '\n', word "caption", opening] rfl).bind fun _ c₁ h₁ => ?_
  refine (pushTableCaption_yields t).bind ?_
  rintro _ c₂ ⟨caption, hcaption, h₂⟩
  have hrow := h₁.trans h₂
  refine (floatEnd_yields (o := o) t.label (tableName_plain t.number) (hrow.flat hflat)).mono ?_
  rintro _ c₄ ⟨c₃, label, hlabel, h₃, h₄⟩
  refine ⟨_, c₃, fun stack => ?_, ?_, hrow.trans h₃, h₄⟩
  · have hend := nest_floatEnd "table" hlabel stack
    simp only [nest_append, nest, turn, hcaption.neutral, Option.bind_some, hend]
  · exact sound_append (sound_append rfl (sound_of_fluent _ hcaption.fluent))
      (sound_floatEnd hlabel rfl)

theorem closeTable_yields {t : TableState} {f : Frame} {outer : Option TableState}
    (hclosers : f.closers = []) (houter : f.outerTable = some outer) (ht : c.table = some t)
    (hflat : t.nested = false → Flat c) :
    Yields (closeTable f) c fun _ c' => EndsTable o t.nested outer c c' := by
  unfold closeTable closeFrame
  rw [hclosers, houter]
  refine Yields.pure_bind (Yields.get_bind ?_)
  rw [ht]
  refine Yields.modify_bind ?_
  refine (trimSpaces_opens (o := o)).bind fun _ c₁ h₁ => ?_
  refine (newline_opens (o := o)).bind fun _ c₂ h₂ => ?_
  have h₁₂ := h₁.trans h₂
  refine (push_yields [endEnv "tabular"] rfl).bind fun _ c₃ h₃ => ?_
  extract_lets finish
  cases hnested : t.nested with
  | true =>
    refine Yields.modifies ⟨[endEnv "tabular"], c₂, c₃, c₃, h₁₂, ?_, rfl, h₃, .refl c₃, rfl⟩
    exact .of_fluent (fun _ => rfl) rfl
  | false =>
    have hflat₂ : Flat c₂ := h₁₂.flat (hflat hnested)
    refine (endFloat_yields (o := o) t (h₃.flat hflat₂)).bind ?_
    rintro _ c₅ ⟨ts, c₄, hnests, hsound, h₄, h₅⟩
    refine Yields.modifies ⟨_, c₂, c₄, c₅, h₁₂, ?_, rfl, h₃.trans h₄, h₅, rfl⟩
    exact .of_sound hflat₂ (fun stack => hnests stack) (sound_append rfl hsound)

/-! ## Rows and cells -/

/-- A change of the table that leaves alone what has to be given back. -/
theorem modifyTable_opens {f : TableState → TableState} (hf : ∀ t, (f t).core = t.core) :
    Opens o [] c { c with table := c.table.map f } := by
  refine .of_edit (.table _ ?_)
  cases c.table with
  | none => rfl
  | some t => exact congrArg some (hf t)

theorem openRow_proceeds (setting : Setting) (hc : Framed c) : Proceeds o (openRow setting) c := by
  unfold openRow
  refine .get_bind (.ite (fun _ => .descend (warn_steady _ _ c hc)) fun _ =>
    .ite (fun _ => .descend (warn_steady _ _ c hc)) fun _ => ?_)
  have hrow : Opens o [] c { c with table := c.table.map fun t => { t with inRow := true, column := 0 } } :=
    modifyTable_opens fun _ => rfl
  refine Yields.modify_bind (Proceeds.onward (.of_opens hrow) (.descend ?_))
  obtain ⟨f, fs, hf⟩ := (hrow.framed hc).exists
  refine onLeave_yields hf (owed_works (.row setting) hf rfl ⟨rfl, rfl, rfl, rfl, rfl⟩ ?_)
  simp [Opening.isBlock]

theorem enterCell_eq {b : Buffer} {f : Frame} {fs : List Frame} (hf : c.frames = f :: fs)
    (colspan padding figures images : Nat) (warnings : List Warning) (faults : FaultSlot) :
    ({ c with
        buffer := b, figures, images, warnings, faults
        table := c.table.map fun t => { t with column := t.column + colspan, inCell := true }
        frames := { f with cellBraces := some c.openBraces, padding } :: fs } : Converter) =
      Converter.enterCell { c with
        buffer := b, figures, images, warnings, faults
        table := c.table.map fun t => { t with column := t.column + colspan } } padding := by
  simp only [Converter.enterCell, hf, Option.map_map]
  rfl

theorem beginCell_yields (hc : Framed c) (colspan : Nat) :
    Yields (beginCell colspan) c fun _ c' =>
      ∃ c₁, Opens o [] c c₁ ∧ c' = c₁.enterCell (colspan - 1) := by
  obtain ⟨f, fs, hf⟩ := hc.exists
  have hcolumn : Opens o [] c { c with
      table := c.table.map fun t => { t with column := t.column + colspan } } :=
    modifyTable_opens fun _ => rfl
  unfold beginCell
  refine Yields.get_bind ?_
  extract_lets column finish
  refine Yields.modify_bind (Yields.ite (fun _ => ?_) fun _ => ?_)
  · refine Yields.modify_bind ?_
    refine (push_yields [char ' ', char '&', char ' '] rfl).bind ?_
    rintro _ _ ⟨b, figures, images, warnings, faults, rfl, hb⟩
    refine Yields.get_bind (modifyFrame_yields hf ⟨_, ?_,
      enterCell_eq hf colspan _ figures images warnings faults⟩)
    refine (hcolumn.edit .trim).edit (.write ⟨b, figures, images, warnings, faults, rfl, hb⟩ ?_ rfl)
    exact .of_fluent (fun _ => rfl) rfl
  · refine Yields.get_bind (modifyFrame_yields hf ⟨_, hcolumn, ?_⟩)
    exact enterCell_eq hf colspan _ c.figures c.images c.warnings c.faults

theorem framed_enterCell (hc : Framed c) (padding : Nat) : Framed (c.enterCell padding) := by
  obtain ⟨f, fs, hf⟩ := hc.exists
  simp [Framed, Converter.enterCell, hf]

/-- What the handler of a cell does: it begins one, or only takes its style. -/
theorem openCell_yields (header : Bool) (colspan : Nat) (hc : Framed c) :
    Yields (openCell e style header colspan) c fun flow c' => flow ≠ .stop ∧
      (Works o c c' ∨ ∃ ops, (∀ op ∈ ops, op.isVerbatim = false) ∧ BeginsCell o ops c c') := by
  have hstyled : Steady o (applyStyle e style) := applyStyle_steady e style
  unfold openCell
  refine Yields.get_bind (Yields.ite (fun _ => ?_) fun htable => Yields.ite (fun _ => ?_) fun hcell => ?_)
  · exact (Proceeds.after (warn_steady _ _) hc fun _ c₁ hc₁ => .descend (hstyled c₁ hc₁)).mono
      fun _ _ h => ⟨h.1, Or.inl h.2⟩
  · exact (Proceeds.after (warn_steady _ _) hc fun _ c₁ hc₁ => .descend (hstyled c₁ hc₁)).mono
      fun _ _ h => ⟨h.1, Or.inl h.2⟩
  · refine (beginCell_yields (o := o) hc colspan).bind ?_
    rintro _ _ ⟨c₁, h₁, rfl⟩
    have hc₁ := framed_enterCell (h₁.framed hc) (colspan - 1)
    extract_lets styled
    have hrest : ∀ c', Framed c' → Proceeds o (styled ()) c' := fun c' hc' =>
      .descend (hstyled c' hc')
    refine Yields.mono (Proceeds.ite (o := o) (fun _ => ?_) fun _ => hrest _ hc₁) ?_
    · exact .after (applyEmphasis_steady .bold) hc₁ fun _ => hrest
    · rintro flow c' ⟨hflow, ops, hops, h⟩
      refine ⟨hflow, Or.inr ⟨ops, hops, c₁, _, ?_, by simpa using hcell, h₁, h⟩⟩
      simpa [Option.isSome_iff_ne_none] using htable

/-! ## Ending a cell -/

/-- Where no brace too many is open there is nothing to close. -/
theorem closeBraces_yields {saved : Nat} (h : c.openBraces ≤ saved) (n : Nat)
    {Q : Unit → Converter → Prop} (hQ : Q () c) : Yields (closeBraces saved n) c Q := by
  cases n with
  | zero => exact hQ
  | succ n =>
    refine Yields.get_bind ?_
    rw [if_neg (Nat.not_lt.mpr h)]
    exact hQ

theorem closeCell_yields {ops : List Opening} {f : Frame} {depth braces : Nat}
    (hclosers : f.closers = ops.flatMap Opening.closers) (hcell : f.cellBraces = some braces)
    (hbraces : c.openBraces = braces + bracesOf ops) (hordered : Ordered depth ops)
    (hdepth : c.argumentDepth = depth + argumentsOf ops) :
    Yields (closeCell f) c fun _ c' => EndsCell o ops c c' := by
  unfold closeCell closeFrame
  rw [hclosers, hcell]
  refine (trimSpaces_opens (o := o)).bind fun _ c₁ h₁ => ?_
  refine (closes_yields (o := o) hordered (h₁.keeps.argumentDepth.trans hdepth)).bind fun _ c₂ h₂ => ?_
  have hleft : c₂.openBraces ≤ braces := by
    rw [h₂.gaveBack.openBraces, h₁.keeps.openBraces, hbraces]
    omega
  refine Yields.get_bind (Yields.bind (closeBraces_yields (Q := fun _ c' => c' = c₂) hleft _ rfl) ?_)
  rintro _ _ rfl
  refine ((pushTimes_columns_emits f.padding).opens (o := o) _).bind fun _ c₃ h₃ => ?_
  exact Yields.modifies ⟨c₁, _, c₃, h₁, h₂, h₃, rfl⟩

/-! ## Captions -/

theorem stageCaption_opens (doc : Document) (id : Nat) :
    Yields (stageCaption doc id) c fun _ c' => Opens o [] c c' := by
  unfold stageCaption
  refine Yields.get_bind ?_
  split
  · exact Yields.pure (.refl c)
  · next t ht =>
    refine Yields.modify_bind (Yields.pure (.of_edit (.table _ ?_)))
    rw [ht]
    rfl

end Convert

end MarkupTex
