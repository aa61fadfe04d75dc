import MarkupTex.Proofs.Convert.Place
import MarkupTex.Proofs.Convert.Separators
/-!
# The current table

An element that begins no table may still change the one that it is in: a row or a cell that counts does, a
caption does, and at its end a cell that was begun, or any row.  `TableState.entered` and `TableState.left` are
all that comes of it, `enter_within` and `leave_within`.  What is to be shown of the current table along a run is
shown of these two.
-/

set_option autoImplicit false

namespace MarkupTex.Convert

variable {doc : Document} {setting : Setting} {id : Nat} {e : Element} {style : Style} {c : Converter}
  {t : TableState} {f : Frame} {fs : List Frame}

/-- The table behind the beginning of an element in it.  Rows and cells count between the cells only. -/
def TableState.entered (doc : Document) (id : Nat) (e : Element) (t : TableState) : TableState :=
  match e.tag with
  | .tableRow => if t.inCell then t else { t with inRow := true, column := 0 }
  | .tableCell _ colspan => if t.inCell then t else { t with column := t.column + colspan, inCell := true }
  | .caption => { t with caption := some (doc.captionText id) }
  | _ => t

/-- The table behind the end of an element in it.  A cell has to have been begun, but a row need not. -/
def TableState.left (e : Element) (f : Frame) (t : TableState) : TableState :=
  match e.tag with
  | .tableRow => { t with inRow := false }
  | .tableCell .. => if f.cellBraces.isSome then { t with inCell := false } else t
  | _ => t

namespace TableState

@[simp] theorem entered_node : (t.entered doc id e).node = t.node := by
  unfold entered
  split
  · split <;> rfl
  · split <;> rfl
  · rfl
  · rfl

/-- Only a row that counts sets the mark. -/
theorem entered_inRow : (t.entered doc id e).inRow = (e.tag = .tableRow && !t.inCell || t.inRow) := by
  unfold entered
  split
  · next htag => cases hcell : t.inCell <;> simp [htag]
  · next htag => cases hcell : t.inCell <;> simp [htag]
  · next htag => simp [htag]
  · next hrow _ _ =>
    have hother : e.tag ≠ .tableRow := hrow
    simp [hother]

/-- In a cell nothing is counted. -/
theorem entered_of_inCell (h : t.inCell = true) :
    (t.entered doc id e).inCell = true ∧ (t.entered doc id e).column = t.column := by
  unfold entered
  split
  · rw [if_pos h]
    exact ⟨h, rfl⟩
  · rw [if_pos h]
    exact ⟨h, rfl⟩
  · exact ⟨h, rfl⟩
  · exact ⟨h, rfl⟩

@[simp] theorem left_node : (TableState.left e f t).node = t.node := by
  unfold left
  split
  · rfl
  · split <;> rfl
  · rfl

@[simp] theorem left_column : (TableState.left e f t).column = t.column := by
  unfold left
  split
  · rfl
  · split <;> rfl
  · rfl

/-- Any row takes the mark off. -/
theorem left_inRow : (TableState.left e f t).inRow = (e.tag ≠ .tableRow && t.inRow) := by
  unfold left
  split
  · next htag => simp [htag]
  · next htag => split <;> simp [htag]
  · next hrow _ =>
    have hother : e.tag ≠ .tableRow := hrow
    simp [hother]

end TableState

/-! ## Entering -/

/-- A row between the cells of a table begins in front of its first column. -/
theorem enter_row (htag : e.tag = .tableRow) (hpre : c.preDepth = 0) (ht : c.table = some t)
    (hbetween : t.inCell = false) :
    Ensures (enter doc setting id e style) c fun flow c' => flow = .descend ∧ c'.preDepth = 0 ∧
      c'.table = some { t with inRow := true, column := 0 } := by
  refine .enter hpre ?_
  unfold openElement
  rw [htag]
  unfold openRow
  refine Ensures.get_bind ?_
  extract_lets finish
  refine Ensures.ite (fun hnone => ?_) fun _ => Ensures.ite (fun hcell => ?_) fun _ => ?_
  · simp [Converter.opened, ht] at hnone
  · simp [Converter.inCell, Converter.opened, ht, hbetween] at hcell
  · refine Ensures.modify_bind ?_
    refine (onLeave_noting (W := fun _ => False) _ _).bind fun _ c' hnotes => Ensures.pure ?_
    refine ⟨rfl, hnotes.preDepth.trans hpre, hnotes.table.trans ?_⟩
    exact congrArg (Option.map fun t : TableState => { t with inRow := true, column := 0 }) ht

theorem inCell_of_place (ht : c.table = some t) (h : c.place ≠ .between) : t.inCell = true := by
  by_contra hcell
  exact h (Converter.place_between_iff.mpr ⟨t, ht, by simpa using hcell⟩)

/-- An element that stays where it is, and is no row between the cells of the table, leaves the table as it
is. -/
theorem entered_of_stays (ht : c.table = some t) (hrow : e.tag = .tableRow → c.place ≠ .between)
    (hcell : ∀ header colspan, e.tag = .tableCell header colspan → c.place ≠ .between)
    (hcaption : e.tag = .caption → c.place = .outside) : t.entered doc id e = t := by
  unfold TableState.entered
  split
  · next htag => exact if_pos (inCell_of_place ht (hrow htag))
  · next htag => exact if_pos (inCell_of_place ht (hcell _ _ htag))
  · next htag =>
    rw [Converter.place_outside_iff.mp (hcaption htag)] at ht
    cases ht
  · rfl

/-- So does an element that does not go on to what is below. -/
theorem entered_of_skips {c' : Converter} (h : Skips doc setting id e c c') : t.entered doc id e = t := by
  cases h with
  | suppressed tag =>
    unfold TableState.entered
    split
    · next htag => simp [htag, Tag.isSuppressed] at tag
    · next htag => simp [htag, Tag.isSuppressed] at tag
    · next htag => simp [htag, Tag.isSuppressed] at tag
    · rfl
  | void tag => rcases tag with tag | tag | tag <;> simp [TableState.entered, tag]
  | grid tag => simp [TableState.entered, tag]
  | misplaced tag => simp [TableState.entered, tag]

/-- An element puts its frame on those that are there.  There is no table in it, if none was begun. -/
theorem enter_frames {flow : Flow} {c₁ : Converter} (hbegins : startsTable doc id e c = false)
    (hv : enter doc setting id e style c = .ok flow c₁) :
    ∃ f, c₁.frames = f :: c.frames ∧ (e.tag = .table → f.outerTable = none) := by
  by_cases htag : e.tag = .table
  · obtain ⟨f, hf, hnone⟩ := enter_unbegun htag hbegins flow c₁ hv
    exact ⟨f, hf, fun _ => hnone⟩
  · obtain ⟨-, b, scope, hentered⟩ := (enter_yields doc setting id e style c).of_ok hv
    obtain ⟨f, howed⟩ := hentered.owed
    exact ⟨f, howed.frames, fun h => absurd h htag⟩

/-- A table that goes on to what is below is begun. -/
theorem startsTable_of_descends {c₁ : Converter} (htag : e.tag = .table) (hpre : c.preDepth = 0)
    (hv : enter doc setting id e style c = .ok .descend c₁) : startsTable doc id e c = true := by
  by_contra hbegins
  obtain ⟨f, hf, hnone⟩ := enter_frames (Bool.eq_false_iff.mpr hbegins) hv
  cases (enter_comes hpre _ _ hv).2 with
  | stays _ _ _ hother => exact hother htag
  | verbatim hother | row hother | cell hother =>
    rw [htag] at hother
    cases hother
  | table _ _ _ _ hframes houter =>
    rw [hframes] at hf
    cases hf
    rw [hnone htag] at houter
    cases houter

/-- Entering an element that begins no table. -/
theorem enter_within (hpre : c.preDepth = 0) (hbegins : startsTable doc id e c = false) :
    Ensures (enter doc setting id e style) c fun _ c' =>
      c'.table = c.table.map (TableState.entered doc id e) := by
  intro flow c' hv
  have hsame : c'.table = c.table → (∀ t, c.table = some t → t.entered doc id e = t) →
      c'.table = c.table.map (TableState.entered doc id e) := by
    intro htable hentered
    rw [htable]
    cases ht : c.table with
    | none => rfl
    | some t => rw [Option.map_some, hentered t ht]
  cases (enter_comes hpre flow c' hv).2 with
  | stays htable _ _ _ hcaption hcell =>
    by_cases hrow : e.tag = .tableRow ∧ c.place = .between
    · obtain ⟨t, ht, hbetween⟩ := Converter.place_between_iff.mp hrow.2
      rw [(enter_row hrow.1 hpre ht hbetween _ c' hv).2.2, ht]
      simp [TableState.entered, hrow.1, hbetween]
    · exact hsame htable fun t ht =>
        entered_of_stays ht (fun htag hplace => hrow ⟨htag, hplace⟩) hcell hcaption
  | verbatim htag htable => exact hsame htable fun t _ => by simp [TableState.entered, htag]
  | skips htable _ why => exact hsame htable fun t _ => entered_of_skips why
  | row htag ht hbetween htable | cell htag ht hbetween htable =>
    rw [htable, ht]
    simp [TableState.entered, htag, hbetween]
  | staged htag ht htable =>
    rw [htable, ht]
    simp [TableState.entered, htag]
  | table htag =>
    rw [startsTable_of_descends htag hpre hv] at hbegins
    cases hbegins

/-! ## Leaving -/

/-- Leaving an element that ends no table. -/
theorem leave_within (hf : c.frames = f :: fs) (houter : e.tag = .table → f.outerTable = none) :
    Ensures (leave e) c fun _ c' => c'.table = c.table.map (TableState.left e f) := by
  refine Ensures.leave hf ?_
  have hframe : Ensures (closeFrame f) (c.popped fs) fun _ c' => c'.table = c.table := fun _ _ hm =>
    (closeFrame_noting (W := fun _ => False) f _ _ _ hm).table
  have hsame : (∀ t, TableState.left e f t = t) →
      Ensures (closeFrame f) (c.popped fs) fun _ c' => c'.table = c.table.map (TableState.left e f) := by
    intro hleft
    refine hframe.mono fun _ c' htable => ?_
    rw [htable, funext hleft, Option.map_id']
  unfold closeElement
  split
  · next htag =>
    refine Ensures.ite (fun hcell => ?_) fun hcell => hsame fun t => ?_
    · refine (closeCell_table f _).mono fun _ c' htable => ?_
      have hleft : TableState.left e f = fun t => { t with inCell := false } := by
        funext t
        simp [TableState.left, htag, hcell]
      rw [hleft]
      exact htable
    · simp [TableState.left, htag, hcell]
  · next htag =>
    unfold closeTable
    rw [houter htag]
    have hclose := hsame fun t => by simp [TableState.left, htag]
    exact hclose.bind fun _ _ htable => Ensures.pure htable
  · next htag =>
    refine hframe.bind fun _ c' htable => Ensures.modifies ?_
    have hleft : TableState.left e f = fun t => { t with inRow := false } := by
      funext t
      simp [TableState.left, htag]
    rw [hleft]
    exact congrArg (Option.map fun t : TableState => { t with inRow := false }) htable
  · next hcell htable hrow =>
    refine hsame fun t => ?_
    unfold TableState.left
    split
    · next htag => exact absurd htag hrow
    · next htag => exact absurd htag (hcell _ _)
    · rfl

end MarkupTex.Convert
