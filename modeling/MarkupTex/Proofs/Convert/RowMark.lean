import MarkupTex.Proofs.Convert.Columns
/-!
# The mark of a row

A table is marked while a row of it is open.  A row that counts sets the mark on its table, but any row takes the
mark off the current one: also one that is in a cell without a table of its own, directly in another row, or in a
verbatim block.  So the mark of a table says at each moment what the last of the calls on its rows has left
there, `course_tells_mark`.  While another table is the current one nothing is said of it.

For a row this means that the mark is there from its beginning on, and off behind its end, and that it stays in
between if all rows below are in tables of their own, `rowMark_settles`.  A row in a cell takes it off too early,
`rowMark_lost_rowInCell`.
-/

set_option autoImplicit false

namespace MarkupTex

open Walk

/-- All the rows below a row are in tables of their own, which no verbatim block has taken in. -/
def Document.OnlyNestedRows (doc : Document) (row : Nat) : Prop :=
  ∀ x way, doc.Leads row (row :: way ++ [x]) x → doc.isRow x = true →
    (∃ y ∈ way, doc.tag? y = some .table) ∧ ∀ y ∈ way, doc.tag? y ≠ some .preformatted

namespace Convert

variable {doc : Document} {setting : Setting} {policy : ImportantPolicy} {id root row x n : Nat} {e : Element}
  {style style' : Style} {flow : Flow} {ids ids' : List Nat} {c c' c₁ c₂ c₃ : Converter} {t : TableState}
  {turns turns' : List (Turn Converter)} {mark : Bool}

/-! ## The mark and the calls on rows -/

/-- The mark of the table with this node, if that is the current one. -/
def rowMark? (table : Nat) (c : Converter) : Option Bool :=
  (c.table.filter fun t => t.node = table).map (·.inRow)

/-- The element is a row that counts: it is between the cells of a table. -/
def acceptsRow (e : Element) (c : Converter) : Bool :=
  e.tag = .tableRow && c.preDepth = 0 && c.inTableSkeleton

/-- What a call says of the mark of a table, if that is the current one: a row that counts sets the mark when it
is entered, and any row takes it off when it is left. -/
def rowCall? (table : Nat) : Turn Converter → Option Bool
  | .enter _ e before _ => if acceptsRow e before && (rowMark? table before).isSome then some true else none
  | .leave _ e before _ => if e.tag = .tableRow && (rowMark? table before).isSome then some false else none
  | .text .. => none

/-- The mark behind some calls: what the last of them said, or else what it was. -/
def markAfter (table : Nat) (turns : List (Turn Converter)) (mark : Bool) : Bool :=
  (turns.filterMap (rowCall? table)).getLast?.getD mark

theorem markAfter_append :
    markAfter n (turns ++ turns') mark = markAfter n turns' (markAfter n turns mark) := by
  rw [markAfter, List.filterMap_append, List.getLast?_append]
  cases h : (turns'.filterMap (rowCall? n)).getLast? <;> simp [markAfter, h]

theorem markAfter_of_silent (h : turns.filterMap (rowCall? n) = []) : markAfter n turns mark = mark := by
  rw [markAfter, h]
  rfl

theorem rowMark?_congr (h : c'.table = c.table) : rowMark? n c' = rowMark? n c := by
  rw [rowMark?, rowMark?, h]

theorem rowMark?_of_table (ht : c.table = some t) :
    rowMark? n c = if t.node = n then some t.inRow else none := by
  rw [rowMark?, ht, Option.filter_some]
  by_cases hn : t.node = n <;> simp [hn]

/-- What is done to the current table decides its mark, as long as it keeps its node. -/
theorem rowMark?_map {f : TableState → TableState} (h : c'.table = c.table.map f)
    (hnode : ∀ t, (f t).node = t.node)
    (hmark : ∀ t, c.table = some t → t.node = n → (f t).inRow = markAfter n turns t.inRow) :
    rowMark? n c' = (rowMark? n c).map (markAfter n turns) := by
  cases ht : c.table with
  | none =>
    rw [ht] at h
    rw [rowMark?, rowMark?, h, ht]
    rfl
  | some t =>
    have ht' : c'.table = some (f t) := by rw [h, ht]; rfl
    rw [rowMark?_of_table ht', rowMark?_of_table ht, hnode]
    by_cases hn : t.node = n
    · rw [if_pos hn, if_pos hn, hmark t ht hn]
      rfl
    · rw [if_neg hn, if_neg hn]
      rfl

/-- The calls tell what becomes of the mark of a table.  While another table is the current one they say
nothing. -/
structure TellsMark (n : Nat) (turns : List (Turn Converter)) (c c' : Converter) : Prop where
  mark : rowMark? n c' = (rowMark? n c).map (markAfter n turns)
  silent : rowMark? n c = none → turns.filterMap (rowCall? n) = []

namespace TellsMark

/-- The same table comes back, and nothing was said of it in between. -/
theorem of_silent (htable : c'.table = c.table) (hsilent : turns.filterMap (rowCall? n) = []) :
    TellsMark n turns c c' := by
  refine ⟨?_, fun _ => hsilent⟩
  have hsame : markAfter n turns = id := funext fun _ => markAfter_of_silent hsilent
  rw [rowMark?_congr htable, hsame, Option.map_id]
  rfl

theorem append (h : TellsMark n turns c c₁) (h' : TellsMark n turns' c₁ c₂) :
    TellsMark n (turns ++ turns') c c₂ := by
  refine ⟨?_, fun hnone => ?_⟩
  · rw [h'.mark, h.mark, Option.map_map]
    exact congrArg (fun g => (rowMark? n c).map g) (funext fun _ => markAfter_append.symm)
  · have hnone₁ : rowMark? n c₁ = none := by rw [h.mark, hnone]; rfl
    rw [List.filterMap_append, h.silent hnone, h'.silent hnone₁]
    rfl

/-- What the mark was at first can be told from what it is in the end. -/
theorem exists_first (h : TellsMark n turns c c') (hmark : rowMark? n c' = some mark) :
    ∃ first, rowMark? n c = some first ∧ mark = markAfter n turns first := by
  rw [h.mark] at hmark
  obtain ⟨first, hfirst, hlast⟩ := Option.map_eq_some_iff.mp hmark
  exact ⟨first, hfirst, hlast.symm⟩

end TellsMark

/-! ## One call -/

/-- Entering an element that begins no table. -/
theorem enter_tells_mark (hbegins : startsTable doc id e c = false)
    (hv : enter doc setting id e style c = .ok flow c₁) : TellsMark n [.enter id e c c₁] c c₁ := by
  rcases Nat.eq_zero_or_pos c.preDepth with hpre | hpre
  · refine ⟨?_, fun hnone => by simp [rowCall?, hnone]⟩
    refine rowMark?_map (enter_within hpre hbegins flow c₁ hv) (fun _ => TableState.entered_node) ?_
    intro t ht hn
    have hcurrent : (rowMark? n c).isSome := by rw [rowMark?_of_table ht, if_pos hn]; rfl
    have haccepts : acceptsRow e c = (e.tag = .tableRow && !t.inCell) := by
      simp [acceptsRow, hpre, Converter.inTableSkeleton, ht]
    rw [TableState.entered_inRow, ← haccepts]
    cases h : acceptsRow e c <;> simp [markAfter, rowCall?, h, hcurrent]
  · -- In a verbatim block no row counts.
    have haccepts : acceptsRow e c = false := by simp [acceptsRow, Nat.pos_iff_ne_zero.mp hpre]
    exact .of_silent (enter_verbatim_notes hpre flow c₁ hv).2.table (by simp [rowCall?, haccepts])

/-- Leaving an element that ends no table. -/
theorem leave_tells_mark {f : Frame} {fs : List Frame} (hf : c.frames = f :: fs)
    (houter : e.tag = .table → f.outerTable = none) (hl : leave e c = .ok () c₁) :
    TellsMark n [.leave id e c c₁] c c₁ := by
  refine ⟨?_, fun hnone => by simp [rowCall?, hnone]⟩
  refine rowMark?_map (leave_within hf houter () c₁ hl) (fun _ => TableState.left_node) ?_
  intro t ht hn
  have hcurrent : (rowMark? n c).isSome := by rw [rowMark?_of_table ht, if_pos hn]; rfl
  rw [TableState.left_inRow]
  by_cases htag : e.tag = .tableRow <;> simp [markAfter, rowCall?, htag, hcurrent]

/-- A table that begins has another node. -/
theorem rowMark?_of_begins (hn : n < id) (hbegins : startsTable doc id e c)
    (hv : enter doc setting id e style c = .ok flow c₁) : rowMark? n c₁ = none := by
  obtain ⟨-, b, hbegun⟩ := enter_begins hbegins flow c₁ hv
  rw [rowMark?_of_table hbegun.table]
  exact if_neg (Nat.ne_of_gt hn)

/-- So none was begun, if the mark of that table is there. -/
theorem unbegun_of_mark (hn : n < id) (hv : enter doc setting id e style c = .ok flow c₁)
    (hmark : rowMark? n c₁ = some mark) : startsTable doc id e c = false := by
  rw [Bool.eq_false_iff]
  intro hbegins
  rw [rowMark?_of_begins hn hbegins hv] at hmark
  cases hmark

/-- Nothing is written at the beginning of a row, so nothing can go wrong. -/
theorem openRow_ok (ht : c.table = some t) (hbetween : t.inCell = false) :
    ∃ c₁, openRow setting c = .ok .descend c₁ := by
  have hnone : ¬ c.table.isNone := by simp [ht]
  have hcell : ¬ c.inCell := by simp [Converter.inCell, ht, hbetween]
  unfold openRow
  change ∃ c₁, (if c.table.isNone then _ else if c.inCell then _ else _ : Conversion Flow) c = _
  rw [if_neg hnone, if_neg hcell]
  exact ⟨_, rfl⟩

theorem enter_row_ok (htag : e.tag = .tableRow) (hpre : c.preDepth = 0) (ht : c.table = some t)
    (hbetween : t.inCell = false) : ∃ c₁, enter doc setting id e style c = .ok .descend c₁ := by
  rw [enter_eq hpre, openElement, htag]
  exact openRow_ok ht hbetween

/-- A row that counts is entered, and sets the mark on the table that it is in. -/
theorem enter_sets_mark (haccepts : acceptsRow e c = true) (ht : c.table = some t) :
    ∃ c₁, enter doc setting id e style c = .ok .descend c₁ ∧ c₁.preDepth = 0 ∧
      c₁.table = some { t with inRow := true, column := 0 } := by
  simp only [acceptsRow, Bool.and_eq_true, decide_eq_true_eq] at haccepts
  obtain ⟨⟨htag, hpre⟩, hskeleton⟩ := haccepts
  have hbetween : t.inCell = false := by simpa [Converter.inTableSkeleton, ht] using hskeleton
  obtain ⟨c₁, hv⟩ := enter_row_ok htag hpre ht hbetween
  exact ⟨c₁, hv, (enter_row htag hpre ht hbetween _ c₁ hv).2⟩

/-! ## Whole visits -/

/-- The calls of an element tell the mark, if those below it do. -/
theorem element_tells_mark (hn : n < id) (hv : enter doc setting id e style c = .ok flow c₁)
    (hr : Restored c₁ c₂) (hbelow : TellsMark n turns c₁ c₂) (hl : leave e c₂ = .ok () c₃) :
    TellsMark n (.enter id e c c₁ :: (turns ++ [.leave id e c₂ c₃])) c c₃ := by
  cases hbegins : startsTable doc id e c with
  | false =>
    obtain ⟨f, hf, houter⟩ := enter_frames hbegins hv
    have hleave : TellsMark n [.leave id e c₂ c₃] c₂ c₃ := leave_tells_mark (hr.frames.trans hf) houter hl
    exact (enter_tells_mark hbegins hv).append (hbelow.append hleave)
  | true =>
    -- Inside, the table is another one, and then the table around comes back as it was.
    have htag := tag_of_startsTable hbegins
    obtain ⟨-, b, hbegun⟩ := enter_begins hbegins flow c₁ hv
    have htable := leave_table htag (hr.frames.trans hbegun.frames) rfl () c₃ hl
    refine .of_silent htable ?_
    rw [filterMap_element, hbelow.silent (rowMark?_of_begins hn hbegins hv)]
    simp [rowCall?, acceptsRow, htag]

theorem lt_of_mem_below {child : Nat} (hn : n < id) (h : child ∈ below doc id flow) : n < child :=
  Nat.lt_trans hn (Document.lt_of_mem_children (mem_children_of_mem_below h)).1

theorem trail_tells_mark (h : Trail doc policy (visitor doc setting) style ids c turns c')
    (hids : ∀ x ∈ ids, n < x) : TellsMark n turns c c' := by
  induction h with
  | nil => exact .of_silent rfl rfl
  | @text _ id ids _ _ c c₁ _ _ _ visited _ _ ih =>
    have htable := (visitText_notes setting _ c _ _ visited).2.table
    have hfirst : TellsMark n [.text id c c₁] c c₁ := .of_silent htable rfl
    exact hfirst.append (ih fun x hx => hids x (List.mem_cons_of_mem _ hx))
  | @element _ id ids e flow c c₁ c₂ c₃ c' inner turns _ entered _ inside left _ hinside hrest =>
    have hid : n < id := hids id List.mem_cons_self
    have hbelow : TellsMark n inner c₁ c₂ := hinside fun x hx => lt_of_mem_below hid hx
    have helement := element_tells_mark hid entered (restored_of_trail inside) hbelow left
    have hall := helement.append (hrest fun x hx => hids x (List.mem_cons_of_mem _ hx))
    rwa [List.cons_append, List.append_assoc] at hall

/-- At each moment of a traversal the calls so far tell the mark of a table, if that is the current one. -/
theorem course_tells_mark (h : Course doc policy (visitor doc setting) style ids c turns style' ids' c')
    (hids : ∀ x ∈ ids, n < x) (hmark : rowMark? n c' = some mark) :
    ∃ first, rowMark? n c = some first ∧ mark = markAfter n turns first := by
  induction h with
  | refl => exact ⟨mark, hmark, rfl⟩
  | @inside _ _ id _ _ e _ c c₁ _ _ _ entered _ _ ih =>
    have hid : n < id := hids id List.mem_cons_self
    obtain ⟨first₁, hfirst₁, hlast⟩ := ih (fun x hx => lt_of_mem_below hid hx) hmark
    have hbegins := unbegun_of_mark hid entered hfirst₁
    obtain ⟨first, hfirst, rfl⟩ := (enter_tells_mark hbegins entered).exists_first hfirst₁
    refine ⟨first, hfirst, hlast.trans ?_⟩
    rw [← markAfter_append]
    rfl
  | after visited _ ih =>
    obtain ⟨first₁, hfirst₁, hlast⟩ := ih (fun x hx => hids x (List.mem_cons_of_mem _ hx)) hmark
    have hvisit := trail_tells_mark visited (List.forall_mem_singleton.mpr (hids _ List.mem_cons_self))
    obtain ⟨first, hfirst, rfl⟩ := hvisit.exists_first hfirst₁
    exact ⟨first, hfirst, hlast.trans markAfter_append.symm⟩

/-- Where a row has been visited, the mark of its table is off. -/
theorem row_unmarks (hrow : doc.isRow row = true) (hn : n < row)
    (h : Trail doc policy (visitor doc setting) style [row] c turns c') (hmark : rowMark? n c = some mark) :
    rowMark? n c' = some false := by
  simp only [Document.isRow, decide_eq_true_eq] at hrow
  cases h with
  | text isText => simp [Document.tag?, Document.element?_of_text? isText] at hrow
  | @element _ _ _ e flow _ c₁ c₂ _ _ inner _ isElement entered _ inside left rest =>
    cases rest
    rw [Document.tag?_of_element? isElement] at hrow
    have htag : e.tag = .tableRow := Option.some.inj hrow
    have hbegins : startsTable doc row e c = false := by simp [startsTable, htag]
    have hinner := trail_tells_mark inside fun x hx => lt_of_mem_below hn hx
    have hmark₂ : rowMark? n c₂ = some (markAfter n inner (markAfter n [.enter row e c c₁] mark)) := by
      rw [hinner.mark, (enter_tells_mark hbegins entered).mark, hmark]
      rfl
    -- The last of the calls is the one on leaving the row.
    obtain ⟨f, hf, houter⟩ := enter_frames hbegins entered
    have hframes := (restored_of_trail inside).frames.trans hf
    have hleave : TellsMark n [.leave row e c₂ c'] c₂ c' := leave_tells_mark hframes houter left
    rw [hleave.mark, hmark₂]
    simp [markAfter, rowCall?, htag, hmark₂]

/-! ## Rows in tables of their own -/

/-- The rows from a node downwards are in tables below it, and no verbatim block has taken them in. -/
def RowsInTables (doc : Document) (top : Nat) (c : Converter) : Prop :=
  ∀ x way, doc.Leads top (way ++ [x]) x → doc.isRow x = true →
    c.preDepth = 0 ∧ (∃ y ∈ way, doc.tag? y = some .table) ∧ ∀ y ∈ way, doc.tag? y ≠ some .preformatted

namespace RowsInTables

theorem congr (h : RowsInTables doc x c) (hpre : c'.preDepth = c.preDepth) : RowsInTables doc x c' := by
  intro y way hleads hrow
  rw [hpre]
  exact h y way hleads hrow

/-- The node itself is no row. -/
theorem tag_ne (h : RowsInTables doc id c) (he : doc.element? id = some e) : e.tag ≠ .tableRow := by
  intro htag
  have hrow : doc.isRow id = true := by simp [Document.isRow, Document.tag?_of_element? he, htag]
  obtain ⟨-, ⟨y, hy, -⟩, -⟩ := h id [] .start hrow
  cases hy

/-- What goes on below an element that begins no table has still to come to one. -/
theorem below (h : RowsInTables doc id c) (he : doc.element? id = some e) (hbegins : startsTable doc id e c = false)
    (hv : enter doc setting id e style c = .ok flow c₁) :
    ∀ child ∈ below doc id flow, RowsInTables doc child c₁ := by
  intro child hchild y way hleads hrow
  have hway : doc.Leads id (id :: way ++ [y]) y :=
    (Document.Leads.start.child (mem_children_of_mem_below hchild)).append hleads
  obtain ⟨hpre, ⟨z, hz, htable⟩, hverbatim⟩ := h y (id :: way) hway hrow
  refine ⟨?_, ⟨z, ?_, htable⟩, fun z hz => hverbatim z (List.mem_cons_of_mem _ hz)⟩
  · by_contra hdeeper
    have htag : e.tag = .preformatted := (enter_comes hpre flow c₁ hv).2.preformatted (by omega)
    apply hverbatim id List.mem_cons_self
    rw [Document.tag?_of_element? he, htag]
  · rcases List.mem_cons.mp hz with rfl | hz
    · -- A table that is not begun has nothing below it that is visited.
      rw [Document.tag?_of_element? he] at htable
      have hflow : flow = .descend := by
        by_contra hflow
        rw [Walk.below, if_neg hflow] at hchild
        cases hchild
      rw [hflow] at hv
      rw [startsTable_of_descends (Option.some.inj htable) hpre hv] at hbegins
      cases hbegins
    · exact hz

end RowsInTables

theorem rowsInTables_tail (hids : ∀ x ∈ id :: ids, n < x ∧ RowsInTables doc x c)
    (hpre : c'.preDepth = c.preDepth) : ∀ x ∈ ids, n < x ∧ RowsInTables doc x c' := by
  intro x hx
  obtain ⟨hlt, hrows⟩ := hids x (List.mem_cons_of_mem _ hx)
  exact ⟨hlt, hrows.congr hpre⟩

theorem rowsInTables_of_onlyNested (h : doc.OnlyNestedRows row) (hpre : c.preDepth = 0) :
    ∀ child ∈ doc.children row, RowsInTables doc child c := by
  intro child hchild y way hleads hrow
  exact ⟨hpre, h y way ((Document.Leads.start.child hchild).append hleads) hrow⟩

/-- Nothing is said of a table where all rows are in tables of their own. -/
theorem trail_silent (h : Trail doc policy (visitor doc setting) style ids c turns c')
    (hids : ∀ x ∈ ids, n < x ∧ RowsInTables doc x c) : turns.filterMap (rowCall? n) = [] := by
  induction h with
  | nil => rfl
  | @text _ _ _ _ _ c c₁ _ _ _ visited _ _ ih =>
    have hpre := (visitText_notes setting _ c _ _ visited).2.preDepth
    exact ih (rowsInTables_tail hids hpre)
  | @element _ id ids e flow c c₁ c₂ c₃ c' inner turns isElement entered _ inside left _ hinside hrest =>
    obtain ⟨hid, hrows⟩ := hids id List.mem_cons_self
    have hlt : ∀ x ∈ below doc id flow, n < x := fun x hx => lt_of_mem_below hid hx
    have hinner : inner.filterMap (rowCall? n) = [] := by
      cases hbegins : startsTable doc id e c with
      | true => exact (trail_tells_mark inside hlt).silent (rowMark?_of_begins hid hbegins entered)
      | false => exact hinside fun x hx => ⟨hlt x hx, hrows.below isElement hbegins entered x hx⟩
    have hpre := (element_restores entered (restored_of_trail inside) left).preDepth
    have hturns := hrest (rowsInTables_tail hids hpre)
    rw [filterMap_element, hinner, hturns]
    simp [rowCall?, acceptsRow, hrows.tag_ne isElement]

theorem course_silent (h : Course doc policy (visitor doc setting) style ids c turns style' ids' c')
    (hids : ∀ x ∈ ids, n < x ∧ RowsInTables doc x c) (hmark : rowMark? n c' = some mark) :
    turns.filterMap (rowCall? n) = [] := by
  induction h with
  | refl => rfl
  | @inside _ _ id _ _ e flow c c₁ _ _ isElement entered _ rest ih =>
    obtain ⟨hid, hrows⟩ := hids id List.mem_cons_self
    have hlt : ∀ x ∈ below doc id flow, n < x := fun x hx => lt_of_mem_below hid hx
    obtain ⟨first, hfirst, -⟩ := course_tells_mark rest hlt hmark
    have hbegins := unbegun_of_mark hid entered hfirst
    have hrest := ih (fun x hx => ⟨hlt x hx, hrows.below isElement hbegins entered x hx⟩) hmark
    simp [hrest, rowCall?, acceptsRow, hrows.tag_ne isElement]
  | after visited _ ih =>
    have hpre := (restored_of_trail visited).preDepth
    have hrest := ih (rowsInTables_tail hids hpre) hmark
    have hvisited := trail_silent visited (List.forall_mem_singleton.mpr (hids _ List.mem_cons_self))
    rw [List.filterMap_append, hvisited, hrest]
    rfl

/-! ## A row that counts -/

/-- The current table comes before a node. -/
def TableBefore (x : Nat) (c : Converter) : Prop := ∀ t, c.table = some t → t.node < x

theorem TableBefore.restored (h : TableBefore x c) (hr : Restored c c') : TableBefore x c' := by
  intro t ht
  have hcore := hr.table
  rw [ht] at hcore
  obtain ⟨t₀, ht₀, hsame⟩ := Option.map_eq_some_iff.mp hcore.symm
  have hnode : t₀.core.node = t.core.node := congrArg TableState.node hsame
  exact Nat.lt_of_le_of_lt (Nat.le_of_eq hnode.symm) (h t₀ ht₀)

theorem TableBefore.enter (h : TableBefore x c) (hid : id < x)
    (hv : Convert.enter doc setting id e style c = .ok flow c₁) : TableBefore x c₁ := by
  intro t ht
  rcases Nat.eq_zero_or_pos c.preDepth with hpre | hpre
  · cases hbegins : startsTable doc id e c with
    | true =>
      obtain ⟨-, b, hbegun⟩ := enter_begins hbegins flow c₁ hv
      rw [hbegun.table] at ht
      cases ht
      exact hid
    | false =>
      rw [enter_within hpre hbegins flow c₁ hv] at ht
      obtain ⟨t₀, ht₀, rfl⟩ := Option.map_eq_some_iff.mp ht
      rw [TableState.entered_node]
      exact h t₀ ht₀
  · rw [(enter_verbatim_notes hpre flow c₁ hv).2.table] at ht
    exact h t ht

/-- The current table is on the path to the node that the turn comes to, so it comes before it. -/
theorem tableBefore_of_reaches (h : Reaches doc policy (visitor doc setting) Style.empty [root] Converter.start
    style (x :: ids) c) : TableBefore x c := by
  refine h.keeps (fun hv hbefore => hbefore.restored (visited_restored hv))
    (fun hid _ hv hbefore => hbefore.enter hid hv) (fun top _ way hway y hy => hway.lt_of_mem_above hy) ?_
  intro t ht
  cases ht

/-- A row that counts sets the mark on its table when it is entered.  At each moment below it at which that table
is the current one, the mark is what the last of the calls on its rows has said, and if there are none it is
still there.  So it is always there if all rows below are in tables of their own.  Behind the row the mark is
off. -/
theorem rowMark_settles
    (hreaches : Reaches doc policy (visitor doc setting) Style.empty [root] Converter.start style (row :: ids) c)
    (he : doc.element? row = some e) (haccepts : acceptsRow e c = true) (ht : c.table = some t) :
    (∃ c₁, enter doc setting row e (e.styleUnder policy style) c = .ok .descend c₁ ∧
      c₁.table = some { t with inRow := true, column := 0 } ∧
      ∀ style' ids' c' mark,
        Reaches doc policy (visitor doc setting) (e.styleUnder policy style).inheritedPart.style
          (doc.children row) c₁ style' ids' c' →
        rowMark? t.node c' = some mark →
        (∃ turns, Course doc policy (visitor doc setting) (e.styleUnder policy style).inheritedPart.style
            (doc.children row) c₁ turns style' ids' c' ∧ mark = markAfter t.node turns true) ∧
          (doc.OnlyNestedRows row → mark = true)) ∧
    ∀ c₃, traverse doc policy (visitor doc setting) style [row] c = .ok true c₃ →
      rowMark? t.node c₃ = some false := by
  have hn : t.node < row := tableBefore_of_reaches hreaches t ht
  refine ⟨?_, fun c₃ hvisit => ?_⟩
  · obtain ⟨c₁, hv, hpre₁, ht₁⟩ : ∃ c₁, enter doc setting row e (e.styleUnder policy style) c =
        .ok .descend c₁ ∧ c₁.preDepth = 0 ∧ c₁.table = some { t with inRow := true, column := 0 } :=
      enter_sets_mark haccepts ht
    refine ⟨c₁, hv, ht₁, fun style' ids' c' mark hmoment hmark => ?_⟩
    have hchildren : ∀ x ∈ doc.children row, t.node < x := fun x hx =>
      Nat.lt_trans hn (Document.lt_of_mem_children hx).1
    obtain ⟨turns, hcourse⟩ := hmoment.course
    obtain ⟨first, hfirst, hlast⟩ := course_tells_mark hcourse hchildren hmark
    rw [rowMark?_of_table ht₁, if_pos rfl] at hfirst
    cases hfirst
    refine ⟨⟨turns, hcourse, hlast⟩, fun hnested => ?_⟩
    have hrows := rowsInTables_of_onlyNested hnested hpre₁
    have hsilent := course_silent hcourse (fun x hx => ⟨hchildren x hx, hrows x hx⟩) hmark
    rw [hlast, markAfter_of_silent hsilent]
  · simp only [acceptsRow, Bool.and_eq_true, decide_eq_true_eq] at haccepts
    have hrow : doc.isRow row = true := by
      simp [Document.isRow, Document.tag?_of_element? he, haccepts.1.1]
    obtain ⟨turns, htrail⟩ := exists_trail hvisit
    exact row_unmarks hrow hn htrail ((rowMark?_of_table ht).trans (if_pos rfl))

/-- The turn comes to a row of a table that is begun, and the row counts. -/
theorem exists_reaches_row {table : Nat} {r : Element} (hdoc : doc.Grown) (he : doc.element? table = some e)
    (hbegins : startsTable doc table e c) (hrow : row ∈ doc.children table) (htag : r.tag = .tableRow)
    (hvisit : traverse doc policy (visitor doc setting) style [table] c = .ok true c₁) :
    ∃ style' ids c' t, Reaches doc policy (visitor doc setting) style [table] c style' (row :: ids) c' ∧
      acceptsRow r c' = true ∧ c'.table = some t := by
  have hleads : doc.Leads table (table :: [] ++ [row]) row := .child .start hrow
  obtain ⟨style', ids, c', hreaches⟩ := exists_reaches hdoc he hbegins hleads (by simp) hvisit
  obtain ⟨hpre, hplace⟩ := loose_of_reaches hdoc he hbegins hleads (by simp) hreaches
  obtain ⟨t, ht, -⟩ := Converter.place_between_iff.mp hplace
  refine ⟨style', ids, c', t, hreaches, ?_, ht⟩
  simp [acceptsRow, htag, hpre, Converter.inTableSkeleton_iff.mpr hplace]

/-- A row with a table of its own in its cell. -/
def tableInRow : Document :=
  (Document.withRoot "table").appended
    [.element 0 "tr" [], .element 1 "td" [], .element 2 "table" [], .element 3 "tr" []]

theorem onlyNestedRows_tableInRow : tableInRow.OnlyNestedRows 1 := by
  intro x way hleads hrow
  have hrows : ∀ x < tableInRow.size, tableInRow.isRow x = true → x = 1 ∨ x = 4 := by decide +kernel
  have hlt : x < tableInRow.size := by
    simp only [Document.isRow, decide_eq_true_eq, Document.tag?, Option.map_eq_some_iff] at hrow
    obtain ⟨e, he, -⟩ := hrow
    exact Document.lt_size_of_element? he
  rcases hrows x hlt hrow with rfl | rfl
  · exact absurd (hleads.lt_of_mem_above List.mem_cons_self) (Nat.lt_irrefl 1)
  · have hdoc : tableInRow.Grown := (Document.grown_withRoot "table").appended _
    have hpath : tableInRow.Leads 1 (1 :: [2, 3] ++ [4]) 4 :=
      .child (.child (.child .start (by decide +kernel)) (by decide +kernel)) (by decide +kernel)
    have hsame := hdoc.leads_unique_from hleads hpath
    obtain rfl : way = [2, 3] := List.append_cancel_right (List.cons.inj hsame).2
    exact ⟨⟨3, by simp, by decide +kernel⟩, by decide +kernel⟩

theorem rowMark_settles_tableInRow :
    ∃ style ids c t c₁,
      Reaches tableInRow .localWins (visitor tableInRow ⟨{}, fun _ => .ok "a.png"⟩) Style.empty [0]
        Converter.start style (1 :: ids) c ∧
      acceptsRow (.ofName "tr" []) c = true ∧ c.table = some t ∧
      enter tableInRow ⟨{}, fun _ => .ok "a.png"⟩ 1 (.ofName "tr" [])
        ((Element.ofName "tr" []).styleUnder .localWins style) c = .ok .descend c₁ ∧
      (∀ style' ids' c' mark,
        Reaches tableInRow .localWins (visitor tableInRow ⟨{}, fun _ => .ok "a.png"⟩)
          ((Element.ofName "tr" []).styleUnder .localWins style).inheritedPart.style (tableInRow.children 1) c₁
          style' ids' c' →
        rowMark? t.node c' = some mark → mark = true) ∧
      ∀ c₃, traverse tableInRow .localWins (visitor tableInRow ⟨{}, fun _ => .ok "a.png"⟩) style [1] c =
        .ok true c₃ → rowMark? t.node c₃ = some false := by
  have hdoc : tableInRow.Grown := (Document.grown_withRoot "table").appended _
  obtain ⟨final, hrun⟩ : ∃ final, runFrom tableInRow ⟨{}, fun _ => .ok "a.png"⟩ 0 = .ok final :=
    exists_ok (by decide +kernel)
  have hrow : 1 ∈ tableInRow.children 0 := by decide +kernel
  have htag : (Element.ofName "tr" []).tag = .tableRow := by decide +kernel
  obtain ⟨style, ids, c, t, hreaches, haccepts, ht⟩ :=
    exists_reaches_row hdoc (e := .ofName "table" []) rfl (by decide +kernel) hrow htag (traverse_of_runFrom hrun)
  obtain ⟨⟨c₁, hv, -, hbelow⟩, hbehind⟩ := rowMark_settles hreaches rfl haccepts ht
  refine ⟨style, ids, c, t, c₁, hreaches, haccepts, ht, hv, fun style' ids' c' mark hmoment hmark => ?_, hbehind⟩
  exact (hbelow style' ids' c' mark hmoment hmark).2 onlyNestedRows_tableInRow

theorem descends_of_cell {header : Bool} {colspan : Nat} (htag : e.tag = .tableCell header colspan)
    (hpre : c.preDepth = 0) : Ensures (enter doc setting id e style) c fun flow _ => flow = .descend := by
  intro flow c' hv
  cases (enter_comes hpre flow c' hv).2 with
  | stays | verbatim | table | row | cell => rfl
  | staged tag => simp [htag] at tag
  | skips _ _ why =>
    cases why with
    | suppressed tag => simp [htag, Tag.isSuppressed] at tag
    | void tag | grid tag | misplaced tag => simp [htag] at tag

/-- A row in a cell of another one, without a table of its own. -/
def rowInCell : Document :=
  (Document.withRoot "table").appended [.element 0 "tr" [], .element 1 "td" [], .element 2 "tr" []]

/-- Behind the row in the cell the mark is off, and the row around is still open. -/
theorem rowMark_lost_rowInCell :
    ∃ style ids c e t c₁ style' ids' c',
      Reaches rowInCell .localWins (visitor rowInCell ⟨{}, fun _ => .ok "a.png"⟩) Style.empty [0] Converter.start
        style (1 :: ids) c ∧
      rowInCell.element? 1 = some e ∧ acceptsRow e c = true ∧ c.table = some t ∧
      enter rowInCell ⟨{}, fun _ => .ok "a.png"⟩ 1 e (e.styleUnder .localWins style) c = .ok .descend c₁ ∧
      Reaches rowInCell .localWins (visitor rowInCell ⟨{}, fun _ => .ok "a.png"⟩)
        (e.styleUnder .localWins style).inheritedPart.style (rowInCell.children 1) c₁ style' ids' c' ∧
      rowMark? t.node c' = some false := by
  have hdoc : rowInCell.Grown := (Document.grown_withRoot "table").appended _
  obtain ⟨final, hrun⟩ : ∃ final, runFrom rowInCell ⟨{}, fun _ => .ok "a.png"⟩ 0 = .ok final :=
    exists_ok (by decide +kernel)
  have hrow : 1 ∈ rowInCell.children 0 := by decide +kernel
  have htag : (Element.ofName "tr" []).tag = .tableRow := by decide +kernel
  have hcell : (Element.ofName "td" []).tag = .tableCell false 1 := by decide +kernel
  have hcells : rowInCell.children 1 = [2] := by decide +kernel
  have hinner : rowInCell.children 2 = [3] := by decide +kernel
  obtain ⟨style, ids, c, t, hreaches, haccepts, ht⟩ :=
    exists_reaches_row hdoc (e := .ofName "table" []) rfl (by decide +kernel) hrow htag (traverse_of_runFrom hrun)
  have hn : t.node < 1 := tableBefore_of_reaches hreaches t ht
  have hrow₁ : rowInCell.element? 1 = some (.ofName "tr" []) := rfl
  have hcell₂ : rowInCell.element? 2 = some (.ofName "td" []) := rfl
  -- The row is entered, then the cell in it, and then the row in that one is visited.
  obtain ⟨c₁, hv, hpre₁, ht₁⟩ : ∃ c₁, enter rowInCell ⟨{}, fun _ => .ok "a.png"⟩ 1 (.ofName "tr" [])
      ((Element.ofName "tr" []).styleUnder .localWins style) c = .ok .descend c₁ ∧ c₁.preDepth = 0 ∧
        c₁.table = some { t with inRow := true, column := 0 } := enter_sets_mark haccepts ht
  obtain ⟨c₂, hvisit⟩ := hreaches.visit_ends (traverse_of_runFrom hrun)
  obtain ⟨_, _, _, _, hv', -, hchildren, -⟩ := traverse_element_ok hrow₁ hvisit
  obtain ⟨rfl, rfl⟩ := EStateM.Result.ok.inj (hv.symm.trans hv')
  rw [below, if_pos rfl, hcells] at hchildren
  obtain ⟨flow, c₃, c₄, _, hv₃, hflow, hbelow, -⟩ := traverse_element_ok hcell₂ hchildren
  obtain rfl := descends_of_cell hcell hpre₁ flow c₃ hv₃
  rw [below, if_pos rfl, hinner] at hbelow
  have hmark₃ := (enter_tells_mark (n := t.node) (by simp [startsTable, hcell]) hv₃).mark
  rw [rowMark?_of_table ht₁, if_pos rfl] at hmark₃
  obtain ⟨turns, htrail⟩ := exists_trail hbelow
  have hmark₄ := row_unmarks (by decide +kernel) (by omega) htrail hmark₃
  have hrest := Reaches.after hbelow (.refl _ [] c₄)
  rw [← hinner] at hrest
  refine ⟨style, ids, c, .ofName "tr" [], t, c₁, ?_⟩
  rw [hcells]
  exact ⟨_, [], c₄, hreaches, hrow₁, haccepts, ht, hv, .inside hcell₂ hv₃ hflow hrest, hmark₄⟩

end Convert

end MarkupTex
