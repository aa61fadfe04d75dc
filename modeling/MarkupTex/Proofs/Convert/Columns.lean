import MarkupTex.Proofs.Convert.CurrentTable
import MarkupTex.Proofs.Convert.Numbering
import MarkupTex.Proofs.Document.Width
/-!
# Separators and columns

The columns of a table are counted before it is begun, and the separators are written cell by cell, from a count
of the columns that the row has used up.  The two agree because what is in a cell gives that count back,
`column_of_trail`: a table in it has a count of its own, and what has no place there does not count.  So the
cells of a row write one separator less than the row has columns, and a table has as many columns as its widest
row, `separators_fit`.

A grid of images goes by the same count.
-/

set_option autoImplicit false

namespace MarkupTex

open Latex Walk MarkupTex.Convert

/-- The columns of the current row that are used up. -/
def Converter.column? (c : Converter) : Option Nat := c.table.map (·.column)

namespace Convert

variable {doc : Document} {setting : Setting} {policy : ImportantPolicy} {id row table : Nat} {e : Element}
  {style style' : Style} {flow : Flow} {ids : List Nat} {c c' c₁ c₂ c₃ : Converter} {t : TableState}
  {turns turns' : List (Turn Converter)} {cells : List (Nat × Nat)} {header : Bool} {colspan : Nat}

/-! ## What is in a cell -/

/-- An element in a cell that begins no table is entered in the same column. -/
theorem enter_column (hbegins : startsTable doc id e c = false) (hcell : c.place = .cell) :
    Ensures (enter doc setting id e style) c fun _ c' => c'.place = .cell ∧ c'.column? = c.column? := by
  intro flow c' hv
  rcases Nat.eq_zero_or_pos c.preDepth with hpre | hpre
  · obtain ⟨t, ht, hin⟩ : ∃ t, c.table = some t ∧ t.inCell = true := by
      have hany := Converter.inCell_iff.mpr hcell
      rwa [Converter.inCell, Option.any_eq_true] at hany
    have htable := enter_within hpre hbegins flow c' hv
    rw [ht] at htable
    have hkept : (t.entered doc id e).inCell = true ∧ (t.entered doc id e).column = t.column :=
      TableState.entered_of_inCell hin
    refine ⟨Converter.inCell_iff.mp ?_, ?_⟩
    · rw [Converter.inCell, htable]
      exact hkept.1
    · rw [Converter.column?, Converter.column?, htable, ht]
      exact congrArg some hkept.2
  · have htable := (enter_verbatim_notes hpre flow c' hv).2.table
    exact ⟨(place_congr htable).trans hcell, congrArg (Option.map TableState.column) htable⟩

/-- An element in a cell is left in the column in which it was entered. -/
theorem element_column (hv : enter doc setting id e style c = .ok flow c₁) (hr : Restored c₁ c₂)
    (hbelow : c₁.place = .cell → c₂.column? = c₁.column?) (hl : leave e c₂ = .ok () c₃)
    (hcell : c.place = .cell) : c₃.column? = c.column? := by
  cases hbegins : startsTable doc id e c with
  | true =>
    -- The table around comes back with the column that it had.
    obtain ⟨-, b, hbegun⟩ := enter_begins hbegins flow c₁ hv
    have htable := leave_table (tag_of_startsTable hbegins) (hr.frames.trans hbegun.frames) rfl () c₃ hl
    exact congrArg (Option.map TableState.column) htable
  | false =>
    obtain ⟨hcell₁, hcolumn₁⟩ := enter_column hbegins hcell flow c₁ hv
    -- Leaving an element takes no column back, unless a table ends with it.
    obtain ⟨f, hf, houter⟩ := enter_frames hbegins hv
    have htable := leave_within (hr.frames.trans hf) houter () c₃ hl
    have hleft : c₃.column? = c₂.column? := by
      rw [Converter.column?, Converter.column?, htable, Option.map_map]
      exact congrArg (fun g => c₂.table.map g) (funext fun _ => TableState.left_column)
    rw [hleft, hbelow hcell₁, hcolumn₁]

/-- Whatever there is in a cell, at the end of it the row is in the same column. -/
theorem column_of_trail (h : Trail doc policy (visitor doc setting) style ids c turns c') :
    c.place = .cell → c'.column? = c.column? := by
  induction h with
  | nil => exact fun _ => rfl
  | text _ visited _ _ ih =>
    intro hcell
    have hnotes := (visitText_notes setting _ _ _ _ visited).2
    rw [ih ((place_congr hnotes.table).trans hcell), Converter.column?, hnotes.table]
    rfl
  | element _ entered _ inside left _ hinside hrest =>
    intro hcell
    have hr := restored_of_trail inside
    have hcell₃ := (element_restores entered hr left).place.trans hcell
    rw [hrest hcell₃]
    exact element_column entered hr hinside left hcell

/-! ## Counting the separators of a row -/

/-- The separators that a row of cells needs behind some columns: one in front of each cell but the first, and
one for each further column that a cell spans. -/
def separatorsFrom : Nat → List (Nat × Nat) → Nat
  | _, [] => 0
  | column, (_, colspan) :: cells =>
    (if 0 < column then 1 else 0) + (colspan - 1) + separatorsFrom (column + colspan) cells

/-- They are as many as there are columns, and at the beginning of a row one less. -/
theorem separatorsFrom_eq (h : ∀ cell ∈ cells, 0 < cell.2) (column : Nat) :
    separatorsFrom column cells = total (cells.map (·.2)) - if column = 0 then 1 else 0 := by
  induction cells generalizing column with
  | nil => simp [separatorsFrom]
  | cons cell cells ih =>
    obtain ⟨hcell, hcells⟩ := List.forall_mem_cons.mp h
    have hrest := ih hcells (column + cell.2)
    rw [if_neg (by omega)] at hrest
    rw [separatorsFrom, hrest, List.map_cons, total_cons]
    split <;> split <;> omega

/-- What the calls on some cells write to set them apart, whatever the calls on other nodes write. -/
def cellSeparators (cells : List (Nat × Nat)) (turns : List (Turn Converter)) : Nat :=
  total ((turns.filter fun turn => turn.node ∈ cells.map Prod.fst).map fun turn =>
    separators turn.before turn.after)

theorem cellSeparators_append :
    cellSeparators cells (turns ++ turns') = cellSeparators cells turns + cellSeparators cells turns' := by
  simp [cellSeparators]

theorem cellSeparators_cons_own (turn : Turn Converter) (h : turn.node ∈ cells.map Prod.fst) :
    cellSeparators cells (turn :: turns) =
      separators turn.before turn.after + cellSeparators cells turns := by
  rw [cellSeparators, List.filter_cons_of_pos (by simpa using h)]
  rfl

theorem cellSeparators_cons_other {turn : Turn Converter} (h : turn.node ∉ cells.map Prod.fst) :
    cellSeparators cells (turn :: turns) = cellSeparators cells turns := by
  rw [cellSeparators, List.filter_cons_of_neg (by simpa using h)]
  rfl

theorem cellSeparators_of_apart (h : ∀ turn ∈ turns, turn.node ∉ cells.map Prod.fst) :
    cellSeparators cells turns = 0 := by
  rw [cellSeparators, List.filter_eq_nil_iff.mpr (by simpa using h)]
  rfl

/-! ## The cells of a row -/

/-- What is below a child of a row is no cell of the row. -/
theorem below_cell_apart (hdoc : doc.Grown) {child : Nat} (hid : id ∈ doc.children row)
    (hchild : child ∈ doc.children id) {way : List Nat} {x : Nat} (hway : doc.Leads child way x) :
    x ∉ (doc.rowCells row).map Prod.fst := by
  intro hmem
  have hx : x ∈ doc.children row := by
    rw [Document.map_fst_rowCells] at hmem
    exact (List.mem_filter.mp hmem).1
  have hbelow : doc.Leads id ([id] ++ way) x := (Document.Leads.start.child hchild).append hway
  have hsame : id = x := hdoc.child_unique hid hx hbelow .start
  have hlt : id < child := (Document.lt_of_mem_children hchild).1
  exact absurd hway.le (by omega)

/-- A cell of a row is visited: it writes the separators that it needs where the row is, and the row is as many
columns further behind it as the cell spans. -/
theorem cell_columns (htag : e.tag = .tableCell header colspan) (hpre : c.preDepth = 0) (ht : c.table = some t)
    (hbetween : t.inCell = false) (hv : enter doc setting id e style c = .ok flow c₁)
    (hinside : Trail doc policy (visitor doc setting) style' ids c₁ turns c₂) (hl : leave e c₂ = .ok () c₃) :
    separators c c₁ + separators c₂ c₃ = (if 0 < t.column then 1 else 0) + (colspan - 1) ∧
      ∃ t₃, c₃.table = some t₃ ∧ t₃.inCell = false ∧ t₃.column = t.column + colspan := by
  obtain ⟨b, hbegun⟩ := enter_cell htag hpre ht hbetween flow c₁ hv
  obtain ⟨f, hf, hcell, hpadding, hends⟩ := hbegun.frames
  have hr := restored_of_trail hinside
  obtain ⟨hcount, htable⟩ := leave_cell htag (hr.frames.trans hf) hcell hends () c₃ hl
  refine ⟨?_, ?_⟩
  · obtain ⟨-, b', scope, hentered⟩ := (enter_yields doc setting id e style c).of_ok hv
    have hbefore : c.ampersands + separators c c₁ = c₁.ampersands := ampersands_add_separators hentered.extends
    have hbehind : c₂.ampersands + separators c₂ c₃ = c₃.ampersands :=
      ampersands_add_separators (leave_goesOn e c₂ () c₃ hl).output
    have hstart : c₁.ampersands = c.ampersands + if 0 < t.column then 1 else 0 := hbegun.ampersands
    omega
  · have hplace : c₁.place = .cell := by
      rw [Converter.place, hbegun.table]
      rfl
    have hcolumn : c₂.column? = some (t.column + colspan) := by
      rw [column_of_trail hinside hplace, Converter.column?, hbegun.table]
      rfl
    obtain ⟨t₂, ht₂, hcolumn₂⟩ := Option.map_eq_some_iff.mp hcolumn
    exact ⟨{ t₂ with inCell := false }, by rw [htable, ht₂]; rfl, rfl, hcolumn₂⟩

/-- Visiting the children of a row, of which the elements are cells, writes the separators that the cells need,
and uses up the columns that they span. -/
theorem cells_of_trail (hdoc : doc.Grown) (h : Trail doc policy (visitor doc setting) style ids c turns c')
    (hids : ids ⊆ doc.children row) (hcells : ∀ x ∈ ids, (doc.element? x).isSome → doc.isCell x = true)
    (hpre : c.preDepth = 0) (ht : c.table = some t) (hbetween : t.inCell = false) :
    cellSeparators (doc.rowCells row) turns = separatorsFrom t.column (doc.cellsOf ids) ∧
      c'.column? = some (t.column + total ((doc.cellsOf ids).map (·.2))) := by
  induction h generalizing t with
  | nil =>
    refine ⟨rfl, ?_⟩
    rw [Converter.column?, ht]
    rfl
  | @text _ id ids _ _ c c₁ _ _ isText visited _ _ ih =>
    -- There is nothing of a text between the cells.
    have hother : doc.isCell id = false := by
      rw [Document.isCell, Document.tag?, Document.element?_of_text? isText]
      rfl
    have hapart : (Turn.text id c c₁).node ∉ (doc.rowCells row).map Prod.fst := by
      rw [Document.map_fst_rowCells]
      simp [Turn.node, hother]
    have hnotes := (visitText_notes setting _ c _ _ visited).2
    rw [Document.cellsOf_cons_other hother, cellSeparators_cons_other hapart]
    exact ih (List.subset_of_cons_subset hids) (fun x hx => hcells x (List.mem_cons_of_mem _ hx))
      (hnotes.preDepth.trans hpre) (hnotes.table.trans ht) hbetween
  | @element _ id ids e _ c c₁ c₂ c₃ _ inner turns isElement entered _ inside left _ _ ih =>
    have hid : id ∈ doc.children row := hids List.mem_cons_self
    have hcell : doc.isCell id = true := hcells id List.mem_cons_self (by rw [isElement]; rfl)
    obtain ⟨header, colspan, htag⟩ := Document.isCell_iff.mp hcell
    have htag' : e.tag = .tableCell header colspan := by
      rw [Document.tag?_of_element? isElement] at htag
      exact Option.some.inj htag
    obtain ⟨hown, t₃, ht₃, hbetween₃, hcolumn₃⟩ := cell_columns htag' hpre ht hbetween entered inside left
    have hr := element_restores entered (restored_of_trail inside) left
    obtain ⟨hrest, hcolumn⟩ := ih (List.subset_of_cons_subset hids)
      (fun x hx => hcells x (List.mem_cons_of_mem _ hx)) (hr.preDepth.trans hpre) ht₃ hbetween₃
    have hmem : id ∈ (doc.rowCells row).map Prod.fst := by
      rw [Document.map_fst_rowCells]
      exact List.mem_filter.mpr ⟨hid, hcell⟩
    have hinner : cellSeparators (doc.rowCells row) inner = 0 := by
      refine cellSeparators_of_apart fun turn hturn => ?_
      obtain ⟨child, hchild, way, hway⟩ := inside.leads turn hturn
      exact below_cell_apart hdoc hid (mem_children_of_mem_below hchild) hway
    rw [hcolumn₃] at hrest hcolumn
    rw [Document.cellsOf_cons_cell htag, separatorsFrom, List.map_cons, total_cons]
    rw [cellSeparators_cons_own (.enter id e c c₁) hmem, cellSeparators_append,
      cellSeparators_cons_own (.leave id e c₂ c₃) hmem, hinner, hrest]
    refine ⟨?_, ?_⟩
    · simp only [Turn.before, Turn.after]
      omega
    · rw [hcolumn, Nat.add_assoc]

/-- A row of cells writes one separator less than it has columns, and has used them all up when it is left. -/
theorem row_columns (hdoc : doc.Grown) (hrow : doc.isRow row = true)
    (hcells : ∀ x ∈ doc.children row, (doc.element? x).isSome → doc.isCell x = true)
    (hpre : c.preDepth = 0) (ht : c.table = some t) (hbetween : t.inCell = false)
    (h : Trail doc policy (visitor doc setting) style [row] c turns c') :
    cellSeparators (doc.rowCells row) turns = doc.rowWidth row - 1 ∧
      ∃ e before after, turns.getLast? = some (.leave row e before after) ∧
        before.column? = some (doc.rowWidth row) := by
  simp only [Document.isRow, decide_eq_true_eq] at hrow
  have hapart : row ∉ (doc.rowCells row).map Prod.fst := by
    intro hmem
    rw [Document.map_fst_rowCells] at hmem
    exact absurd (Document.lt_of_mem_children (List.mem_filter.mp hmem).1).1 (Nat.lt_irrefl row)
  cases h with
  | text isText => simp [Document.tag?, Document.element?_of_text? isText] at hrow
  | @element _ _ _ e flow _ c₁ c₂ _ _ inner _ isElement entered _ inside left rest =>
    have htag : e.tag = .tableRow := by
      rw [Document.tag?_of_element? isElement] at hrow
      exact Option.some.inj hrow
    obtain ⟨rfl, hpre₁, ht₁⟩ := enter_row htag hpre ht hbetween flow c₁ entered
    cases rest
    obtain ⟨hcount, hcolumn⟩ := cells_of_trail hdoc inside (fun x hx => hx) hcells hpre₁ ht₁ hbetween
    refine ⟨?_, e, c₂, c', ?_, ?_⟩
    · rw [cellSeparators_cons_other hapart, cellSeparators_append, cellSeparators_cons_other hapart, hcount]
      exact separatorsFrom_eq (fun cell hcell => Document.pos_of_mem_rowCells hcell) 0
    · rw [← List.cons_append, List.getLast?_concat]
    · rw [hcolumn, Nat.zero_add]
      rfl

/-! ## The rows of a table -/

theorem enter_section (htag : e.tag = .tableSection) (hpre : c.preDepth = 0) :
    Ensures (enter doc setting id e style) c fun flow c' => flow = .descend ∧ c'.preDepth = 0 ∧
      c'.place = c.place := by
  refine .enter hpre ?_
  unfold openElement
  rw [htag]
  exact Ensures.pure ⟨rfl, hpre, rfl⟩

/-- Between the cells of a table, outside of verbatim blocks. -/
def Loose (c : Converter) : Prop := c.preDepth = 0 ∧ c.place = .between

theorem Loose.restored (h : Loose c) (hr : Restored c c') : Loose c' :=
  ⟨hr.preDepth.trans h.1, hr.place.trans h.2⟩

theorem enter_table_loose (hbegins : startsTable doc id e c) :
    Ensures (enter doc setting id e style) c fun flow c' => flow = .descend ∧ Loose c' := by
  refine (enter_begins hbegins).mono fun flow c' ⟨hflow, b, hbegun⟩ => ⟨hflow, ?_, ?_⟩
  · simp only [startsTable, Bool.and_eq_true, decide_eq_true_eq] at hbegins
    obtain ⟨_, _, -, -, rfl⟩ := hbegun
    exact hbegins.1.1.1
  · exact Converter.place_between_iff.mpr ⟨_, hbegun.table, rfl⟩

variable {x : Nat}

/-- No cell is open when the turn comes to a node with nothing but sections between the table and it. -/
theorem loose_of_reaches (hdoc : doc.Grown) (he : doc.element? table = some e)
    (hbegins : startsTable doc table e c) {sections : List Nat}
    (hleads : doc.Leads table (table :: sections ++ [x]) x)
    (hsections : ∀ s ∈ sections, doc.isSection s = true)
    (h : Reaches doc policy (visitor doc setting) style [table] c style' (x :: ids) c') : Loose c' := by
  cases h with
  | refl =>
    -- The node is below the table.
    exact absurd (hleads.lt_of_mem table (by simp)) (Nat.lt_irrefl table)
  | after _ rest =>
    obtain ⟨top, htop, -⟩ := rest.leads
    cases htop
  | inside isElement entered _ rest =>
    rw [he] at isElement
    cases isElement
    have hloose := (enter_table_loose hbegins _ _ entered).2
    have hsection : ∀ {id e style flow c₁ c₂}, doc.isSection id = true → doc.element? id = some e →
        enter doc setting id e style c₁ = .ok flow c₂ → Loose c₁ → Loose c₂ := by
      intro id e style flow c₁ c₂ hsection hid hv hloose
      have htag : e.tag = .tableSection := by
        simpa [Document.isSection, Document.tag?_of_element? hid] using hsection
      obtain ⟨-, hpre, hplace⟩ := enter_section htag hloose.1 flow c₂ hv
      exact ⟨hpre, hplace.trans hloose.2⟩
    refine rest.keeps (fun hv hloose => hloose.restored (visited_restored hv)) hsection ?_ hloose
    intro top htop way hway
    -- There is no other path from the table to the node.
    have hpath := (Document.Leads.start.child (mem_children_of_mem_below htop)).append hway
    have hsame := hdoc.leads_unique_from hpath hleads
    obtain rfl : way = sections := List.append_cancel_right (List.cons.inj hsame).2
    exact hsections

/-- The path to one of the sections goes through sections, too. -/
theorem sections_above {sections : List Nat} (hleads : doc.Leads table (table :: sections ++ [x]) x)
    (hid : id ∈ sections) : ∃ front, doc.Leads table (table :: front ++ [id]) id ∧ front ⊆ sections := by
  obtain ⟨above, hprefix, habove⟩ := hleads.split (List.mem_append_left _ (List.mem_cons_of_mem _ hid))
  have hlt : table < id := hleads.lt_of_mem id (List.mem_append_left _ hid)
  cases above with
  | nil =>
    obtain ⟨rest, hrest⟩ := habove.eq_cons
    exact absurd (List.cons.inj hrest).1 (Nat.ne_of_gt hlt)
  | cons first front =>
    obtain ⟨rest, hrest⟩ := habove.eq_cons
    obtain rfl : first = table := (List.cons.inj hrest).1
    refine ⟨front, habove, fun y hy => ?_⟩
    have hrest : front ++ [id] <+: sections ++ [x] := (List.prefix_cons_inj first).mp hprefix
    rcases List.prefix_concat_iff.mp hrest with hsame | hin
    · rwa [List.append_inj_left' hsame rfl] at hy
    · exact hin.subset (List.mem_append_left _ hy)

/-- The table and the sections in it go on to their children. -/
theorem descends_of_reaches (hdoc : doc.Grown) (he : doc.element? table = some e)
    (hbegins : startsTable doc table e c) {sections : List Nat}
    (hleads : doc.Leads table (table :: sections ++ [x]) x)
    (hsections : ∀ s ∈ sections, doc.isSection s = true) {k : Nat} {e' : Element}
    (hk : k ∈ table :: sections) (hk' : doc.element? k = some e')
    (h : Reaches doc policy (visitor doc setting) style [table] c style' (k :: ids) c')
    (hv : enter doc setting k e' (e'.styleUnder policy style') c' = .ok flow c₁) : flow = .descend := by
  rcases List.mem_cons.mp hk with rfl | hk
  · obtain ⟨rfl, rfl⟩ := h.eq_start
    rw [he] at hk'
    cases hk'
    exact (enter_table_loose hbegins flow c₁ hv).1
  · obtain ⟨front, hfront, hsub⟩ := sections_above hleads hk
    have hloose := loose_of_reaches hdoc he hbegins hfront (fun s hs => hsections s (hsub hs)) h
    have htag : e'.tag = .tableSection := by
      simpa [Document.isSection, Document.tag?_of_element? hk'] using hsections k hk
    exact (enter_section htag hloose.1 flow c₁ hv).1

/-- The turn comes to each of these nodes. -/
theorem exists_reaches (hdoc : doc.Grown) (he : doc.element? table = some e)
    (hbegins : startsTable doc table e c) {sections : List Nat}
    (hleads : doc.Leads table (table :: sections ++ [x]) x)
    (hsections : ∀ s ∈ sections, doc.isSection s = true)
    (hvisit : traverse doc policy (visitor doc setting) style [table] c = .ok true c₁) :
    ∃ style' ids c', Reaches doc policy (visitor doc setting) style [table] c style' (x :: ids) c' := by
  have helements : ∀ y ∈ (table :: sections ++ [x]).dropLast, ∃ e, doc.element? y = some e := by
    intro y hy
    rw [List.dropLast_concat] at hy
    rcases List.mem_cons.mp hy with rfl | hy
    · exact ⟨e, he⟩
    · have htag := hsections y hy
      simp only [Document.isSection, Document.tag?, decide_eq_true_eq, Option.map_eq_some_iff] at htag
      exact htag.imp fun _ h => h.1
  rcases comes_or_skips hvisit hleads helements with hcomes |
    ⟨k, e', way, style', ids', c', c₂, flow, hreaches, hk, hv, hflow, -, -, hmem, -, -⟩
  · exact hcomes
  · -- Neither the table nor a section is passed over.
    rw [List.dropLast_concat] at hmem
    exact absurd (descends_of_reaches hdoc he hbegins hleads hsections hmem hk hreaches hv) hflow

/-! ## The specification of the columns -/

theorem count_repeated (s : String) (n : Nat) (ch : Char) :
    (repeated s n).toList.count ch = n * s.toList.count ch := by
  rw [repeated, String.toList_join, List.count_flatMap]
  simp [Function.comp_def]

/-- The specification sets as many columns as it is given. -/
theorem count_columnSpec (n : Nat) (borders : Bool) : (columnSpec n borders).toList.count 'l' = n := by
  unfold columnSpec
  cases borders with
  | false => simp [count_repeated]
  | true => simp [count_repeated]

/-! ## Grids of images -/

/-- The piece sets columns apart: there is one ampersand in it. -/
def GridPiece.isSeparator : GridPiece → Bool
  | next | empty => true
  | _ => false

theorem imagePieces_separators (first : Bool) (ids : List Nat) :
    (imagePieces doc setting first ids).countP GridPiece.isSeparator = 0 := by
  induction ids generalizing first with
  | nil => rfl
  | cons id ids ih =>
    rw [imagePieces]
    cases imagePath? doc setting id with
    | none => exact ih first
    | some path => cases first <;> simp [GridPiece.isSeparator, ih]

/-- The cells of a grid are set apart in the same way. -/
theorem cellPieces_separators (column : Nat) (cells : List (Nat × Nat)) :
    (cellPieces doc setting column cells).countP GridPiece.isSeparator = separatorsFrom column cells := by
  induction cells generalizing column with
  | nil => rfl
  | cons cell cells ih =>
    obtain ⟨cell, colspan⟩ := cell
    have hnext : (if 0 < column then [GridPiece.next] else []).countP GridPiece.isSeparator =
        if 0 < column then 1 else 0 := by
      split <;> rfl
    have hempty : (List.replicate (colspan - 1) GridPiece.empty).countP GridPiece.isSeparator =
        colspan - 1 := by
      simp [List.countP_replicate, GridPiece.isSeparator]
    simp only [cellPieces, List.countP_append, hnext, hempty, imagePieces_separators, ih, separatorsFrom,
      Nat.add_zero]

/-! ## All rows of a run -/

/-- The cells of the row write one separator less than they span columns when the row is visited, and when it is
left they have used up just these columns. -/
def RowFits (doc : Document) (setting : Setting) (row : Nat) (style : Style) (c : Converter) : Prop :=
  ∃ turns c', Trail doc setting.options.importantPolicy (visitor doc setting) style [row] c turns c' ∧
    cellSeparators (doc.rowCells row) turns = doc.rowWidth row - 1 ∧
    ∃ e before after, turns.getLast? = some (.leave row e before after) ∧
      before.column? = some (doc.rowWidth row)

/-- Whatever is in its cells, a row of a table that has no other elements than cells is set apart into as many
columns as its cells span, whenever it is visited, and the grid that was begun for the table has as many columns
at least.  A grid of images has as many separators in each row, and it has columns enough, too. -/
theorem separators_fit {name : String} {additions : List Document.Addition} {root : Nat} {final : Converter}
    (hdoc : doc = (Document.withRoot name).appended additions) (hrun : runFrom doc setting root = .ok final)
    (hcomes : Reaches doc setting.options.importantPolicy (visitor doc setting) Style.empty [root]
      Converter.start style (table :: ids) c)
    (he : doc.element? table = some e) (hrow : row ∈ doc.tableRows table) :
    (startsTable doc table e c →
      (∀ x ∈ doc.children row, (doc.element? x).isSome → doc.isCell x = true) →
      (∃ c₁ front, enter doc setting table e (e.styleUnder setting.options.importantPolicy style) c =
          .ok .descend c₁ ∧
        c₁.output = front ++ gridBegin ++ gridColumns doc setting.options table) ∧
      doc.rowWidth row ≤
        (columnSpec (doc.columnCount table) setting.options.tableBorders).toList.count 'l' ∧
      (∃ style' ids' c', Reaches doc setting.options.importantPolicy (visitor doc setting) style [table] c
        style' (row :: ids') c') ∧
      ∀ style' ids' c', Reaches doc setting.options.importantPolicy (visitor doc setting) style [table] c
        style' (row :: ids') c' → RowFits doc setting row style' c') ∧
    (e.tag = .table → c.preDepth = 0 → isOutermost c = true → doc.isImageOnly table = true →
      (∃ c₁, enter doc setting table e (e.styleUnder setting.options.importantPolicy style) c =
          .ok .skipChildren c₁ ∧ ImageGridWritten doc setting table e c c₁) ∧
      doc.rowWidth row ≤ (repeated "c" (doc.columnCount table)).toList.count 'c' ∧
      (cellPieces doc setting 0 (doc.rowCells row)).countP GridPiece.isSeparator = doc.rowWidth row - 1) := by
  have hgrown : doc.Grown := by
    rw [hdoc]
    exact (Document.grown_withRoot name).appended additions
  have hwidth : doc.rowWidth row ≤ doc.columnCount table := Document.rowWidth_le_columnCount hrow
  obtain ⟨c₂, hvisit⟩ := hcomes.visit_ends (traverse_of_runFrom hrun)
  obtain ⟨flow, c₁, _, _, hv, -⟩ := traverse_element_ok he hvisit
  refine ⟨fun hbegins hcells => ?_, fun htag hpre houter himages => ?_⟩
  · obtain ⟨hisRow, sections, hleads, hsections⟩ := Document.mem_tableRows.mp hrow
    refine ⟨?_, ?_, exists_reaches hgrown he hbegins hleads hsections hvisit, ?_⟩
    · obtain ⟨rfl, b, front, buffer, -, hout, hc₁⟩ := enter_begins hbegins flow c₁ hv
      refine ⟨c₁, front.text.toList, hv, ?_⟩
      rw [hc₁]
      exact hout
    · rwa [count_columnSpec]
    · intro style' ids' c' hreaches
      obtain ⟨c₃, hhere⟩ := hreaches.visit_ends hvisit
      obtain ⟨turns, htrail⟩ := exists_trail hhere
      obtain ⟨hpre, hplace⟩ := loose_of_reaches hgrown he hbegins hleads hsections hreaches
      obtain ⟨t, ht, hbetween⟩ := Converter.place_between_iff.mp hplace
      exact ⟨turns, c₃, htrail, row_columns hgrown hisRow hcells hpre ht hbetween htrail⟩
  · obtain ⟨rfl, hwritten⟩ := (enter_imageGrid htag hpre houter himages).of_ok hv
    refine ⟨⟨c₁, hv, hwritten⟩, ?_, ?_⟩
    · rw [count_repeated]
      exact Nat.le_trans hwidth (Nat.le_of_eq (Nat.mul_one _).symm)
    · rw [cellPieces_separators]
      exact separatorsFrom_eq (fun cell hcell => Document.pos_of_mem_rowCells hcell) 0

/-- A row with a wide cell that has a table in it. -/
def tableInWideCell : Document :=
  (Document.withRoot "table").appended
    [.element 0 "tr" [], .element 1 "td" [⟨"colspan", "2"⟩], .element 2 "table" [], .element 3 "tr" [],
      .element 4 "td" [], .element 4 "td" [], .element 1 "td" [], .text 7 "a"]

/-- The same row with images in it. -/
def imageInWideCell : Document :=
  (Document.withRoot "table").appended
    [.element 0 "tr" [], .element 1 "td" [⟨"colspan", "2"⟩], .element 2 "img" [⟨"src", "a.png"⟩],
      .element 1 "td" []]

theorem separators_fit_tableInWideCell :
    tableInWideCell.rowWidth 1 = 3 ∧
      (∃ style ids c, Reaches tableInWideCell .localWins (visitor tableInWideCell ⟨{}, fun _ => .ok "a.png"⟩)
          Style.empty [0] Converter.start style (1 :: ids) c ∧
        RowFits tableInWideCell ⟨{}, fun _ => .ok "a.png"⟩ 1 style c) ∧
      (cellPieces imageInWideCell ⟨{}, fun _ => .ok "a.png"⟩ 0 (imageInWideCell.rowCells 1)).countP
        GridPiece.isSeparator = 2 := by
  have hwide : tableInWideCell.rowWidth 1 = 3 := by decide +kernel
  have hwide' : imageInWideCell.rowWidth 1 = 3 := by decide +kernel
  refine ⟨hwide, ?_, ?_⟩
  · obtain ⟨final, hrun⟩ : ∃ final, runFrom tableInWideCell ⟨{}, fun _ => .ok "a.png"⟩ 0 = .ok final :=
      exists_ok (by decide +kernel)
    have hrow : 1 ∈ tableInWideCell.tableRows 0 := by
      refine Document.mem_tableRows.mpr ⟨by decide +kernel, [], .child .start ?_, by simp⟩
      decide +kernel
    have hcells : ∀ x ∈ tableInWideCell.children 1, (tableInWideCell.element? x).isSome →
        tableInWideCell.isCell x = true := by decide +kernel
    obtain ⟨-, -, ⟨style, ids, c, hreaches⟩, hfits⟩ :=
      (separators_fit rfl hrun (.refl Style.empty [0] Converter.start) (e := .ofName "table" []) rfl hrow).1
        (by decide +kernel) hcells
    exact ⟨style, ids, c, hreaches, hfits style ids c hreaches⟩
  · obtain ⟨final, hrun⟩ : ∃ final, runFrom imageInWideCell ⟨{}, fun _ => .ok "a.png"⟩ 0 = .ok final :=
      exists_ok (by decide +kernel)
    have hrow : 1 ∈ imageInWideCell.tableRows 0 := by
      refine Document.mem_tableRows.mpr ⟨by decide +kernel, [], .child .start ?_, by simp⟩
      decide +kernel
    obtain ⟨-, -, hcount⟩ :=
      (separators_fit rfl hrun (.refl Style.empty [0] Converter.start) (e := .ofName "table" []) rfl hrow).2
        (by decide +kernel) rfl rfl (by decide +kernel)
    exact hcount.trans (congrArg (· - 1) hwide')

end Convert

end MarkupTex
