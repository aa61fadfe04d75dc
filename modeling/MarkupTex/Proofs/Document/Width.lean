import Mathlib.Data.List.Perm.Subperm
import Mathlib.Order.Bounds.Defs
import MarkupTex.Proofs.Document.Appending
import MarkupTex.Proofs.Document.Cells
/-!
# The width of a table

The columns of a table are those of its widest row, and the columns of a row those of its cells together
(`columnCount_isGreatest`).  So what is appended to a document matters for a table only if it is a cell, and is
appended to one of the rows of that table (`columnCount_push`).  There is but one path to a node, so nothing that is
below a cell, a caption or anything else that is neither a section nor a row is a row of the table around it
(`Grown.not_isRowOf`), and whatever is appended there leaves the width as it is.
-/

set_option autoImplicit false

namespace MarkupTex

/-- The columns that a node with this content takes in a row: those that it spans if it is a cell, and none
otherwise. -/
def Content.colspan : Content → Nat
  | .element e =>
    match e.tag with
    | .tableCell _ colspan => colspan
    | _ => 0
  | .text _ => 0

namespace Document

variable {doc : Document} {parent table row id n x : Nat} {content : Content} {path way : List Nat}

/-! ## Columns of a row -/

def colspan (doc : Document) (id : Nat) : Nat := ((doc.node? id).map (·.content.colspan)).getD 0

/-- The columns of the cells right below a row. -/
def span (doc : Document) (row : Nat) : Nat := total ((doc.children row).map doc.colspan)

theorem colspan_eq (doc : Document) (id : Nat) :
    doc.colspan id = match doc.tag? id with
      | some (.tableCell _ colspan) => colspan
      | _ => 0 := by
  rw [colspan, tag?, element?]
  cases doc.node? id with
  | none => rfl
  | some node =>
    obtain ⟨e | s, above, below⟩ := node
    · simp only [Option.map_some, Option.getD_some, Content.colspan]
      cases e.tag <;> rfl
    · rfl

theorem colspan_of_not_cell (h : doc.isCell id = false) : doc.colspan id = 0 := by
  rw [colspan_eq]
  split
  · next htag =>
    rw [isCell_iff.mpr ⟨_, _, htag⟩] at h
    cases h
  · rfl

theorem rowWidth_eq_span (doc : Document) (row : Nat) : doc.rowWidth row = doc.span row := by
  rw [rowWidth, span]
  change total ((doc.cellsOf (doc.children row)).map (·.2)) = _
  induction doc.children row with
  | nil => rfl
  | cons id ids ih =>
    cases hcell : doc.isCell id with
    | true =>
      obtain ⟨header, columns, htag⟩ := isCell_iff.mp hcell
      rw [cellsOf_cons_cell htag, List.map_cons, total_cons, ih, List.map_cons, total_cons, colspan_eq, htag]
    | false =>
      rw [cellsOf_cons_other hcell, ih, List.map_cons, total_cons, colspan_of_not_cell hcell, Nat.zero_add]

theorem colspan_content_le (content : Content) : content.colspan ≤ maxColspan := by
  unfold Content.colspan
  split
  · split
    · next htag =>
      obtain ⟨value, rfl⟩ := exists_parseColspan htag
      exact parseColspan_le value
    · exact Nat.zero_le _
  · exact Nat.zero_le _

theorem colspan_le (doc : Document) (id : Nat) : doc.colspan id ≤ maxColspan := by
  rw [colspan]
  cases doc.node? id with
  | none => exact Nat.zero_le _
  | some node => exact colspan_content_le node.content

/-- A row has at most as many children as there are nodes. -/
theorem Grown.span_le (hdoc : doc.Grown) (row : Nat) : doc.span row ≤ doc.size * maxColspan := by
  have hnodup : (doc.children row).Nodup := (hdoc.increasing row).imp Nat.ne_of_lt
  have hlength : (doc.children row).length ≤ doc.size := by
    have hsub : doc.children row ⊆ List.range doc.size := fun child hchild =>
      List.mem_range.mpr (lt_of_mem_children hchild).2
    have := (List.subperm_of_subset hnodup hsub).length_le
    rwa [List.length_range] at this
  have hsum : doc.span row ≤ (doc.children row).length * maxColspan := by
    rw [span]
    induction doc.children row with
    | nil => exact Nat.zero_le _
    | cons id ids ih =>
      rw [List.map_cons, total_cons, List.length_cons, Nat.succ_mul, Nat.add_comm]
      exact Nat.add_le_add ih (doc.colspan_le id)
  exact Nat.le_trans hsum (Nat.mul_le_mul_right maxColspan hlength)

/-! ### In words -/

/-- Numbers added up in words of 64 bits, where a sum that is too large is the largest word. -/
def saturatedTotal (ns : List Nat) : Nat := ns.foldl (fun sum n => min (sum + n) (UInt64.size - 1)) 0

theorem foldl_saturated (ns : List Nat) {limit m : Nat} (hm : m ≤ limit) :
    ns.foldl (fun sum n => min (sum + n) limit) m = min (m + total ns) limit := by
  induction ns generalizing m with
  | nil => simp [hm]
  | cons n ns ih =>
    rw [List.foldl_cons, ih (Nat.min_le_right ..), total_cons]
    omega

/-- A word has room for the columns of a row, unless there are more nodes than any memory holds. -/
theorem Grown.saturatedTotal_eq (hdoc : doc.Grown) (hsize : doc.size * maxColspan < UInt64.size) (row : Nat) :
    saturatedTotal ((doc.rowCells row).map (·.2)) = doc.span row := by
  have hle := hdoc.span_le row
  rw [saturatedTotal, foldl_saturated _ (Nat.zero_le _), Nat.zero_add, ← rowWidth, rowWidth_eq_span]
  omega

/-! ## The widest row -/

theorem le_foldl_max {n m : Nat} {ns : List Nat} (h : n ∈ ns ∨ n ≤ m) : n ≤ ns.foldl max m := by
  induction ns generalizing m with
  | nil => simpa using h
  | cons first ns ih =>
    refine ih ?_
    rcases h with h | h
    · rcases List.mem_cons.mp h with rfl | h
      · exact .inr (Nat.le_max_right m n)
      · exact .inl h
    · exact .inr (Nat.le_trans h (Nat.le_max_left m first))

theorem foldl_max_mem (m : Nat) (ns : List Nat) : ns.foldl max m = m ∨ ns.foldl max m ∈ ns := by
  induction ns generalizing m with
  | nil => exact .inl rfl
  | cons first ns ih =>
    rw [List.foldl_cons]
    rcases ih (max m first) with hfold | hfold
    · rw [hfold]
      rcases Nat.le_total first m with h | h
      · exact .inl (Nat.max_eq_left h)
      · exact .inr (List.mem_cons.mpr (.inl (Nat.max_eq_right h)))
    · exact .inr (List.mem_cons_of_mem first hfold)

/-- A table has as many columns as its widest row. -/
theorem rowWidth_le_columnCount (h : row ∈ doc.tableRows table) :
    doc.rowWidth row ≤ doc.columnCount table :=
  Nat.le_trans (le_foldl_max (.inl (List.mem_map_of_mem h))) (Nat.le_max_right _ _)

theorem span_le_columnCount (h : doc.IsRowOf table row) : doc.span row ≤ doc.columnCount table := by
  rw [← rowWidth_eq_span]
  exact rowWidth_le_columnCount (mem_tableRows.mpr h)

/-- Either no row has a cell, or the table is as wide as some row. -/
theorem columnCount_cases (doc : Document) (table : Nat) :
    (doc.columnCount table = 1 ∧ ∀ row, doc.IsRowOf table row → doc.span row = 0) ∨
      ∃ row, doc.IsRowOf table row ∧ 0 < doc.span row ∧ doc.span row = doc.columnCount table := by
  have hle : ∀ row, doc.IsRowOf table row →
      doc.span row ≤ ((doc.tableRows table).map doc.rowWidth).foldl max 0 := by
    intro row hrow
    rw [← rowWidth_eq_span]
    exact le_foldl_max (.inl (List.mem_map_of_mem (mem_tableRows.mpr hrow)))
  rw [columnCount]
  rcases Nat.eq_zero_or_pos (((doc.tableRows table).map doc.rowWidth).foldl max 0) with hzero | hpos
  · refine .inl ⟨by rw [hzero]; rfl, fun row hrow => ?_⟩
    have := hle row hrow
    omega
  · have hmem := (foldl_max_mem 0 ((doc.tableRows table).map doc.rowWidth)).resolve_left (Nat.ne_of_gt hpos)
    obtain ⟨row, hrow, hwidth⟩ := List.mem_map.mp hmem
    rw [rowWidth_eq_span] at hwidth
    exact .inr ⟨row, mem_tableRows.mp hrow, by omega, by omega⟩

theorem columnCount_isGreatest (h : doc.IsRowOf table row) (hpos : 0 < doc.span row) :
    IsGreatest {n | ∃ row, doc.IsRowOf table row ∧ doc.span row = n} (doc.columnCount table) := by
  constructor
  · rcases doc.columnCount_cases table with ⟨-, hnone⟩ | ⟨widest, hwidest, -, hspan⟩
    · have := hnone row h
      omega
    · exact ⟨widest, hwidest, hspan⟩
  · rintro n ⟨other, hother, rfl⟩
    exact span_le_columnCount hother

theorem columnCount_eq_one (h : ∀ row, doc.IsRowOf table row → doc.span row = 0) :
    doc.columnCount table = 1 := by
  rcases doc.columnCount_cases table with ⟨hone, -⟩ | ⟨row, hrow, hpos, -⟩
  · exact hone
  · have := h row hrow
    omega

/-- Rows without a cell do not count. -/
theorem columnCount_congr {doc' : Document}
    (h : ∀ n, 0 < n → ((∃ row, doc'.IsRowOf table row ∧ doc'.span row = n) ↔
      ∃ row, doc.IsRowOf table row ∧ doc.span row = n)) :
    doc'.columnCount table = doc.columnCount table := by
  rcases doc.columnCount_cases table with ⟨hone, hnone⟩ | ⟨row, hrow, hpos, hspan⟩
  · rw [hone]
    refine columnCount_eq_one fun row hrow => ?_
    by_contra hne
    obtain ⟨other, hother, hsame⟩ := (h _ (Nat.pos_of_ne_zero hne)).mp ⟨row, hrow, rfl⟩
    have := hnone other hother
    omega
  · obtain ⟨row', hrow', hspan'⟩ := (h _ hpos).mpr ⟨row, hrow, rfl⟩
    have hle := span_le_columnCount hrow'
    rcases doc'.columnCount_cases table with ⟨-, hnone⟩ | ⟨widest, hwidest, hpos', hwide⟩
    · have := hnone row' hrow'
      omega
    · obtain ⟨other, hother, hsame⟩ := (h _ hpos').mp ⟨widest, hwidest, rfl⟩
      have := span_le_columnCount hother
      omega

/-! ## One more node -/

theorem tag?_push (hid : id ≠ doc.size) : (doc.push parent content).tag? id = doc.tag? id := by
  rw [tag?, element?_push, if_neg hid, tag?]

theorem Leads.push (h : doc.Leads table way x) (hp : parent < doc.size) (content : Content) :
    (doc.push parent content).Leads table way x := by
  induction h with
  | start => exact .start
  | child above mem ih => exact ih.child ((mem_children_push hp content).mpr (.inl mem))

/-- The last node has nothing below it, so every path to another node was there before. -/
theorem Leads.of_push (h : (doc.push parent content).Leads table way x) (hp : parent < doc.size)
    (hx : x ≠ doc.size) : doc.Leads table way x := by
  induction h with
  | start => exact .start
  | @child path id child above mem ih =>
    rcases (mem_children_push hp content).mp mem with hold | ⟨-, hnew⟩
    · have hlt := lt_of_mem_children hold
      exact (ih (by omega)).child hold
    · exact absurd hnew hx

theorem IsRowOf.element (h : doc.IsRowOf table row) : ∃ e, doc.element? row = some e := by
  have hrow := h.1
  simp only [isRow, decide_eq_true_eq, tag?, Option.map_eq_some_iff] at hrow
  obtain ⟨e, he, -⟩ := hrow
  exact ⟨e, he⟩

theorem IsRowOf.lt_size (h : doc.IsRowOf table row) : row < doc.size := by
  obtain ⟨e, he⟩ := h.element
  exact lt_size_of_element? he

theorem Leads.le_of_mem (h : doc.Leads table way x) (hmem : n ∈ way) : n ≤ x := by
  induction h with
  | start => exact Nat.le_of_eq (List.mem_singleton.mp hmem)
  | child above mem ih =>
    have hlt := (lt_of_mem_children mem).1
    rcases List.mem_append.mp hmem with hmem | hmem
    · exact Nat.le_trans (ih hmem) (Nat.le_of_lt hlt)
    · exact Nat.le_of_eq (List.mem_singleton.mp hmem)

/-- What a path goes through on the way to its end comes before that. -/
theorem Leads.lt_of_mem_above {above : List Nat} (h : doc.Leads table (above ++ [x]) x) (hmem : n ∈ above) :
    n < x := by
  generalize hpath : above ++ [x] = path at h
  cases h with
  | start =>
    have hnil : above = [] := by simpa using hpath
    rw [hnil] at hmem
    cases hmem
  | child habove hchild =>
    rw [List.append_cancel_right hpath] at hmem
    exact Nat.lt_of_le_of_lt (habove.le_of_mem hmem) (lt_of_mem_children hchild).1

/-- The rows of a table that were there before are still the same. -/
theorem isRowOf_push (content : Content) (hp : parent < doc.size) (hrow : row ≠ doc.size) :
    (doc.push parent content).IsRowOf table row ↔ doc.IsRowOf table row := by
  have hsections : ∀ sections, doc.Leads table (table :: sections ++ [row]) row → row < doc.size →
      ∀ s ∈ sections, (doc.push parent content).isSection s = doc.isSection s := by
    intro sections hleads hlt s hs
    have hle : s ≤ row := hleads.le_of_mem (by simp [hs])
    rw [isSection, isSection, tag?_push (by omega)]
  constructor
  · intro h
    have hlt : row < doc.size := by
      have := h.lt_size
      rw [size_push] at this
      omega
    obtain ⟨hisRow, sections, hleads, hall⟩ := h
    have hbefore := hleads.of_push hp hrow
    refine ⟨?_, sections, hbefore, fun s hs => ?_⟩
    · rwa [isRow, tag?_push hrow] at hisRow
    · rw [← hsections sections hbefore hlt s hs]
      exact hall s hs
  · intro h
    have hlt := h.lt_size
    obtain ⟨hisRow, sections, hleads, hall⟩ := h
    refine ⟨?_, sections, hleads.push hp content, fun s hs => ?_⟩
    · rwa [isRow, tag?_push hrow]
    · rw [hsections sections hleads hlt s hs]
      exact hall s hs


theorem colspan_push (hid : id ≠ doc.size) : (doc.push parent content).colspan id = doc.colspan id := by
  rw [colspan_eq, colspan_eq, tag?_push hid]

theorem colspan_push_new (doc : Document) (parent : Nat) (content : Content) :
    (doc.push parent content).colspan doc.size = content.colspan := by
  rw [colspan, node?_push, if_pos rfl]
  rfl

/-- A row gets wider only by what is appended to it. -/
theorem span_push (hp : parent < doc.size) (content : Content) (row : Nat) :
    (doc.push parent content).span row = doc.span row + if row = parent then content.colspan else 0 := by
  have hsame : (doc.children row).map (doc.push parent content).colspan =
      (doc.children row).map doc.colspan := by
    apply List.map_congr_left
    intro id hid
    have := (lt_of_mem_children hid).2
    exact colspan_push (by omega)
  rw [span, children_push, span]
  by_cases hrow : row = parent
  · rw [if_pos ⟨hrow, hrow ▸ hp⟩, if_pos hrow, List.map_append, hsame, total_append, List.map_singleton,
      colspan_push_new, total_cons, total_nil, Nat.add_zero]
  · rw [if_neg (fun h => hrow h.1), if_neg hrow, hsame, Nat.add_zero]

theorem span_of_size_le (h : doc.size ≤ row) : doc.span row = 0 := by
  rw [span, children_eq_nil_of_size_le h]
  rfl

theorem one_le_columnCount (doc : Document) (table : Nat) : 1 ≤ doc.columnCount table :=
  Nat.le_max_left 1 _

/-- What is appended to anything but a row of the table does not change its width. -/
theorem columnCount_push_of_not (hp : parent < doc.size) (content : Content) (h : ¬ doc.IsRowOf table parent) :
    (doc.push parent content).columnCount table = doc.columnCount table := by
  have hspan : ∀ row, doc.IsRowOf table row → (doc.push parent content).span row = doc.span row := by
    intro row hrow
    have hne : row ≠ parent := by
      rintro rfl
      exact h hrow
    rw [span_push hp, if_neg hne, Nat.add_zero]
  apply columnCount_congr
  intro n hpos
  constructor
  · rintro ⟨row, hrow, rfl⟩
    -- A new row has no cell yet.
    have hold : row ≠ doc.size := by
      rintro rfl
      rw [span_push hp, span_of_size_le (Nat.le_refl _), if_neg (Nat.ne_of_gt hp)] at hpos
      omega
    have hbefore := (isRowOf_push _ hp hold).mp hrow
    exact ⟨row, hbefore, (hspan row hbefore).symm⟩
  · rintro ⟨row, hrow, rfl⟩
    exact ⟨row, (isRowOf_push _ hp (Nat.ne_of_lt hrow.lt_size)).mpr hrow, hspan row hrow⟩

/-- What is appended to a row of the table may make that row the widest one. -/
theorem columnCount_push_of_row (content : Content) (h : doc.IsRowOf table parent) :
    (doc.push parent content).columnCount table =
      max (doc.columnCount table) (doc.span parent + content.colspan) := by
  have hp := h.lt_size
  have hkept : ∀ row, doc.IsRowOf table row →
      doc.span row ≤ (doc.push parent content).columnCount table := by
    intro row hrow
    have hthen := (isRowOf_push content hp (Nat.ne_of_lt hrow.lt_size)).mpr hrow
    have hle := span_le_columnCount hthen
    rw [span_push hp] at hle
    omega
  have hwide : doc.span parent + content.colspan ≤ (doc.push parent content).columnCount table := by
    have hle := span_le_columnCount ((isRowOf_push content hp (Nat.ne_of_lt hp)).mpr h)
    rwa [span_push hp, if_pos rfl] at hle
  have hcount : doc.columnCount table ≤ (doc.push parent content).columnCount table := by
    rcases doc.columnCount_cases table with ⟨hone, -⟩ | ⟨row, hrow, -, hspan⟩
    · rw [hone]
      exact one_le_columnCount _ table
    · rw [← hspan]
      exact hkept row hrow
  rcases (doc.push parent content).columnCount_cases table with ⟨hone, -⟩ | ⟨row, hrow, hpos, hspan⟩
  · have := one_le_columnCount doc table
    omega
  · rw [span_push hp] at hspan hpos
    split at hspan
    · next hparent =>
      rw [hparent] at hspan
      omega
    · next hparent =>
      have hold : row ≠ doc.size := by
        rintro rfl
        rw [span_of_size_le (Nat.le_refl _), if_neg hparent] at hpos
        omega
      have := span_le_columnCount ((isRowOf_push _ hp hold).mp hrow)
      omega

/-! ## Below what is no part of the table -/

/-- What is below a node that is neither a section nor a row is no row of a table around that node. -/
theorem Grown.not_isRowOf {inner : Nat} (hdoc : doc.Grown) (htable : doc.Leads table path inner)
    (hne : inner ≠ table) (hsection : doc.isSection inner = false) (hrow : doc.isRow inner = false)
    (hbelow : doc.Leads inner way x) : ¬ doc.IsRowOf table x := by
  rintro ⟨hisRow, sections, hleads, hall⟩
  obtain ⟨above, rfl⟩ := htable.ends
  obtain ⟨rest, rfl⟩ := hbelow.eq_cons
  have hsame : above ++ inner :: rest = table :: sections ++ [x] :=
    hdoc.leads_unique_from (htable.append hbelow) hleads
  have hmem : inner ∈ table :: sections ++ [x] := by
    rw [← hsame]
    exact List.mem_append_right above List.mem_cons_self
  rcases List.mem_append.mp hmem with hmem | hmem
  · rcases List.mem_cons.mp hmem with htop | hmem
    · exact hne htop
    · rw [hall inner hmem] at hsection
      cases hsection
  · rw [List.mem_singleton.mp hmem, hisRow] at hrow
    cases hrow

/-- Each of the additions is made to a node or below it, as the document is by then. -/
def AddsBelow (doc : Document) (top : Nat) : List Addition → Prop
  | [] => True
  | addition :: rest =>
    (∃ way, doc.Leads top way addition.parent) ∧ AddsBelow (addition.applied doc) top rest

/-- An addition keeps the paths that there are, and the nodes on them are what they were. -/
theorem Addition.leads_applied (h : doc.Leads table way x) (hx : x < doc.size) (addition : Addition) :
    (addition.applied doc).Leads table way x ∧ (addition.applied doc).tag? x = doc.tag? x := by
  cases he : doc.element? addition.parent with
  | none =>
    rw [applied_of_no_element he]
    exact ⟨h, rfl⟩
  | some e =>
    rw [applied_of_element he]
    exact ⟨h.push (lt_size_of_element? he) _, tag?_push (Nat.ne_of_lt hx)⟩

theorem Addition.columnCount_applied {addition : Addition} (h : ¬ doc.IsRowOf table addition.parent) :
    (addition.applied doc).columnCount table = doc.columnCount table := by
  cases he : doc.element? addition.parent with
  | none => rw [applied_of_no_element he]
  | some e =>
    rw [applied_of_element he]
    exact columnCount_push_of_not (lt_size_of_element? he) _ h

/-- Whatever is appended below such a node, the table keeps its width. -/
theorem Grown.columnCount_appended {inner : Nat} (hdoc : doc.Grown) (htable : doc.Leads table path inner)
    (hne : inner ≠ table) (hsection : doc.isSection inner = false) (hrow : doc.isRow inner = false)
    {additions : List Addition} (hadds : doc.AddsBelow inner additions) :
    (doc.appended additions).columnCount table = doc.columnCount table := by
  induction additions generalizing doc with
  | nil => rfl
  | cons addition rest ih =>
    obtain ⟨⟨way, hway⟩, hrest⟩ := hadds
    have hlt : inner < doc.size := by
      cases htable with
      | start => exact absurd rfl hne
      | child _ mem => exact (lt_of_mem_children mem).2
    obtain ⟨hleads, htag⟩ := addition.leads_applied htable hlt
    have hsame := Addition.columnCount_applied (hdoc.not_isRowOf htable hne hsection hrow hway)
    rw [← hsame]
    apply ih (hdoc.applied addition) hleads
    · rwa [isSection, htag]
    · rwa [isRow, htag]
    · exact hrest

/-- A table is as wide as the widest of the rows that it leads to through sections only, where the cells right below
a row count with the columns that they span; it has one column if there is no such cell.  Appending a node changes that
for a cell of such a row only, which may make this row the widest one.  So it does not matter what is
appended below a cell, a caption or anything else in the table that is neither a section nor a row. -/
theorem columnCount_widest (doc : Document) (table : Nat) :
    (∀ row, doc.IsRowOf table row → 0 < doc.span row →
        IsGreatest {n | ∃ row, doc.IsRowOf table row ∧ doc.span row = n} (doc.columnCount table)) ∧
      ((∀ row, doc.IsRowOf table row → doc.span row = 0) → doc.columnCount table = 1) ∧
      (∀ addition : Addition, ¬ doc.IsRowOf table addition.parent →
        (addition.applied doc).columnCount table = doc.columnCount table) ∧
      (∀ addition : Addition, doc.IsRowOf table addition.parent →
        (addition.applied doc).columnCount table =
          max (doc.columnCount table) (doc.span addition.parent + addition.content.colspan)) ∧
      ∀ name before, doc = (withRoot name).appended before →
        (doc.size * maxColspan < UInt64.size →
          ∀ row, saturatedTotal ((doc.rowCells row).map (·.2)) = doc.span row) ∧
        ∀ path inner, doc.Leads table path inner → inner ≠ table → doc.isSection inner = false →
          doc.isRow inner = false → ∀ additions, doc.AddsBelow inner additions →
            (doc.appended additions).columnCount table = doc.columnCount table := by
  refine ⟨fun row hrow hpos => columnCount_isGreatest hrow hpos, columnCount_eq_one,
    fun addition h => Addition.columnCount_applied h, fun addition h => ?_, fun name before hdoc => ?_⟩
  · have hrow : ∃ e, doc.element? addition.parent = some e := h.element
    obtain ⟨e, he⟩ := hrow
    rw [Addition.applied_of_element he]
    exact columnCount_push_of_row _ h
  · have hgrown : doc.Grown := by
      rw [hdoc]
      exact (grown_withRoot name).appended before
    exact ⟨hgrown.saturatedTotal_eq, fun path inner htable hne hsection hrow additions hadds =>
      hgrown.columnCount_appended htable hne hsection hrow hadds⟩

/-- A table with a row of three columns. -/
def wideCell : Document :=
  (withRoot "table").appended
    [.element 0 "tr" [], .element 1 "td" [⟨"colspan", "2"⟩], .element 1 "td" []]

/-- A wider table in its first cell does not count, and a third cell does. -/
theorem columnCount_widest_nestedTable :
    (wideCell.appended [.element 2 "table" [], .element 4 "tr" [], .element 5 "td" [⟨"colspan", "7"⟩]]).columnCount
          0 = wideCell.columnCount 0 ∧
      wideCell.columnCount 0 = 3 ∧
      ((Addition.element 1 "th" []).applied wideCell).columnCount 0 = max 3 (3 + 1) := by
  have hcount : wideCell.columnCount 0 = 3 := by decide +kernel
  have hrow : wideCell.IsRowOf 0 1 := by
    refine ⟨by decide +kernel, [], ?_, by simp⟩
    exact Leads.start.child (by decide +kernel)
  obtain ⟨-, -, -, hcell, hgrown⟩ := columnCount_widest wideCell 0
  refine ⟨?_, hcount, ?_⟩
  · refine (hgrown "table" _ rfl).2 [0, 1, 2] 2 ?_ (by decide) (by decide +kernel) (by decide +kernel) _ ?_
    · have hmem : 1 ∈ wideCell.children 0 := by decide +kernel
      exact (Leads.start.child hmem).child (by decide +kernel)
    · refine ⟨⟨[2], .start⟩, ⟨[2, 4], ?_⟩, ⟨[2, 4, 5], ?_⟩, trivial⟩
      · exact Leads.start.child (by decide +kernel)
      · have hmem : 4 ∈ (wideCell.appended [.element 2 "table" [], .element 4 "tr" []]).children 2 := by decide +kernel
        exact (Leads.start.child hmem).child (by decide +kernel)
  · rw [hcell (.element 1 "th" []) hrow, hcount]
    have hspan : wideCell.span 1 = 3 := by decide +kernel
    have hcolspan : (Addition.element 1 "th" []).content.colspan = 1 := by decide +kernel
    rw [show (Addition.element 1 "th" []).parent = 1 from rfl, hspan, hcolspan]

end Document

end MarkupTex
