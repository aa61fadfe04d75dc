import MarkupTex.Proofs.Document.Rows
/-!
# The images in the cells of a table

A grid of images is put together row by row and cell by cell, with all the images that are below a cell,
`gridImages`.  Since two rows of a table have nothing below them in common, and two cells of a row neither, no
image comes twice.  What is not below a cell of a row does not come at all, although a table of nothing but
images may have images elsewhere.
-/

set_option autoImplicit false

namespace MarkupTex.Document

variable {doc : Document} {start table row row' cell x : Nat} {path way way' : List Nat}

def isCell (doc : Document) (id : Nat) : Bool :=
  match doc.tag? id with
  | some (.tableCell ..) => true
  | _ => false

/-- The images of a grid, in the order in which they are written. -/
def gridImages (doc : Document) (table : Nat) : List Nat :=
  (doc.tableRows table).flatMap fun row => (doc.rowCells row).flatMap fun cell => doc.cellImages cell.1

/-- The node is in a cell of a row of the table. -/
def InGrid (doc : Document) (table x : Nat) : Prop :=
  ∃ row, doc.IsRowOf table row ∧
    ∃ cell ∈ doc.children row, doc.isCell cell = true ∧ ∃ way, doc.Leads cell way x

/-- The cells of a row are those of its children that are cells. -/
theorem map_fst_rowCells (doc : Document) (row : Nat) :
    (doc.rowCells row).map Prod.fst = (doc.children row).filter doc.isCell := by
  rw [rowCells]
  induction doc.children row with
  | nil => rfl
  | cons id ids ih =>
    cases htag : doc.tag? id with
    | none => simp [isCell, htag, ih]
    | some tag => cases tag <;> simp [isCell, htag, ih]

theorem isCell_iff {id : Nat} :
    doc.isCell id = true ↔ ∃ header colspan, doc.tag? id = some (.tableCell header colspan) := by
  unfold isCell
  split
  · next htag => simp [htag]
  · next hnot =>
    simp only [Bool.false_eq_true, false_iff, not_exists]
    exact hnot

/-- The cells among some nodes, with the columns that they span. -/
def cellsOf (doc : Document) (ids : List Nat) : List (Nat × Nat) :=
  ids.filterMap fun id =>
    match doc.tag? id with
    | some (.tableCell _ colspan) => some (id, colspan)
    | _ => none

theorem cellsOf_cons_cell {id colspan : Nat} {header : Bool}
    (h : doc.tag? id = some (.tableCell header colspan)) (ids : List Nat) :
    doc.cellsOf (id :: ids) = (id, colspan) :: doc.cellsOf ids := by
  rw [cellsOf, List.filterMap_cons, h]
  rfl

theorem cellsOf_cons_other {id : Nat} (h : doc.isCell id = false) (ids : List Nat) :
    doc.cellsOf (id :: ids) = doc.cellsOf ids := by
  have hnot : ∀ header colspan, doc.tag? id ≠ some (.tableCell header colspan) := by
    intro header colspan htag
    rw [isCell_iff.mpr ⟨header, colspan, htag⟩] at h
    cases h
  rw [cellsOf, List.filterMap_cons]
  split
  · rfl
  · next hsome =>
    split at hsome
    · next htag => exact absurd htag (hnot _ _)
    · cases hsome

theorem parseColspan_pos (value : Option String) : 0 < parseColspan value := by
  unfold parseColspan
  split
  · split
    · next hn => exact Nat.lt_min.mpr ⟨by omega, by decide⟩
    · exact Nat.one_pos
  · exact Nat.one_pos

theorem parseColspan_le (value : Option String) : parseColspan value ≤ maxColspan := by
  unfold parseColspan
  split
  · split
    · exact Nat.min_le_right ..
    · decide
  · decide

/-- The columns that a cell spans are read from an attribute. -/
theorem exists_parseColspan {e : Element} {header : Bool} {colspan : Nat}
    (h : e.tag = .tableCell header colspan) : ∃ value, colspan = parseColspan value := by
  unfold Element.tag Tag.resolve at h
  dsimp only at h
  split at h
  · cases h
    exact ⟨_, rfl⟩
  · next hnot _ => exact absurd h (hnot header colspan)
  · cases h

/-- A cell spans a column at least. -/
theorem colspan_pos {e : Element} {header : Bool} {colspan : Nat} (h : e.tag = .tableCell header colspan) :
    0 < colspan := by
  obtain ⟨value, rfl⟩ := exists_parseColspan h
  exact parseColspan_pos value

theorem pos_of_mem_rowCells {cell : Nat × Nat} (h : cell ∈ doc.rowCells row) : 0 < cell.2 := by
  obtain ⟨id, -, hcell⟩ := List.mem_filterMap.mp h
  split at hcell
  · next htag =>
    cases hcell
    obtain ⟨e, -, he⟩ := Option.map_eq_some_iff.mp htag
    exact colspan_pos he
  · cases hcell

theorem gridImages_eq (doc : Document) (table : Nat) :
    doc.gridImages table = (doc.tableRows table).flatMap fun row =>
      ((doc.children row).filter doc.isCell).flatMap doc.cellImages := by
  unfold gridImages
  congr 1
  funext row
  rw [← map_fst_rowCells, List.flatMap_map]

/-- The images of a cell are all that there are below it. -/
theorem mem_cellImages : x ∈ doc.cellImages cell ↔ doc.isImage x = true ∧ ∃ way, doc.Leads cell way x := by
  constructor
  · intro h
    obtain ⟨hway, htag⟩ := leads_of_mem_cellImages h
    exact ⟨by simpa [isImage] using htag, hway⟩
  · rintro ⟨himage, way, hway⟩
    rw [cellImages, List.mem_filter]
    refine ⟨mem_levelOrder_of_leads hway ?_, himage⟩
    cases hn : doc.node? cell with
    | some node => rfl
    | none =>
      -- Where there is no node, there is no image either.
      rcases hway.uncons with ⟨-, rfl⟩ | ⟨child, -, hchild, -⟩
      · simp [isImage, tag?, element?, hn] at himage
      · simp [children, hn] at hchild

theorem mem_gridImages : x ∈ doc.gridImages table ↔ doc.isImage x = true ∧ doc.InGrid table x := by
  simp only [gridImages_eq, List.mem_flatMap, List.mem_filter, mem_tableRows, mem_cellImages, InGrid]
  constructor
  · rintro ⟨row, hrow, cell, ⟨hchild, hcell⟩, himage, hway⟩
    exact ⟨himage, row, hrow, cell, hchild, hcell, hway⟩
  · rintro ⟨himage, row, hrow, cell, hchild, hcell, hway⟩
    exact ⟨row, hrow, cell, ⟨hchild, hcell⟩, himage, hway⟩

/-! ## No image twice -/

theorem Leads.eq_cons (h : doc.Leads start way x) : ∃ rest, way = start :: rest := by
  rcases h.uncons with ⟨hway, -⟩ | ⟨child, rest, -, hway, -⟩
  · exact ⟨[], hway⟩
  · exact ⟨rest, hway⟩

/-- There is one path at most from one node to another. -/
theorem Grown.leads_unique_from (hdoc : doc.Grown) (h : doc.Leads start way x)
    (h' : doc.Leads start way' x) : way = way' := by
  by_cases hlt : start < doc.size
  · obtain ⟨path, hpath⟩ := hdoc.exists_leads start hlt
    obtain ⟨above, rfl⟩ := hpath.ends
    exact List.append_cancel_left (hdoc.leads_unique (hpath.append h) (hpath.append h'))
  · have hnone : doc.children start = [] := children_eq_nil_of_size_le (Nat.not_lt.mp hlt)
    have halone : ∀ {way}, doc.Leads start way x → way = [start] := by
      intro way hway
      rcases hway.uncons with ⟨hway, -⟩ | ⟨child, -, hchild, -⟩
      · exact hway
      · rw [hnone] at hchild
        cases hchild
    rw [halone h, halone h']

/-- A row is the first node behind some sections that is no section. -/
theorem find?_sections {sections : List Nat} (hrow : doc.isRow row = true)
    (hsections : ∀ s ∈ sections, doc.isSection s = true) (rest : List Nat) :
    (sections ++ row :: rest).find? (fun id => !doc.isSection id) = some row := by
  have hnot : doc.isSection row = false := by
    simp only [isRow, decide_eq_true_eq] at hrow
    simp [isSection, hrow]
  have hnone : sections.find? (fun id => !doc.isSection id) = none := by simpa using hsections
  rw [List.find?_append, hnone, Option.none_or, List.find?_cons_of_pos (by simp [hnot])]

/-- Rows of one table that have something below them in common are the same row. -/
theorem Grown.row_unique (hdoc : doc.Grown) (hrow : doc.IsRowOf table row) (hrow' : doc.IsRowOf table row')
    (h : doc.Leads row way x) (h' : doc.Leads row' way' x) : row = row' := by
  obtain ⟨hisRow, sections, hleads, hsections⟩ := hrow
  obtain ⟨hisRow', sections', hleads', hsections'⟩ := hrow'
  obtain ⟨rest, rfl⟩ := h.eq_cons
  obtain ⟨rest', rfl⟩ := h'.eq_cons
  have hsame : sections ++ row :: rest = sections' ++ row' :: rest' :=
    List.cons.inj (hdoc.leads_unique_from (hleads.append h) (hleads'.append h')) |>.2
  have hfirst := find?_sections hisRow hsections rest
  rw [hsame, find?_sections hisRow' hsections' rest'] at hfirst
  exact (Option.some.inj hfirst).symm

/-- Nor have two children of one node anything below them in common. -/
theorem Grown.child_unique {child child' : Nat} (hdoc : doc.Grown) (hmem : child ∈ doc.children start)
    (hmem' : child' ∈ doc.children start) (h : doc.Leads child way x) (h' : doc.Leads child' way' x) :
    child = child' := by
  obtain ⟨rest, rfl⟩ := h.eq_cons
  obtain ⟨rest', rfl⟩ := h'.eq_cons
  have hpath : doc.Leads start ([start] ++ child :: rest) x := (Leads.start.child hmem).append h
  have hpath' : doc.Leads start ([start] ++ child' :: rest') x := (Leads.start.child hmem').append h'
  have hsame := List.append_cancel_left (hdoc.leads_unique_from hpath hpath')
  exact (List.cons.inj hsame).1

theorem Grown.nodup_cellImages (hdoc : doc.Grown) (cell : Nat) : (doc.cellImages cell).Nodup := by
  apply List.Nodup.filter
  cases hn : doc.node? cell with
  | none =>
    rw [levelOrder_eq_nil hn]
    exact List.nodup_nil
  | some node =>
    have hperm : (doc.levelOrder cell fun _ => false).Perm _ :=
      levelOrder_perm (fun _ => false) cell (by rw [hn]; rfl)
    exact hperm.nodup_iff.mpr (hdoc.nodup_documentOrder cell)

/-- Rows without duplicates, of which two have nothing in common, make one row without duplicates. -/
theorem nodup_flatMap_of_unique {ids : List Nat} {f : Nat → List Nat} (hids : ids.Nodup)
    (hf : ∀ id, (f id).Nodup) (hunique : ∀ a ∈ ids, ∀ b ∈ ids, ∀ x, x ∈ f a → x ∈ f b → a = b) :
    (ids.flatMap f).Nodup := by
  rw [List.nodup_flatMap]
  refine ⟨fun id _ => hf id, ?_⟩
  apply List.Pairwise.imp_of_mem _ hids
  intro a b ha hb hne x hxa hxb
  exact hne (hunique a ha b hb x hxa hxb)

/-- No image of a grid comes twice. -/
theorem Grown.nodup_gridImages (hdoc : doc.Grown) (table : Nat) : (doc.gridImages table).Nodup := by
  rw [gridImages_eq]
  apply nodup_flatMap_of_unique (hdoc.nodup_tableRows table)
  · intro row
    have hchildren : (doc.children row).Nodup := (hdoc.increasing row).imp Nat.ne_of_lt
    apply nodup_flatMap_of_unique (hchildren.filter _) hdoc.nodup_cellImages
    intro a ha b hb x hxa hxb
    obtain ⟨-, way, hway⟩ := mem_cellImages.mp hxa
    obtain ⟨-, way', hway'⟩ := mem_cellImages.mp hxb
    exact hdoc.child_unique (List.mem_filter.mp ha).1 (List.mem_filter.mp hb).1 hway hway'
  · intro a ha b hb x hxa hxb
    -- A path leads from each of the rows through one of its cells.
    have hbelow : ∀ row, x ∈ ((doc.children row).filter doc.isCell).flatMap doc.cellImages →
        ∃ way, doc.Leads row way x := by
      intro row hx
      obtain ⟨cell, hcell, hx⟩ := List.mem_flatMap.mp hx
      obtain ⟨-, way, hway⟩ := mem_cellImages.mp hx
      exact ⟨[row] ++ way, (Leads.start.child (List.mem_filter.mp hcell).1).append hway⟩
    obtain ⟨way, hway⟩ := hbelow a hxa
    obtain ⟨way', hway'⟩ := hbelow b hxb
    exact hdoc.row_unique (mem_tableRows.mp ha) (mem_tableRows.mp hb) hway hway'

end MarkupTex.Document
