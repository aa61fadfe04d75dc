import MarkupTex.Proofs.Convert.Grids
import MarkupTex.Proofs.Document.Cells
/-!
# Grids of images

What a grid of images writes is given by its rows and cells, piece by piece: each image that can be included is
one piece, and for any other one the user is told why (`pushGridImages_adds`).  So no image of a cell is lost.
But whether a table becomes a grid is decided by all the images below it, and those that stand outside of the
cells come in nowhere.
-/

set_option autoImplicit false

namespace MarkupTex

open Latex

namespace Convert

variable {doc : Document} {setting : Setting} {options : String} {id : Nat} {e : Element} {style : Style}
  {c c' c₁ c₂ : Converter}

/-! ## Pieces -/

/-- A piece of what is written for the rows of a grid. -/
inductive GridPiece where
  | image (path : String)
  /-- Sets two images of a cell apart. -/
  | space
  /-- Sets a cell apart from the one before it. -/
  | next
  /-- An empty column of a wide cell. -/
  | empty
  | rowEnd
  deriving DecidableEq, Repr

namespace GridPiece

def text (options : String) : GridPiece → List Char
  | image path =>
    "\\includegraphics".toList ++ (if options.isEmpty then [] else ("[" ++ options ++ "]").toList) ++
      ("\x7b".toList ++ (writtenPath path ++ "\x7d".toList))
  | space => " ".toList
  | next => " & ".toList
  | empty => " &".toList
  | rowEnd => " \\\\\n".toList

/-- The image that the piece includes. -/
def path? : GridPiece → Option String
  | image path => some path
  | _ => none

end GridPiece

/-- What becomes of an image in a grid: the path from which it is included, or what the user is told of it. -/
def imageFate? (doc : Document) (setting : Setting) (id : Nat) : Option (Except Warning String) :=
  (doc.element? id).map fun e =>
    match e.nonBlankAttribute? "src" with
    | none => .error (.ofFault noSource (some e.name))
    | some src => (setting.resolve src).mapError fun fault => .ofFault fault (some e.name)

/-- From where an image is included. -/
def imagePath? (doc : Document) (setting : Setting) (id : Nat) : Option String :=
  (imageFate? doc setting id).bind Except.toOption

/-- What the user is told of an image that is not included. -/
def imageWarning? (doc : Document) (setting : Setting) (id : Nat) : Option Warning :=
  match imageFate? doc setting id with
  | some (.error warning) => some warning
  | _ => none

/-- An image is included, or else the user is told about it. -/
theorem imagePath?_or_imageWarning? (h : doc.isImage id = true) :
    (∃ path, imagePath? doc setting id = some path ∧ imageWarning? doc setting id = none) ∨
      ∃ warning, imagePath? doc setting id = none ∧ imageWarning? doc setting id = some warning := by
  simp only [Document.isImage, Document.tag?, decide_eq_true_eq, Option.map_eq_some_iff] at h
  obtain ⟨e, he, -⟩ := h
  obtain ⟨fate, hfate⟩ : ∃ fate, imageFate? doc setting id = some fate := by simp [imageFate?, he]
  cases fate with
  | ok path => exact .inl ⟨path, by rw [imagePath?, hfate]; rfl, by rw [imageWarning?, hfate]⟩
  | error warning => exact .inr ⟨warning, by rw [imagePath?, hfate]; rfl, by rw [imageWarning?, hfate]⟩

/-- The images of a cell, with spaces between them; `first` until there is one. -/
def imagePieces (doc : Document) (setting : Setting) : Bool → List Nat → List GridPiece
  | _, [] => []
  | first, id :: ids =>
    match imagePath? doc setting id with
    | none => imagePieces doc setting first ids
    | some path => (if first then [] else [.space]) ++ .image path :: imagePieces doc setting false ids

/-- The cells of a row; `column` counts the columns before. -/
def cellPieces (doc : Document) (setting : Setting) : Nat → List (Nat × Nat) → List GridPiece
  | _, [] => []
  | column, (cell, colspan) :: cells =>
    (if 0 < column then [.next] else []) ++ imagePieces doc setting true (doc.cellImages cell) ++
      List.replicate (colspan - 1) .empty ++ cellPieces doc setting (column + colspan) cells

/-- The rows of a grid. -/
def rowPieces (doc : Document) (setting : Setting) (rows : List Nat) : List GridPiece :=
  rows.flatMap fun row => cellPieces doc setting 0 (doc.rowCells row) ++ [.rowEnd]

/-! ## What is written -/

/-- The pieces were added to the output, and the user was told. -/
def AddsPieces (options : String) (pieces : List GridPiece) (warnings : List Warning)
    (c c' : Converter) : Prop :=
  c'.output = c.output ++ pieces.flatMap (·.text options) ∧ c'.warnings = c.warnings ++ warnings

namespace AddsPieces

variable {pieces pieces' : List GridPiece} {warnings warnings' : List Warning}

theorem nil : AddsPieces options [] [] c c := ⟨by simp, by simp⟩

theorem trans (h : AddsPieces options pieces warnings c c₁)
    (h' : AddsPieces options pieces' warnings' c₁ c₂) :
    AddsPieces options (pieces ++ pieces') (warnings ++ warnings') c c₂ :=
  ⟨by rw [h'.1, h.1]; simp, by rw [h'.2, h.2]; simp⟩

theorem of_addsText {piece : GridPiece} (h : AddsText (piece.text options) c c') :
    AddsPieces options [piece] [] c c' := by
  obtain ⟨b, rfl, hb⟩ := h
  exact ⟨by simpa [Converter.output] using hb, by simp⟩

end AddsPieces

theorem includeImage_addsText (path options : String) :
    AddingText ((GridPiece.image path).text options) (includeImage path options) := by
  unfold includeImage GridPiece.text
  extract_lets target
  have htarget : AddingText ("\x7b".toList ++ (writtenPath path ++ "\x7d".toList)) (target ()) :=
    (push_addsText _).bind ((pushPath_addsText path).bind (push_addsText _))
  intro c
  refine (push_addsText "\\includegraphics" c).bind fun _ c₁ h₁ => ?_
  cases hoptions : options.isEmpty with
  | true =>
    refine (htarget c₁).mono fun _ _ h₂ => (h₁.trans h₂).congr ?_
    simp
  | false =>
    have hbrackets : AddingText ("[".toList ++ (options.toList ++ ("]".toList ++ _))) (do
        push "["
        push options
        push "]"
        target ()) :=
      (push_addsText _).bind ((push_addsText _).bind ((push_addsText _).bind htarget))
    refine (hbrackets c₁).mono fun _ _ h₂ => (h₁.trans h₂).congr ?_
    simp

theorem warn_adds (options : String) (fault : Fault) (element : Option String) (c : Converter) :
    Ensures (warn fault element) c fun _ c' => AddsPieces options [] [.ofFault fault element] c c' :=
  Ensures.modifies ⟨by simp [Converter.output], rfl⟩

theorem push_adds {s : String} (options : String) (piece : GridPiece) (h : piece.text options = s.toList)
    (c : Converter) : Ensures (push s) c fun _ c' => AddsPieces options [piece] [] c c' :=
  (push_addsText s c).mono fun _ _ hadds => .of_addsText (h ▸ hadds)

/-- The images of a cell: each of them is included, or the user is told. -/
theorem pushGridImages_adds (ids : List Nat) (first : Bool) (c : Converter) :
    Ensures (pushGridImages doc setting options first ids) c fun _ c' =>
      AddsPieces options (imagePieces doc setting first ids) (ids.filterMap (imageWarning? doc setting))
        c c' := by
  induction ids generalizing first c with
  | nil => exact Ensures.pure .nil
  | cons id ids ih =>
    have hwarned : ∀ {fault : Fault} {element : Option String} (c : Converter),
        Ensures (do
          warn fault element
          pushGridImages doc setting options first ids) c fun _ c' =>
            AddsPieces options (imagePieces doc setting first ids)
              (.ofFault fault element :: ids.filterMap (imageWarning? doc setting)) c c' := by
      intro fault element c
      refine (warn_adds options fault element c).bind fun _ c₁ h₁ => ?_
      exact (ih first c₁).mono fun _ _ h₂ => h₁.trans h₂
    rw [imagePieces, List.filterMap_cons, imagePath?, imageWarning?, imageFate?]
    unfold pushGridImages
    cases he : doc.element? id with
    | none => exact ih first c
    | some e =>
      simp only [Option.map_some, Option.bind_some]
      cases hsrc : e.nonBlankAttribute? "src" with
      | none => exact hwarned c
      | some src =>
        dsimp only
        -- The count of images is no matter here.
        refine Ensures.modify_bind ?_
        have hcounted : AddsPieces options [] [] c { c with images := c.images + 1 } := ⟨by simp; rfl, by simp⟩
        cases hresolve : setting.resolve src with
        | error fault => exact (hwarned _).mono fun _ _ h => hcounted.trans h
        | ok path =>
          have hrest : ∀ c, Ensures (do
              includeImage path options
              pushGridImages doc setting options false ids) c fun _ c' =>
                AddsPieces options (.image path :: imagePieces doc setting false ids)
                  (ids.filterMap (imageWarning? doc setting)) c c' := by
            intro c
            refine (includeImage_addsText path options c).bind fun _ c₁ h₁ => ?_
            exact (ih false c₁).mono fun _ _ h₂ => (AddsPieces.of_addsText h₁).trans h₂
          refine Ensures.ite (fun hfirst => ?_) fun hfirst => ?_
          · rw [if_pos hfirst]
            exact (hrest _).mono fun _ _ h => hcounted.trans h
          · rw [if_neg hfirst]
            refine (push_adds options .space rfl _).bind fun _ c₁ h₁ => ?_
            exact (hrest c₁).mono fun _ _ h₂ => hcounted.trans (h₁.trans h₂)

theorem pushTimes_adds (options : String) (n : Nat) (c : Converter) :
    Ensures (pushTimes " &" n) c fun _ c' => AddsPieces options (List.replicate n .empty) [] c c' := by
  induction n generalizing c with
  | zero => exact Ensures.pure .nil
  | succ n ih =>
    refine (push_adds options .empty rfl c).bind fun _ c₁ h₁ => ?_
    exact (ih c₁).mono fun _ _ h₂ => h₁.trans h₂

theorem pushGridCells_adds (cells : List (Nat × Nat)) (column : Nat) (c : Converter) :
    Ensures (pushGridCells doc setting options column cells) c fun _ c' =>
      AddsPieces options (cellPieces doc setting column cells)
        ((cells.flatMap fun cell => doc.cellImages cell.1).filterMap (imageWarning? doc setting)) c c' := by
  induction cells generalizing column c with
  | nil => exact Ensures.pure .nil
  | cons cell cells ih =>
    obtain ⟨cell, colspan⟩ := cell
    rw [cellPieces, List.flatMap_cons, List.filterMap_append]
    have hcell : ∀ c, Ensures (do
        pushGridImages doc setting options true (doc.cellImages cell)
        pushTimes " &" (colspan - 1)
        pushGridCells doc setting options (column + colspan) cells) c fun _ c' =>
          AddsPieces options (imagePieces doc setting true (doc.cellImages cell) ++
            (List.replicate (colspan - 1) .empty ++ cellPieces doc setting (column + colspan) cells))
            ((doc.cellImages cell).filterMap (imageWarning? doc setting) ++ ([] ++
              (cells.flatMap fun cell => doc.cellImages cell.1).filterMap (imageWarning? doc setting)))
            c c' := by
      intro c
      refine (pushGridImages_adds _ true c).bind fun _ c₁ h₁ => ?_
      refine (pushTimes_adds options _ c₁).bind fun _ c₂ h₂ => ?_
      exact (ih _ c₂).mono fun _ _ h₃ => h₁.trans (h₂.trans h₃)
    unfold pushGridCells
    refine Ensures.ite (fun hcolumn => ?_) fun hcolumn => ?_
    · rw [if_pos hcolumn]
      refine (push_adds options .next rfl c).bind fun _ c₁ h₁ => ?_
      refine (hcell c₁).mono fun _ _ h₂ => ?_
      simpa using h₁.trans h₂
    · rw [if_neg hcolumn]
      simpa using hcell c

theorem pushGridRows_adds (rows : List Nat) (c : Converter) :
    Ensures (pushGridRows doc setting options rows) c fun _ c' =>
      AddsPieces options (rowPieces doc setting rows)
        ((rows.flatMap fun row => (doc.rowCells row).flatMap fun cell => doc.cellImages cell.1).filterMap
          (imageWarning? doc setting)) c c' := by
  induction rows generalizing c with
  | nil => exact Ensures.pure .nil
  | cons row rows ih =>
    unfold pushGridRows
    refine (pushGridCells_adds _ 0 c).bind fun _ c₁ h₁ => ?_
    refine (push_adds options .rowEnd rfl c₁).bind fun _ c₂ h₂ => ?_
    refine (ih c₂).mono fun _ _ h₃ => ?_
    simpa [rowPieces] using h₁.trans (h₂.trans h₃)

/-! ## Which images are written -/

theorem imagePieces_paths (first : Bool) (ids : List Nat) :
    (imagePieces doc setting first ids).filterMap GridPiece.path? =
      ids.filterMap (imagePath? doc setting) := by
  induction ids generalizing first with
  | nil => rfl
  | cons id ids ih =>
    rw [imagePieces, List.filterMap_cons]
    cases imagePath? doc setting id with
    | none => exact ih first
    | some path => cases first <;> simp [List.filterMap_cons, GridPiece.path?, ih]

theorem cellPieces_paths (column : Nat) (cells : List (Nat × Nat)) :
    (cellPieces doc setting column cells).filterMap GridPiece.path? =
      (cells.flatMap fun cell => doc.cellImages cell.1).filterMap (imagePath? doc setting) := by
  induction cells generalizing column with
  | nil => rfl
  | cons cell cells ih =>
    obtain ⟨cell, colspan⟩ := cell
    have hnext : (if 0 < column then [GridPiece.next] else []).filterMap GridPiece.path? = [] := by
      split <;> rfl
    have hempty : (List.replicate (colspan - 1) GridPiece.empty).filterMap GridPiece.path? = [] := by
      simp [GridPiece.path?]
    simp only [cellPieces, List.filterMap_append, hnext, hempty, imagePieces_paths, ih, List.flatMap_cons,
      List.nil_append, List.append_nil]

/-- The images that are written are those of the cells, in their order. -/
theorem rowPieces_paths (rows : List Nat) :
    (rowPieces doc setting rows).filterMap GridPiece.path? =
      (rows.flatMap fun row => (doc.rowCells row).flatMap fun cell => doc.cellImages cell.1).filterMap
        (imagePath? doc setting) := by
  induction rows with
  | nil => rfl
  | cons row rows ih =>
    have hend : [GridPiece.rowEnd].filterMap GridPiece.path? = [] := rfl
    rw [rowPieces, List.flatMap_cons, List.filterMap_append, List.filterMap_append, cellPieces_paths, hend,
      List.append_nil, List.flatMap_cons, List.filterMap_append, ← ih]
    rfl

/-- The size of the images of a grid. -/
def gridOptions (doc : Document) (table : Nat) : String :=
  ({ lineFraction := some (gridWidth / Float.ofNat (doc.columnCount table)) } : Image.Options).toLatex

/-- What a figure that holds a grid begins with. -/
def imageGridBegin (doc : Document) (setting : Setting) (table : Nat) : List Char :=
  (beginFigure setting ++ beginEnvironment "tabular" ++ braced (repeated "c" (doc.columnCount table)) ++
    "\n").toList

/-- A figure was written behind the output, and it holds a grid with all the images of the cells; of those
that could not be included the user was told. -/
def ImageGridWritten (doc : Document) (setting : Setting) (table : Nat) (e : Element)
    (c c' : Converter) : Prop :=
  (∃ front, Prolongs c.output front ∧
    c'.output = front ++ imageGridBegin doc setting table ++
      (rowPieces doc setting (doc.tableRows table)).flatMap (·.text (gridOptions doc table)) ++
      (gridEnd ++ floatEnding "figure" (figureCaption doc table e (c.figures + 1))
        (writtenLabel (e.nonBlankAttribute? "id") (figureName (c.figures + 1))))) ∧
  c'.warnings = c.warnings ++ (doc.gridImages table).filterMap (imageWarning? doc setting)

theorem pushImageGrid_adds (htag : e.tag ≠ .image) :
    Ensures (pushImageGrid doc setting id e) c fun _ c' => ImageGridWritten doc setting id e c c' := by
  unfold pushImageGrid
  refine (nextFigure_counts c).bind fun _ c₀ ⟨hnumber, hc₀⟩ => ?_
  subst hnumber hc₀
  extract_lets columns options finish
  have hsilent : Noting (fun _ => False) paragraphBreak := paragraphBreak_noting
  refine ((paragraphBreak_extending _).and (hsilent _)).bind fun _ c₁ ⟨hfront, hnotes⟩ => ?_
  refine (push_addsText _ c₁).bind fun _ c₂ h₂ => ?_
  refine (pushGridRows_adds _ c₂).bind fun _ c₃ h₃ => ?_
  refine (push_addsText _ c₃).bind fun _ c₄ h₄ => ?_
  refine gridCaption_bind htag fun c₅ h₅ => (floatClosing_addsText "figure" _ _ c₅).mono fun _ c' h₆ => ?_
  have hend := h₄.trans (h₅.trans h₆)
  rw [gridEnd_caption] at hend
  refine ⟨⟨c₁.output, hfront, ?_⟩, ?_⟩
  · rw [hend.output, h₃.1, h₂.output]
    rfl
  · obtain ⟨b, rfl, -⟩ := hend
    obtain ⟨b', rfl, -⟩ := h₂
    exact h₃.2.trans (congrArg (· ++ _) hnotes.warned.eq)

/-- A table of nothing but images becomes a figure where it is at the outermost. -/
theorem enter_imageGrid (htag : e.tag = .table) (hpre : c.preDepth = 0) (houter : isOutermost c = true)
    (himages : doc.isImageOnly id = true) :
    Yields (enter doc setting id e style) c fun flow c' =>
      flow = .skipChildren ∧ ImageGridWritten doc setting id e c c' := by
  have hgrid : Ensures (enter doc setting id e style) c fun flow c' =>
      flow = .skipChildren ∧ ImageGridWritten doc setting id e c c' := by
    refine .enter hpre ?_
    unfold openElement
    rw [htag]
    have hnoimage : e.tag ≠ .image := by rw [htag]; decide
    refine openTable_imageGrid (c := c.opened _) houter himages ?_
    exact (pushImageGrid_adds hnoimage).mono fun _ _ h => ⟨rfl, h⟩
  exact ((enter_yields doc setting id e style c).and_ensures hgrid).mono fun _ _ h => h.2

/-- Wherever a table of nothing but images becomes a figure, an image comes into it once if it is in a cell of
one of the rows: it is included, or the user is told about it.  An image that is anywhere else in the table does
not come into it, and the user is told nothing. -/
theorem imageGrid_images {name : String} {additions : List Document.Addition}
    (hdoc : doc = (Document.withRoot name).appended additions) (htag : e.tag = .table)
    (hpre : c.preDepth = 0) (houter : isOutermost c = true) (himages : doc.isImageOnly id = true) :
    Yields (enter doc setting id e style) c fun _ c' =>
      ImageGridWritten doc setting id e c c' ∧
      (rowPieces doc setting (doc.tableRows id)).filterMap GridPiece.path? =
        (doc.gridImages id).filterMap (imagePath? doc setting) ∧
      ∀ image, doc.isImage image = true →
        ((∃ path, imagePath? doc setting image = some path ∧ imageWarning? doc setting image = none) ∨
          ∃ warning, imagePath? doc setting image = none ∧
            imageWarning? doc setting image = some warning) ∧
        (doc.InGrid id image → (doc.gridImages id).count image = 1) ∧
        (¬ doc.InGrid id image → (doc.gridImages id).count image = 0) := by
  have hgrown : doc.Grown := by
    rw [hdoc]
    exact (Document.grown_withRoot name).appended additions
  refine (enter_imageGrid htag hpre houter himages).mono fun _ c' hwritten => ?_
  refine ⟨hwritten.2, rowPieces_paths _, fun image himage => ?_⟩
  refine ⟨imagePath?_or_imageWarning? himage, fun hin => ?_, fun hout => ?_⟩
  · have hmem : image ∈ doc.gridImages id := Document.mem_gridImages.mpr ⟨himage, hin⟩
    exact List.count_eq_one_of_mem (hgrown.nodup_gridImages id) hmem
  · apply List.count_eq_zero_of_not_mem
    intro hmem
    exact hout (Document.mem_gridImages.mp hmem).2

/-- A table with an image in a cell, and one without a cell. -/
def looseImage : Document :=
  (Document.withRoot "table").appended
    [.element 0 "tr" [], .element 1 "td" [], .element 2 "img" [⟨"src", "a.png"⟩], .element 1 "img" []]

theorem imageGrid_images_looseImage :
    ∃ flow c', enter looseImage ⟨{}, fun _ => .ok "image.png"⟩ 0 (.ofName "table" []) Style.empty
        Converter.start = .ok flow c' ∧
      ImageGridWritten looseImage ⟨{}, fun _ => .ok "image.png"⟩ 0 (.ofName "table" []) Converter.start c' ∧
      (looseImage.gridImages 0).count 3 = 1 := by
  have hrun : (match enter looseImage ⟨{}, fun _ => .ok "image.png"⟩ 0 (.ofName "table" []) Style.empty
      Converter.start with
    | .ok .. => true
    | .error .. => false) = true := by decide +kernel
  have htag : (Element.ofName "table" []).tag = .table := by decide +kernel
  have himages : looseImage.isImageOnly 0 = true := by decide +kernel
  split at hrun
  · next flow c' hentered =>
    obtain ⟨hwritten, -, hcount⟩ := (imageGrid_images rfl htag rfl rfl himages).of_ok hentered
    have himage : looseImage.isImage 3 = true := by decide +kernel
    have hrow : looseImage.IsRowOf 0 1 := by
      refine ⟨by decide +kernel, [], .child .start ?_, by simp⟩
      decide +kernel
    have hin : looseImage.InGrid 0 3 := by
      refine ⟨1, hrow, 2, by decide +kernel, by decide +kernel, [2, 3], .child .start ?_⟩
      decide +kernel
    exact ⟨flow, c', hentered, hwritten, (hcount 3 himage).2.1 hin⟩
  · cases hrun

/-- A table with an image in a row, but not in a cell. -/
def imageInRow : Document :=
  (Document.withRoot "table").appended [.element 0 "tr" [], .element 1 "img" []]

/-- The image is found in the table, but it is not included and the user is not told. -/
theorem runFrom_imageInRow :
    imageInRow.isImageOnly 0 = true ∧
      2 ∈ (imageInRow.levelOrder 0 imageInRow.isCaption).filter imageInRow.isImage ∧
      ∃ c, runFrom imageInRow ⟨{}, fun _ => .ok "image.png"⟩ 0 = .ok c ∧ c.warnings = [] ∧
        c.output = ("\\begin\x7bfigure\x7d[htbp]\n\\centering\n\\begin\x7btabular\x7d\x7bc\x7d\n \\\\\n" ++
          "\\end\x7btabular\x7d\n\\caption\x7bFigure 1\x7d\n\\label\x7bfigure_1\x7d\n" ++
          "\\end\x7bfigure\x7d\n\n").toList := by
  exact ⟨by decide +kernel, by decide +kernel, exists_ok_and (by decide +kernel)⟩

end Convert

end MarkupTex
