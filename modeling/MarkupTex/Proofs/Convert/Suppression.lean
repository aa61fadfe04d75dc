import MarkupTex.Proofs.Convert.Place
import MarkupTex.Proofs.Document.Agreement
/-!
# Content that is withheld

What is below a script or a head is not to come into the output.  It is left out where the conversion enters
such an element, but texts are read in other places as well: for a caption, to see whether a table holds
images and nothing else, to see whether an image stands alone.  Two documents are compared for that which
differ in withheld texts alone, `toLatex_conceals`: they are converted to the same output with the same
warnings.

Two elements do not care about what is withheld below them.  A verbatim block writes all its texts, and so
does the caption of a table, see `Document.Unveils`.
-/

set_option autoImplicit false

namespace MarkupTex

open Walk

namespace Document

variable {doc doc' : Document} {root id t : Nat} {path way : List Nat}

/-- On each way down to the node there is a withheld element, and no verbatim block and no caption above
it. -/
def Concealed (doc : Document) (t : Nat) : Prop :=
  ∀ root path, doc.root? = some root → doc.Leads root path t →
    ∃ front x rest, path = front ++ x :: rest ∧ doc.Withheld x ∧ ∀ y ∈ front, ¬ doc.Unveils y

/-- On each way down to the node there is a withheld element. -/
def BelowWithheld (doc : Document) (t : Nat) : Prop :=
  ∀ root path, doc.root? = some root → doc.Leads root path t → ∃ x ∈ path, doc.Withheld x

theorem Unveils.lt_size {y : Nat} (h : doc.Unveils y) : y < doc.size := by
  rcases h with htag | htag
  all_goals
    obtain ⟨e, he, -⟩ := Option.map_eq_some_iff.mp htag
    exact lt_size_of_element? he

/-- There is one way to a node with a parent, through the parent. -/
theorem Leads.through_parent {x : Nat} (hlinked : doc.Linked) (hroot : doc.root? = some root)
    (h : doc.Leads root path t) (hparent : doc.parent? t = some x) :
    ∃ front, path = front ++ [x] ++ [t] ∧ doc.Leads root (front ++ [x]) x := by
  have hmem : t ∈ doc.children x := (hlinked t x).mp hparent
  cases h with
  | start =>
    -- The root has no parent, because a parent comes first.
    have hzero : root = 0 := by
      rw [root?] at hroot
      split at hroot
      · cases hroot
      · exact (Option.some.inj hroot).symm
    have := (lt_of_mem_children hmem).1
    omega
  | @child above last _ habove hlast =>
    have hlast := (hlinked t last).mpr hlast
    rw [hparent] at hlast
    cases hlast
    obtain ⟨front, rfl⟩ := habove.ends
    exact ⟨front, rfl, habove⟩

theorem belowWithheld_of_parent {x : Nat} (hlinked : doc.Linked) (hparent : doc.parent? t = some x)
    (hwithheld : doc.Withheld x) : doc.BelowWithheld t := by
  intro root path hroot hleads
  obtain ⟨front, rfl, -⟩ := hleads.through_parent hlinked hroot hparent
  exact ⟨x, by simp, hwithheld⟩

/-- Where there is neither a verbatim block nor a caption, a withheld parent is enough. -/
theorem concealed_of_withheld {x : Nat} (hlinked : doc.Linked) (hparent : doc.parent? t = some x)
    (hwithheld : doc.Withheld x) (hnone : ∀ y, ¬ doc.Unveils y) : doc.Concealed t := by
  intro root path hroot hleads
  obtain ⟨front, rfl, -⟩ := hleads.through_parent hlinked hroot hparent
  exact ⟨front, x, [t], by simp, hwithheld, fun y _ => hnone y⟩

theorem not_concealed (hroot : doc.root? = some root) (hleads : doc.Leads root path t)
    (h : doc.Passed path) : ¬ doc.Concealed t := by
  intro hconcealed
  obtain ⟨front, x, rest, hpath, hwithheld, hnone⟩ := hconcealed root path hroot hleads
  obtain ⟨y, hy, hunveils⟩ := h front x rest hpath hwithheld
  exact hnone y hy hunveils

theorem shown_of_tag {tag : Tag} (htag : doc.tag? id = some tag) (hshown : tag.isSuppressed = false) :
    ∃ e, doc.element? id = some e ∧ e.tag.isSuppressed = false := by
  obtain ⟨e, he, rfl⟩ := Option.map_eq_some_iff.mp htag
  exact ⟨e, he, hshown⟩

theorem not_withheld_of_text (h : (doc.text? id).isSome) : ¬ doc.Withheld id := by
  rintro ⟨e, he, -⟩
  rw [text?_of_element? he] at h
  cases h

/-- A text at the end of a path on which nothing is withheld. -/
theorem not_concealed_text (hroot : doc.root? = some root) (hleads : doc.Leads root (path ++ [t]) t)
    (htext : (doc.text? t).isSome) (h : doc.Passed path) : ¬ doc.Concealed t := by
  refine not_concealed hroot hleads (h.append fun x hx hwithheld => ?_)
  rw [List.mem_singleton.mp hx] at hwithheld
  exact absurd hwithheld (not_withheld_of_text htext)

/-- Nothing below a caption counts as concealed. -/
theorem not_concealed_below_caption (hroot : doc.root? = some root)
    (hleads : doc.Leads root (path ++ [id]) id) (h : doc.Passed (path ++ [id]))
    (htag : doc.tag? id = some .caption) (hway : doc.Leads id way t) : ¬ doc.Concealed t := by
  obtain ⟨rest, rfl⟩ : ∃ rest, way = id :: rest := by
    induction hway with
    | start => exact ⟨[], rfl⟩
    | child _ _ ih =>
      obtain ⟨rest, rfl⟩ := ih
      exact ⟨rest ++ [_], rfl⟩
  refine not_concealed hroot (hleads.append hway) ?_
  rw [← List.singleton_append, ← List.append_assoc]
  exact h.append fun x _ _ => ⟨id, by simp, .inr htag⟩

namespace SameBut

variable (h : SameBut doc.Concealed doc doc') (hroot : doc.root? = some root)

include h hroot

/-- A caption that the conversion comes to has the same text in both documents. -/
theorem captionText_eq (hleads : doc.Leads root (path ++ [id]) id) (hpassed : doc.Passed (path ++ [id]))
    (htag : doc.tag? id = some .caption) : doc'.captionText id = doc.captionText id :=
  h.captionText fun _ _ hway => not_concealed_below_caption hroot hleads hpassed htag hway

theorem tableCaption?_eq (hleads : doc.Leads root (path ++ [id]) id)
    (hshown : doc.Shown (path ++ [id])) : doc'.tableCaption? id = doc.tableCaption? id := by
  have hcaption : doc'.isCaption = doc.isCaption := funext fun x => by rw [isCaption, isCaption, h.tag]
  have hsame : ∀ caption, (doc.children id).find? doc.isCaption = some caption →
      doc'.captionText caption = doc.captionText caption := by
    intro caption hfind
    have htag : doc.tag? caption = some .caption := by simpa [isCaption] using List.find?_some hfind
    have hleads' := hleads.child (List.mem_of_find?_eq_some hfind)
    exact h.captionText_eq hroot hleads' (shown_concat.mpr ⟨hshown, shown_of_tag htag rfl⟩).passed htag
  unfold tableCaption?
  rw [h.children, hcaption]
  cases hfind : (doc.children id).find? doc.isCaption with
  | none => simp only [Option.bind_none]
  | some caption => simp only [Option.bind_some, hsame caption hfind]

/-- A table with a concealed text has the element that conceals it, and that fits no grid of images. -/
theorem isImageOnly_eq (hleads : doc.Leads root (path ++ [id]) id) (hshown : doc.Shown path) :
    doc'.isImageOnly id = doc.isImageOnly id := by
  have hcaption : doc'.isCaption = doc.isCaption := funext fun x => by rw [isCaption, isCaption, h.tag]
  have himage : doc'.isImage = doc.isImage := funext fun x => by rw [isImage, isImage, h.tag]
  rw [isImageOnly, isImageOnly, h.levelOrder, hcaption, himage]
  refine congrArg (· && _) ?_
  by_cases hsome : ∃ t ∈ doc.levelOrder id doc.isCaption, doc.Concealed t
  · obtain ⟨t, ht, hconcealed⟩ := hsome
    obtain ⟨way, hway, hlisted⟩ := leads_of_mem_levelOrder ht
    obtain ⟨front, x, rest, hsplit, hwithheld, -⟩ := hconcealed root _ hroot (hleads.append hway)
    have hx : x ∈ path ++ way := by simp [hsplit]
    have hlist : x ∈ doc.levelOrder id doc.isCaption := by
      rcases List.mem_append.mp hx with hx | hx
      · exact absurd hwithheld (hshown.not_withheld hx)
      · exact hlisted x hx
    have hunfit : ∀ d : Document, d.element? x = doc.element? x → d.fitsGrid x = false := by
      intro d hd
      obtain ⟨e, he, hsuppressed⟩ := hwithheld
      rw [he] at hd
      rw [fitsGrid, text?_of_element? hd, tag?_of_element? hd]
      dsimp only
      rw [Option.any_some]
      cases htag : e.tag <;> rw [htag] at hsuppressed <;> first | rfl | cases hsuppressed
    have hno : ∀ d : Document, d.element? x = doc.element? x →
        (doc.levelOrder id doc.isCaption).all d.fitsGrid = false := fun d hd =>
      List.all_eq_false.mpr ⟨x, hlist, by simp [hunfit d hd]⟩
    rw [hno doc rfl, hno doc' (h.element x)]
  · rw [Bool.eq_iff_iff, List.all_eq_true, List.all_eq_true]
    refine forall_congr' fun x => forall_congr' fun hx => ?_
    rw [fitsGrid, fitsGrid, h.text x fun hconcealed => hsome ⟨x, hx, hconcealed⟩, h.tag]

/-- Texts beside an image are known, if nothing on the path to it is withheld. -/
theorem isBlockImage_eq (hlinked : doc.Linked) (hleads : doc.Leads root (path ++ [id]) id)
    (hshown : doc.Shown path) : doc'.isBlockImage id = doc.isBlockImage id := by
  refine h.isBlockImage fun parent hparent _ child hchild htext => ?_
  obtain ⟨front, hpath, habove⟩ := hleads.through_parent hlinked hroot hparent
  obtain ⟨rfl, -⟩ := List.append_inj' hpath rfl
  exact not_concealed_text hroot (habove.child hchild) htext hshown.passed

/-- So are the texts of a paragraph. -/
theorem hasBlockContent_eq (hlinked : doc.Linked) (hleads : doc.Leads root (path ++ [id]) id)
    (hshown : doc.Shown path) : doc'.hasBlockContent id = doc.hasBlockContent id := by
  refine h.hasBlockContent hlinked fun htag child hchild htext => ?_
  refine not_concealed_text hroot (hleads.child hchild) htext ?_
  exact (shown_concat.mpr ⟨hshown, shown_of_tag htag rfl⟩).passed

end SameBut

end Document

namespace Convert

variable {doc doc' : Document} {hidden : Nat → Prop} {setting : Setting} {policy : ImportantPolicy}
  {root id : Nat} {e : Element} {path ids : List Nat} {style : Style} {c : Converter}
  {options : Options} {resolve : Image.Resolver}

/-! ## Handlers -/

section Handlers

variable (h : Document.SameBut hidden doc doc')

include h

theorem pushGridImages_congr (options : String) (ids : List Nat) : ∀ first,
    pushGridImages doc' setting options first ids = pushGridImages doc setting options first ids := by
  induction ids with
  | nil => exact fun first => rfl
  | cons id ids ih =>
    intro first
    simp only [pushGridImages, h.element, ih]

theorem pushGridCells_congr (options : String) (cells : List (Nat × Nat)) : ∀ column,
    pushGridCells doc' setting options column cells = pushGridCells doc setting options column cells := by
  induction cells with
  | nil => exact fun column => rfl
  | cons cell cells ih =>
    intro column
    simp only [pushGridCells, h.cellImages, pushGridImages_congr h, ih]

theorem pushGridRows_congr (options : String) (rows : List Nat) :
    pushGridRows doc' setting options rows = pushGridRows doc setting options rows := by
  induction rows with
  | nil => rfl
  | cons row rows ih => simp only [pushGridRows, h.rowCells, pushGridCells_congr h, ih]

/-- A grid of images is the same, if its caption is. -/
theorem pushImageGrid_congr (hcaption : doc'.tableCaption? id = doc.tableCaption? id) :
    pushImageGrid doc' setting id e = pushImageGrid doc setting id e := by
  unfold pushImageGrid
  rw [h.columnCount, h.tableRows, hcaption]
  simp only [pushGridRows_congr h]

theorem openTable_congr (hgrid : doc'.isImageOnly id = doc.isImageOnly id)
    (hcaption : doc'.tableCaption? id = doc.tableCaption? id) :
    openTable doc' setting id e = openTable doc setting id e := by
  unfold openTable beginTable
  rw [hgrid, h.columnCount, pushImageGrid_congr h hcaption]

/-- What is done on entering an element depends on the document in three places. -/
theorem openElement_congr
    (htable : e.tag = .table → doc'.isImageOnly id = doc.isImageOnly id ∧
      doc'.tableCaption? id = doc.tableCaption? id)
    (hcaption : e.tag = .caption → doc'.captionText id = doc.captionText id)
    (himage : e.tag = .image → doc'.isBlockImage id = doc.isBlockImage id) :
    openElement doc' setting id e style = openElement doc setting id e style := by
  unfold openElement
  cases htag : e.tag with
  | table => exact openTable_congr h (htable htag).1 (htable htag).2
  | caption =>
    dsimp only
    unfold stageCaption
    rw [hcaption htag]
  | image =>
    dsimp only
    unfold openImage
    rw [himage htag]
  | _ => rfl

end Handlers

/-! ## Two conversions -/

/-- Entering an element is opening it, with a frame on top. -/
theorem enter_apply (doc : Document) (setting : Setting) (id : Nat) (e : Element) (style : Style)
    (c : Converter) : enter doc setting id e style c =
      (if 0 < c.preDepth then openVerbatim e else openElement doc setting id e style)
        (c.opened (c.preDepth = 0 && mayFormat e style && doc.hasBlockContent id)) := rfl

/-- In a verbatim block the document does not matter. -/
theorem enter_congr (hpre : c.preDepth = 0 → doc'.hasBlockContent id = doc.hasBlockContent id ∧
      openElement doc' setting id e style = openElement doc setting id e style) :
    enter doc' setting id e style c = enter doc setting id e style c := by
  rw [enter_apply, enter_apply]
  rcases Nat.eq_zero_or_pos c.preDepth with hzero | hpos
  · obtain ⟨hblocks, hopen⟩ := hpre hzero
    rw [hblocks, hopen]
  · rw [if_pos hpos, if_pos hpos, decide_eq_false (Nat.pos_iff_ne_zero.mp hpos), Bool.false_and,
      Bool.false_and, Bool.false_and]

/-- At every moment of a conversion the next call does the same in both documents. -/
theorem agreeAt_of_reaches (hlinked : doc.Linked) (h : Document.SameBut doc.Concealed doc doc')
    (hroot : doc.root? = some root)
    (hreaches : Reaches doc policy (visitor doc setting) Style.empty [root] Converter.start style
      (id :: ids) c) :
    AgreeAt doc doc' policy (visitor doc setting) (visitor doc' setting) style id c := by
  obtain ⟨path, hleads, hstanding⟩ := Reaches.standing hreaches
  refine ⟨h.isNode id, h.element id, h.children id, fun t ht => ⟨t, ?_, rfl⟩, fun e he => ?_⟩
  · rw [h.text id, ht]
    exact Document.not_concealed_text hroot hleads (by rw [ht]; rfl) hstanding.passed
  · refine enter_congr fun hpre => ?_
    have hshown := hstanding.shown hpre
    have hhere (htag : e.tag.isSuppressed = false) : doc.Shown (path ++ [id]) :=
      Document.shown_concat.mpr ⟨hshown, e, he, htag⟩
    refine ⟨h.hasBlockContent_eq hroot hlinked hleads hshown, openElement_congr h ?_ ?_ ?_⟩
    · intro htag
      exact ⟨h.isImageOnly_eq hroot hleads hshown,
        h.tableCaption?_eq hroot hleads (hhere (by rw [htag]; rfl))⟩
    · intro htag
      refine h.captionText_eq hroot hleads (hhere (by rw [htag]; rfl)).passed ?_
      rw [Document.tag?_of_element? he, htag]
    · exact fun _ => h.isBlockImage_eq hroot hlinked hleads hshown

/-- So the runs come to the same end. -/
theorem runFrom_congr (hlinked : doc.Linked) (h : Document.SameBut doc.Concealed doc doc')
    (hroot : doc.root? = some root) : runFrom doc' setting root = runFrom doc setting root := by
  cases he : doc.element? root with
  | none =>
    -- There is no run, and the fault says the same of both.
    have he' : doc'.element? root = none := (h.element root).trans he
    have hstart : badStart doc' root = badStart doc root := by
      have htext := h.isText root
      unfold badStart
      cases hs : doc.text? root <;> cases hs' : doc'.text? root <;> simp_all
    simp only [runFrom, walk, walkWithin, he, he', hstart]
  | some e =>
    have htraverse : traverse doc' setting.options.importantPolicy (visitor doc' setting) Style.empty
        [root] Converter.start = traverse doc setting.options.importantPolicy (visitor doc setting)
          Style.empty [root] Converter.start := by
      refine traverse_congr ?_ [root] Style.empty Converter.start fun hreaches => ?_
      · rfl
      · exact agreeAt_of_reaches hlinked h hroot hreaches
    rw [runFrom_eq he, runFrom_eq ((h.element root).trans he), htraverse]

/-- Two documents that differ in nothing but concealed texts are converted to the same: the output, the
warnings, and the fault if there is one. -/
theorem toLatex_conceals (hlinked : doc.Linked) (h : Document.SameBut doc.Concealed doc doc')
    (hpart : options.fullDocument = false) :
    doc'.toLatex options resolve = doc.toLatex options resolve := by
  cases hroot : doc.root? with
  | none =>
    have hroot' : doc'.root? = none := h.root.trans hroot
    unfold Document.toLatex
    rw [hroot, hroot']
  | some root =>
    rw [toLatex_eq hroot, toLatex_eq (h.root.trans hroot), runFrom_congr hlinked h hroot, hpart]
    simp only [Bool.false_eq_true, if_false]

/-- A script beside a paragraph. -/
def scriptBesideText (script : String) : Document :=
  let scripted := ((Document.withRoot "div").push 0 (.element (.ofName "script" []))).push 1
    (.text script)
  (scripted.push 0 (.element (.ofName "p" []))).push 3 (.text "shown")

theorem linked_scriptBesideText (script : String) : (scriptBesideText script).Linked := by
  unfold scriptBesideText
  apply Document.Linked.push _ (by simp)
  apply Document.Linked.push _ (by simp)
  apply Document.Linked.push _ (by simp)
  apply Document.Linked.push _ (by simp)
  exact Document.linked_withRoot "div"

theorem toLatex_conceals_scriptBesideText :
    (scriptBesideText "run()").Linked ∧
      Document.SameBut (scriptBesideText "run()").Concealed (scriptBesideText "run()")
        (scriptBesideText "stop()") ∧
      (scriptBesideText "stop()").toLatex {} (fun _ => .ok "image.png") =
        (scriptBesideText "run()").toLatex {} (fun _ => .ok "image.png") := by
  have hlinked := linked_scriptBesideText "run()"
  have hsame : Document.SameBut (· = 2) (scriptBesideText "run()") (scriptBesideText "stop()") := by
    unfold scriptBesideText
    apply Document.SameBut.push
    apply Document.SameBut.push
    apply Document.SameBut.push_text _ 1 (by simp)
    exact .refl _ _
  have hconcealed : (scriptBesideText "run()").Concealed 2 := by
    refine Document.concealed_of_withheld hlinked (x := 1) rfl ⟨.ofName "script" [], rfl, by decide +kernel⟩ ?_
    have hnone : ∀ y < (scriptBesideText "run()").size,
        (scriptBesideText "run()").tag? y ≠ some .preformatted ∧
          (scriptBesideText "run()").tag? y ≠ some .caption := by decide +kernel
    intro y hy
    exact hy.elim (hnone y hy.lt_size).1 (hnone y hy.lt_size).2
  have hsame := hsame.mono fun t (ht : t = 2) => ht ▸ hconcealed
  exact ⟨hlinked, hsame, toLatex_conceals hlinked hsame rfl⟩

/-- A table with a caption that holds a script. -/
def scriptInCaption (script : String) : Document :=
  let captioned := ((Document.withRoot "table").push 0 (.element (.ofName "caption" []))).push 1
    (.text "T")
  let scripted := (captioned.push 1 (.element (.ofName "script" []))).push 3 (.text script)
  ((scripted.push 0 (.element (.ofName "tr" []))).push 5 (.element (.ofName "td" []))).push 6
    (.text "x")

theorem linked_scriptInCaption (script : String) : (scriptInCaption script).Linked := by
  unfold scriptInCaption
  apply Document.Linked.push _ (by simp)
  apply Document.Linked.push _ (by simp)
  apply Document.Linked.push _ (by simp)
  apply Document.Linked.push _ (by simp)
  apply Document.Linked.push _ (by simp)
  apply Document.Linked.push _ (by simp)
  apply Document.Linked.push _ (by simp)
  exact Document.linked_withRoot "table"

/-- In the caption of a table a script is written with the rest of the text. -/
theorem toLatex_not_conceals_scriptInCaption :
    ¬ ∀ (doc doc' : Document) (options : Options) (resolve : Image.Resolver), doc.Linked →
      Document.SameBut doc.BelowWithheld doc doc' → options.fullDocument = false →
        doc'.toLatex options resolve = doc.toLatex options resolve := by
  intro hall
  have hlinked := linked_scriptInCaption "run()"
  have hsame : Document.SameBut (· = 4) (scriptInCaption "run()") (scriptInCaption "stop()") := by
    unfold scriptInCaption
    apply Document.SameBut.push
    apply Document.SameBut.push
    apply Document.SameBut.push
    apply Document.SameBut.push_text _ 3 (by simp)
    exact .refl _ _
  have hbelow : (scriptInCaption "run()").BelowWithheld 4 :=
    Document.belowWithheld_of_parent hlinked (x := 3) rfl ⟨.ofName "script" [], rfl, by decide +kernel⟩
  have heq := hall _ _ {} (fun _ => .ok "image.png") hlinked
    (hsame.mono fun t (ht : t = 4) => ht ▸ hbelow) rfl
  obtain ⟨output, hrun, hshown⟩ : ∃ output,
      (scriptInCaption "run()").toLatex {} (fun _ => .ok "image.png") = .ok output ∧
        "run".toList <:+: output.content.toList :=
    exists_output (fun _ cs => "run".toList <:+: cs) rfl rfl (by decide +kernel)
  obtain ⟨output', hstop, hhidden⟩ : ∃ output,
      (scriptInCaption "stop()").toLatex {} (fun _ => .ok "image.png") = .ok output ∧
        ¬ "run".toList <:+: output.content.toList :=
    exists_output (fun _ cs => ¬ "run".toList <:+: cs) rfl rfl (by decide +kernel)
  obtain rfl : output' = output := Except.ok.inj (hstop.symm.trans (heq.trans hrun))
  exact hhidden hshown

end Convert

end MarkupTex
