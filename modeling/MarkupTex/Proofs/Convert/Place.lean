import MarkupTex.Proofs.Check.Coverage
import MarkupTex.Proofs.Convert.Outcome
/-!
# Where the conversion is

The conversion keeps the table that it is in, puts it away for an inner one and takes it up again, goes into
cells and out of them.  But all that it amounts to can be read off the path to a node: `Document.place`
goes down the path and looks at the tags.  `Reaches.standing` shows that the two agree at every moment of a
conversion, outside of verbatim blocks.

The check reads a flag off the same path.  It stands for the same thing, so that a text which the conversion
drops between the cells of a table is one that the check has reported, `droppedText_reported`.
-/

set_option autoImplicit false

namespace MarkupTex

open Walk

/-- The place of what is below an element with this tag. -/
def Place.below (tag : Tag) (place : Place) : Place :=
  match tag, place with
  | .table, _ => .between
  | .tableCell .., .between => .cell
  | _, place => place

theorem Place.below_eq_self {tag : Tag} {place : Place} (htable : tag ≠ .table)
    (hcell : ∀ header colspan, tag = .tableCell header colspan → place ≠ .between) :
    Place.below tag place = place := by
  unfold Place.below
  split
  · exact absurd rfl htable
  · exact absurd rfl (hcell _ _ rfl)
  · rfl

/-- The place of what is below a path. -/
def Document.place (doc : Document) (path : List Nat) : Place := doc.along Place.below .outside path

/-! ## What is withheld on a path -/

namespace Document

variable {doc : Document} {path way : List Nat} {id : Nat}

/-- A verbatim block and a caption take in all the texts below, whatever elements are in between. -/
def Unveils (doc : Document) (id : Nat) : Prop :=
  doc.tag? id = some .preformatted ∨ doc.tag? id = some .caption

/-- No element on the path is withheld, but behind one that takes in everything. -/
def Passed (doc : Document) (path : List Nat) : Prop :=
  ∀ front x rest, path = front ++ x :: rest → doc.Withheld x → ∃ y ∈ front, doc.Unveils y

theorem passed_nil : doc.Passed [] := by
  intro front x rest hsplit
  simp at hsplit

theorem Passed.append (h : doc.Passed path)
    (hway : ∀ x ∈ way, doc.Withheld x → ∃ y ∈ path, doc.Unveils y) : doc.Passed (path ++ way) := by
  intro front x rest hsplit hwithheld
  rcases List.append_eq_append_iff.mp hsplit with ⟨more, rfl, hmore⟩ | ⟨more, hpath, hmore⟩
  · obtain ⟨y, hy, hunveils⟩ := hway x (by simp [hmore]) hwithheld
    exact ⟨y, List.mem_append_left _ hy, hunveils⟩
  · cases more with
    | nil =>
      obtain rfl : x :: rest = way := hmore
      obtain ⟨y, hy, hunveils⟩ := hway x List.mem_cons_self hwithheld
      rw [hpath, List.append_nil] at hy
      exact ⟨y, hy, hunveils⟩
    | cons first more =>
      cases hmore
      exact h front x more hpath hwithheld

theorem Shown.passed (h : doc.Shown path) : doc.Passed path := fun front x rest hsplit hwithheld =>
  absurd hwithheld (h.not_withheld (by simp [hsplit]))

end Document

namespace Convert

variable {doc : Document} {setting : Setting} {policy : ImportantPolicy} {root id : Nat} {e : Element}
  {path ids : List Nat} {style : Style} {c c' : Converter}

/-- What going on below an element means for the place. -/
theorem Outcome.descends (h : Outcome doc setting id e c .descend c') :
    e.tag.isSuppressed = false ∧ c'.place = Place.below e.tag c.place ∧
      (e.tag = .caption → c.place = .outside) := by
  cases h with
  | stays table preDepth shown noTable noCaption noCell =>
    refine ⟨shown, ?_, noCaption⟩
    rw [place_congr table, Place.below_eq_self noTable noCell]
  | verbatim tag table preDepth =>
    refine ⟨by rw [tag]; rfl, ?_, by simp [tag]⟩
    rw [place_congr table, tag]
    rfl
  | table tag place table between frames outer preDepth =>
    refine ⟨by rw [tag]; rfl, ?_, by simp [tag]⟩
    rw [Converter.place_between_iff.mpr ⟨_, table, between⟩, tag]
    rfl
  | row tag inside between table preDepth =>
    refine ⟨by rw [tag]; rfl, ?_, by simp [tag]⟩
    rw [Converter.place_between_iff.mpr ⟨_, table, between⟩,
      Converter.place_between_iff.mpr ⟨_, inside, between⟩, tag]
    rfl
  | cell tag inside between table preDepth =>
    refine ⟨by rw [tag]; rfl, ?_, by simp [tag]⟩
    rw [Converter.place_between_iff.mpr ⟨_, inside, between⟩, Converter.place, table, tag]
    rfl

/-- A verbatim block is begun by preformatted elements only. -/
theorem Outcome.preformatted {flow : Flow} (h : Outcome doc setting id e c flow c')
    (hdeeper : c.preDepth < c'.preDepth) : e.tag = .preformatted := by
  cases h with
  | verbatim tag => exact tag
  | stays _ preDepth | table _ _ _ _ _ _ preDepth | row _ _ _ _ preDepth | cell _ _ _ _ preDepth
  | staged _ _ _ preDepth | skips _ preDepth => omega

/-- Between the cells, as the conversion sees it, is between the cells for the check. -/
theorem betweenCells_of_below {tag : Tag} {place : Place} {flag : Bool}
    (h : place = .between → flag = true) (hcaption : tag = .caption → place = .outside)
    (hbelow : Place.below tag place = .between) : Check.betweenCells tag flag = true := by
  cases tag with
  | table | tableSection | tableRow => rfl
  | tableCell header colspan => cases place <;> cases hbelow
  | caption =>
    rw [hcaption rfl] at hbelow
    cases hbelow
  | _ => exact h hbelow

/-- What is known of a moment at which the nodes below a path are visited. -/
structure Standing (doc : Document) (policy : ImportantPolicy) (path : List Nat) (style : Style)
    (c : Converter) : Prop where
  handed : HandedDown doc policy path style
  shown : c.preDepth = 0 → doc.Shown path
  place : c.preDepth = 0 → c.place = doc.place path
  between : c.preDepth = 0 → c.place = .between → Check.between doc path = true
  pre : 0 < c.preDepth → ∃ p ∈ path, doc.tag? p = some .preformatted
  passed : doc.Passed path

theorem standing_start : Standing doc policy [] Style.empty Converter.start where
  handed := handedDown_empty
  shown := fun _ => Document.shown_nil
  place := fun _ => rfl
  between := fun _ h => by cases h
  pre := fun h => absurd h (Nat.lt_irrefl 0)
  passed := Document.passed_nil

/-- The place depends on no more than what is given back. -/
theorem Restored.place (h : Restored c c') : c'.place = c.place := by
  have hcore := congrArg (Option.map TableState.inCell) h.table
  rw [Converter.place, Converter.place]
  cases ht : c.table <;> cases ht' : c'.table <;> simp_all [TableState.core]

theorem Standing.restored (h : Standing doc policy path style c) (hr : Restored c c') :
    Standing doc policy path style c' := by
  obtain ⟨handed, shown, place, between, pre, passed⟩ := h
  rw [← hr.preDepth] at shown place between pre
  rw [← hr.place] at place between
  exact ⟨handed, shown, place, between, pre, passed⟩

/-- An element that goes on to what is below is not withheld, unless a verbatim block was begun above. -/
theorem Standing.passes (h : Standing doc policy path style c) (he : doc.element? id = some e)
    (hv : Convert.enter doc setting id e (e.styleUnder policy style) c = .ok .descend c')
    (hwithheld : doc.Withheld id) : ∃ p ∈ path, doc.tag? p = some .preformatted := by
  obtain ⟨e', he', hsuppressed⟩ := hwithheld
  rw [he] at he'
  cases he'
  apply h.pre
  by_contra hpre
  have houtcome := (enter_comes (Nat.eq_zero_of_not_pos hpre) _ _ hv).2
  rw [houtcome.descends.1] at hsuppressed
  cases hsuppressed

/-- Entering an element is one more step on the path. -/
theorem Standing.enter (h : Standing doc policy path style c) (he : doc.element? id = some e)
    (hv : Convert.enter doc setting id e (e.styleUnder policy style) c = .ok .descend c') :
    Standing doc policy (path ++ [id]) (e.styleUnder policy style).inheritedPart.style c' := by
  have hflat : c'.preDepth = 0 → c.preDepth = 0 := by
    intro hpre'
    by_contra hpos
    have := (enter_verbatim_notes (Nat.pos_of_ne_zero hpos) _ _ hv).2.preDepth
    omega
  have hdescends (hpre' : c'.preDepth = 0) := (enter_comes (hflat hpre') _ _ hv).2.descends
  refine ⟨h.handed.below he, fun hpre' => ?_, fun hpre' => ?_, fun hpre' hbetween => ?_,
    fun hpos => ?_, h.passed.append fun x hx hwithheld => ?_⟩
  · exact Document.shown_concat.mpr ⟨h.shown (hflat hpre'), e, he, (hdescends hpre').1⟩
  · rw [(hdescends hpre').2.1, h.place (hflat hpre'), Document.place, Document.place,
      Document.along_concat he]
  · obtain ⟨-, hplace, hcaption⟩ := hdescends hpre'
    rw [Check.between, Document.along_concat he]
    exact betweenCells_of_below (h.between (hflat hpre')) hcaption (hplace ▸ hbetween)
  · -- The verbatim block was begun above, or it begins here.
    rcases Nat.eq_zero_or_pos c.preDepth with hpre | hpre
    · refine ⟨id, by simp, ?_⟩
      rw [Document.tag?_of_element? he]
      exact congrArg some ((enter_comes hpre _ _ hv).2.preformatted (by omega))
    · obtain ⟨p, hp, htag⟩ := h.pre hpre
      exact ⟨p, List.mem_append_left _ hp, htag⟩
  · obtain rfl := List.mem_singleton.mp hx
    obtain ⟨p, hp, htag⟩ := h.passes he hv hwithheld
    exact ⟨p, hp, .inl htag⟩

theorem visited_restored (h : traverse doc policy (visitor doc setting) style [id] c = .ok true c') :
    Restored c c' := by
  have htracks : Tracks doc policy (visitor doc setting) (fun _ _ _ => False)
      (fun _ c c' => Restored c c') Latex.Buffer.Refused := restored_conserves.tracks fun hr => hr
  have hends := traverse_ends htracks [id] style c (by simpa using lt_size_of_visited h)
  rw [h] at hends
  exact hends.2

/-- At every moment of a conversion there is a path to the nodes that come next, and what is known of the
moment can be read off the path. -/
theorem Reaches.standing (h : Reaches doc policy (visitor doc setting) Style.empty [root]
    Converter.start style (id :: ids) c) :
    ∃ path, doc.Leads root (path ++ [id]) id ∧ Standing doc policy path style c := by
  suffices hall : ∀ {style₀ ids₀ c₀ style' ids' c'},
      Reaches doc policy (visitor doc setting) style₀ ids₀ c₀ style' ids' c' →
      ∀ path₀, (∀ x ∈ ids₀, doc.Leads root (path₀ ++ [x]) x) → Standing doc policy path₀ style₀ c₀ →
      ids' ≠ [] → ∃ path, (∀ x ∈ ids', doc.Leads root (path ++ [x]) x) ∧
        Standing doc policy path style' c' by
    obtain ⟨path, hleads, hstanding⟩ := hall h [] (by simpa using .start) standing_start (by simp)
    exact ⟨path, hleads id List.mem_cons_self, hstanding⟩
  intro style₀ ids₀ c₀ style' ids' c' hreaches
  induction hreaches with
  | refl => exact fun path₀ hleads hstanding _ => ⟨path₀, hleads, hstanding⟩
  | @inside _ _ id _ _ e flow _ _ _ isElement entered goesOn rest ih =>
    intro path₀ hleads hstanding hne
    -- There is nothing to visit below, unless the element went on to its children.
    cases flow with
    | stop => exact absurd rfl goesOn
    | skipChildren =>
      cases rest with
      | refl => exact absurd rfl hne
    | descend =>
      refine ih (path₀ ++ [id]) (fun child hchild => ?_) (hstanding.enter isElement entered) hne
      exact .child (hleads id List.mem_cons_self) hchild
  | after visited _ ih =>
    intro path₀ hleads hstanding hne
    refine ih path₀ (fun x hx => hleads x (List.mem_cons_of_mem _ hx)) ?_ hne
    exact hstanding.restored (visited_restored visited)

/-! ## Text that is dropped -/

variable {options : Options} {resolve : Image.Resolver} {t : Nat} {output : Output} {w : Warning}

/-- The conversion of the document gives this warning on coming to a node. -/
def Warns (doc : Document) (options : Options) (resolve : Image.Resolver) (w : Warning) (t : Nat) :
    Prop :=
  ∃ root, doc.root? = some root ∧ Happens doc options.importantPolicy (visitor doc ⟨options, resolve⟩)
    (fun style id c => id = t ∧ WarnsAt doc ⟨options, resolve⟩ options.importantPolicy w style id c)
    Style.empty [root] Converter.start

theorem warnings_of_finish (h : finish c = .ok output) : output.warnings = c.warnings := by
  rw [finish] at h
  split at h
  · cases h
  · obtain rfl := Except.ok.inj h
    rfl

/-- The warnings of a result are those of the run. -/
theorem warnings_of_toLatex (h : doc.toLatex options resolve = .ok output) :
    ∃ root c, doc.root? = some root ∧ runFrom doc ⟨options, resolve⟩ root = .ok c ∧
      output.warnings = c.warnings := by
  obtain ⟨root, c, body, hroot, hrun, hfinish, hwarnings, -⟩ := of_toLatex_ok h
  exact ⟨root, c, hroot, hrun, hwarnings.trans (warnings_of_finish hfinish)⟩

/-- Each warning of a result was given on coming to some node. -/
theorem warns_of_mem (h : doc.toLatex options resolve = .ok output) (hw : w ∈ output.warnings) :
    ∃ t, Warns doc options resolve w t := by
  obtain ⟨root, c, hroot, hrun, hwarnings⟩ := warnings_of_toLatex h
  obtain ⟨style, t, ids, c', hreaches, hat⟩ := warning_raised hrun (hwarnings ▸ hw)
  exact ⟨t, root, hroot, style, t, ids, c', hreaches, rfl, hat⟩

/-- What is said of a text that is dropped between the cells of a table. -/
def droppedText : Warning := .ofFault strayText none

theorem Cause.element_isSome {place : Place} {w : Warning}
    (h : Cause doc setting place id e style w) : w.element.isSome := by
  cases h <;> rfl

/-- Only a text is dropped, and only between the cells of a table. -/
theorem stray_of_warnsAt (h : WarnsAt doc setting policy droppedText style id c) :
    ∃ s, doc.text? id = some s ∧ c.preDepth = 0 ∧ c.place = .between ∧ Text.isBlankText s = false := by
  obtain ⟨hpre, ⟨s, hs, -, hplace, hblank⟩ | ⟨e, -, hcause⟩⟩ := h.cause
  · exact ⟨s, hs, hpre, hplace, hblank⟩
  · -- A warning about an element names the element.
    have := hcause.element_isSome
    simp [droppedText, Warning.ofFault] at this

/-- A text that the conversion drops on coming to it is reported by the check. -/
theorem reported_of_warnsAt (hroot : doc.root? = some root)
    (hreaches : Reaches doc policy (visitor doc setting) Style.empty [root] Converter.start style
      (id :: ids) c) (h : WarnsAt doc setting policy droppedText style id c) :
    (doc.text? id).isSome ∧ ∃ d ∈ Check.check doc, d.node = some id ∧
      d.message = "text between table cells is dropped" := by
  obtain ⟨s, hs, hpre, hplace, hblank⟩ := stray_of_warnsAt h
  obtain ⟨path, hleads, hstanding⟩ := Reaches.standing hreaches
  have hflag : Check.between doc path = true := hstanding.between hpre hplace
  refine ⟨by rw [hs]; rfl, ⟨.warning, "text between table cells is dropped", some id, some (Text.trim s),
    none⟩, ?_, rfl, rfl⟩
  refine Check.checkText_mem hroot hs hleads (hstanding.shown hpre) ?_
  rw [Check.checkText, hflag, hblank]
  exact List.mem_singleton_self _

/-- If the conversion drops a text because it stands between the cells of a table, whatever its options and
its images, then the check of the same document reports that text. -/
theorem droppedText_reported (h : Warns doc options resolve droppedText t) :
    (doc.text? t).isSome ∧ ∃ d ∈ Check.check doc, d.node = some t ∧
      d.message = "text between table cells is dropped" := by
  obtain ⟨root, hroot, style, id, ids, c, hreaches, rfl, hwarns⟩ := h
  exact reported_of_warnsAt hroot hreaches hwarns

/-- A text in a row of a table, beside its cell. -/
def textBesideCell : Document :=
  let row := (Document.withRoot "table").push 0 (.element (.ofName "tr" []))
  ((row.push 1 (.text "loose")).push 1 (.element (.ofName "td" []))).push 3 (.text "kept")

theorem droppedText_reported_textBesideCell :
    ∃ t, Warns textBesideCell {} (fun _ => .ok "image.png") droppedText t ∧
      (textBesideCell.text? t).isSome ∧ ∃ d ∈ Check.check textBesideCell, d.node = some t ∧
        d.message = "text between table cells is dropped" := by
  have hdropped : (textBesideCell.toLatex {} (fun _ => .ok "image.png")).toOption.any
      fun output => droppedText ∈ output.warnings := by decide +kernel
  obtain ⟨output, h⟩ := exists_ok (Option.isSome_of_any hdropped)
  have hmem : droppedText ∈ output.warnings := by simpa [h, Except.toOption] using hdropped
  obtain ⟨t, ht⟩ := warns_of_mem h hmem
  exact ⟨t, ht, droppedText_reported ht⟩

end Convert

end MarkupTex
