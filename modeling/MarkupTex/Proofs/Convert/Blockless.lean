import MarkupTex.Proofs.Convert.Added
import MarkupTex.Proofs.Convert.Arguments
import MarkupTex.Proofs.Convert.Tabular
/-!
# Below an element without blocks

`hasBlockContent` asks for tags, and for images whether they stand alone; the handlers go by the tag, the
state, the style and the attributes.  The two agree in the one direction that matters: what is no block in the
document begins no block in any state, no float and no grid (`enter_blockless`).  So below an element without
blocks all that is written goes on in a line, which holds at every moment, also where blocks would be allowed
(`below_blockless`).
-/

set_option autoImplicit false

namespace MarkupTex

open Latex Walk

namespace Walk

variable {σ : Type} {doc : Document} {policy : ImportantPolicy} {v : Visitor σ} {style : Style} {ids : List Nat}
  {s s' : σ}

/-- The end of a traversal is a moment of it. -/
theorem Reaches.at_end (h : traverse doc policy v style ids s = .ok true s') :
    Reaches doc policy v style ids s style [] s' := by
  induction ids generalizing s with
  | nil =>
    rw [traverse_nil] at h
    cases h
    exact .refl _ _ _
  | cons id ids ih =>
    obtain ⟨s₁, hfirst, hrest⟩ := traverse_cons_ok h
    exact .after hfirst (ih hrest)

end Walk

namespace Convert

variable {doc : Document} {setting : Setting} {policy : ImportantPolicy} {id root : Nat} {e : Element}
  {style style' : Style} {ids ids' : List Nat} {flow : Flow} {c c' c₁ : Converter}

/-! ## What is no block -/

/-- Only a table has the tag of one, and only an image can be a block without it. -/
theorem isBlockLevel_of_not_isBlock (he : doc.element? id = some e) (hno : doc.isBlock id = false) :
    e.tag.isBlockLevel = false := by
  rw [Document.isBlock, Document.tag?_of_element? he] at hno
  cases htag : e.tag <;> simp_all [Tag.isBlockLevel]

theorem isBlockImage_of_not_isBlock (he : doc.element? id = some e) (htag : e.tag = .image)
    (hno : doc.isBlock id = false) : doc.isBlockImage id = false := by
  rwa [Document.isBlock, Document.tag?_of_element? he, htag] at hno

theorem tag_ne_table (hlevel : e.tag.isBlockLevel = false) : e.tag ≠ .table := by
  intro htag
  rw [htag] at hlevel
  cases hlevel

theorem makesFigure_of_not_isBlock (he : doc.element? id = some e) (hno : doc.isBlock id = false) :
    makesFigure doc setting id e c = false := by
  have hne := tag_ne_table (isBlockLevel_of_not_isBlock he hno)
  rw [makesFigure]
  cases htag : e.tag with
  | image => simp [becomesFigure, isBlockImage_of_not_isBlock he htag hno]
  | table => exact absurd htag hne
  | _ => simp

/-- Entering what is no block goes on with the line, in every state outside verbatim blocks. -/
theorem enter_blockless (he : doc.element? id = some e) (hno : doc.isBlock id = false)
    (hpre : c.preDepth = 0) (hv : enter doc setting id e style c = .ok flow c₁) :
    ∃ b, Inlines False False (c.opened b) c₁ := by
  have hlevel := isBlockLevel_of_not_isBlock he hno
  have hfloat : beginsFloat doc id e c = false := by simp [beginsFloat, tag_ne_table hlevel]
  refine enter_inlines (makesFigure_of_not_isBlock he hno) hfloat ?_
    (fun _ htag => absurd htag (tag_ne_table hlevel)) flow c₁ hv
  rintro (hpos | hstarts)
  · exact absurd hpre (Nat.pos_iff_ne_zero.mp hpos)
  · simp [startsBlock, hlevel] at hstarts

/-- So does leaving it. -/
theorem leave_blockless (he : doc.element? id = some e) (hno : doc.isBlock id = false) (howes : OwesLine c)
    (hl : leave e c = .ok () c₁) : ContinuesIn False c.output c₁.output := by
  have hne := tag_ne_table (isBlockLevel_of_not_isBlock he hno)
  have hnested : ¬ False → e.tag = .table → ∀ g ∈ c.frames.head?, g.outerTable.isSome →
      ∀ t, c.table = some t → t.nested = true := fun _ htag => absurd htag hne
  have hgrids : ¬ False → e.tag = .table → False := fun _ htag => hne htag
  exact (leave_inlines (fun _ => howes) hnested hgrids () c₁ hl).2.2 not_false

theorem owesLine_opened (c : Converter) (b : Bool) : OwesLine (c.opened b) := by
  rintro _ ⟨⟩ closer hcloser
  cases hcloser

/-! ## Rows of nodes -/

/-- A node that is a block. -/
def MeetsBlock (doc : Document) (_ : Style) (id : Nat) (_ : Converter) : Prop := doc.isBlock id = true

/-- Without blocks the line goes on. -/
def GoesOnInLine (p : Prop) (c c' : Converter) : Prop :=
  ¬ p → c.preDepth = 0 → c.formatting.Tame → ContinuesIn False c.output c'.output

theorem blockless_tracks (doc : Document) (setting : Setting) (policy : ImportantPolicy) :
    Tracks doc policy (visitor doc setting) (MeetsBlock doc)
      (fun p c c' => Restored c c' ∧ GoesOnInLine p c c') Buffer.Refused := by
  refine Tracks.and (restored_conserves.tracks fun hr => hr) ?_ ?_ ?_ ?_
  · exact fun c _ _ _ => .refl _
  · intro p q c₁ c₂ c₃ hr h h' hp hpre htame
    rw [not_or] at hp
    exact (h hp.1 hpre htame).trans
      (h' hp.2 (hr.preDepth.trans hpre) (by rw [hr.formatting]; exact htame))
  · intro id s style flow c c₁ _ hv _ hpre htame
    have hinlines : InlinesFrom False False (visitText setting s) c :=
      visitText_inlines s (fun _ => hpre) fun _ => htame
    exact (hinlines flow c₁ hv).line not_false
  · intro id e style flow p c c₁ c₂ c₃ he hv hr h hl _ hp hpre htame
    rw [not_or] at hp
    have hno : doc.isBlock id = false := Bool.eq_false_iff.mpr hp.1
    obtain ⟨b, hin⟩ := enter_blockless he hno hpre hv
    have hbelow := h hp.2 ((hin.preDepth not_false).trans hpre) (hin.tame htame)
    have howes : OwesLine c₂ := by
      rw [OwesLine, hr.frames]
      exact hin.owes not_false (owesLine_opened c b)
    exact (hin.line not_false).trans (hbelow.trans (leave_blockless he hno howes hl))

/-- There is no block among some nodes and what is below them. -/
def Blockless (doc : Document) (ids : List Nat) : Prop :=
  ∀ top ∈ ids, ∀ path x, doc.Leads top path x → doc.isBlock x = false

theorem Blockless.tail (h : Blockless doc (id :: ids)) : Blockless doc ids :=
  fun top htop => h top (List.mem_cons_of_mem _ htop)

theorem Blockless.head (h : Blockless doc (id :: ids)) : doc.isBlock id = false :=
  h id List.mem_cons_self [id] id .start

theorem Blockless.below (h : Blockless doc (id :: ids)) (flow : Flow) : Blockless doc (below doc id flow) := by
  intro child hchild path x hpath
  have hstep : doc.Leads id ([id] ++ [child]) child :=
    Document.Leads.start.child (mem_children_of_mem_below hchild)
  exact h id List.mem_cons_self _ x (hstep.append hpath)

/-- An element without blocks has none among its children. -/
theorem blockless_children (hno : doc.hasBlockContent id = false) : Blockless doc (doc.children id) := by
  intro child hchild path x hpath
  refine Bool.eq_false_iff.mpr fun hblock => ?_
  have hstep : doc.Leads id ([id] ++ [child]) child := Document.Leads.start.child hchild
  have hne : x ≠ id := by
    have hlt := (Document.lt_of_mem_children hchild).1
    have hle := hpath.le
    omega
  rw [Document.hasBlockContent_of_leads (hstep.append hpath) hne hblock] at hno
  cases hno

theorem Blockless.not_happens (h : Blockless doc ids) (style : Style) (c : Converter) :
    ¬ Happens doc policy (visitor doc setting) (MeetsBlock doc) style ids c := by
  rintro ⟨style', x, xs, c', hreaches, hblock⟩
  obtain ⟨top, htop, way, hway⟩ := hreaches.leads
  rw [MeetsBlock, h top htop _ x hway] at hblock
  cases hblock

/-- At every moment of a row without blocks the line that was there before it goes on. -/
theorem reaches_blockless (h : Reaches doc policy (visitor doc setting) style ids c style' ids' c') :
    Blockless doc ids → c.preDepth = 0 → c.formatting.Tame → ContinuesIn False c.output c'.output := by
  induction h with
  | refl => exact fun _ _ _ => .refl _
  | inside isElement entered _ _ ih =>
    intro hno hpre htame
    obtain ⟨b, hin⟩ := enter_blockless isElement hno.head hpre entered
    exact (hin.line not_false).trans
      (ih (hno.below _) ((hin.preDepth not_false).trans hpre) (hin.tame htame))
  | @after style _ id ids _ c c₁ _ visited _ ih =>
    intro hno hpre htame
    have hends := traverse_ends (blockless_tracks doc setting policy) [id] style c
      (by simpa using lt_size_of_visited visited)
    rw [visited] at hends
    obtain ⟨-, hr, hgoes⟩ := hends
    have hone : Blockless doc [id] := by
      intro top htop
      rw [List.mem_singleton.mp htop]
      exact hno id List.mem_cons_self
    exact (hgoes (hone.not_happens style c) hpre htame).trans
      (ih hno.tail (hr.preDepth.trans hpre) (by rw [hr.formatting]; exact htame))

/-! ## What is written -/

/-- Inline material without a rule, in which no environment begins or ends. -/
def PlainLine (cs : List Char) : Prop :=
  Inline cs ∧ ¬ "\\rule".toList <:+: cs ∧ ¬ '\\' :: beginMark <:+: cs ∧ ¬ '\\' :: endMark <:+: cs

theorem plainLine_spell {ts : List Token} (hts : fitsLine ts) (hnone : noEnvironment ts) :
    PlainLine (spell ts) := by
  have hin : ts.all Token.inLine := by
    simp only [fitsLine, Bool.and_eq_true] at hts
    exact hts.1
  exact ⟨inline_spell hts, not_rule_spell hts, not_environmentMark hin hnone (by decide),
    not_environmentMark hin hnone (by decide)⟩

/-- Spaces may stand in a line. -/
theorem fluent_blanks (n : Nat) : fluent (chars (List.replicate n ' ')) := by
  refine fluent_chars (List.all_eq_true.mpr fun c hc => ?_)
  rw [List.eq_of_mem_replicate hc]
  rfl

theorem fitsLine_of_fluent {ts : List Token} (h : fluent ts) : fitsLine ts := by
  simp only [fluent, Bool.and_eq_true] at h
  exact h.1.1

theorem getLast?_dropSpaces (cs : List Char) : (Text.dropEndWhile (· = ' ') cs).getLast? ≠ some ' ' := by
  intro h
  have hlast := Text.getLast?_dropEndWhile (· = ' ') cs
  simp [h] at hlast

/-- A line end with spaces around it. -/
theorem fitsLine_lineEnd (m n : Nat) :
    fitsLine (chars (List.replicate m ' ') ++ [.char '\n'] ++ chars (List.replicate n ' ')) := by
  have hbehind := fluent_blanks n
  simp only [fluent, Bool.and_eq_true, Bool.not_eq_true'] at hbehind
  refine fitsLine_append (fitsLine_append_of_meet (fitsLine_of_fluent (fluent_blanks m)) rfl fun _ hlast => ?_)
    hbehind.1.1 hbehind.1.2
  rw [spell_chars] at hlast
  exact absurd (List.eq_of_mem_replicate (List.mem_of_getLast? hlast)) (by decide)

/-- Behind what there is, but for spaces at its end, there is nothing but plain material of a line, and it makes
no empty line with what is before it. -/
theorem plainLine_of_continuesIn (h : ContinuesIn False c.output c'.output) :
    ∃ body, c'.output = leftOf c ++ body ∧ PlainLine body ∧
      ((leftOf c).getLast? = some '\n' → body.head? ≠ some '\n') := by
  obtain ⟨n, hn⟩ := Text.exists_spaces c.output
  have hsplit : c.output = leftOf c ++ spell (chars (List.replicate n ' ')) := by
    rw [spell_chars]
    exact hn
  obtain ⟨ts, hout, hts, hnone⟩ := h (leftOf c) _ hsplit (getLast?_dropSpaces c.output)
    (fitsLine_of_fluent (fluent_blanks n))
  refine ⟨spell ts, hout, plainLine_spell hts (hnone not_false (noEnvironment_chars _)), fun hline hfirst => ?_⟩
  -- The row is taken from before the line end on, so that it would hold the empty line.
  obtain ⟨line, hleft⟩ := List.getLast?_eq_some_iff.mp hline
  obtain ⟨rest, hrest⟩ := List.head?_eq_some_iff.mp hfirst
  obtain ⟨m, hm⟩ := Text.exists_spaces line
  have hback : leftOf c = Text.dropEndWhile (· = ' ') line ++ (List.replicate m ' ' ++ ['\n']) := by
    rw [← List.append_assoc, ← hm, hleft]
  have hsplit' : c.output = Text.dropEndWhile (· = ' ') line ++
      spell (chars (List.replicate m ' ') ++ [.char '\n'] ++ chars (List.replicate n ' ')) := by
    rw [spell_append, spell_append, spell_chars, ← List.append_assoc]
    exact hsplit.trans (congrArg (· ++ _) hback)
  obtain ⟨us, hout', hus, -⟩ := h _ _ hsplit' (getLast?_dropSpaces line) (fitsLine_lineEnd m n)
  have hempty : spell us = List.replicate m ' ' ++ ['\n', '\n'] ++ rest := by
    refine List.append_cancel_left (hout'.symm.trans (hout.trans ?_))
    rw [hback, hrest]
    simp
  refine inline_spell hus "\n\n" (by decide) ?_
  rw [hempty]
  exact ⟨_, rest, rfl⟩

/-- What is written below an element without blocks goes on in the line that stands there when the element has
been entered, at every moment until it is left, and whether blocks would be allowed or not. -/
theorem below_blockless (hreach : Reaches doc policy (visitor doc setting) Style.empty [root] Converter.start
      style (id :: ids) c) (he : doc.element? id = some e) (hno : doc.hasBlockContent id = false)
    (hv : enter doc setting id e (e.styleUnder policy style) c = .ok .descend c₁) (hpre : c₁.preDepth = 0)
    (hnow : Reaches doc policy (visitor doc setting) (e.styleUnder policy style).inheritedPart.style
      (doc.children id) c₁ style' ids' c') :
    ∃ body, c'.output = leftOf c₁ ++ body ∧ PlainLine body ∧
      ((leftOf c₁).getLast? = some '\n' → body.head? ≠ some '\n') := by
  have hentered : Reaches doc policy (visitor doc setting) Style.empty [root] Converter.start
      (e.styleUnder policy style).inheritedPart.style (below doc id .descend) c₁ :=
    hreach.trans (.inside he hv (by decide) (.refl _ _ _))
  have htame : c₁.formatting.Tame := (reaches_encloses hentered ⟨fun _ => rfl, .start⟩).2.formatting
  exact plainLine_of_continuesIn (reaches_blockless hnow (blockless_children hno) hpre htame)

/-- A paragraph with a word in bold and a break of the line. -/
def paragraphLines : Document :=
  let bold := (Document.withRoot "p").push 0 (.element (.ofName "b" []))
  ((bold.push 1 (.text "a")).push 0 (.element (.ofName "br" []))).push 0 (.text "b")

/-- More than inline material is allowed in it. -/
theorem below_blockless_paragraphLines : ∃ c₁ c', c₁.inlineOnly = false ∧
    traverse paragraphLines .localWins (visitor paragraphLines ⟨{}, fun _ => .ok "a.png"⟩)
      ((Element.ofName "p" []).styleUnder .localWins Style.empty).inheritedPart.style
      (paragraphLines.children 0) c₁ = .ok true c' ∧
    ∃ body, c'.output = leftOf c₁ ++ body ∧ PlainLine body ∧
      ((leftOf c₁).getLast? = some '\n' → body.head? ≠ some '\n') := by
  obtain ⟨final, hrun⟩ : ∃ final, runFrom paragraphLines ⟨{}, fun _ => .ok "a.png"⟩ 0 = .ok final :=
    exists_ok (by decide +kernel)
  obtain ⟨flow, c₁, c', c₂, hv, -, hbelow, -⟩ :=
    traverse_element_ok (e := .ofName "p" []) rfl (traverse_of_runFrom hrun)
  have hentered : (match enter paragraphLines ⟨{}, fun _ => .ok "a.png"⟩ 0 (.ofName "p" [])
        ((Element.ofName "p" []).styleUnder .localWins Style.empty) Converter.start with
      | .ok flow c => decide (flow = .descend ∧ c.preDepth = 0 ∧ c.inlineOnly = false)
      | .error _ _ => false) = true := by decide +kernel
  have hv' : enter paragraphLines ⟨{}, fun _ => .ok "a.png"⟩ 0 (.ofName "p" [])
      ((Element.ofName "p" []).styleUnder .localWins Style.empty) Converter.start = .ok flow c₁ := hv
  rw [hv', decide_eq_true_eq] at hentered
  obtain ⟨rfl, hpre, hinline⟩ := hentered
  exact ⟨c₁, c', hinline, hbelow, below_blockless (.refl Style.empty [0] Converter.start)
    (e := .ofName "p" []) rfl (by decide +kernel) hv' hpre (Reaches.at_end hbelow)⟩

end Convert

end MarkupTex
