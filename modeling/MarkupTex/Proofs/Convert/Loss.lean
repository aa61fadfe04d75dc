import MarkupTex.Proofs.Convert.Lasting
import MarkupTex.Proofs.Convert.Place
import MarkupTex.Proofs.Convert.Verbatim
import MarkupTex.Proofs.Document.Moments
/-!
# No text is lost in silence

A conversion that has nothing to warn about shows all the text of its document, `toLatex_shows`: as it is in a
verbatim block, elsewhere with single spaces and escaped.  The text of a caption takes another way than the
rest.  It is kept for the end of the table, or written below a grid of images.

On this way a text can be lost, and `LosesAt` has the places: below an image, a rule or a line break, in a
caption of a table without a float, in a caption that another one of the same table takes the place of, and in
a grid of images outside of its first caption.
-/

set_option autoImplicit false

namespace MarkupTex

open Latex Walk

/-- A path of elements leads down from one node to the other. -/
def Document.Above (doc : Document) (id t : Nat) : Prop :=
  ∃ way, doc.Leads id way t ∧ ∀ x ∈ way.dropLast, doc.text? x = none

namespace Convert

variable {doc : Document} {setting : Setting} {policy : ImportantPolicy} {id t root : Nat} {e : Element}
  {s : String} {style : Style} {c c' c₁ c₂ : Converter} {piece : List Char}

/-! ## The text that is shown -/

/-- What is shown of a text outside of verbatim blocks. -/
def shownText (s : String) : List Char := writtenText (Text.trim (Text.collapse s))

theorem writtenText_isInfix {a b : String} (h : a.toList <:+: b.toList) :
    writtenText a <:+: writtenText b := by
  obtain ⟨front, back, h⟩ := h
  rw [writtenText, writtenText, ← h, List.flatMap_append, List.flatMap_append]
  exact ⟨_, _, rfl⟩

/-- An escape begins and ends with a character that is no blank. -/
theorem sharp_substituted {x : Char} (h : Text.isBlank x = false) :
    Buffer.substituted textSubstitution x ≠ [] ∧
      Text.Sharp Text.isBlank (Buffer.substituted textSubstitution x) := by
  by_cases hspecial : x ∈ ['\\', '^', '~', '<', '>', '\n', '\r'] ++ escapedSymbols
  · have hall : ∀ x ∈ ['\\', '^', '~', '<', '>', '\n', '\r'] ++ escapedSymbols,
        Text.isBlank x = true ∨ Buffer.substituted textSubstitution x ≠ [] ∧
          (Buffer.substituted textSubstitution x).head?.any Text.isBlank = false ∧
          (Buffer.substituted textSubstitution x).getLast?.any Text.isBlank = false := by decide +kernel
    rcases hall x hspecial with hblank | ⟨hne, hhead, hlast⟩
    · rw [h] at hblank
      cases hblank
    · exact ⟨hne, hhead, hlast⟩
  · have hself : Buffer.substituted textSubstitution x = [x] := by
      simp only [escapedSymbols, List.mem_append, List.mem_cons, List.not_mem_nil, or_false,
        not_or] at hspecial
      rw [substituted_text]
      simp [textTokens, hspecial, escapedSymbols, Token.render]
    rw [hself]
    exact ⟨by simp, h, h⟩

theorem sharp_shownText (s : String) : Text.Sharp Text.isBlank (shownText s) := by
  rw [shownText, writtenText, Text.trim, String.toList_ofList]
  exact (Text.sharp_trimList _).flatMap fun _ => sharp_substituted

theorem getLast?_of_sharp (h : Text.Sharp Text.isBlank piece) : piece.getLast? ≠ some ' ' := by
  intro hspace
  have hlast := h.last
  rw [hspace] at hlast
  cases hlast

/-! ## Writing a text -/

/-- A run of text shows what is in it, be it underlined or not. -/
theorem appendRun_shows (s : String) (c : Converter) :
    Ensures (appendRun s) c fun _ c' => writtenText (Text.trim s) <:+: c'.output := by
  have hsharp : (writtenText (Text.trim s)).getLast? ≠ some ' ' := by
    refine getLast?_of_sharp ?_
    rw [writtenText, Text.trim, String.toList_ofList]
    exact (Text.sharp_trimList _).flatMap fun _ => sharp_substituted
  unfold appendRun
  refine Ensures.get_bind ?_
  extract_lets f background underline cs before core finish unboxed inside run
  have hinside : ∀ c, Ensures (inside ()) c fun _ c' => writtenText (Text.trim s) <:+: c'.output := by
    intro c
    have hfinish : Extending (finish ()) := pushEscaped_extending _
    have hunboxed : Extending (unboxed ()) := by
      simp only [unboxed]
      split
      · exact (push_extending _).bind fun _ => hfinish
      · exact hfinish
    refine (pushEscaped_output _ c).bind fun _ c₁ h₁ => ?_
    have hcore : writtenText (Text.trim s) <:+: c₁.output := by
      rw [h₁]
      exact (List.suffix_append _ _).isInfix
    refine Ensures.ite (fun _ => ?_) fun _ => ?_
    · exact ((push_extending _).bind fun _ => hunboxed) c₁ |>.mono fun _ c₂ h₂ =>
        h₂.keepsPiece hsharp hcore
    · exact (hunboxed c₁).mono fun _ c₂ h₂ => h₂.keepsPiece hsharp hcore
  have hrun : ∀ c, Ensures (run ()) c fun _ c' => writtenText (Text.trim s) <:+: c'.output := by
    intro c
    exact Ensures.ite (fun _ => (push_extending _ c).bind fun _ c₁ _ => hinside c₁) fun _ => hinside c
  refine Ensures.ite (fun _ => ?_) fun _ => (pushEscaped_extending _ c).bind fun _ c₁ _ => ?_
  · refine (pushEscaped_output s c).mono fun _ c' h => ?_
    rw [h]
    refine (writtenText_isInfix ?_).trans (List.suffix_append _ _).isInfix
    rw [Text.trim, String.toList_ofList]
    exact Text.trimList_isInfix _
  · clear_value background
    cases background with
    | some hex => exact (push_extending _ c₁).bind fun _ c₂ _ => hrun c₂
    | none => exact hrun c₁

/-- A text outside of tables, or in a cell, is shown. -/
theorem emitText_shows (hcollapse : setting.options.collapseWhitespace = true) (hpre : c.preDepth = 0)
    (hplace : c.place ≠ .between) (s : String) :
    Ensures (emitText setting s) c fun _ c' => shownText s <:+: c'.output := by
  unfold emitText
  refine Ensures.get_bind (Ensures.ite (fun h => ?_) fun _ => Ensures.ite (fun h => ?_) fun _ =>
    Ensures.ite (fun h => ?_) fun _ => ?_)
  · rw [hpre] at h
    cases h
  · exact absurd (Converter.inTableSkeleton_iff.mp h) hplace
  · rw [hcollapse] at h
    cases h
  · extract_lets collapsed text
    -- A blank at the beginning may be left out, but that does not matter for the trimmed text.
    have htext : shownText s = writtenText (Text.trim text) := by
      have htrim : Text.trim text = Text.trim collapsed := by
        simp only [text]
        split
        · rw [Text.trim, Text.trim, Text.trimStart, String.toList_ofList,
            Text.trimList_trimStartList]
        · rfl
      rw [htrim, shownText]
    rw [htext]
    refine Ensures.unless (fun _ => appendRun_shows text c) fun hempty => ?_
    have hnil : text = "" := by simpa using hempty
    rw [hnil]
    exact List.nil_infix

/-- A text between the cells of a table is reported, and any other one outside of verbatim blocks is
shown. -/
theorem visitText_shows (hcollapse : setting.options.collapseWhitespace = true) (hpre : c.preDepth = 0)
    (hblank : Text.isBlankText s = false) :
    Ensures (visitText setting s) c fun _ c' => c'.warnings = [] → shownText s <:+: c'.output := by
  unfold visitText
  refine Ensures.modify_bind ?_
  have hemit : Ensures (emitText setting s) { c with faults := c.faults.clear } fun _ c' =>
      c'.warnings = [] → shownText s <:+: c'.output := by
    by_cases hplace : c.place = .between
    · have hbetween : ({ c with faults := c.faults.clear } : Converter).inTableSkeleton = true :=
        Converter.inTableSkeleton_iff.mpr hplace
      unfold emitText
      refine Ensures.get_bind (Ensures.ite (fun h => ?_) fun _ => Ensures.ite (fun _ => ?_) fun h => ?_)
      · exact absurd hpre (Nat.pos_iff_ne_zero.mp h)
      · refine Ensures.unless (fun _ => Ensures.modifies fun hnone => ?_) fun h => ?_
        · simp at hnone
        · rw [hblank] at h
          cases h
      · exact absurd hbetween h
    · exact (emitText_shows hcollapse (by exact hpre) (by exact hplace) s).mono fun _ _ h _ => h
  exact hemit.bind fun _ _ h => Ensures.pure h

/-- The texts of a caption are in what is written for it. -/
theorem shownText_caption (hs : doc.text? t = some s) {caption : Nat} (habove : doc.Above caption t) :
    shownText s <:+: writtenText (doc.captionText caption) := by
  have hmem : s ∈ doc.textsFrom [caption] :=
    Document.mem_textsFrom hs [caption] ⟨caption, List.mem_singleton_self _, habove⟩
  obtain ⟨before, after, hsplit⟩ := List.append_of_mem hmem
  refine writtenText_isInfix ?_
  rw [Document.captionText, Document.textContent, hsplit, Text.trim, Text.trim, Text.collapse,
    Text.collapse]
  simp only [String.toList_ofList, String.toList_join, List.flatMap_append, List.flatMap_cons]
  rw [← List.append_assoc]
  exact Text.trimList_collapse_isInfix _ _ _

/-- A grid of images is written with the caption of the table. -/
theorem pushImageGrid_shows (hlast : piece.getLast? ≠ some ' ') {caption : String}
    (hcaption : doc.tableCaption? id = some caption) (hin : piece <:+: writtenText caption) :
    Ensures (pushImageGrid doc setting id e) c fun _ c' => piece <:+: c'.output := by
  have hany : ∀ {α : Type} (m : Conversion α) (c : Converter), Ensures m c fun _ _ => True :=
    fun _ _ _ _ _ => trivial
  unfold pushImageGrid
  rw [hcaption]
  refine (hany _ c).bind fun number c _ => (hany _ c).bind fun _ c _ => (hany _ c).bind fun _ c _ => ?_
  refine (hany _ c).bind fun _ c _ => (hany _ c).bind fun _ c _ => ?_
  refine (pushEscaped_output caption c).bind fun _ c₁ h₁ => ?_
  have hwritten : piece <:+: c₁.output := by
    rw [h₁]
    exact hin.trans (List.suffix_append _ _).isInfix
  refine ((pushFloatLabel_extending _ _).bind fun _ => (push_extending _).bind fun _ =>
    paragraphBreak_extending) c₁ |>.mono fun _ c₂ h₂ => h₂.keepsPiece hlast hwritten

/-- So the texts of the first caption are shown below the grid. -/
theorem imageGrid_shows (hs : doc.text? t = some s) {caption : Nat}
    (hfirst : (doc.children id).find? doc.isCaption = some caption) (habove : doc.Above caption t) :
    Ensures (pushImageGrid doc setting id e) c fun _ c' => shownText s <:+: c'.output := by
  have hin := shownText_caption hs habove
  cases hempty : (doc.captionText caption).isEmpty with
  | true =>
    have hnil : doc.captionText caption = "" := by simpa using hempty
    rw [hnil] at hin
    rw [List.infix_nil.mp hin]
    exact fun _ _ _ => List.nil_infix
  | false =>
    refine pushImageGrid_shows (getLast?_of_sharp (sharp_shownText s)) ?_ hin
    rw [Document.tableCaption?, hfirst, Option.bind_some]
    simp [hempty]

/-! ## Where a text is lost -/

/-- On coming to a node, outside of verbatim blocks, the text `s` of the node `t` is lost. -/
inductive LosesAt (doc : Document) (t : Nat) (s : String) (id : Nat) (c : Converter) : Prop where
  /-- What is below an image, a rule or a line break is left out. -/
  | void (flat : c.preDepth = 0)
      (tag : doc.tag? id = some .image ∨ doc.tag? id = some .horizontalRule ∨
        doc.tag? id = some .lineBreak) (above : doc.Above id t)
  /-- A grid of images shows its first caption and nothing else. -/
  | grid (flat : c.preDepth = 0) (tag : doc.tag? id = some .table) (outside : c.table = none)
      (images : doc.isImageOnly id = true) (above : doc.Above id t)
      (other : ∀ caption, (doc.children id).find? doc.isCaption = some caption →
        ¬ doc.Above caption t)
  /-- The caption of a table without a float is not written. -/
  | bare {table : TableState} (flat : c.preDepth = 0) (tag : doc.tag? id = some .caption)
      (inside : c.table = some table) (nested : table.nested = true) (above : doc.Above id t)
  /-- A caption takes the place of the one that has the text. -/
  | replaced {table : TableState} {staged : String} (flat : c.preDepth = 0)
      (tag : doc.tag? id = some .caption) (inside : c.table = some table)
      (float : table.nested = false) (caption : table.caption = some staged)
      (has : shownText s <:+: writtenText staged)
      (gone : ¬ shownText s <:+: writtenText (doc.captionText id))
      (above : ∃ other, doc.tag? other = some .caption ∧ doc.Above other t)

/-- The text of a node is lost on the way. -/
def Loses (doc : Document) (options : Options) (resolve : Image.Resolver) (t : Nat) (s : String) :
    Prop :=
  ∃ root, doc.root? = some root ∧ Happens doc options.importantPolicy (visitor doc ⟨options, resolve⟩)
    (fun _ id c => LosesAt doc t s id c) Style.empty [root] Converter.start

/-- The conversion comes to the node in a verbatim block. -/
def InVerbatim (doc : Document) (options : Options) (resolve : Image.Resolver) (t : Nat) : Prop :=
  ∃ root, doc.root? = some root ∧ Happens doc options.importantPolicy (visitor doc ⟨options, resolve⟩)
    (fun _ id c => id = t ∧ 0 < c.preDepth) Style.empty [root] Converter.start

/-- The text belongs to a caption. -/
def InCaption (doc : Document) (t : Nat) : Prop :=
  ∃ caption, doc.tag? caption = some .caption ∧ doc.Above caption t

/-! ## What a visit keeps -/

/-- What a visit does to the output and to a text that is in it or is to be written, where `p` says whether
the text was lost in between. -/
structure Spares (doc : Document) (t : Nat) (s : String) (p : Prop) (c c' : Converter) : Prop where
  restored : Restored c c'
  goesOn : Extends c c'
  warned : ∃ ws, c'.warnings = c.warnings ++ ws
  holds : InCaption doc t → ¬ p → c'.warnings = [] → Holds (shownText s) c → Holds (shownText s) c'

theorem silent_of_grown {ws : List Warning} (h : c'.warnings = c.warnings ++ ws)
    (hsilent : c'.warnings = []) : c.warnings = [] := by
  rw [hsilent] at h
  exact (List.append_eq_nil_iff.mp h.symm).1

/-- On entering an element the text stays where it is, except that a table may become the current one. -/
theorem Outcome.spares {flow : Flow} (h : Outcome doc setting id e c flow c₁)
    (he : doc.element? id = some e) (hflat : c.preDepth = 0) (hout : Extends c c₁)
    (hcaption : InCaption doc t) (hkept : ¬ LosesAt doc t s id c) (hc : Holds (shownText s) c) :
    Holds (shownText s) c₁ ∨
      e.tag = .table ∧ ∃ f fs, c₁.frames = f :: fs ∧ f.outerTable = some c.table := by
  have hlast := getLast?_of_sharp (sharp_shownText s)
  have htag : ∀ tag, e.tag = tag → doc.tag? id = some tag := fun tag htag =>
    htag ▸ Document.tag?_of_element? he
  cases h with
  | stays table | verbatim _ table | skips table =>
    exact .inl (hc.goes_on hlast hout (.of_eq table))
  | table tag _ _ _ frames outer => exact .inr ⟨tag, _, _, frames, outer⟩
  | row _ inside _ table | cell _ inside _ table =>
    refine .inl (hc.goes_on hlast hout fun t' ht' => ?_)
    rw [inside] at ht'
    cases ht'
    exact ⟨_, table, rfl, rfl⟩
  | staged tag inside table =>
    rcases hc with hin | ⟨t', staged, ht', hfloat, hstaged, hin⟩
    · exact .inl (.inl (hout.keepsPiece hlast hin))
    · refine .inl (.inr ⟨_, _, table, ?_, rfl, ?_⟩)
      · rw [inside] at ht'
        cases ht'
        exact hfloat
      · by_contra hgone
        exact hkept (.replaced hflat (htag _ tag) ht' hfloat hstaged hin hgone hcaption)

theorem spares_tracks (doc : Document) (setting : Setting) (policy : ImportantPolicy) (t : Nat)
    (s : String) : Tracks doc policy (visitor doc setting) (fun _ id c => LosesAt doc t s id c)
      (Spares doc t s) fun _ => True := by
  have hlast := getLast?_of_sharp (sharp_shownText s)
  have hrestores : Tracks doc policy (visitor doc setting) (fun _ _ _ => False)
      (fun _ c c' => Restored c c') Buffer.Refused := restored_conserves.tracks fun hr => hr
  refine ⟨?_, ?_, ?_, ?_⟩
  · exact fun c => ⟨.refl c, .refl c, ⟨[], by simp⟩, fun _ _ _ hc => hc⟩
  · rintro p q c₁ c₂ c₃ h h'
    obtain ⟨ws, hws⟩ := h.warned
    obtain ⟨ws', hws'⟩ := h'.warned
    refine ⟨h.restored.trans h'.restored, h.goesOn.trans h'.goesOn,
      ⟨ws ++ ws', by rw [hws', hws, List.append_assoc]⟩, fun hcaption hkept hsilent hc => ?_⟩
    rw [not_or] at hkept
    exact h'.holds hcaption hkept.2 hsilent
      (h.holds hcaption hkept.1 (silent_of_grown hws' hsilent) hc)
  · intro id s' style c hs'
    have hrestored := hrestores.text id s' style c hs'
    have hcall : (visitor doc setting).text id s' style c = visitText setting s' c := rfl
    rw [hcall] at hrestored ⊢
    cases hv : visitText setting s' c with
    | error fault c' => trivial
    | ok flow c' =>
      rw [hv] at hrestored
      obtain ⟨-, ⟨ts, -, hw⟩⟩ := (visitText_addsRow (o := setting.options) setting s' c).of_ok hv
      have hnotes := (visitText_notes setting s' c flow c' hv).2
      obtain ⟨ws, hws, -⟩ := hnotes.warned
      exact ⟨hrestored.1, hrestored.2, hw.extends, ⟨ws, hws⟩, fun _ _ _ hc =>
        hc.goes_on hlast hw.extends (.of_eq hnotes.table)⟩
  · intro id e style c he
    have hrestored := hrestores.element id e style c he
    have hcall : (visitor doc setting).enter id e (e.styleUnder policy style) c =
        enter doc setting id e (e.styleUnder policy style) c := rfl
    rw [hcall] at hrestored ⊢
    cases hv : enter doc setting id e (e.styleUnder policy style) c with
    | error fault c' => trivial
    | ok flow c₁ =>
      rw [hv] at hrestored
      refine ⟨hrestored.1, fun p c₂ hr => ?_⟩
      have hback := hrestored.2 False c₂ hr.restored
      have hcall : (visitor doc setting).leave id e (e.styleUnder policy style) c₂ = leave e c₂ := rfl
      rw [hcall] at hback ⊢
      cases hl : leave e c₂ with
      | error fault c' => trivial
      | ok _ c₃ =>
        rw [hl] at hback
        obtain ⟨-, blocks, scope, hentered⟩ :=
          (enter_yields doc setting id e (e.styleUnder policy style) c).of_ok hv
        have hin : Extends c c₁ := hentered.extends
        obtain ⟨hquiet, hout⟩ := leave_goesOn e c₂ () c₃ hl
        obtain ⟨ws, hws⟩ := (arrival_warned (by rw [arrival_element he]; exact hv)).2
        obtain ⟨ws', hws'⟩ := hr.warned
        refine ⟨hback, hin.trans (hr.goesOn.trans hout),
          ⟨ws ++ ws', by rw [hquiet, hws', hws, List.append_assoc]⟩, fun hcaption hkept hsilent hc => ?_⟩
        rw [not_or] at hkept
        rw [hquiet] at hsilent
        have hthrough (hc₁ : Holds (shownText s) c₁) : Holds (shownText s) c₃ :=
          leave_keeping hlast e c₂ () c₃ hl (hr.holds hcaption hkept.2 hsilent hc₁)
        rcases Nat.eq_zero_or_pos c.preDepth with hflat | hpos
        · obtain ⟨-, houtcome⟩ := enter_comes hflat flow c₁ hv
          rcases houtcome.spares he hflat hin hcaption hkept.1 hc with hc₁ | ⟨htag, f, fs, hf, houter⟩
          · exact hthrough hc₁
          · -- A table within is put away again, and the table around it is the same as before.
            have htable : c₃.table = c.table :=
              leave_table htag (hr.restored.frames.trans hf) houter () c₃ hl
            exact hc.goes_on hlast (hin.trans (hr.goesOn.trans hout)) (.of_eq htable)
        · have hnotes := (enter_verbatim_notes hpos flow c₁ hv).2
          exact hthrough (hc.goes_on hlast hin (.of_eq hnotes.table))

/-! ## The whole document -/

section Run

variable {options : Options} {resolve : Image.Resolver} {output : Output} {ids path : List Nat}

/-- A piece of the output with no blanks at its ends is in the result. -/
theorem finish_shows (h : finish c = .ok output) (hsharp : Text.Sharp Text.isBlank piece)
    (hin : piece <:+: c.output) : piece <:+: output.content.toList := by
  rw [finish] at h
  split at h
  · cases h
  · obtain rfl := Except.ok.inj h
    rw [Text.trim, String.toList_ofList, Buffer.toList_trimSpaces]
    refine hsharp.infix_trimList (Text.Sharp.infix_dropEndWhile (hsharp.imp fun x hx => ?_) hin)
    rw [of_decide_eq_true hx]
    rfl

/-- What one visit of a run does, whatever the moment. -/
theorem spares_of_visit (t : Nat) (s : String)
    (h : traverse doc policy (visitor doc setting) style [id] c = .ok true c') :
    Spares doc t s (Happens doc policy (visitor doc setting) (fun _ id c => LosesAt doc t s id c) style
      [id] c) c c' := by
  have hends := traverse_ends (spares_tracks doc setting policy t s) [id] style c
    (by simpa using lt_size_of_visited h)
  rw [h] at hends
  exact hends.2

/-- If nothing is lost, then a text that is in the output or is to be written after some visit is in the
output at the end. -/
theorem shown_at_end (hrun : traverse doc policy (visitor doc setting) Style.empty [root]
      Converter.start = .ok true c₂) (hsilent : c₂.warnings = []) (hcaption : InCaption doc t)
    (hkept : ¬ Happens doc policy (visitor doc setting) (fun _ id c => LosesAt doc t s id c)
      Style.empty [root] Converter.start)
    (h : Reaches doc policy (visitor doc setting) Style.empty [root] Converter.start style (id :: ids) c) :
    ∃ c₁, traverse doc policy (visitor doc setting) style [id] c = .ok true c₁ ∧
      ((c₁.warnings = [] → Holds (shownText s) c₁) → shownText s <:+: c₂.output) := by
  have hlast := getLast?_of_sharp (sharp_shownText s)
  obtain ⟨c₁, hvisit, hend⟩ := h.visit_lasts (H := fun c => c.warnings = [] → Holds (shownText s) c)
    (fun {style' x xs c c'} hreaches hv hc hnone => by
      have hspares := spares_of_visit t s hv
      obtain ⟨ws, hws⟩ := hspares.warned
      exact hspares.holds hcaption (fun hlost => hkept (.of_visit hreaches hlost)) hnone
        (hc (silent_of_grown hws hnone)))
    (fun {x e style c c'} hl hc hnone => by
      have hquiet : c'.warnings = c.warnings := (leave_goesOn e c () c' hl).warnings
      exact leave_keeping hlast e c () c' hl (hc (hquiet ▸ hnone))) hrun
  refine ⟨c₁, hvisit, fun hc₁ => (hend hc₁ hsilent).resolve_right ?_⟩
  -- At the end there is no table, and no caption to be written.
  rintro ⟨table, -, htable, -⟩
  have hcore := (visited_restored hrun).table
  rw [htable] at hcore
  cases hcore

/-- The same without captions: what is in the output stays there. -/
theorem written_at_end (hrun : traverse doc policy (visitor doc setting) Style.empty [root]
      Converter.start = .ok true c₂) (hsilent : c₂.warnings = []) (hlast : piece.getLast? ≠ some ' ')
    (h : Reaches doc policy (visitor doc setting) Style.empty [root] Converter.start style (id :: ids) c) :
    ∃ c₁, traverse doc policy (visitor doc setting) style [id] c = .ok true c₁ ∧
      ((c₁.warnings = [] → piece <:+: c₁.output) → piece <:+: c₂.output) := by
  obtain ⟨c₁, hvisit, hend⟩ := h.visit_lasts (H := fun c => c.warnings = [] → piece <:+: c.output)
    (fun {style' x xs c c'} _ hv hc hnone => by
      have hspares := spares_of_visit 0 "" hv
      obtain ⟨ws, hws⟩ := hspares.warned
      exact hspares.goesOn.keepsPiece hlast (hc (silent_of_grown hws hnone)))
    (fun {x e style c c'} hl hc hnone => by
      obtain ⟨hquiet, hout⟩ := leave_goesOn e c () c' hl
      exact hout.keepsPiece hlast (hc (hquiet ▸ hnone))) hrun
  exact ⟨c₁, hvisit, fun hc₁ => hend hc₁ hsilent⟩

/-- The visit of a text is the one call for it. -/
theorem visitText_of_traverse (hs : doc.text? t = some s)
    (h : traverse doc policy (visitor doc setting) style [t] c = .ok true c') :
    ∃ flow, visitText setting s c = .ok flow c' := by
  rw [traverse_text hs] at h
  have hcall : (visitor doc setting).text t s style c = visitText setting s c := rfl
  rw [hcall] at h
  cases hv : visitText setting s c with
  | error fault c₁ => simp [hv, andThen] at h
  | ok flow c₁ =>
    simp only [hv, andThen, traverse_nil] at h
    split at h
    · cases h
    · cases h
      exact ⟨flow, rfl⟩

/-- What becomes of a text below an element that does not go on to its children. -/
theorem skip_shows (hs : doc.text? t = some s) (he : doc.element? id = some e)
    (hshown : e.tag.isSuppressed = false) (habove : doc.Above id t)
    (hkept : ¬ LosesAt doc t s id c) (hflat : c.preDepth = 0)
    (h : Outcome doc setting id e c .skipChildren c₁) :
    c₁.warnings ≠ [] ∨ shownText s <:+: c₁.output ∨
      InCaption doc t ∧ Pending (shownText s) c₁ := by
  have htag : ∀ tag, e.tag = tag → doc.tag? id = some tag := fun tag htag =>
    htag ▸ Document.tag?_of_element? he
  cases h with
  | staged tag inside table =>
    refine .inr (.inr ⟨⟨id, htag _ tag, habove⟩, _, _, table, ?_, rfl, shownText_caption hs habove⟩)
    by_contra hnested
    exact hkept (.bare hflat (htag _ tag) inside (by simpa using hnested) habove)
  | skips _ _ why =>
    cases why with
    | suppressed tag =>
      rw [hshown] at tag
      cases tag
    | void tag => exact absurd (.void hflat (tag.imp (htag _) (.imp (htag _) (htag _))) habove) hkept
    | grid tag outside images written =>
      refine .inr (.inl ?_)
      by_cases hfirst : ∃ caption, (doc.children id).find? doc.isCaption = some caption ∧
          doc.Above caption t
      · obtain ⟨caption, hfirst, hcaption⟩ := hfirst
        exact imageGrid_shows hs hfirst hcaption () c₁ written
      · exact absurd (.grid hflat (htag _ tag) outside images habove fun caption hc ha =>
          hfirst ⟨caption, hc, ha⟩) hkept
    | misplaced _ _ warned => exact .inl warned

/-- An element that skips what is below is left right after it was entered. -/
theorem leave_of_skips (he : doc.element? id = some e)
    (hv : enter doc setting id e (e.styleUnder policy style) c = .ok .skipChildren c₁)
    (h : traverse doc policy (visitor doc setting) style [id] c = .ok true c') :
    leave e c₁ = .ok () c' := by
  obtain ⟨flow, c₃, c₄, c₅, hv', -, hbelow, hl, hrest⟩ := traverse_element_ok he h
  have hcall : (visitor doc setting).enter id e (e.styleUnder policy style) c =
      enter doc setting id e (e.styleUnder policy style) c := rfl
  rw [hcall, hv] at hv'
  cases hv'
  rw [below, if_neg (by decide), traverse_nil] at hbelow
  cases hbelow
  rw [traverse_nil] at hrest
  cases hrest
  exact hl

section Silent

variable (hrun : traverse doc policy (visitor doc setting) Style.empty [root] Converter.start =
    .ok true c₂) (hsilent : c₂.warnings = [])

include hrun hsilent

/-- A text that is visited in a verbatim block is in the output as it is. -/
theorem verbatim_shows (hs : doc.text? t = some s) (hpos : 0 < c.preDepth)
    (h : Reaches doc policy (visitor doc setting) Style.empty [root] Converter.start style (t :: ids) c) :
    Text.trimList (verbatimText s) <:+: c₂.output := by
  have hlast := getLast?_of_sharp (Text.sharp_trimList (verbatimText s))
  obtain ⟨c₁, hvisit, hend⟩ := written_at_end hrun hsilent hlast h
  refine hend fun _ => ?_
  obtain ⟨flow, hv⟩ := visitText_of_traverse hs hvisit
  rw [((visitText_verbatim s hpos).of_ok hv).2.output]
  exact (Text.trimList_isInfix _).trans (List.suffix_append _ _).isInfix

/-- A text that is visited elsewhere is in the output, as otherwise there would be a warning. -/
theorem visited_shows (hs : doc.text? t = some s) (hblank : Text.isBlankText s = false)
    (hcollapse : setting.options.collapseWhitespace = true) (hflat : c.preDepth = 0)
    (h : Reaches doc policy (visitor doc setting) Style.empty [root] Converter.start style (t :: ids) c) :
    shownText s <:+: c₂.output := by
  obtain ⟨c₁, hvisit, hend⟩ :=
    written_at_end hrun hsilent (getLast?_of_sharp (sharp_shownText s)) h
  obtain ⟨flow, hv⟩ := visitText_of_traverse hs hvisit
  exact hend (visitText_shows hcollapse hflat hblank flow c₁ hv)

/-- So is a text below an element that skips what is below, if it is not lost. -/
theorem skipped_shows (hs : doc.text? t = some s) (he : doc.element? id = some e)
    (hshown : e.tag.isSuppressed = false) (habove : doc.Above id t)
    (hkept : ¬ Happens doc policy (visitor doc setting) (fun _ id c => LosesAt doc t s id c)
      Style.empty [root] Converter.start)
    (h : Reaches doc policy (visitor doc setting) Style.empty [root] Converter.start style (id :: ids) c)
    (hv : enter doc setting id e (e.styleUnder policy style) c = .ok .skipChildren c₁) :
    shownText s <:+: c₂.output := by
  have hlast := getLast?_of_sharp (sharp_shownText s)
  have hflat : c.preDepth = 0 := by
    by_contra hpos
    cases (enter_verbatim_notes (Nat.pos_of_ne_zero hpos) _ _ hv).1
  have houtcome := (enter_comes hflat .skipChildren c₁ hv).2
  rcases skip_shows hs he hshown habove (fun hlost => hkept ⟨style, id, ids, c, h, hlost⟩) hflat houtcome
    with hwarned | hin | ⟨hcaption, hpending⟩
  · obtain ⟨c₃, hvisit, hend⟩ := written_at_end hrun hsilent hlast h
    refine hend fun hnone => absurd ?_ hwarned
    have hquiet : c₃.warnings = c₁.warnings := (leave_goesOn e c₁ () c₃ (leave_of_skips he hv hvisit)).warnings
    rw [← hquiet, hnone]
  · obtain ⟨c₃, hvisit, hend⟩ := written_at_end hrun hsilent hlast h
    exact hend fun _ =>
      (leave_goesOn e c₁ () c₃ (leave_of_skips he hv hvisit)).output.keepsPiece hlast hin
  · obtain ⟨c₃, hvisit, hend⟩ := shown_at_end hrun hsilent hcaption hkept h
    exact hend fun _ =>
      leave_keeping hlast e c₁ () c₃ (leave_of_skips he hv hvisit) (.inr hpending)

end Silent

/-- What is in no caption, below no image, rule or line break and in no grid of images goes the way of all
texts. -/
theorem not_loses (hplain : ∀ x tag, doc.Above x t → doc.tag? x = some tag →
      tag ≠ .caption ∧ tag ≠ .image ∧ tag ≠ .horizontalRule ∧ tag ≠ .lineBreak ∧
        (tag = .table → doc.isImageOnly x = false)) : ¬ Loses doc options resolve t s := by
  rintro ⟨root, -, style, x, ids, c, -, hlost⟩
  cases hlost with
  | void _ tag above =>
    rcases tag with tag | tag | tag
    · exact (hplain x _ above tag).2.1 rfl
    · exact (hplain x _ above tag).2.2.1 rfl
    · exact (hplain x _ above tag).2.2.2.1 rfl
  | grid _ tag _ images above =>
    rw [(hplain x _ above tag).2.2.2.2 rfl] at images
    cases images
  | bare _ tag _ _ above => exact (hplain x _ above tag).1 rfl
  | replaced _ _ _ _ _ _ _ above =>
    obtain ⟨other, tag, above⟩ := above
    exact (hplain other _ above tag).1 rfl

/-- Without preformatted elements there are no verbatim blocks. -/
theorem not_inVerbatim (hdoc : NoVerbatim doc) : ¬ InVerbatim doc options resolve t := by
  rintro ⟨root, -, style, id, ids, c, hreaches, rfl, hpos⟩
  obtain ⟨path, -, hstanding⟩ := Reaches.standing hreaches
  obtain ⟨p, -, htag⟩ := hstanding.pre hpos
  obtain ⟨e, he, htag⟩ := Option.map_eq_some_iff.mp htag
  exact hdoc p e he htag

/-- A conversion without a warning shows each text that is not blank and has no element above it that is
withheld, unless the text is lost on the way: in a verbatim block without the blanks at its ends and with the
mark of the end broken, elsewhere with single spaces, trimmed and escaped. -/
theorem toLatex_shows (hpart : options.fullDocument = false)
    (hcollapse : options.collapseWhitespace = true) (h : doc.toLatex options resolve = .ok output)
    (hsilent : output.warnings = []) (hroot : doc.root? = some root)
    (hleads : doc.Leads root (path ++ [t]) t) (hshown : doc.Shown path) (hs : doc.text? t = some s)
    (hblank : Text.isBlankText s = false) (hkept : ¬ Loses doc options resolve t s) :
    (InVerbatim doc options resolve t →
        Text.trimList (verbatimText s) <:+: output.content.toList) ∧
      (¬ InVerbatim doc options resolve t → shownText s <:+: output.content.toList) := by
  obtain ⟨root', c₂, hroot', hrunFrom, hfinish⟩ := finish_of_toLatex hpart h
  rw [hroot] at hroot'
  cases hroot'
  have hrun := traverse_of_runFrom hrunFrom
  have hnone : c₂.warnings = [] := (warnings_of_finish hfinish).symm.trans hsilent
  constructor
  · rintro ⟨root', hroot', style, id, ids, c, hreaches, rfl, hpos⟩
    rw [hroot] at hroot'
    cases hroot'
    exact finish_shows hfinish (Text.sharp_trimList _) (verbatim_shows hrun hnone hs hpos hreaches)
  · intro houtside
    refine finish_shows hfinish (sharp_shownText s) ?_
    have helements : ∀ x ∈ (path ++ [t]).dropLast, ∃ e, doc.element? x = some e := by
      intro x hx
      rw [List.dropLast_concat] at hx
      exact (hshown x hx).imp fun e he => he.1
    rcases comes_or_skips hrun hleads helements with ⟨style, ids, c, hreaches⟩ |
      ⟨id, e, way, style, ids, c, c₁, flow, hreaches, he, hv, hflow, hstop, hway, hid, -, hsub⟩
    · have hflat : c.preDepth = 0 := by
        by_contra hpos
        exact houtside ⟨root, hroot, style, t, ids, c, hreaches, rfl, Nat.pos_of_ne_zero hpos⟩
      exact visited_shows hrun hnone hs hblank hcollapse hflat hreaches
    · -- An element above the text does not go on to what is below.
      rw [List.dropLast_concat] at hid hsub
      obtain ⟨e', he', hnot⟩ := hshown id hid
      rw [he] at he'
      cases he'
      have habove : doc.Above id t := ⟨way, hway, fun x hx => by
        obtain ⟨e', he', -⟩ := hshown x (hsub hx)
        exact Document.text?_of_element? he'⟩
      obtain rfl : flow = .skipChildren := by
        cases flow with
        | descend => exact absurd rfl hflow
        | skipChildren => rfl
        | stop => exact absurd rfl hstop
      exact skipped_shows hrun hnone hs he hnot habove (fun hlost => hkept ⟨root, hroot, hlost⟩)
        hreaches hv

/-- A text in the cell of a table, with a character that is escaped. -/
def ampersandInCell : Document :=
  let row := (Document.withRoot "table").push 0 (.element (.ofName "tr" []))
  (row.push 1 (.element (.ofName "td" []))).push 2 (.text "a & b")

theorem toLatex_shows_ampersandInCell :
    ∃ output, ampersandInCell.toLatex {} (fun _ => .ok "image.png") = .ok output ∧
      output.warnings = [] ∧ ampersandInCell.Leads 0 ([0, 1, 2] ++ [3]) 3 ∧
      ampersandInCell.Shown [0, 1, 2] ∧ ¬ Loses ampersandInCell {} (fun _ => .ok "image.png") 3 "a & b" ∧
      shownText "a & b" <:+: output.content.toList := by
  have hsilent : (ampersandInCell.toLatex {} (fun _ => .ok "image.png")).toOption.any
      fun output => output.warnings = [] := by decide +kernel
  obtain ⟨output, h⟩ := exists_ok (Option.isSome_of_any hsilent)
  have hnone : output.warnings = [] := by simpa [h, Except.toOption] using hsilent
  have hrow : ampersandInCell.Leads 0 ([0] ++ [1]) 1 := .child .start (by decide)
  have hcell : ampersandInCell.Leads 0 ([0, 1] ++ [2]) 2 := hrow.child (by decide)
  have hleads : ampersandInCell.Leads 0 ([0, 1, 2] ++ [3]) 3 := hcell.child (by decide)
  have hshown : ampersandInCell.Shown [0, 1, 2] := by decide +kernel
  have htags : ∀ x < ampersandInCell.size, ∀ tag ∈ ampersandInCell.tag? x,
      tag ≠ .caption ∧ tag ≠ .image ∧ tag ≠ .horizontalRule ∧ tag ≠ .lineBreak ∧
        (tag = .table → ampersandInCell.isImageOnly x = false) := by decide +kernel
  have hkept : ¬ Loses ampersandInCell {} (fun _ => .ok "image.png") 3 "a & b" := by
    refine not_loses fun x tag _ htag => htags x ?_ tag htag
    obtain ⟨e, he, -⟩ := Option.map_eq_some_iff.mp htag
    exact Document.lt_size_of_element? he
  refine ⟨output, h, hnone, hleads, hshown, hkept, ?_⟩
  have hshows := toLatex_shows rfl rfl h hnone rfl hleads hshown rfl rfl hkept
  exact hshows.2 (not_inVerbatim (noVerbatim_iff.mpr (by decide +kernel)))

/-- A table in the cell of a table, with a caption of its own. -/
def captionInCell : Document :=
  let cell := ((Document.withRoot "table").push 0 (.element (.ofName "tr" []))).push 1
    (.element (.ofName "td" []))
  let inner := cell.push 2 (.element (.ofName "table" []))
  let captioned := (inner.push 3 (.element (.ofName "caption" []))).push 4 (.text "Results")
  ((captioned.push 3 (.element (.ofName "tr" []))).push 6 (.element (.ofName "td" []))).push 7
    (.text "x")

/-- The caption of such a table is lost, and nothing is said of it. -/
theorem toLatex_not_shows_captionInCell :
    ¬ ∀ (doc : Document) (options : Options) (resolve : Image.Resolver) (output : Output)
      (root t : Nat) (path : List Nat) (s : String), options.fullDocument = false →
      options.collapseWhitespace = true → doc.toLatex options resolve = .ok output →
      output.warnings = [] → doc.root? = some root → doc.Leads root (path ++ [t]) t →
      doc.Shown path → doc.text? t = some s → Text.isBlankText s = false →
        (InVerbatim doc options resolve t →
            Text.trimList (verbatimText s) <:+: output.content.toList) ∧
          (¬ InVerbatim doc options resolve t → shownText s <:+: output.content.toList) := by
  intro hall
  obtain ⟨output, h, hnone, hgone⟩ : ∃ output, captionInCell.toLatex {} (fun _ => .ok "image.png") = .ok output ∧
      output.warnings = [] ∧ ¬ shownText "Results" <:+: output.content.toList :=
    exists_output (fun ws cs => ws = [] ∧ ¬ shownText "Results" <:+: cs) rfl rfl (by decide +kernel)
  have hrow : captionInCell.Leads 0 ([0] ++ [1]) 1 := .child .start (by decide)
  have hcell : captionInCell.Leads 0 ([0, 1] ++ [2]) 2 := hrow.child (by decide)
  have hinner : captionInCell.Leads 0 ([0, 1, 2] ++ [3]) 3 := hcell.child (by decide)
  have hcaption : captionInCell.Leads 0 ([0, 1, 2, 3] ++ [4]) 4 := hinner.child (by decide)
  have hleads : captionInCell.Leads 0 ([0, 1, 2, 3, 4] ++ [5]) 5 := hcaption.child (by decide)
  have hshown : captionInCell.Shown [0, 1, 2, 3, 4] := by decide +kernel
  refine hgone ((hall captionInCell {} (fun _ => .ok "image.png") output 0 5 [0, 1, 2, 3, 4] "Results"
    rfl rfl h hnone rfl hleads hshown rfl rfl).2 ?_)
  exact not_inVerbatim (noVerbatim_iff.mpr (by decide +kernel))

end Run

end Convert

end MarkupTex
