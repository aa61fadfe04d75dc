import MarkupTex.Proofs.Convert.Grids
import MarkupTex.Proofs.Convert.Restoration
import MarkupTex.Proofs.Document.Moments
/-!
# What goes into a grid

A cell takes inline material only, and so does an argument.  What stands between the cells of a table is in
neither of them: a text is left out there, and so are tables and figures, but any other block is written as
it would be anywhere else.  Such a block is a `LooseBlock`.

Without one all that is written from the beginning of a table to its end goes on in one line, whatever tables
there are in the cells, `tabular_inline`.
-/

set_option autoImplicit false

namespace MarkupTex

open Latex Walk

namespace Convert

variable {doc : Document} {setting : Setting} {policy : ImportantPolicy} {id root : Nat} {e : Element}
  {style : Style} {ids : List Nat} {flow : Flow} {c c' c₁ c₂ c₃ final : Converter} {p : Prop}

/-- An element that writes a block between the cells of a table. -/
def LooseBlock (doc : Document) (_ : Style) (id : Nat) (c : Converter) : Prop :=
  c.preDepth = 0 ∧ c.inTableSkeleton ∧ ∃ e, doc.element? id = some e ∧ startsBlock e c

/-- In a table a block is written between the cells only. -/
theorem inTableSkeleton_of_startsBlock (ht : c.table.isSome) (h : startsBlock e c) : c.inTableSkeleton := by
  obtain ⟨t, ht⟩ := Option.isSome_iff_exists.mp ht
  simp only [startsBlock, Converter.inlineOnly, Converter.inCell, ht, Option.any_some, Bool.and_eq_true,
    Bool.not_eq_true', Bool.or_eq_false_iff] at h
  simp [Converter.inTableSkeleton, ht, h.1.1.1.1]

/-- The output goes on, and in a table it goes on with the line, unless there is a loose block. -/
structure Lined (p : Prop) (c c' : Converter) : Prop where
  output : Extends c c'
  line : ¬ p → c.table.isSome → c.preDepth = 0 → c.formatting.Tame → Continues c.output c'.output

/-! ## One element -/

/-- There are no floats in a table. -/
theorem not_float_of_table (ht : c.table.isSome) : isOutermost c = false := isOutermost_eq_false.mpr (.inl ht)

theorem makesFigure_of_table (ht : c.table.isSome) : makesFigure doc setting id e c = false := by
  obtain ⟨t, ht⟩ := Option.isSome_iff_exists.mp ht
  rw [makesFigure]
  cases e.tag <;> simp [becomesFigure, allowsFigure, isOutermost, ht]

theorem beginsFloat_of_table (ht : c.table.isSome) : beginsFloat doc id e c = false := by
  simp [beginsFloat, not_float_of_table ht]

/-- What an element in a table does on entering it. -/
theorem enter_inlines_of_table (hv : enter doc setting id e style c = .ok flow c₁) (ht : c.table.isSome)
    (hpre : c.preDepth = 0) (hblock : startsBlock e c = false) : ∃ b, Inlines False True (c.opened b) c₁ := by
  refine enter_inlines (makesFigure_of_table ht) (beginsFloat_of_table ht) ?_ (fun _ _ => trivial) flow c₁ hv
  rintro (hpos | hstarts)
  · exact absurd hpre (Nat.pos_iff_ne_zero.mp hpos)
  · rw [hblock] at hstarts
    cases hstarts

/-- A table in a table ends without a float. -/
theorem leave_continues (hv : enter doc setting id e style c = .ok flow c₁) (hr : Restored c₁ c₂)
    (ht : c.table.isSome) (howes : OwesLine c₁) (hl : leave e c₂ = .ok () c₃) :
    Continues c₂.output c₃.output := by
  have howes₂ : OwesLine c₂ := by
    rw [OwesLine, hr.frames]
    exact howes
  suffices hnested : ¬ False → e.tag = .table →
      ∀ g ∈ c₂.frames.head?, g.outerTable.isSome → ∀ t, c₂.table = some t → t.nested = true by
    have hgrids : ¬ False → e.tag = .table → True := fun _ _ => trivial
    exact ((leave_inlines (fun _ => howes₂) hnested hgrids () c₃ hl).2.2 not_false).continues
  intro _ htag g hg houter t htable
  have hended : endedTable? e c₂ = some t := by
    have hhead : c₂.frames.head? = some g := hg
    simp [endedTable?, htag, hhead, houter, htable]
  obtain ⟨-, hcore, -⟩ := ended_spec hv hr hended
  have hnested : t.nested = !isOutermost c := congrArg TableState.nested hcore
  rw [hnested, not_float_of_table ht]
  rfl

theorem lined_tracks (doc : Document) (setting : Setting) (policy : ImportantPolicy) :
    Tracks doc policy (visitor doc setting) (LooseBlock doc) (fun p c c' => Restored c c' ∧ Lined p c c')
      Buffer.Refused := by
  refine Tracks.and (restored_conserves.tracks fun hr => hr) ?_ ?_ ?_ ?_
  · exact fun c => ⟨.refl c, fun _ _ _ _ => .refl _⟩
  · intro p q c₁ c₂ c₃ hr h h'
    refine ⟨h.output.trans h'.output, fun hp ht hpre htame => ?_⟩
    rw [not_or] at hp
    have ht₂ : c₂.table.isSome := by
      rw [← Option.isSome_map (f := TableState.core), hr.table, Option.isSome_map, ht]
    exact (h.line hp.1 ht hpre htame).trans
      (h'.line hp.2 ht₂ (hr.preDepth.trans hpre) (by rw [hr.formatting]; exact htame))
  · intro id s style flow c c₁ _ hv
    obtain ⟨-, _, -, hw⟩ := (visitText_addsRow (o := setting.options) setting s c).of_ok hv
    refine ⟨hw.extends, fun _ _ hpre htame => ?_⟩
    have hinlines : InlinesFrom False True (visitText setting s) c :=
      visitText_inlines s (fun _ => hpre) fun _ => htame
    exact ((hinlines flow c₁ hv).line not_false).continues
  · intro id e style flow p c c₁ c₂ c₃ he hv hr h hl _
    obtain ⟨-, b, scope, hentered⟩ :=
      (enter_yields doc setting id e (e.styleUnder policy style) c).of_ok hv
    have hleft : Extends c₂ c₃ := (leave_goesOn e c₂ () c₃ hl).output
    refine ⟨hentered.extends.trans (h.output.trans hleft), fun hp ht hpre htame => ?_⟩
    rw [not_or] at hp
    have hblock : startsBlock e c = false := Bool.eq_false_iff.mpr fun hstarts =>
      hp.1 ⟨hpre, inTableSkeleton_of_startsBlock ht hstarts, e, he, hstarts⟩
    obtain ⟨b, hin⟩ := enter_inlines_of_table hv ht hpre hblock
    obtain ⟨f, howed⟩ := hentered.owed
    -- The frame of the element owes nothing when it is put on.
    have hopened : OwesLine (c.opened b) := by
      rintro _ ⟨⟩ closer hcloser
      cases hcloser
    have hbelow := h.line hp.2 (howed.table_isSome ht) ((hin.preDepth not_false).trans hpre)
      (hin.tame htame)
    exact (hin.line not_false).continues.trans
      (hbelow.trans (leave_continues hv hr ht (hin.owes not_false hopened) hl))

/-! ## A whole table -/

/-- What traversals do to the output. -/
theorem lined_of_traverse (h : traverse doc policy (visitor doc setting) style ids c = .ok true c')
    (hin : ∀ x ∈ ids, x < doc.size) :
    Restored c c' ∧
      Lined (Happens doc policy (visitor doc setting) (LooseBlock doc) style ids c) c c' := by
  have hends := traverse_ends (lined_tracks doc setting policy) ids style c hin
  rw [h] at hends
  exact hends.2

/-- What is written in a visit stays where it is up to the end of the run. -/
theorem visit_extends (hrun : traverse doc policy (visitor doc setting) Style.empty [root]
      Converter.start = .ok true final)
    (hcomes : Reaches doc policy (visitor doc setting) Style.empty [root] Converter.start style (id :: ids) c) :
    ∃ c', traverse doc policy (visitor doc setting) style [id] c = .ok true c' ∧ Extends c' final := by
  obtain ⟨c', hvisit⟩ := hcomes.visit_ends hrun
  refine ⟨c', hvisit, ?_⟩
  obtain ⟨c₁, hvisit₁, hlast⟩ := hcomes.visit_lasts (H := Extends c')
    (fun {_ x _ _ _} _ hv hout =>
      hout.trans (lined_of_traverse hv (by simpa using lt_size_of_visited hv)).2.output)
    (fun hl hout => hout.trans (leave_goesOn _ _ _ _ hl).output) hrun
  rw [hvisit] at hvisit₁
  cases hvisit₁
  exact hlast (.refl c')

/-- How the columns are set may stand in a line, and so may the line above the grid. -/
theorem line_gridColumns (doc : Document) (options : Options) (id : Nat) :
    Line (gridColumns doc options id) := by
  have hspec : ∀ columns : String, columns.toList.all isPlain →
      Line (braced columns ++ "\n").toList := by
    intro columns hplain
    have hrow : (braced columns ++ "\n").toList =
        spell ([.opening] ++ (chars columns.toList ++ [.closing, .char '\n'])) := by
      simp [braced, Token.render]
    have hfluent : fluent ([.opening] ++ (chars columns.toList ++ [.closing, .char '\n'])) :=
      fluent_append rfl (fluent_append (fluent_chars hplain) rfl)
    simp only [fluent, Bool.and_eq_true] at hfluent
    exact ⟨_, hfluent.1.1, hrow⟩
  have hcolumns := hspec _ (columnSpec_plain (doc.columnCount id) options.tableBorders)
  unfold gridColumns
  split
  · have hline : spell [.word "hline", .char '\n'] = "\\hline\n".toList := by decide
    rw [← hline]
    exact hcolumns.append rfl fun hfirst => by cases hfirst
  · rwa [List.append_nil]

theorem gridColumns_getLast? (doc : Document) (options : Options) (id : Nat) (cs : List Char) :
    (cs ++ gridColumns doc options id).getLast? ≠ some ' ' := by
  unfold gridColumns
  cases options.tableBorders with
  | false => simp [List.getLast?_append]
  | true => simp [List.getLast?_append]

/-- In a run, what is written from the beginning of a table to its end is inline material, with no rule in it,
unless there is a block between the cells of this table or of one below it. -/
theorem tabular_inline (hrun : runFrom doc setting root = .ok final)
    (hcomes : Reaches doc setting.options.importantPolicy (visitor doc setting) Style.empty [root]
      Converter.start style (id :: ids) c)
    (he : doc.element? id = some e) (hbegins : startsTable doc id e c) :
    ∃ c₁ c' front body t,
      enter doc setting id e (e.styleUnder setting.options.importantPolicy style) c = .ok .descend c₁ ∧
      c₁.output = front ++ gridBegin ++ gridColumns doc setting.options id ∧
      traverse doc setting.options.importantPolicy (visitor doc setting) style [id] c = .ok true c' ∧
      c'.output = front ++ gridBegin ++ body ++ tableEnding t ∧
      t.core = (newTable doc id e c).core ∧
      front ++ gridBegin ++ body ++ gridEnd <+: final.output ∧
      (¬ Happens doc setting.options.importantPolicy (visitor doc setting) (LooseBlock doc) style [id] c →
        Inline body ∧ ¬ "\\rule".toList <:+: body) := by
  obtain ⟨c', hvisit, hlast⟩ := visit_extends (traverse_of_runFrom hrun) hcomes
  obtain ⟨flow, c₁, c₂, c₃, hv, hflow, hb, hl, hnil⟩ := traverse_element_ok he hvisit
  rw [traverse_nil] at hnil
  cases hnil
  obtain ⟨rfl, b, hbegun⟩ := enter_begins hbegins flow c₁ hv
  obtain ⟨front, buffer, -, hstart, hc₁⟩ := hbegun
  have hout : c₁.output = front.text.toList ++ gridBegin ++ gridColumns doc setting.options id := by
    rw [hc₁]
    exact hstart
  have htable : c₁.table.isSome := by
    rw [hc₁]
    rfl
  have htame : c₁.formatting.Tame := by
    rw [hc₁]
    rintro hex ⟨⟩
  have hpre : c₁.preDepth = 0 := by
    simp only [startsTable, Bool.and_eq_true, decide_eq_true_eq] at hbegins
    rw [hc₁]
    exact hbegins.1.1.1
  obtain ⟨hr, hlined⟩ := lined_of_traverse hb fun x hx => lt_size_of_mem_below hx
  obtain ⟨t, ht⟩ := ended_of_begun hbegins hv hr
  obtain ⟨-, hcore, hends⟩ := ended_spec hv hr ht
  obtain ⟨lines, hline, hend⟩ := hends () c' hl
  -- The beginning of the grid stays where it is, and the rest of it comes behind.
  have hprolongs : Prolongs c₁.output lines := Prolongs.trans hlined.output hline.prolongs
  obtain ⟨more, hmore⟩ := hprolongs _ List.prefix_rfl (by rw [hout]; exact gridColumns_getLast? _ _ _ _)
  have hlines : lines = front.text.toList ++ gridBegin ++
      (gridColumns doc setting.options id ++ more) := by
    rw [← hmore, hout, List.append_assoc _ (gridColumns doc setting.options id)]
  refine ⟨c₁, c', front.text.toList, gridColumns doc setting.options id ++ more, t, hv, hout, hvisit,
    hlines ▸ hend, hcore, ?_, fun hloose => ?_⟩
  · have hin : lines ++ gridEnd <+: c'.output := by
      rw [hend]
      exact ⟨_, List.append_assoc _ _ _⟩
    rw [← hlines]
    refine hlast _ hin ?_
    have hbrace : gridEnd.getLast? = some '\x7d' := by decide
    rw [List.getLast?_append, hbrace, Option.some_or]
    decide
  · have hnone : ¬ Happens doc setting.options.importantPolicy (visitor doc setting) (LooseBlock doc)
        (e.styleUnder setting.options.importantPolicy style).inheritedPart.style (below doc id .descend) c₁ := by
      rintro ⟨style', x, xs, c₀, hreaches, hx⟩
      exact hloose ⟨style', x, xs, c₀, .inside he hv hflow hreaches, hx⟩
    have hgoes : Continues c₁.output lines :=
      (hlined.line hnone htable hpre htame).trans hline.continues
    have hbrace : gridBegin.getLast? = some '\x7d' := by decide
    have hfront : (front.text.toList ++ gridBegin).getLast? ≠ some ' ' := by
      rw [List.getLast?_append, hbrace, Option.some_or]
      decide
    obtain ⟨body, hbody, hinline⟩ := hgoes _ _ hout hfront (line_gridColumns doc setting.options id)
    obtain rfl := List.append_cancel_left (hbody.symm.trans hlines)
    exact ⟨hinline.inline, hinline.not_rule⟩

/-- A table in the cell of another one. -/
def tableInCell : Document :=
  let element (doc : Document) (parent : Nat) (name : String) :=
    doc.push parent (.element (.ofName name []))
  (element (element (element (element (element (.withRoot "table") 0 "tr") 1 "td") 2 "table") 3 "tr") 4
    "td").push 5 (.text "a")

/-- There is no block in it besides the tables. -/
theorem startsBlock_tableInCell (he : tableInCell.element? id = some e) : startsBlock e c = false := by
  have hall : ∀ id < 7, (tableInCell.element? id).all fun e =>
      !e.tag.isBlockLevel || e.tag = .table := by decide +kernel
  have hkind := hall id (Document.lt_size_of_element? he)
  rw [he, Option.all_some, Bool.or_eq_true, Bool.not_eq_true', decide_eq_true_eq] at hkind
  rcases hkind with hlevel | htag
  · simp [startsBlock, hlevel]
  · simp [startsBlock, htag]

theorem tabular_inline_tableInCell : ∃ final front body,
    runFrom tableInCell ⟨{}, fun _ => .ok "a.png"⟩ 0 = .ok final ∧
      front ++ gridBegin ++ body ++ gridEnd <+: final.output ∧ Inline body ∧
      ¬ "\\rule".toList <:+: body := by
  obtain ⟨final, hrun⟩ : ∃ final, runFrom tableInCell ⟨{}, fun _ => .ok "a.png"⟩ 0 = .ok final :=
    exists_ok (by decide +kernel)
  obtain ⟨c₁, c', front, body, t, -, -, -, -, -, hprefix, hinline⟩ :=
    tabular_inline hrun (.refl Style.empty [0] Converter.start) (e := .ofName "table" []) rfl
      (by decide +kernel)
  refine ⟨final, front, body, hrun, hprefix, hinline ?_⟩
  rintro ⟨style, id, ids, c, -, -, -, e, he, hstarts⟩
  rw [startsBlock_tableInCell he] at hstarts
  cases hstarts

/-- A rule between the rows of a table. -/
def ruleBetweenRows : Document :=
  let element (doc : Document) (parent : Nat) (name : String) :=
    doc.push parent (.element (.ofName name []))
  element ((element (element (.withRoot "table") 0 "tr") 1 "td").push 2 (.text "a")) 0 "hr"

/-- It is written in the grid. -/
theorem tabular_ruleBetweenRows : ∃ final front body t,
    runFrom ruleBetweenRows ⟨{}, fun _ => .ok "a.png"⟩ 0 = .ok final ∧
      startsTable ruleBetweenRows 0 (.ofName "table" []) Converter.start ∧
      t.core = (newTable ruleBetweenRows 0 (.ofName "table" []) Converter.start).core ∧
      final.output = front ++ gridBegin ++ body ++ tableEnding t ∧
      ¬ gridBegin <:+: body ∧ ¬ gridEnd <:+: body ∧ "\\rule".toList <:+: body := by
  have hrun : (match runFrom ruleBetweenRows ⟨{}, fun _ => .ok "a.png"⟩ 0 with
    | .ok c => decide (c.output = "\\begin\x7btable\x7d[h]\n\\centering\n".toList ++ gridBegin ++
        ("\x7b|l|\x7d\n\\hline\na \\\\ \\hline\n" ++
          "\\par\\noindent\\rule\x7b\\textwidth\x7d\x7b0.4pt\x7d\\par\n").toList ++
        tableEnding (newTable ruleBetweenRows 0 (.ofName "table" []) Converter.start))
    | .error _ => false) = true := by decide +kernel
  split at hrun
  · next final h =>
    exact ⟨final, _, _, _, h, by decide +kernel, rfl, of_decide_eq_true hrun, by decide +kernel,
      by decide +kernel, by decide +kernel⟩
  · cases hrun

end Convert

end MarkupTex
