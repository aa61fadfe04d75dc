import MarkupTex.Proofs.Convert.Inline
/-!
# Images and figures

A figure opens an environment and closes it again, with notes and warnings in between.  Since those
leave the output alone, the whole of it counts as one row that is written.
-/

set_option autoImplicit false

namespace MarkupTex.Convert

open Latex Token

variable {o : Options} {c c₁ c₂ c' : Converter} {e : Element} {style : Style} {ts us : List Token}

theorem countImage_wrote :
    Yields (modify fun c : Converter => { c with images := c.images + 1 }) c
      fun _ c' => Wrote [] c c' :=
  Yields.modifies ⟨c.buffer, c.figures, _, c.warnings, c.faults, rfl, by simp [Converter.output]⟩

theorem Wrote.flat (h : Wrote ts c c') (hflat : Flat c) : Flat c' := h.keeps.argumentDepth.trans hflat

theorem Wrote.opens (h : Wrote ts c c') (hpiece : Piece o c ts) (head : letterFirst ts = false) :
    Opens o [] c c' := .of_edit (.write h hpiece head)

/-- A row that may stand in any line, whatever is before. -/
structure Phrase (ts : List Token) : Prop where
  fluent : fluent ts
  neutral : ∀ stack, nest stack ts = some stack
  head : letterFirst ts = false

namespace Phrase

theorem nil : Phrase [] := ⟨rfl, fun _ => rfl, rfl⟩

theorem append (h : Phrase ts) (h' : Phrase us) : Phrase (ts ++ us) := by
  refine ⟨fluent_append h.fluent h'.fluent, fun stack => ?_, ?_⟩
  · rw [nest_append, h.neutral, Option.bind_some, h'.neutral]
  · cases ts with
    | nil => exact h'.head
    | cons t ts => exact h.head

end Phrase

/-- The action does nothing but write a phrase, with notes on the way. -/
def Emits (m : Conversion Unit) : Prop :=
  ∀ c, Yields m c fun _ c' => ∃ ts, Phrase ts ∧ Wrote ts c c'

namespace Emits

variable {m : Conversion Unit} {next : Unit → Conversion Unit}

theorem bind (h : Emits m) (hnext : ∀ u, Emits (next u)) : Emits (m >>= next) := fun c =>
  (h c).bind fun u c' ⟨_, hts, ha⟩ => (hnext u c').mono fun _ _ ⟨_, hus, ha'⟩ =>
    ⟨_, hts.append hus, ha.trans ha'⟩

theorem ite {p : Prop} [Decidable p] {m' : Conversion Unit} (h : Emits m) (h' : Emits m') :
    Emits (if p then m else m') := fun c => Yields.ite (fun _ => h c) fun _ => h' c

theorem of_wrote (hts : Phrase ts) (h : ∀ c, Yields m c fun _ c' => Wrote ts c c') : Emits m :=
  fun c => (h c).mono fun _ _ ha => ⟨ts, hts, ha⟩

theorem done : Emits (pure ()) := fun _ => Yields.pure ⟨[], .nil, .nil⟩

theorem push {s : String} (ts : List Token) (hs : s.toList = spell ts) (hts : Phrase ts) : Emits (push s) :=
  .of_wrote hts fun _ => push_yields _ hs

theorem warn (fault : Fault) (element : Option String) : Emits (warn fault element) :=
  .of_wrote .nil fun _ => warn_wrote fault element

theorem opens (h : Emits m) (c : Converter) : Yields m c fun _ c' => Opens o [] c c' :=
  (h c).mono fun _ _ ⟨_, hts, ha⟩ => ha.opens (.of_fluent hts.neutral hts.fluent) hts.head

end Emits

/-! ## Images in a line -/

theorem imageLength_opens (name : String) :
    Yields (imageLength e style name) c fun _ c' => Opens o [] c c' := by
  unfold imageLength
  split
  · exact Yields.pure (.refl c)
  · split
    · exact Yields.pure (.refl c)
    · exact (warn_opens _ _).bind fun _ _ h => Yields.pure h

/-- The command that includes an image, with options unless there are none. -/
def imageRow (plain : Bool) (options : List Token) (path : String) : List Token :=
  [word "includegraphics"] ++ match plain with
    | true => [opening] ++ (path.toList.flatMap pathTokens ++ [closing])
    | false =>
      [char '['] ++ (options ++ ([char ']'] ++
        ([opening] ++ (path.toList.flatMap pathTokens ++ [closing]))))

theorem phrase_imageRow {ots : List Token} (hots : ∀ stack, nest stack ots = some stack)
    (hfluent : fluent (ots ++ [char ']'])) (plain : Bool) (path : String) :
    Phrase (imageRow plain ots path) := by
  have hpath : fluent (path.toList.flatMap pathTokens ++ [closing]) :=
    fluent_append (fluent_path path) rfl
  refine ⟨?_, fun stack => ?_, rfl⟩
  · cases plain with
    | true => exact fluent_append (a := [word "includegraphics", opening]) rfl hpath
    | false =>
      have hend : fluent ([opening] ++ (path.toList.flatMap pathTokens ++ [closing])) :=
        fluent_append rfl hpath
      have hoptions := fluent_append hfluent hend
      rw [List.append_assoc] at hoptions
      exact fluent_append (a := [word "includegraphics", char '[']) rfl hoptions
  · cases plain <;> simp [imageRow, nest_append, nest, turn, nest_path, hots, close]

theorem includeImage_wrote {options path : String} {ots : List Token}
    (hs : options.toList = spell ots) :
    Yields (includeImage path options) c fun _ c' =>
      Wrote (imageRow options.isEmpty ots path) c c' := by
  unfold includeImage
  refine wrote_bind (push_yields _ rfl) fun c₁ => ?_
  extract_lets target
  have htarget : ∀ c', Yields (target ()) c' fun _ c'' =>
      Wrote ([opening] ++ (path.toList.flatMap pathTokens ++ [closing])) c' c'' := fun c' =>
    wrote_bind (push_yields _ rfl) fun _ => wrote_bind (pushPath_yields path)
      fun _ => push_yields _ rfl
  cases options.isEmpty with
  | true => exact htarget c₁
  | false =>
    exact wrote_bind (push_yields _ rfl) fun _ => wrote_bind (push_yields _ hs) fun _ =>
      wrote_bind (push_yields _ rfl) htarget

theorem includeImage_emits {options : String} (path : String) (h : Spells options [char ']']) :
    Emits (includeImage path options) := by
  obtain ⟨ots, hs, hfluent, -, hneutral⟩ := h
  exact .of_wrote (phrase_imageRow hneutral hfluent options.isEmpty path) fun _ =>
    includeImage_wrote hs

/-! ## Figures -/

/-- A row of characters and escapes, which leaves nothing open. -/
structure Words (ts : List Token) : Prop where
  fluent : fluent ts
  neutral : ∀ stack, nest stack ts = some stack

theorem words_text (s : String) : Words (s.toList.flatMap textTokens) := ⟨fluent_text s, nest_text s⟩

theorem words_path (s : String) : Words (s.toList.flatMap pathTokens) := ⟨fluent_path s, nest_path s⟩

theorem words_chars {cs : List Char} (h : cs.all isPlain) : Words (chars cs) :=
  ⟨fluent_chars h, fun stack => nest_chars stack cs⟩

/-- The end of a float behind its caption: a label, and the end of the environment. -/
def floatEnd (name : String) (label : List Token) : List Token :=
  [closing, char '\n', word "label", opening] ++ (label ++ [closing, char '\n', endEnv name])

theorem nest_floatEnd (name : String) {label : List Token} (h : Words label) (stack : List Bracket) :
    nest (.brace :: .environment name.toList :: stack) (floatEnd name label) = some stack := by
  simp [floatEnd, nest_append, nest, turn, close, h.neutral]

theorem sound_floatEnd {places name : String} {label : List Token} (h : Words label)
    (hname : sound places [closing, char '\n', endEnv name]) : sound places (floatEnd name label) :=
  sound_append rfl (sound_append (sound_of_fluent places h.fluent) hname)

theorem pushFloatLabel_wrote (id : Option String) {fallback : String}
    (h : fallback.toList.all isPlain) :
    ∃ label, Words label ∧ ∀ c, Yields (pushFloatLabel id fallback) c fun _ c' =>
      Wrote ([closing, char '\n', word "label", opening] ++ label) c c' := by
  cases id with
  | none =>
    exact ⟨_, words_chars h, fun c => wrote_bind (push_yields _ rfl) fun _ => push_yields _ (by simp)⟩
  | some id =>
    exact ⟨_, words_path id, fun c => wrote_bind (push_yields _ rfl) fun _ =>
      pushPath_yields id⟩

/-- What follows the caption of a float, with a paragraph break behind it. -/
theorem floatEnd_yields {name fallback : String} (id : Option String)
    (hfallback : fallback.toList.all isPlain) (hflat : Flat c) :
    Yields (do
        pushFloatLabel id fallback
        push ("\x7d\n" ++ endEnvironment name)
        paragraphBreak) c fun _ c' =>
      ∃ c₁ label, Words label ∧ Wrote (floatEnd name label) c c₁ ∧ Opens o [] c₁ c' := by
  obtain ⟨label, hlabel, hwrote⟩ := pushFloatLabel_wrote id hfallback
  refine (hwrote c).bind fun _ c₁ h₁ => ?_
  refine (push_yields [closing, char '\n', endEnv name] ?_).bind fun _ c₂ h₂ => ?_
  · simp [endEnvironment, braced, render, endMark]
  · have hrow : Wrote (floatEnd name label) c c₂ := (h₁.trans h₂).congr (by simp [floatEnd])
    exact (paragraphBreak_opens (hrow.flat hflat)).mono fun _ _ ho => ⟨c₂, label, hlabel, hrow, ho⟩

theorem figureName_plain (n : Nat) : (figureName n).toList.all isPlain := by
  have hn := all_isPlain_nat n
  have hname : "figure_".toList.all isPlain := by decide
  rw [figureName, String.toList_append, List.all_append, hname, hn]
  rfl

/-- The beginning of a figure. -/
def figureStart (places : String) : List Token :=
  [beginEnv "figure", placement places, char '\n', word "centering", char '\n']

theorem sound_figureStart (places : String) : sound places (figureStart places) := by
  have hplacement : known places (placement places) = true := by simp [known]
  have hguarded : guarded (figureStart places) = true := rfl
  rw [sound, hguarded, Bool.and_true]
  simp only [figureStart, List.all_cons, hplacement]
  rfl

theorem beginFigure_spell (setting : Setting) :
    (beginFigure setting).toList = spell (figureStart setting.options.figurePlacement) := by
  simp [beginFigure, figureStart, beginEnvironment, braced, render, beginMark]

theorem nextFigure_opens : Yields nextFigure c fun _ c' => Opens o [] c c' := by
  have hnote := Edit.note (o := o) (c := c) c.tables (c.figures + 1) c.images c.blockContent
    c.warnings c.faults c.reported
  exact Yields.modify_bind (Yields.pure (.of_edit hnote))

/-- A figure that is written up to its caption is ended, whatever is in it. -/
theorem figureEnd_opens {setting : Setting} {content : List Token} (id : Option String) (number : Nat)
    (hflat : Flat c) (hrow : Wrote (figureStart setting.options.figurePlacement ++ content) c c₁)
    (hopen : ∀ stack, nest stack content = some (.brace :: stack))
    (hsound : sound setting.options.figurePlacement content) :
    Yields (do
        pushFloatLabel id (figureName number)
        push ("\x7d\n" ++ endEnvironment "figure")
        paragraphBreak) c₁ fun _ c' => Opens setting.options [] c c' := by
  refine (floatEnd_yields (o := setting.options) id (figureName_plain number) (hrow.flat hflat)).mono ?_
  rintro _ c₃ ⟨c₂, label, hlabel, hend, hbreak⟩
  refine Opens.trans ((hrow.trans hend).opens (.of_sound hflat (fun stack => ?_) ?_) rfl) hbreak
  · have hclose := nest_floatEnd "figure" hlabel stack
    simp only [figureStart, List.nil_append, nest_append, nest, turn, hopen, Option.bind_some, hclose]
  · exact sound_append (sound_append (sound_figureStart _) hsound) (sound_floatEnd hlabel rfl)

theorem pushFigure_opens {setting : Setting} {path options caption : String}
    (h : Spells options [char ']']) (hflat : Flat c) :
    Yields (pushFigure setting e path options caption) c
      fun _ c' => Opens setting.options [] c c' := by
  obtain ⟨ots, hs, hfluent, -, hneutral⟩ := h
  have himage := phrase_imageRow hneutral hfluent options.isEmpty path
  unfold pushFigure
  refine nextFigure_opens.edits fun number c₁ h₁ => ?_
  refine (paragraphBreak_opens (h₁.flat hflat)).edits fun _ c₂ h₂ => ?_
  have hflat₂ : Flat c₂ := h₂.flat (h₁.flat hflat)
  refine (push_yields _ (beginFigure_spell setting)).bind fun _ c₃ h₃ => ?_
  refine (includeImage_wrote hs).bind fun _ c₄ h₄ => ?_
  refine (push_yields [char '\n', word "caption", opening] rfl).bind fun _ c₅ h₅ => ?_
  refine (pushEscaped_yields caption).bind fun _ c₆ h₆ => ?_
  refine figureEnd_opens _ number hflat₂ (h₃.trans (h₄.trans (h₅.trans h₆))) (fun stack => ?_) ?_
  · simp only [nest_append, nest, turn, himage.neutral, nest_text, Option.bind_some]
  · have hcaption := sound_of_fluent setting.options.figurePlacement (fluent_text caption)
    exact sound_append (sound_of_fluent _ himage.fluent)
      (sound_append (a := [char '\n', word "caption", opening]) rfl hcaption)

theorem flat_of_allowsFigure (h : allowsFigure c) : Flat c := by
  simp only [allowsFigure, Bool.and_eq_true, decide_eq_true_eq] at h
  exact h.1.2

theorem countImage_opens (c : Converter) : Opens o [] c { c with images := c.images + 1 } :=
  .of_edit (.note c.tables c.figures _ c.blockContent c.warnings c.faults c.reported)

theorem openImage_yields (doc : Document) (setting : Setting) (id : Nat) :
    Yields (openImage doc setting id e style) c fun _ c' =>
      Opens setting.options [] c c' ∨ AddsRow setting.options c c' := by
  unfold openImage
  split
  · exact (warn_opens _ _).mono fun _ _ h => Or.inl h
  have hcount := countImage_opens (o := setting.options) c
  refine Yields.modify_bind ?_
  split
  · next fault _ =>
    have hwarn : Yields (warn fault (some e.name)) { c with images := c.images + 1 }
        fun _ c' => Wrote [] c c' :=
      Yields.modifies ⟨c.buffer, c.figures, _, _, _, rfl, by simp [Converter.output]⟩
    refine hwarn.bind fun _ c₁ h₁ => ?_
    split
    · next alt _ =>
      refine (pushEscaped_yields alt).mono fun _ _ hw => Or.inr ⟨_, ?_, h₁.trans hw⟩
      exact .of_fluent (nest_text alt) (fluent_text alt)
    · exact Yields.pure (Or.inl (h₁.opens (.of_fluent (fun _ => rfl) rfl) rfl))
  · next path _ =>
    refine Yields.mono (Q := fun _ c' => Opens setting.options [] { c with images := c.images + 1 } c')
      ?_ fun _ _ h => Or.inl (hcount.trans h)
    refine (imageLength_opens "width").edits fun width c₁ _ => ?_
    refine (imageLength_opens "height").edits fun height c₂ _ => ?_
    have hinclude := includeImage_emits path (imageOptions_spells { width, height })
    extract_lets options
    split
    · refine Yields.get_bind (Yields.ite (fun h => ?_) fun _ => hinclude.opens c₂)
      simp only [Bool.and_eq_true] at h
      exact pushFigure_opens (imageOptions_spells _) (flat_of_allowsFigure h.1)
    · exact hinclude.opens c₂

/-! ## Grids of images -/

theorem pushGridImages_emits (doc : Document) (setting : Setting) {options : String}
    (h : Spells options [char ']']) (ids : List Nat) (first : Bool) :
    Emits (pushGridImages doc setting options first ids) := by
  induction ids generalizing first with
  | nil => exact .done
  | cons id ids ih =>
    unfold pushGridImages
    split
    · exact ih first
    · split
      · exact .bind (.warn _ _) fun _ => ih first
      · refine .bind (.of_wrote .nil fun _ => countImage_wrote) fun _ => ?_
        split
        · next path _ =>
          have hspace : Emits (push " ") := .push [char ' '] rfl ⟨rfl, fun _ => rfl, rfl⟩
          have hrest := (includeImage_emits path h).bind fun _ => ih false
          exact .ite hrest (hspace.bind fun _ => hrest)
        · exact .bind (.warn _ _) fun _ => ih first

theorem pushTimes_emits {s : String} (ts : List Token) (hs : s.toList = spell ts)
    (hts : Phrase ts) (n : Nat) : Emits (pushTimes s n) := by
  induction n with
  | zero => exact .done
  | succ n ih => exact .bind (.push ts hs hts) fun _ => ih

/-- The empty columns of a wide cell. -/
theorem pushTimes_columns_emits (n : Nat) : Emits (pushTimes " &" n) :=
  pushTimes_emits [char ' ', char '&'] rfl ⟨rfl, fun _ => rfl, rfl⟩ n

theorem pushGridCells_emits (doc : Document) (setting : Setting) {options : String}
    (h : Spells options [char ']']) (cells : List (Nat × Nat)) (column : Nat) :
    Emits (pushGridCells doc setting options column cells) := by
  induction cells generalizing column with
  | nil => exact .done
  | cons cell cells ih =>
    obtain ⟨cell, colspan⟩ := cell
    have hcell := (pushGridImages_emits doc setting h (doc.cellImages cell) true).bind fun _ =>
      (pushTimes_columns_emits (colspan - 1)).bind fun _ => ih (column + colspan)
    have hseparator : Emits (push " & ") :=
      .push [char ' ', char '&', char ' '] rfl ⟨rfl, fun _ => rfl, rfl⟩
    exact .ite (hseparator.bind fun _ => hcell) hcell

theorem pushGridRows_emits (doc : Document) (setting : Setting) {options : String}
    (h : Spells options [char ']']) (rows : List Nat) :
    Emits (pushGridRows doc setting options rows) := by
  induction rows with
  | nil => exact .done
  | cons row rows ih =>
    refine .bind (pushGridCells_emits doc setting h _ 0) fun _ => .bind ?_ fun _ => ih
    exact .push [char ' ', lineEnd] rfl ⟨rfl, fun _ => rfl, rfl⟩

theorem repeated_plain {s : String} (h : s.toList.all isPlain) (n : Nat) :
    (repeated s n).toList.all isPlain := by
  rw [repeated, String.toList_join, List.all_flatMap, List.all_eq_true]
  intro t ht
  rw [List.eq_of_mem_replicate ht]
  exact h

/-- The beginning of a grid, with a specification of its columns. -/
def tabularStart (columns : String) : List Token :=
  [beginEnv "tabular", opening] ++ (chars columns.toList ++ [closing, char '\n'])

theorem nest_tabularStart (columns : String) (stack : List Bracket) :
    nest stack (tabularStart columns) = some (.environment "tabular".toList :: stack) := by
  simp only [tabularStart, nest_append, nest, turn, nest_chars, Option.bind_some, close]
  rfl

theorem fluent_tabularStart {columns : String} (h : columns.toList.all isPlain) :
    fluent (tabularStart columns) :=
  fluent_append rfl (fluent_append (fluent_chars h) rfl)

theorem tabularStart_spell (columns : String) :
    (beginEnvironment "tabular" ++ braced columns ++ "\n").toList = spell (tabularStart columns) := by
  simp [tabularStart, beginEnvironment, braced, render, beginMark]

/-- The row of a figure that holds a grid. -/
theorem pushImageGrid_opens (doc : Document) (setting : Setting) (table : Nat) (hflat : Flat c) :
    Yields (pushImageGrid doc setting table e) c fun _ c' => Opens setting.options [] c c' := by
  unfold pushImageGrid
  refine nextFigure_opens.edits fun number c₁ h₁ => ?_
  extract_lets columns options finish
  refine (paragraphBreak_opens (h₁.flat hflat)).edits fun _ c₂ h₂ => ?_
  have hflat₂ : Flat c₂ := h₂.flat (h₁.flat hflat)
  have hcolumns : (repeated "c" columns).toList.all isPlain := repeated_plain (by decide) columns
  have hstart : (beginFigure setting ++ beginEnvironment "tabular" ++ braced (repeated "c" columns) ++
      "\n").toList =
      spell (figureStart setting.options.figurePlacement ++ tabularStart (repeated "c" columns)) := by
    rw [spell_append, ← beginFigure_spell, ← tabularStart_spell]
    simp
  refine (push_yields _ hstart).bind fun _ c₃ h₃ => ?_
  refine (pushGridRows_emits doc setting (imageOptions_spells _) _ c₃).bind ?_
  rintro _ c₄ ⟨rows, hrows, h₄⟩
  refine (push_yields [endEnv "tabular", char '\n', word "caption", opening] rfl).bind
    fun _ c₅ h₅ => ?_
  -- From its beginning to the end of the float the figure is one row, whatever the caption says.
  have hfinish : ∀ caption c₆, Words caption → Wrote caption c₅ c₆ → Yields (finish ()) c₆
      fun _ c' => Opens setting.options [] c₂ c' := by
    intro caption c₆ hcaption h₆
    have hrow := (h₃.trans (h₄.trans (h₅.trans h₆))).congr (congrArg spell (List.append_assoc ..))
    refine figureEnd_opens _ number hflat₂ hrow (fun stack => ?_) ?_
    · simp only [nest_append, nest, turn, nest_tabularStart, hrows.neutral, close, hcaption.neutral,
        Option.bind_some, if_true]
    · have hbehind := sound_append (sound_of_fluent _ hrows.fluent)
        (sound_append (a := [endEnv "tabular", char '\n', word "caption", opening]) rfl
          (sound_of_fluent setting.options.figurePlacement hcaption.fluent))
      exact sound_append (sound_of_fluent _ (fluent_tabularStart hcolumns)) hbehind
  split
  · next caption _ =>
    exact (pushEscaped_yields caption).bind fun _ c₆ h₆ => hfinish _ c₆ (words_text caption) h₆
  · have hname : ("Figure " ++ toString number).toList.all isPlain := by
      have hn := all_isPlain_nat number
      rw [String.toList_append, List.all_append, hn]
      rfl
    exact (push_yields _ (spell_chars _).symm).bind fun _ c₆ h₆ => hfinish _ c₆ (words_chars hname) h₆

end MarkupTex.Convert
