import MarkupTex.Proofs.Convert.Numbering
import MarkupTex.Proofs.Convert.Tabular
import MarkupTex.Proofs.Convert.Terms
import MarkupTex.Proofs.Latex.Escaping
/-!
# Labels and links to them

A link to a fragment leads to a label, and it finds it by its name.  Labels are written at five places, on
entering an anchor, an image or a table that becomes a figure, and on leaving a heading or a table, and links
at one.  All of them exchange the characters of the name in the same way, and all of them have it without the
blanks at its ends, so that the names agree.

What is written of an element is looked at call by call: the place of its label, and what comes right behind it,
tell it from the labels of the elements within.
-/

set_option autoImplicit false

namespace MarkupTex

open Latex Walk

namespace Convert

variable {doc : Document} {setting : Setting} {id level : Nat} {e : Element}
  {style : Style} {flow : Flow} {c c' c₁ c₂ c₃ : Converter} {f frame : Frame} {fs : List Frame}
  {new : List Closer} {name command : String} {row back : List Char}

/-! ## Rows -/

/-- A label of this name. -/
def labelRow (name : String) : List Char :=
  ("\\label\x7b" ++ pathSubstitution.escape name ++ "\x7d").toList

/-- The beginning of a link to this name, up to the brace of its text. -/
def linkRow (name : String) : List Char :=
  ("\\hyperref[" ++ pathSubstitution.escape name ++ "]\x7b").toList

/-- The row was written behind the output, with `back` right behind it. -/
def Puts (row back : List Char) (c c' : Converter) : Prop :=
  ∃ front, Prolongs c.output front ∧ c'.output = front ++ row ++ back

theorem Puts.after (h : Extends c c₁) (hputs : Puts row back c₁ c') : Puts row back c c' := by
  obtain ⟨front, hfront, hout⟩ := hputs
  exact ⟨front, Prolongs.trans h hfront, hout⟩

theorem labelRow_getLast? (name : String) (cs : List Char) : (cs ++ labelRow name).getLast? = some '\x7d' := by
  have hbrace : "\x7d".toList.getLast? = some '\x7d' := by decide
  rw [labelRow, String.toList_append, List.getLast?_append, List.getLast?_append, hbrace, Option.some_or,
    Option.some_or]

theorem pushLabel_addsText (name : String) : AddingText (labelRow name) (pushLabel name) := by
  intro c
  refine (push_addsText _ c).bind fun _ c₁ h₁ => (pushPath_addsText name c₁).bind fun _ c₂ h₂ => ?_
  refine (push_addsText _ c₂).mono fun _ _ h₃ => (h₁.trans (h₂.trans h₃)).congr ?_
  rw [labelRow, String.toList_append, String.toList_append, toList_escape, List.append_assoc, writtenPath]

/-! ## Who has a label -/

/-- The name that an element has for its label.  An anchor may have it in another attribute. -/
def labelName? (e : Element) : Option String :=
  if e.tag = .anchor then anchorName? e else e.nonBlankAttribute? "id"

theorem labelName?_of_id (h : e.nonBlankAttribute? "id" = some name) : labelName? e = some name := by
  rw [labelName?]
  split
  · obtain ⟨value, hvalue, hname⟩ := Option.bind_eq_some_iff.mp h
    rw [anchorName?, hvalue, Option.some_or, Option.bind_some, hname]
  · exact h

/-- There is a link for each name that a label may have. -/
theorem fragment?_marked {value : String} (hname : Text.nonBlank? value = some name) (htag : e.tag = .anchor)
    (hhref : e.attribute? "href" = some ("#" ++ name)) : fragment? e = some name := by
  have hmark : "#" = String.singleton '#' := by decide
  have hblank : Text.isBlank '#' = false := by decide
  refine fragment?_eq_some.mpr ⟨htag, "#" ++ name, ?_, ?_, (Text.nonBlank?_eq_some hname).2⟩
  · rw [Element.nonBlankAttribute?, hhref, hmark, Option.bind_some]
    exact Text.nonBlank?_marked hblank hname
  · rw [Text.afterStart?, String.toList_append, List.isPrefixOf_iff_prefix.mpr (List.prefix_append _ _),
      if_pos rfl, ← String.length_toList, List.drop_left, String.ofList_toList]

/-- An element at such a place gets a label of its own, if it has a name for one: an anchor, a heading that is
a section, and a float.  In a verbatim block there are none. -/
def bearsLabel (doc : Document) (setting : Setting) (id : Nat) (e : Element) (c : Converter) : Bool :=
  c.preDepth = 0 && match e.tag with
    | .anchor => true
    | .heading level => !c.inlineOnly && (headingCommand? level).isSome
    | .table => isOutermost c
    | _ => makesFigure doc setting id e c

/-- What comes behind the label of a float. -/
def floatTail (environment : String) : List Char := ("\n" ++ endEnvironment environment ++ "\n\n").toList

/-- The element has its label.  That of an anchor stands before all else, and that of a heading behind it.
A figure is written on entering the element, and a table ends when that is left. -/
def LabelWritten (doc : Document) (setting : Setting) (id : Nat) (e : Element) (name : String)
    (before entered left : Converter) : Prop :=
  match e.tag with
  | .anchor => ∃ rest, entered.output = before.output ++ labelRow name ++ rest
  | .heading _ => Puts (labelRow name) "\n\n".toList entered left
  | _ =>
    if makesFigure doc setting id e before then Puts (labelRow name) (floatTail "figure") before entered
    else Puts (labelRow name) (floatTail "table") entered left

/-! ## Anchors -/

theorem openLink_links {href : String} (hfragment : Text.afterStart? "#" href = some name)
    (hsome : name.isEmpty = false) :
    Ensures (openLink e href) c fun _ c' => c'.output = c.output ++ linkRow name := by
  refine (openLink_writes hfragment hsome).mono fun _ _ hout => ?_
  rw [hout, spell_flatMap, ← funext substituted_path, ← toList_escape, linkRow, String.toList_append,
    String.toList_append, List.append_assoc, List.append_assoc, List.append_assoc]

/-- An anchor writes its label first.  Then the output goes on to its link. -/
theorem openAnchor_writes (htag : e.tag = .anchor) :
    Ensures (openAnchor e style) c fun _ c' => ∃ c₁, Extends c c₁ ∧ Extends c₁ c' ∧
      (∀ name, anchorName? e = some name → c₁.output = c.output ++ labelRow name) ∧
      ∀ name, fragment? e = some name → Puts (linkRow name) [] c₁ c' := by
  unfold openAnchor
  extract_lets finish link
  have hlink : ∀ c, Ensures (link ()) c fun _ c' =>
      Extends c c' ∧ ∀ name, fragment? e = some name → Puts (linkRow name) [] c c' := by
    intro c
    refine (applyStyle_moves e style c).bind fun _ c₁ hmoves => ?_
    have hextends : Extends c c₁ := hmoves.relates Extends.refl Extends.trans Move.extends
    cases hhref : e.nonBlankAttribute? "href" with
    | none =>
      refine Ensures.pure ⟨hextends, fun name hlinks => ?_⟩
      obtain ⟨-, href, hsome, -⟩ := fragment?_eq_some.mp hlinks
      rw [hhref] at hsome
      cases hsome
    | some href =>
      have hopens : Ensures (openLink e href) c₁ fun _ c' =>
          Extends c₁ c' ∧ ∀ name, fragment? e = some name → c'.output = c₁.output ++ linkRow name := by
        intro a c' hm
        have hacts : Acts e style false c₁ c' := openLink_performs htag hhref a c' hm
        refine ⟨hacts.moves.relates Extends.refl Extends.trans Move.extends, fun name hlinks => ?_⟩
        obtain ⟨-, href', hsome, hfragment, hne⟩ := fragment?_eq_some.mp hlinks
        rw [hhref] at hsome
        cases hsome
        exact openLink_links hfragment hne a c' hm
      refine hopens.bind fun _ c₂ ⟨h₂, hrow⟩ => Ensures.pure ⟨hextends.trans h₂, fun name hlinks => ?_⟩
      exact ⟨c₁.output, hextends, by rw [hrow name hlinks, List.append_nil]⟩
  cases hname : anchorName? e with
  | none => exact (hlink c).mono fun _ _ ⟨h, hlinks⟩ => ⟨c, .refl c, h, by simp, hlinks⟩
  | some name =>
    refine (pushLabel_addsText name c).bind fun _ c₁ h₁ => (hlink c₁).mono fun _ _ ⟨h, hlinks⟩ => ?_
    refine ⟨c₁, ?_, h, ?_, hlinks⟩
    · rw [Extends, h₁.output]
      exact .append _ _
    · rintro _ ⟨⟩
      exact h₁.output

/-! ## Headings -/

/-- What a heading that is a section has to write on leaving it, from its brace on. -/
def sectionClosers (name : String) : List Closer :=
  [.endArgument, .brace "\x7d", .label name, .paragraphBreak]

theorem onLeave_frames {closer : Closer} (h : c.frames = f :: fs) :
    Ensures (onLeave closer) c fun _ c' => c'.frames = { f with closers := closer :: f.closers } :: fs :=
  (onLeave_yields h rfl).ensures

theorem openHeading_owes (hframes : c.frames = f :: fs) (hclosers : f.closers = [])
    (hinline : c.inlineOnly = false) (hcommand : headingCommand? level = some command)
    (hname : e.nonBlankAttribute? "id" = some name) :
    Ensures (openHeading e style level) c fun _ c' =>
      ∃ n, Owing (sectionClosers name) (fs.map Frame.closers) n c' := by
  unfold openHeading
  refine Ensures.get_bind (Ensures.ite (fun h => ?_) fun _ => ?_)
  · rw [hinline] at h
    cases h
  refine (write_unmoving _ c).bind fun _ c₁ h₁ => ?_
  refine (onLeave_frames (h₁.frames.trans hframes)).bind fun _ c₂ h₂ => ?_
  rw [hcommand, hname]
  refine (onLeave_frames h₂).bind fun _ c₃ h₃ => ?_
  refine (openArgument_owes [.word command, .opening] (by simp [Token.render])).bind ?_
  rintro _ _ ⟨c₄, hwrote, rfl⟩
  refine (applyStyle_moves e style _).bind fun _ c₅ hmoves => Ensures.pure ?_
  have hinside : (Opening.argument.owe c₄).inlineOnly = true := by
    simp [Converter.inlineOnly, Opening.owe, Opening.isArgument]
  have hsection : Owing (sectionClosers name) (fs.map Frame.closers) (c₄.openBraces + 1)
      (Opening.argument.owe c₄) := by
    refine ⟨[], ?_, by simp, rfl⟩
    rw [Opening.owe, hwrote.keeps.frames, h₃, hclosers]
    rfl
  exact ⟨_, hmoves.owing hinside hsection⟩

/-- Behind all that is in it a heading has its label and the end of a paragraph. -/
theorem leave_heading (htag : e.tag = .heading level) (hframes : c.frames = frame :: fs)
    (hclosers : frame.closers = new ++ sectionClosers name) :
    Ensures (leave e) c fun _ c' => Puts (labelRow name) "\n\n".toList c c' := by
  refine .leave hframes ?_
  unfold closeElement closeFrame
  rw [htag, hclosers, emitClosers_append]
  refine (emitClosers_extending new _).bind fun _ c₁ h₁ => Ensures.modify_bind ?_
  refine (emitCloser_extending (.brace "\x7d") _).bind fun _ c₂ h₂ => ?_
  refine (pushLabel_addsText name c₂).bind fun _ c₃ h₃ => ?_
  have hbrace : c₃.output.getLast? = some '\x7d' := by rw [h₃.output, labelRow_getLast?]
  refine (paragraphBreak_addsText hbrace).bind fun _ c₄ h₄ => Ensures.pure ?_
  have hbreak : "\n\n".toList = ['\n', '\n'] := by decide
  refine ⟨c₂.output, ?_, ?_⟩
  · exact Prolongs.trans h₁ h₂
  · rw [Converter.restored, hbreak, ← h₃.output]
    exact h₄.output

/-! ## One element -/

/-- What is written in a visit of an element by its name: its label, where it bears one, and its link. -/
structure Refers (doc : Document) (setting : Setting) (id : Nat) (e : Element)
    (before entered left : Converter) : Prop where
  label : ∀ name, labelName? e = some name → bearsLabel doc setting id e before →
    LabelWritten doc setting id e name before entered left
  link : ∀ name, fragment? e = some name → before.preDepth = 0 → Puts (linkRow name) [] before entered

/-- The pieces around a name, taken together in two ways. -/
theorem toList_regroup (a b name c d environment e : String) :
    (a ++ b).toList ++ name.toList ++ (c ++ d ++ environment ++ e).toList =
      a.toList ++ (b ++ name ++ c).toList ++ (d ++ environment ++ e).toList := by
  simp only [String.toList_append, List.append_assoc]

theorem floatClosing_eq (environment name : String) :
    floatClosing environment (writtenPath name) =
      "\x7d\n".toList ++ labelRow name ++ floatTail environment := by
  have hlabel : "\x7d\n\\label\x7b" = "\x7d\n" ++ "\\label\x7b" := by decide
  have hend : "\x7d\n" = "\x7d" ++ "\n" := by decide
  have hname : writtenPath name = (pathSubstitution.escape name).toList := (toList_escape _ _).symm
  have h := toList_regroup "\x7d\n" "\\label\x7b" (pathSubstitution.escape name) "\x7d" "\n"
    (endEnvironment environment) "\n\n"
  rw [← hlabel, ← hend, ← hname] at h
  exact h

/-- The end of a float has its label in it. -/
theorem exists_floatEnding (environment name : String) (caption : List Char) :
    ∃ front, floatEnding environment caption (writtenPath name) =
      front ++ labelRow name ++ floatTail environment := by
  unfold floatEnding
  rw [floatClosing_eq]
  generalize "\n\\caption\x7b".toList ++ caption = start
  generalize "\x7d\n".toList = brace
  exact ⟨start ++ brace, by simp only [List.append_assoc]⟩

theorem puts_of_floatEnding {environment : String} {caption front : List Char}
    (hfront : Prolongs c.output front)
    (hout : c'.output = front ++ floatEnding environment caption (writtenPath name)) :
    Puts (labelRow name) (floatTail environment) c c' := by
  obtain ⟨inside, hinside⟩ := exists_floatEnding environment name caption
  refine ⟨front ++ inside, hfront.trans (.append _ _), ?_⟩
  rw [hout, hinside, List.append_assoc, List.append_assoc, List.append_assoc]

/-! ### Entering -/

theorem enter_anchor (htag : e.tag = .anchor) (hpre : c.preDepth = 0) :
    Ensures (enter doc setting id e style) c fun _ c' => ∃ c₁, Extends c c₁ ∧ Extends c₁ c' ∧
      (∀ name, anchorName? e = some name → c₁.output = c.output ++ labelRow name) ∧
      ∀ name, fragment? e = some name → Puts (linkRow name) [] c₁ c' := by
  refine .enter hpre ?_
  unfold openElement
  rw [htag]
  exact openAnchor_writes (c := c.opened _) htag

theorem enter_heading (htag : e.tag = .heading level) (hpre : c.preDepth = 0) (hinline : c.inlineOnly = false)
    (hcommand : headingCommand? level = some command) (hname : e.nonBlankAttribute? "id" = some name) :
    Ensures (enter doc setting id e style) c fun _ c' => ∃ frame fs new,
      c'.frames = frame :: fs ∧ frame.closers = new ++ sectionClosers name := by
  refine .enter hpre ?_
  unfold openElement
  rw [htag]
  refine (openHeading_owes (c := c.opened _) rfl rfl hinline hcommand hname).mono fun _ c' ⟨n, howing⟩ => ?_
  obtain ⟨new, hframes, -⟩ := howing.closers
  obtain ⟨frame, fs, hf, hclosers, -⟩ := List.map_eq_cons_iff.mp hframes
  exact ⟨frame, fs, new, hf, hclosers⟩

/-! ### A visit -/

/-- A table at the outermost that makes no figure is begun. -/
theorem startsTable_of_isOutermost (htag : e.tag = .table) (hpre : c.preDepth = 0) (houter : isOutermost c)
    (hfigure : makesFigure doc setting id e c = false) : startsTable doc id e c := by
  have hfloat : beginsFloat doc id e c = true := by
    simpa [beginsFloat, makesFigure, htag, hpre, houter] using hfigure
  rw [beginsFloat_eq, Bool.and_eq_true] at hfloat
  exact hfloat.1

theorem figure_labels (hfigure : makesFigure doc setting id e c) (hname : e.nonBlankAttribute? "id" = some name)
    (hv : enter doc setting id e style c = .ok flow c₁) : Puts (labelRow name) (floatTail "figure") c c₁ := by
  obtain ⟨-, -, front, hfront, hout⟩ := enter_figure hfigure flow c₁ hv
  rw [hname, writtenLabel] at hout
  exact puts_of_floatEnding hfront hout

theorem table_labels (hbegins : startsTable doc id e c) (houter : isOutermost c)
    (hname : e.nonBlankAttribute? "id" = some name)
    (hv : enter doc setting id e style c = .ok flow c₁) (hr : Restored c₁ c₂) (hl : leave e c₂ = .ok () c₃) :
    Puts (labelRow name) (floatTail "table") c₂ c₃ := by
  obtain ⟨t, ht⟩ := ended_of_begun hbegins hv hr
  obtain ⟨-, hcore, hends⟩ := ended_spec hv hr ht
  obtain ⟨front, hline, hout⟩ := hends () c₃ hl
  have hnested : t.nested = false := (congrArg TableState.nested hcore).trans (by rw [newTable, houter]; rfl)
  have hlabel : t.label = some name := (congrArg TableState.label hcore).trans hname
  rw [tableEnding, hnested, if_neg Bool.false_ne_true, hlabel, writtenLabel, ← List.append_assoc] at hout
  exact puts_of_floatEnding (hline.prolongs.trans (.append _ _)) hout

theorem heading_labels (htag : e.tag = .heading level) (hpre : c.preDepth = 0) (hinline : c.inlineOnly = false)
    (hcommand : headingCommand? level = some command) (hname : e.nonBlankAttribute? "id" = some name)
    (hv : enter doc setting id e style c = .ok flow c₁) (hr : Restored c₁ c₂) (hl : leave e c₂ = .ok () c₃) :
    Puts (labelRow name) "\n\n".toList c₂ c₃ := by
  obtain ⟨frame, fs, new, hframes, hclosers⟩ := enter_heading htag hpre hinline hcommand hname flow c₁ hv
  exact leave_heading htag (hr.frames.trans hframes) hclosers () c₃ hl

/-- A visit of an element writes its label and its link, whatever is below it. -/
theorem element_refers (hv : enter doc setting id e style c = .ok flow c₁) (hr : Restored c₁ c₂)
    (hbelow : Extends c₁ c₂) (hl : leave e c₂ = .ok () c₃) : Refers doc setting id e c c₁ c₃ := by
  constructor
  case link =>
    intro name hlinks hpre
    obtain ⟨c', hextends, -, -, hputs⟩ := enter_anchor (fragment?_eq_some.mp hlinks).1 hpre flow c₁ hv
    exact (hputs name hlinks).after hextends
  intro name hname hbears
  rw [bearsLabel, Bool.and_eq_true, decide_eq_true_eq] at hbears
  obtain ⟨hpre, hbears⟩ := hbears
  by_cases hanchor : e.tag = .anchor
  · rw [labelName?, if_pos hanchor] at hname
    obtain ⟨c', -, hextends, hlabel, -⟩ := enter_anchor hanchor hpre flow c₁ hv
    have hlast : c'.output.getLast? ≠ some ' ' := by
      rw [hlabel name hname, labelRow_getLast?]
      decide
    obtain ⟨rest, hrest⟩ := hextends c'.output List.prefix_rfl hlast
    rw [LabelWritten, hanchor]
    exact ⟨rest, by rw [← hrest, hlabel name hname]⟩
  rw [labelName?, if_neg hanchor] at hname
  have hleft : ∀ {row back}, Puts row back c₂ c₃ → Puts row back c₁ c₃ := fun h => h.after hbelow
  unfold LabelWritten
  split at hbears
  · next htag => exact absurd htag hanchor
  · next level htag =>
    rw [htag]
    simp only [Bool.and_eq_true, Bool.not_eq_true', Option.isSome_iff_exists] at hbears
    obtain ⟨hinline, command, hcommand⟩ := hbears
    exact hleft (heading_labels htag hpre hinline hcommand hname hv hr hl)
  · next htag =>
    rw [htag]
    dsimp only
    split
    · next hfigure => exact figure_labels hfigure hname hv
    · next hfigure =>
      have hbegins := startsTable_of_isOutermost htag hpre hbears (Bool.eq_false_iff.mpr hfigure)
      exact hleft (table_labels hbegins hbears hname hv hr hl)
  · split
    · next htag => exact absurd htag hanchor
    · next level htag => simp [makesFigure, htag] at hbears
    · exact (if_pos hbears).mpr (figure_labels hbears hname hv)

/-! ## The run -/

/-- For a name just one character is written for each of its characters, and none that LaTeX would take for
something else; and to exchange the characters again makes no difference.  An element has its `id` without
blanks for its label, and so has a link that is made for it.  In a run each label is written with the name
exchanged in this way, and so is each link, and they stay where they are up to the end. -/
theorem references_agree (doc : Document) (setting : Setting) :
    (∀ (b : Buffer) (s : String),
      b.appendScanned pathSubstitution s = b.appendPath s ∧
      b.Adds (pathSubstitution.escape s).toList (b.appendPath s) ∧
      (b.HasRoom pathSubstitution s →
        ∃ b', b.appendPath s = .ok b' ∧ b'.text = b.text ++ pathSubstitution.escape s) ∧
      (pathSubstitution.escape s).toList = s.toList.map pathChar ∧
      (∀ c ∈ (pathSubstitution.escape s).toList, c ≠ '\\' ∧ c ∉ pathSpecials ∧ isControl c = false) ∧
      pathSubstitution.escape (pathSubstitution.escape s) = pathSubstitution.escape s) ∧
    (∀ {value name : String}, Text.nonBlank? value = some name →
      (∀ e : Element, e.attribute? "id" = some value → labelName? e = some name) ∧
      ∀ link : Element, link.tag = .anchor → link.attribute? "href" = some ("#" ++ name) →
        fragment? link = some name) ∧
    ∀ {root : Nat} {final : Converter}, runFrom doc setting root = .ok final →
      ∀ {style : Style} {id : Nat} {ids : List Nat} {e : Element} {c : Converter},
        Reaches doc setting.options.importantPolicy (visitor doc setting) Style.empty [root]
          Converter.start style (id :: ids) c → doc.element? id = some e →
        ∃ flow entered left,
          enter doc setting id e (e.styleUnder setting.options.importantPolicy style) c = .ok flow entered ∧
          traverse doc setting.options.importantPolicy (visitor doc setting) style [id] c = .ok true left ∧
          Extends entered left ∧ Extends left final ∧ Refers doc setting id e c entered left := by
  refine ⟨fun b s => ?_, fun hname => ?_, fun {root final} hrun {style id ids e c} hreaches he => ?_⟩
  · refine ⟨Buffer.appendScanned_eq pathSubstitution_isAscii b s, ?_, Buffer.appendMapped_of_room,
      toList_escape_path s, pathSafe_escape_path s, escape_path_escape_path s⟩
    rw [toList_escape]
    exact Buffer.appendMapped_adds b pathSubstitution s
  · refine ⟨fun e hid => labelName?_of_id ?_, fun link => fragment?_marked hname⟩
    rw [Element.nonBlankAttribute?, hid, Option.bind_some, hname]
  · obtain ⟨left, hvisit, hlast⟩ := visit_extends (traverse_of_runFrom hrun) hreaches
    obtain ⟨flow, c₁, c₂, c₃, hv, hstop, hbelow, hl, hrest⟩ := traverse_element_ok he hvisit
    rw [traverse_nil] at hrest
    obtain rfl : c₃ = left := by injection hrest
    obtain ⟨hr, hlined⟩ := lined_of_traverse hbelow fun _ => lt_size_of_mem_below
    have hleft : Extends c₂ c₃ := (leave_goesOn e c₂ () c₃ hl).output
    exact ⟨flow, c₁, c₃, hv, hvisit, hlined.output.trans hleft, hlast,
      element_refers hv hr hlined.output hl⟩

/-- A heading with a link to itself. -/
def linkedHeading : Document :=
  ((Document.withRoot "body").push 0 (.element (.ofName "h1" [⟨"id", " 1% "⟩]))).push 1
    (.element (.ofName "a" [⟨"href", "#1%"⟩]))

theorem references_agree_linkedHeading :
    (∃ b', Buffer.empty.appendPath "1%" = .ok b' ∧ b'.text = "1_") ∧ ∃ final entered left style c linked,
      runFrom linkedHeading ⟨{}, fun _ => .ok "image.png"⟩ 1 = .ok final ∧ Extends left final ∧
      Puts (labelRow "1%") "\n\n".toList entered left ∧
      Reaches linkedHeading .localWins (visitor linkedHeading ⟨{}, fun _ => .ok "image.png"⟩) Style.empty [1]
        Converter.start style [2] c ∧ Extends linked final ∧ Puts (linkRow "1%") [] c linked ∧
      labelRow "1%" = "\\label\x7b1_\x7d".toList ∧ linkRow "1%" = "\\hyperref[1_]\x7b".toList := by
  have hescape : pathSubstitution.escape "1%" = "1_" := by decide
  obtain ⟨hpath, hnames, hrefers⟩ := references_agree linkedHeading ⟨{}, fun _ => .ok "image.png"⟩
  obtain ⟨hid, hlink⟩ := hnames (show Text.nonBlank? " 1% " = some "1%" by decide)
  obtain ⟨final, hrun⟩ : ∃ final, runFrom linkedHeading ⟨{}, fun _ => .ok "image.png"⟩ 1 = .ok final :=
    exists_ok (by decide +kernel)
  have hheading : (Element.ofName "h1" [⟨"id", " 1% "⟩]).tag = .heading 1 := by decide +kernel
  obtain ⟨flow, entered, left, hv, -, -, hlast, hlabels⟩ :=
    hrefers hrun (.refl _ _ _) (e := .ofName "h1" [⟨"id", " 1% "⟩]) rfl
  have hlabel := hlabels.label "1%" (hid _ (by decide +kernel)) (by decide +kernel)
  rw [LabelWritten, hheading] at hlabel
  have hentered : (match enter linkedHeading ⟨{}, fun _ => .ok "image.png"⟩ 1
      (.ofName "h1" [⟨"id", " 1% "⟩]) ((Element.ofName "h1" [⟨"id", " 1% "⟩]).styleUnder .localWins Style.empty)
      Converter.start with
    | .ok flow c => flow = .descend && c.preDepth = 0
    | .error .. => false) = true := by decide +kernel
  rw [hv] at hentered
  simp only [Bool.and_eq_true, decide_eq_true_eq] at hentered
  obtain ⟨rfl, hpre⟩ := hentered
  have hreaches : Reaches linkedHeading .localWins (visitor linkedHeading ⟨{}, fun _ => .ok "image.png"⟩)
      Style.empty [1] Converter.start _ [2] entered := .inside rfl hv (by decide) (.refl _ _ _)
  obtain ⟨_, linked, left', -, -, hgoesOn, hlast', hlinks⟩ :=
    hrefers hrun hreaches (e := .ofName "a" [⟨"href", "#1%"⟩]) rfl
  refine ⟨?_, final, entered, left, _, entered, linked, hrun, hlast, hlabel, hreaches,
    hgoesOn.trans hlast', hlinks.link "1%" (hlink _ (by decide +kernel) (by decide +kernel)) hpre, ?_, ?_⟩
  · obtain ⟨b', happend, htext⟩ := (hpath Buffer.empty "1%").2.2.1 (by decide)
    refine ⟨b', happend, ?_⟩
    rw [htext, hescape]
    rfl
  · rw [labelRow, hescape]
    decide
  · rw [linkRow, hescape]
    decide

end Convert

end MarkupTex
