import MarkupTex.Proofs.Convert.Outcome
import MarkupTex.Proofs.Convert.Moves
/-!
# What each handler does

Every handler but those of tables and images is a row of moves, and `appliesStyle` tells from the tag and
the state whether the style of the element is applied in it.  `enter_acts` is what is made of this for
entering an element.
-/

set_option autoImplicit false

namespace MarkupTex.Convert

open Latex Token

variable {doc : Document} {setting : Setting} {id : Nat} {e : Element} {style : Style}
  {c c' : Converter} {ts us : List Token}

/-- The handler of the element applies its style. -/
def appliesStyle (e : Element) (c : Converter) : Bool :=
  match e.tag with
  | .document | .html | .body | .tableSection | .head | .title | .script | .style | .table | .tableRow
  | .image | .horizontalRule | .lineBreak => false
  | .heading level => c.inlineOnly || (headingCommand? level).isSome
  | .preformatted | .unorderedList | .orderedList | .descriptionList => c.inlineOnly
  | .caption => c.table.isNone
  | _ => true

/-! ## Only inline material -/

theorem Wrote.inlineOnly {ts : List Token} (h : Wrote ts c c') : c'.inlineOnly = c.inlineOnly := by
  obtain ⟨_, _, _, _, _, rfl, -⟩ := h
  rfl

theorem Opening.inlineOnly_owe (op : Opening) (h : c.inlineOnly = true) :
    (op.owe c).inlineOnly = true := by
  simp only [Converter.inlineOnly, Bool.or_eq_true, decide_eq_true_eq] at h ⊢
  exact h.imp (fun hcell => hcell) fun hdepth => Nat.lt_of_lt_of_le hdepth (Nat.le_add_right _ _)

/-- Where only inline material can be written, this stays so on entering an element. -/
theorem Move.inlineOnly (h : Move e style c c') : c.inlineOnly = true → c'.inlineOnly = true := by
  intro hinline
  cases h with
  | note cell =>
    simp only [Converter.inlineOnly, Bool.or_eq_true] at hinline ⊢
    exact hinline.imp cell id
  | trim | owe | align => exact hinline
  | write wrote => rwa [wrote.inlineOnly]
  | wish _ granted =>
    cases granted with
    | held | putOff => exact hinline
    | argument _ _ _ wrote =>
      have := Opening.inlineOnly_owe .argument (wrote.inlineOnly.trans hinline)
      exact this
    | group _ _ wrote =>
      have := Opening.inlineOnly_owe .group (wrote.inlineOnly.trans hinline)
      exact this
  | command _ wrote => exact Opening.inlineOnly_owe .argument (wrote.inlineOnly.trans hinline)
  | term _ _ wrote => exact Opening.inlineOnly_owe .term (wrote.inlineOnly.trans hinline)

theorem Moves.inlineOnly (h : Moves e style c c') : c.inlineOnly = true → c'.inlineOnly = true :=
  h.relates (R := fun c c' => c.inlineOnly = true → c'.inlineOnly = true) (fun _ h => h)
    (fun h h' hc => h' (h hc)) Move.inlineOnly

/-! ## Paragraphs and environments -/

theorem later_text {s : String} (ts : List Token) (hs : s.toList = spell ts) (hts : calm ts) :
    Closer.Later (.text s) := .text hs hts

theorem openAlignment_performs : Performs e style false (openAlignment e style) c := by
  unfold openAlignment
  extract_lets value
  cases value.bind Alignment.ofText? with
  | none => exact .pure
  | some alignment =>
    refine .get_bind (.unless fun _ => ?_)
    refine .after (push_performs [beginEnv alignment.environment, char '\n'] ?_ ?_) fun _ c₁ _ => ?_
    · cases alignment <;> rfl
    · cases alignment <;> rfl
    refine .after (onLeave_performs .newline) fun _ c₂ _ => ?_
    refine .after (onLeave_performs (later_text [endEnv alignment.environment, char '\n'] ?_ ?_))
      fun _ c₃ _ => ?_
    · cases alignment <;> rfl
    · cases alignment <;> rfl
    refine .after (onLeave_performs .newline) fun _ c₄ _ => ?_
    exact .move (Ensures.modifies (.align (some alignment) (.inr rfl)))

theorem openBlock_performs : Performs e style true (openBlock e style) c := by
  unfold openBlock
  refine .after paragraphBreak_performs fun _ _ _ => .after (onLeave_performs .paragraphBreak) fun _ _ _ => ?_
  exact .after openAlignment_performs fun _ c₁ _ => fun _ c₂ h => (Acts.refl c₁).style h

theorem openParagraph_performs : Performs e style true (openParagraph e style) c := by
  unfold openParagraph
  refine .get_bind (.ite (fun _ => ?_) fun _ => ?_)
  · refine .after spaceApart_performs fun _ _ _ => ?_
    refine .after (onLeave_performs (later_text [char ' '] rfl rfl)) fun _ _ _ => ?_
    exact .applying fun _ _ => .pure
  · exact .following openBlock_performs fun _ _ _ => .pure

theorem openDivision_performs : Performs e style true (openDivision e style) c := by
  unfold openDivision
  refine .get_bind (.ite (fun _ => .applying fun _ _ => .pure) fun _ => ?_)
  exact .following openBlock_performs fun _ _ _ => .pure

theorem openEnvironment_performs (env : BlockEnvironment) :
    Performs e style true (openEnvironment e style env) c := by
  unfold openEnvironment
  extract_lets finish
  have hfinish : ∀ c, Performs e style true (finish ()) c := fun _ => .applying fun _ _ => .pure
  refine .get_bind (.ite (fun _ => hfinish c) fun _ => ?_)
  refine .after paragraphBreak_performs fun _ c₁ _ => ?_
  refine .after (push_performs [beginEnv env.name, char '\n'] ?_ ?_) fun _ c₂ _ => ?_
  · cases env <;> rfl
  · cases env <;> rfl
  refine .after (onLeave_performs .paragraphBreak) fun _ c₃ _ => ?_
  refine .after (onLeave_performs (later_text [endEnv env.name] ?_ ?_)) fun _ c₄ _ => ?_
  · cases env <;> rfl
  · cases env <;> rfl
  refine .after (onLeave_performs .newline) fun _ c₅ _ => .ite (fun _ => ?_) fun _ => hfinish c₅
  have halign : Performs e style false
      (modifyFormatting fun f => { f with alignment := some .center }) c₅ :=
    .move (Ensures.modifies (.align (some .center) (.inl rfl)))
  exact .after halign fun _ c₆ _ => hfinish c₆

theorem openArgument_performs {s : String} (ts : List Token) (head : Heads e ts)
    (hs : s.toList = spell (ts ++ [opening])) : Performs e style false (openArgument s "\x7d") c :=
  .move ((openArgument_owes _ hs).mono fun _ _ ⟨_, hw, heq⟩ => heq ▸ .command head hw)

theorem openHeading_performs {level : Nat} (htag : e.tag = .heading level) :
    Performs e style (c.inlineOnly || (headingCommand? level).isSome) (openHeading e style level) c := by
  unfold openHeading
  refine .get_bind ?_
  cases hinline : c.inlineOnly with
  | true =>
    refine .ite (fun _ => .applying fun c₁ hmoves => ?_) fun h => absurd rfl h
    refine .after (wish_performs (.inlineBold (hmoves.inlineOnly hinline)) (applyEmphasis_grants .bold _))
      fun _ _ _ => .pure
  | false =>
    refine .ite (fun h => absurd h (by decide)) fun _ => ?_
    rw [Bool.false_or]
    refine .after paragraphBreak_performs fun _ c₁ _ => ?_
    refine .after (onLeave_performs .paragraphBreak) fun _ c₂ _ => ?_
    cases hcommand : headingCommand? level with
    | none => exact .after (warn_performs _ _) fun _ _ _ => .pure
    | some command =>
      have hopen : ∀ c, Performs e style true (do
          openArgument ("\\" ++ command ++ "\x7b") "\x7d"
          applyStyle e style
          return Flow.descend) c := fun c =>
        .after (openArgument_performs [word command] (.section htag hcommand) (by simp [render]))
          fun _ _ _ => .applying fun _ _ => .pure
      dsimp only
      split
      · exact .after (onLeave_performs (.label _)) fun _ _ _ => hopen _
      · exact hopen _

theorem openPreformatted_performs :
    Performs e style c.inlineOnly (openPreformatted e style) c := by
  unfold openPreformatted
  refine .get_bind ?_
  cases hinline : c.inlineOnly with
  | true =>
    refine .ite (fun _ => .applying fun c₁ hmoves => ?_) fun h => absurd rfl h
    exact .after (wish_performs (.inlineMonospace (hmoves.inlineOnly hinline))
      (applyFamily_grants .monospace _)) fun _ _ _ => .pure
  | false =>
    refine .ite (fun h => absurd h (by decide)) fun _ => ?_
    refine .after paragraphBreak_performs fun _ c₁ h₁ => ?_
    refine .after (push_performs [beginEnv "verbatim", char '\n'] rfl rfl) fun _ c₂ _ => ?_
    refine .after (onLeave_performs .paragraphBreak) fun _ c₃ _ => ?_
    refine .after (onLeave_performs (later_text [endEnv "verbatim"] rfl rfl)) fun _ c₄ _ => ?_
    refine .after (onLeave_performs .newline) fun _ c₅ _ => ?_
    have hpre : Performs e style false (modify fun c => { c with preDepth := c.preDepth + 1 }) c₅ :=
      .move (Ensures.modifies (.note (fun h => h) rfl))
    exact .after hpre fun _ _ _ => .after (modifyFrame_performs fun _ => rfl) fun _ _ _ => .pure

/-! ## Lists -/

theorem setCounter_performs : Performs e style false (setCounter e) c := by
  unfold setCounter
  refine .get_bind ?_
  split
  · next n counter _ hcounter =>
    refine .unless fun _ => ?_
    refine push_performs ([word "setcounter"] ++ ([opening] ++ chars counter.toList ++ [closing]) ++
      ([opening] ++ chars (toString (n - 1)).toList ++ [closing]) ++ [char '\n']) ?_ ?_
    · simp [braced, render]
    · have hbraced : ∀ cs : List Char, cs.all isPlain → calm ([opening] ++ chars cs ++ [closing]) :=
        fun cs h => calm_braced (quiet_chars (inert_of_plain h)) (depthAfter_chars (by decide) cs)
      have hname := hbraced _ (listCounter?_plain hcounter)
      have hnumber := hbraced _ (all_isPlain_int (n - 1))
      exact calm_append (calm_append (calm_append rfl hname) hnumber) rfl
  · exact .pure

theorem openList_performs (kind : ListKind) :
    Performs e style c.inlineOnly (openList e style kind) c := by
  unfold openList
  extract_lets finish
  refine .get_bind ?_
  cases hinline : c.inlineOnly with
  | true => exact .ite (fun _ => .applying fun _ _ => .pure) fun h => absurd rfl h
  | false =>
    refine .ite (fun h => absurd h (by decide)) fun _ => ?_
    refine .after newline_performs fun _ c₁ _ => ?_
    refine .after (push_performs [beginEnv kind.environment, char '\n'] ?_ ?_) fun _ c₂ _ => ?_
    · cases kind <;> rfl
    · cases kind <;> rfl
    refine .after (onLeave_performs .newline) fun _ c₃ _ => ?_
    refine .after (onLeave_performs (later_text [endEnv kind.environment] ?_ ?_)) fun _ c₄ _ => ?_
    · cases kind <;> rfl
    · cases kind <;> rfl
    refine .after (onLeave_performs .newline) fun _ c₅ _ => ?_
    have hdeeper : Performs e style false (modify fun c => { c with listDepth := c.listDepth + 1 }) c₅ :=
      .move (Ensures.modifies (.note (fun h => h) rfl))
    refine .after hdeeper fun _ c₆ _ => .after (modifyFrame_performs fun _ => rfl) fun _ c₇ _ => ?_
    exact .ite (fun _ => .after setCounter_performs fun _ _ _ => .pure) fun _ => .pure

theorem newline_inline (h : c.inlineOnly = false) :
    Ensures newline c fun _ c' => c'.inlineOnly = false := by
  intro a c' hm
  rw [newline, write] at hm
  split at hm
  · cases hm
    exact h
  · cases hm

/-- Behind its bracket a term is an argument. -/
theorem term_owes (c : Converter) :
    Ensures (onLeave (.text "] ") >>= fun _ => beginArgument) c fun _ c' =>
      c' = Opening.term.owe c := by
  unfold beginArgument onLeave
  refine Ensures.modify_bind (Ensures.modify_bind (Ensures.modifies ?_))
  cases hf : c.frames <;> simp [Opening.owe, Opening.markFirst, Opening.mark, Opening.closers,
    Opening.braces, Opening.isArgument, Opening.isVerbatim, Opening.isList, hf, Converter.output,
    String.length_toList]

/-- The mark of an item; that of a term is an argument up to its bracket. -/
theorem openItem_performs (hinline : c.inlineOnly = false) : Performs e style false (openItem e) c := by
  unfold openItem
  split
  · next htag =>
    have hline : Performs e style false newline c := newline_performs
    refine (Ensures.and hline (newline_inline hinline)).bind fun _ c₁ ⟨h₁, hinline₁⟩ => ?_
    refine (push_yields [word "item", char '['] rfl).ensures.bind fun _ c₂ hw => (term_owes c₂).mono ?_
    rintro _ _ rfl
    exact h₁.move (.term htag hinline₁ hw)
  · exact .pure
  · exact .after newline_performs fun _ _ _ => push_performs [word "item", char ' '] rfl rfl

theorem openListItem_performs : Performs e style true (openListItem e style) c := by
  unfold openListItem
  have hstyled : ∀ c, Performs e style true (applyStyle e style >>= fun _ => pure Flow.descend) c :=
    fun _ => .applying fun _ _ => .pure
  refine .get_bind (.ite (fun _ => .ite (fun _ => ?_) fun _ => hstyled c) fun h => ?_)
  · refine .after spaceApart_performs fun _ c₁ _ => ?_
    refine .after (push_performs [word "textbullet", opening, closing, char ' '] rfl rfl) fun _ c₂ _ => ?_
    exact hstyled c₂
  · refine .ite (fun _ => openParagraph_performs) fun _ => ?_
    exact .after (openItem_performs (by simpa using h)) fun _ c₁ _ => hstyled c₁

/-! ## Rules and line breaks -/

theorem horizontalRule_performs : Performs e style false horizontalRule c := by
  unfold horizontalRule
  refine .get_bind (.unless fun _ => .after newline_performs fun _ _ _ => ?_)
  exact push_performs ([word "par", word "noindent", word "rule", opening, word "textwidth",
    closing, opening] ++ chars "0.4pt".toList ++ [closing, word "par", char '\n']) rfl rfl

theorem lineBreak_performs : Performs e style false lineBreak c := by
  unfold lineBreak
  refine .get_bind (.ite (fun _ => push_performs [word "newline", char ' '] rfl rfl) fun _ => ?_)
  exact .unless fun _ => .after trimSpaces_performs fun _ _ _ => push_performs [lineEnd] rfl rfl

/-! ## Inline elements -/

theorem openEmphasis_performs (k : Emphasis) (htag : e.tag = k.tag) :
    Performs e style true (openEmphasis e style k) c :=
  .applying fun _ _ => .after (wish_performs (.tag htag) (applyEmphasis_grants k _)) fun _ _ _ => .pure

theorem openCode_performs (htag : e.tag = .code) : Performs e style true (openCode e style) c :=
  .applying fun _ _ =>
    .after (wish_performs (.code htag) (applyFamily_grants .monospace _)) fun _ _ _ => .pure

theorem openCommand_performs {command : String}
    (h : command = "textsubscript" ∨ command = "textsuperscript") :
    Performs e style true (openCommand e style command) c :=
  .applying fun _ _ =>
    .after (openArgument_performs [word command] (.script h) (by simp [render])) fun _ _ _ => .pure

theorem openStrike_performs : Performs e style true (openStrike e style) c :=
  .applying fun _ _ => .after (warn_performs _ _) fun _ _ _ => .pure

/-- The label of an anchor, which may hold anything. -/
theorem pushLabel_performs (name : String) : Performs e style false (pushLabel name) c := by
  have hcalm : calm ([word "label"] ++ ([opening] ++ name.toList.flatMap pathTokens ++ [closing])) :=
    calm_append rfl (calm_braced (quiet_path _) (depthAfter_path fun _ => by decide))
  refine Wrote.performs ?_ hcalm
  refine (wrote_bind (push_yields [word "label", opening] rfl) fun _ =>
    wrote_bind (pushPath_yields name) fun _ => push_yields [closing] rfl).mono fun _ _ hw => ?_
  simpa using hw

theorem owes_after {m : Conversion Unit} {next : Unit → Conversion Unit}
    (h : Yields m c fun _ c' => Wrote ts c c')
    (hnext : ∀ c', Ensures (next ()) c' fun _ c'' => Owes us c' c'') :
    Ensures (m >>= next) c fun _ c'' => Owes (ts ++ us) c c'' := by
  refine h.ensures.bind fun _ c' hw => (hnext c').mono ?_
  rintro _ _ ⟨c₂, hw', rfl⟩
  exact ⟨c₂, hw.trans hw', rfl⟩

theorem argument_owes (c : Converter) :
    Ensures (argumentOwed "\x7d") c fun _ c' => Owes [] c c' :=
  (argumentOwed_opens c).mono fun _ _ heq => ⟨c, .nil, heq⟩

theorem Owes.performs {m : Conversion Unit} (head : Heads e ts)
    (h : Ensures m c fun _ c' => Owes us c c') (hus : us = ts ++ [opening]) :
    Performs e style false m c := by
  refine .move (h.mono ?_)
  rintro _ _ ⟨c₁, hw, rfl⟩
  exact .command head (hus ▸ hw)

/-- A link to a fragment is the argument behind another one in brackets. -/
theorem openLink_owes {href fragment : String} (hfragment : Text.afterStart? "#" href = some fragment)
    (hsome : fragment.isEmpty = false) :
    Ensures (openLink e href) c fun _ c' =>
      Owes ([word "hyperref", char '['] ++ fragment.toList.flatMap pathTokens ++ [char ']'] ++ [opening])
        c c' := by
  unfold openLink
  rw [hfragment]
  refine Ensures.unless (fun _ => ?_) fun hempty => absurd hempty (by simp [hsome])
  refine (owes_after (push_yields [word "hyperref", char '['] rfl) fun _ =>
    owes_after (pushPath_yields fragment) fun _ =>
    owes_after (push_yields [char ']', opening] rfl) argument_owes).mono fun _ _ h => ?_
  simpa using h

theorem openLink_performs {href : String} (htag : e.tag = .anchor)
    (hhref : e.nonBlankAttribute? "href" = some href) :
    Performs e style false (openLink e href) c := by
  cases hfragment : Text.afterStart? "#" href with
  | some fragment =>
    cases hempty : fragment.isEmpty with
    | false => exact Owes.performs (.fragment htag hhref hfragment hempty) (openLink_owes hfragment hempty) rfl
    | true =>
      unfold openLink
      rw [hfragment]
      exact .unless fun hsome => absurd hempty hsome
  | none =>
    unfold openLink
    rw [hfragment]
    refine .ite (fun _ => warn_performs _ _) fun _ => Owes.performs (.target href)
      (owes_after (push_yields [word "href", opening] rfl) fun _ =>
        owes_after (pushUrl_yields href) fun _ =>
        owes_after (push_yields [closing, opening] rfl) argument_owes) ?_
    simp

theorem openAnchor_performs (htag : e.tag = .anchor) :
    Performs e style true (openAnchor e style) c := by
  unfold openAnchor
  extract_lets finish link
  have hlink : ∀ c, Performs e style true (link ()) c := by
    refine fun c => .applying fun c₁ _ => ?_
    cases hhref : e.nonBlankAttribute? "href" with
    | none => exact .pure
    | some href => exact .after (openLink_performs htag hhref) fun _ _ _ => .pure
  cases anchorName? e with
  | none => exact hlink c
  | some name => exact .after (pushLabel_performs name) fun _ c₁ _ => hlink c₁

theorem orWarn_performs {α : Type} {name : String} {value : Except Fault α} {use : α → Conversion Unit}
    (h : ∀ a, value = .ok a → Performs e style false (use a) c) :
    Performs e style false (orWarn name value use) c := by
  cases value with
  | ok a => exact h a rfl
  | error fault => exact warn_performs fault (some name)

theorem openSpan_performs (hspan : IsSpan e) : Performs e style true (openSpan e style) c := by
  unfold openSpan
  refine .applying fun c₁ _ => ?_
  extract_lets finish family size
  have hfinish : ∀ c, Performs e style false (finish ()) c := fun _ => .pure
  have hfamily : ∀ c, Performs e style false (family ()) c := by
    intro c
    dsimp only [family]
    split
    · next g hg =>
      exact .after (wish_performs (.family hspan hg) (applyFamily_grants g c)) fun _ c _ => hfinish c
    · exact hfinish c
  have hsize : ∀ c, Performs e style false (size ()) c := by
    intro c
    dsimp only [size]
    cases hvalue : spanSize? e style with
    | none => exact hfamily c
    | some value =>
      refine .after (orWarn_performs fun switch hok => ?_) fun _ c _ => hfamily c
      rw [hok] at hvalue
      exact wish_performs (.size hspan hvalue) (applySize_grants (spanSize?_isSize hvalue) c)
  refine .ite (fun _ => hsize c₁) fun hfree => ?_
  cases hcolor : e.attribute? "color" with
  | none => exact hsize c₁
  | some value =>
    refine .after (orWarn_performs fun hex hread => ?_) fun _ c _ => hsize c
    exact wish_performs (.colorAttribute hspan (by simpa using hfree) hcolor hread)
      (applyColor_grants hex _)

/-! ## Parts of tables -/

theorem modifyTable_performs {f : TableState → TableState}
    (hf : ∀ t, t.inCell = true → (f t).inCell = true) :
    Performs e style false (modifyTable f) c := by
  refine .move (Ensures.modifies (.note (fun h => ?_) rfl))
  cases ht : c.table with
  | none => simp [Converter.inCell, ht] at h
  | some t => simpa using hf t (by simpa [Converter.inCell, ht] using h)

theorem openRow_performs : Performs e style false (openRow setting) c := by
  unfold openRow
  extract_lets finish
  refine .get_bind (.ite (fun _ => .after (warn_performs _ _) fun _ _ _ => .pure) fun _ =>
    .ite (fun _ => .after (warn_performs _ _) fun _ _ _ => .pure) fun _ => ?_)
  refine .after (modifyTable_performs fun _ h => h) fun _ _ _ => ?_
  refine .after (onLeave_performs ?_) fun _ _ _ => .pure
  unfold rowEnd
  cases setting.options.tableBorders with
  | true => exact later_text [char ' ', ruleEnd] rfl rfl
  | false => exact later_text [char ' ', lineEnd] rfl rfl

theorem beginCell_performs (colspan : Nat) : Performs e style false (beginCell colspan) c := by
  unfold beginCell
  refine .get_bind ?_
  extract_lets column mark
  have hmark : ∀ c, Performs e style false (mark ()) c := fun c =>
    .get_bind (modifyFrame_performs fun _ => rfl)
  refine .after (modifyTable_performs fun _ _ => rfl) fun _ c₁ _ => ?_
  refine .ite (fun _ => .after trimSpaces_performs fun _ _ _ => ?_) fun _ => hmark c₁
  exact .after (push_performs [char ' ', char '&', char ' '] rfl rfl) fun _ c _ => hmark c

/-- A cell that was begun takes inline material only. -/
theorem beginCell_inline {t : TableState} (ht : c.table = some t) (colspan : Nat) :
    Ensures (beginCell colspan) c fun _ c' => c'.inlineOnly = true :=
  (beginCell_begins ht colspan).mono fun _ c' ⟨_, _, htable⟩ => by
    simp [Converter.inlineOnly, Converter.inCell, htable]

theorem openCell_performs (header : Bool) (colspan : Nat) :
    Performs e style true (openCell e style header colspan) c := by
  unfold openCell
  have hwarned : ∀ fault, Performs e style true (do
      warn fault (some e.name)
      applyStyle e style
      return Flow.descend) c := fun fault =>
    .after (warn_performs _ _) fun _ _ _ => .applying fun _ _ => .pure
  refine .get_bind (.ite (fun _ => hwarned _) fun hsome => .ite (fun _ => hwarned _) fun _ => ?_)
  obtain ⟨t, ht⟩ := Option.ne_none_iff_exists'.mp (by simpa using hsome)
  extract_lets styled
  have hstyled : ∀ c, Performs e style true (styled ()) c := fun _ => .applying fun _ _ => .pure
  refine ((beginCell_performs colspan).and (beginCell_inline ht colspan)).bind
    fun _ c₁ ⟨h₁, hinline⟩ => Ensures.mono ?_ fun _ _ h₂ => h₁.trans h₂
  refine Performs.ite (fun _ => ?_) fun _ => hstyled c₁
  exact .after (wish_performs (.inlineBold hinline) (applyEmphasis_grants .bold c₁)) fun _ c₂ _ => hstyled c₂

/-- A caption is kept for the end of its table, if there is one. -/
theorem stageCaption_performs (doc : Document) (id : Nat) :
    Ensures (stageCaption doc id) c fun staged c' =>
      staged = c.table.isSome ∧ Acts e style false c c' := by
  unfold stageCaption
  refine Ensures.get_bind ?_
  cases ht : c.table with
  | none => exact Ensures.pure ⟨rfl, .refl c⟩
  | some t =>
    refine Ensures.modify_bind (Ensures.pure ⟨rfl, .single (.note (fun h => ?_) rfl)⟩)
    simpa [Converter.inCell, ht] using h

theorem reportUnknown_performs (name : String) : Performs e style false (reportUnknown name) c := by
  unfold reportUnknown
  refine .get_bind (.unless fun _ => ?_)
  have hnote : Performs e style false (modify fun c => { c with reported := name :: c.reported }) c :=
    .move (Ensures.modifies (.note (fun h => h) rfl))
  exact .after hnote fun _ _ _ => warn_performs _ _

/-! ## Elements -/

/-- The handlers but those of tables and images. -/
theorem openElement_performs (htable : e.tag ≠ .table) (himage : e.tag ≠ .image) :
    Performs e style (appliesStyle e c) (openElement doc setting id e style) c := by
  unfold openElement appliesStyle
  cases htag : e.tag with
  | document | html | body | tableSection | head | title | script | style => exact .pure
  | paragraph => exact openParagraph_performs
  | division => exact openDivision_performs
  | center => exact openEnvironment_performs .center
  | blockquote => exact openEnvironment_performs .quote
  | heading level => exact openHeading_performs htag
  | preformatted => exact openPreformatted_performs
  | bold => exact openEmphasis_performs .bold htag
  | italic => exact openEmphasis_performs .italic htag
  | underline => exact openEmphasis_performs .underline htag
  | strike => exact openStrike_performs
  | code => exact openCode_performs htag
  | subscript => exact openCommand_performs (.inl rfl)
  | superscript => exact openCommand_performs (.inr rfl)
  | anchor => exact openAnchor_performs htag
  | span => exact openSpan_performs (.inl htag)
  | font => exact openSpan_performs (.inr htag)
  | unorderedList => exact openList_performs .bulleted
  | orderedList => exact openList_performs .numbered
  | descriptionList => exact openList_performs .described
  | listItem | descriptionTerm | descriptionDetails => exact openListItem_performs
  | table => exact absurd htag htable
  | tableRow => exact openRow_performs
  | tableCell header colspan => exact openCell_performs header colspan
  | caption =>
    have hstage : Ensures (stageCaption doc id) c fun staged c' =>
        staged = c.table.isSome ∧ Acts e style false c c' := stageCaption_performs doc id
    refine hstage.bind fun staged c₁ ⟨hstaged, h₁⟩ => ?_
    cases ht : c.table with
    | none =>
      rw [hstaged, ht]
      exact openParagraph_performs.mono fun _ _ h₂ => h₁.trans h₂
    | some t =>
      rw [hstaged, ht]
      exact Ensures.pure h₁
  | image => exact absurd htag himage
  | horizontalRule => exact .after horizontalRule_performs fun _ _ _ => .pure
  | lineBreak => exact .after lineBreak_performs fun _ _ _ => .pure
  | other name => exact .after (reportUnknown_performs name) fun _ _ _ => .applying fun _ _ => .pure

/-- An element that is entered outside of verbatim blocks. -/
theorem enter_acts (htable : e.tag ≠ .table) (himage : e.tag ≠ .image) (hpre : c.preDepth = 0) :
    Ensures (enter doc setting id e style) c fun _ c' =>
      Acts e style (appliesStyle e c) (c.opened (mayFormat e style && doc.hasBlockContent id)) c' :=
  .enter hpre (openElement_performs htable himage)

end MarkupTex.Convert
