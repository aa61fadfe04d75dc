import MarkupTex.Proofs.Convert.Blocks
/-!
# Inline elements and runs of text

Emphasis, links and spans open arguments and groups.  A run of text is different from all that is
written besides it: it may begin with any letter.  `AddsRow` keeps it apart, as one row that is added to an
output that is as it was before.
-/

set_option autoImplicit false

namespace MarkupTex.Convert

open Latex Token

variable {o : Options} {c c₁ c' : Converter} {e : Element} {style : Style}

theorem openEmphasis_proceeds (hc : Framed c) (emphasis : Emphasis) :
    Proceeds o (openEmphasis e style emphasis) c := by
  unfold openEmphasis
  refine .after (applyStyle_steady e style) hc fun _ c₁ hc₁ => ?_
  exact .descend (applyEmphasis_steady emphasis c₁ hc₁)

theorem openCode_proceeds (hc : Framed c) : Proceeds o (openCode e style) c := by
  unfold openCode
  refine .after (applyStyle_steady e style) hc fun _ c₁ hc₁ => ?_
  exact .descend (applyFamily_steady .monospace c₁ hc₁)

theorem openCommand_proceeds (hc : Framed c) {w : String}
    (h : fluent ([word w] ++ [opening])) : Proceeds o (openCommand e style w) c := by
  unfold openCommand
  refine .after (applyStyle_steady e style) hc fun _ c₁ hc₁ => ?_
  refine .descend (openArgument_works [word w] hc₁ ?_ (.of_fluent (fun _ => rfl) rfl h))
  simp [render]

theorem openStrike_proceeds (hc : Framed c) : Proceeds o (openStrike e style) c := by
  unfold openStrike
  refine .after (applyStyle_steady e style) hc fun _ c₁ hc₁ => ?_
  exact .descend (warn_steady _ _ c₁ hc₁)

/-! ## Links -/

section Writing

variable {ts us : List Token}

/-- A row that is added changes nothing else. -/
theorem write_steady {m : Conversion Unit} (ts : List Token) (h : ∀ c, Yields m c fun _ c' => Wrote ts c c')
    (hneutral : ∀ stack, nest stack ts = some stack) (hfluent : fluent ts)
    (head : letterFirst ts = false) : Steady o m := fun c _ =>
  (h c).mono fun _ _ hw => .of_edit (.write hw (.of_fluent hneutral hfluent) head)

end Writing

theorem fluent_path (s : String) : fluent (s.toList.flatMap pathTokens) :=
  fluent_flatMap fluent_pathTokens s.toList

theorem nest_path (s : String) (stack : List Bracket) :
    nest stack (s.toList.flatMap pathTokens) = some stack :=
  nest_flatMap nest_pathTokens stack s.toList

/-- The label of an anchor, which may hold anything. -/
theorem pushLabel_steady (name : String) : Steady o (pushLabel name) := by
  refine write_steady ([word "label", opening] ++ (name.toList.flatMap pathTokens ++ [closing]))
    (fun c => ?_) ?_ ?_ rfl
  · refine wrote_bind (push_yields _ rfl) fun _ => wrote_bind (pushPath_yields name) fun _ => ?_
    exact push_yields _ rfl
  · intro stack
    simp [nest_append, nest, turn, nest_path, close]
  · exact fluent_append rfl (fluent_append (fluent_path name) rfl)

/-- A row was added, and what it ends in is owed for as an argument. -/
def Owes (ts : List Token) (c c' : Converter) : Prop :=
  ∃ c₁, Wrote ts c c₁ ∧ c' = Opening.argument.owe c₁

theorem owes_bind {ts us : List Token} {m : Conversion Unit} {next : Unit → Conversion Unit}
    (hc : Framed c) (h : Yields m c fun _ c' => Wrote ts c c')
    (hnext : ∀ c', Framed c' → Yields (next ()) c' fun _ c'' => Owes us c' c'') :
    Yields (m >>= next) c fun _ c'' => Owes (ts ++ us) c c'' := by
  refine h.bind fun _ c' hw => (hnext c' (hw.framed hc)).mono ?_
  rintro _ _ ⟨c₂, hw', rfl⟩
  exact ⟨c₂, hw.trans hw', rfl⟩

theorem argumentOwed_owes (hc : Framed c) :
    Yields (argumentOwed "\x7d") c fun _ c' => Owes [] c c' := by
  refine (argumentOwed_yields hc).mono ?_
  rintro _ _ rfl
  exact ⟨c, .nil, rfl⟩

theorem Owes.works {us : List Token} (ts : List Token) (h : Owes us c c') (hs : us = ts ++ [opening])
    (hopens : OpensBrace o c (ts ++ [opening])) : Works o c c' := by
  obtain ⟨c₁, hw, rfl⟩ := h
  rw [hs] at hw
  exact .of_open rfl (argument_open hopens ⟨ts, Or.inl rfl⟩ hw)

theorem openLink_steady (href : String) : Steady o (openLink e href) := by
  intro c hc
  unfold openLink
  split
  · next fragment _ =>
    refine Yields.unless (fun _ => ?_) fun _ => .refl c
    refine (owes_bind hc (push_yields [word "hyperref", char '['] rfl) fun _ hc₁ =>
      owes_bind hc₁ (pushPath_yields fragment) fun _ hc₂ =>
      owes_bind hc₂ (push_yields [char ']', opening] rfl) fun _ hc₃ =>
      argumentOwed_owes hc₃).mono fun _ _ h => ?_
    refine h.works ([word "hyperref", char '['] ++ fragment.toList.flatMap pathTokens ++
      [char ']']) (by simp) (.of_fluent (fun stack => ?_) rfl ?_)
    · simp [nest_append, nest, turn, nest_path]
    · exact fluent_append (fluent_append (fluent_append rfl (fluent_path fragment)) rfl) rfl
  · refine Yields.ite (fun _ => warn_steady _ _ c hc) fun _ => ?_
    refine (owes_bind hc (push_yields [word "href", opening] rfl) fun _ hc₁ =>
      owes_bind hc₁ (pushUrl_yields href) fun _ hc₂ =>
      owes_bind hc₂ (push_yields [closing, opening] rfl) fun _ hc₃ =>
      argumentOwed_owes hc₃).mono fun _ _ h => ?_
    have hurl := fluent_flatMap fluent_urlTokens href.toList
    refine h.works ([word "href", opening] ++ href.toList.flatMap urlTokens ++ [closing])
      (by simp) (.of_fluent (fun stack => ?_) rfl ?_)
    · simp [nest_append, nest, turn, nest_flatMap nest_urlTokens, close]
    · exact fluent_append (fluent_append (fluent_append rfl hurl) rfl) rfl

theorem openAnchor_proceeds (hc : Framed c) : Proceeds o (openAnchor e style) c := by
  unfold openAnchor
  extract_lets finish link
  have hfinish : ∀ c', Framed c' → Proceeds o (finish ()) c' := fun _ _ => .pure (by decide)
  have hlink : ∀ c', Framed c' → Proceeds o (link ()) c' := by
    intro c' hc'
    refine .after (applyStyle_steady e style) hc' fun _ c₁ hc₁ => ?_
    split
    · exact .after (openLink_steady _) hc₁ fun _ => hfinish
    · exact hfinish c₁ hc₁
  split
  · exact .after (pushLabel_steady _) hc fun _ => hlink
  · exact hlink c hc

theorem spanSize?_isSize {switch : String} (h : spanSize? e style = some (.ok switch)) :
    IsSize switch := by
  unfold spanSize? at h
  split at h
  · exact sizeOfStyle_isSize (Option.some.inj h)
  · obtain ⟨size, -, hsize⟩ := Option.map_eq_some_iff.mp h
    exact sizeOfFont_isSize hsize

theorem openSpan_proceeds (hc : Framed c) : Proceeds o (openSpan e style) c := by
  unfold openSpan
  refine .after (applyStyle_steady e style) hc fun _ c₁ hc₁ => ?_
  -- The rest of the action from each of its steps on, the last one first.
  extract_lets finish family size
  have hfinish : ∀ c', Framed c' → Proceeds o (finish ()) c' := fun _ _ => .pure (by decide)
  have hfamily : ∀ c', Framed c' → Proceeds o (family ()) c' := by
    intro c' hc'
    dsimp only [family]
    split
    · exact .after (applyFamily_steady _) hc' fun _ => hfinish
    · exact hfinish c' hc'
  have hsize : ∀ c', Framed c' → Proceeds o (size ()) c' := by
    intro c' hc'
    dsimp only [size]
    split
    · next value hvalue =>
      exact .after (orWarn_steady fun _ hv => applySize_steady (spanSize?_isSize (hv ▸ hvalue))) hc'
        fun _ => hfamily
    · exact hfamily c' hc'
  refine .ite (fun _ => hsize c₁ hc₁) fun _ => ?_
  split
  · exact .after (orWarn_color_steady applyColor_steady) hc₁ fun _ => hsize
  · exact hsize c₁ hc₁

/-! ## Runs of text -/

/-- One row is added to the output, of which it is not known what it begins with. -/
def AddsRow (o : Options) (c c' : Converter) : Prop := ∃ ts, Piece o c ts ∧ Wrote ts c c'

section Runs

variable {ts us : List Token}

/-- A background around a row. -/
def boxed : Option String → List Token → List Token
  | none, ts => ts
  | some hex, ts => colorCommand "colorbox" ++ chars hex.toList ++ [closing, opening] ++ ts ++ [closing]

/-- An underline around a row. -/
def underlined : Bool → List Token → List Token
  | false, ts => ts
  | true, ts => [word "underline", opening] ++ ts ++ [closing]

theorem fluent_text (s : String) : fluent (s.toList.flatMap textTokens) :=
  fluent_flatMap fluent_textTokens s.toList

theorem nest_text (s : String) (stack : List Bracket) :
    nest stack (s.toList.flatMap textTokens) = some stack :=
  nest_flatMap nest_textTokens stack s.toList

theorem guarded_of_fluent (h : fluent ts) : guarded ts := by
  simp only [fluent, Bool.and_eq_true] at h
  exact h.2

theorem nest_boxed {background : Option String} (h : ∀ stack, nest stack ts = some stack)
    (stack : List Bracket) : nest stack (boxed background ts) = some stack := by
  cases background with
  | none => exact h stack
  | some hex => simp [boxed, colorCommand, nest_append, nest, turn, nest_chars, close, h]

theorem nest_underlined {underline : Bool} (h : ∀ stack, nest stack ts = some stack)
    (stack : List Bracket) : nest stack (underlined underline ts) = some stack := by
  cases underline with
  | false => exact h stack
  | true => simp [underlined, nest_append, nest, turn, close, h]

theorem guarded_boxed {background : Option String} (h : guarded ts) :
    guarded (boxed background ts) := by
  cases background with
  | none => exact h
  | some hex =>
    exact guarded_append (guarded_append (guarded_append (guarded_append rfl (guarded_chars _)) rfl) h)
      rfl

theorem fluent_boxed {background : Option String}
    (hhex : ∀ hex, background = some hex → hex.toList.all isPlain) (h : fluent ts) :
    fluent (boxed background ts) := by
  cases background with
  | none => exact h
  | some hex =>
    have hdigits := fluent_chars (hhex hex rfl)
    exact fluent_append (fluent_append (fluent_append (fluent_append rfl hdigits) rfl) h) rfl

theorem fluent_underlined {underline : Bool} (h : fluent ts) :
    fluent (underlined underline ts) := by
  cases underline with
  | false => exact h
  | true => exact fluent_append (fluent_append rfl h) rfl

/-- A row that is fluent where the state is tame. -/
theorem Turns.of_tame (hneutral : ∀ stack, nest stack ts = some stack)
    (hguarded : Latex.guarded ts) (h : c.Tame → fluent ts) : Piece o c ts := by
  have hpiece : c.Tame → Piece o c ts := fun ht => .of_fluent hneutral (h ht)
  exact ⟨hneutral, hguarded, fun ht => (hpiece ht).known ht, fun ht => (hpiece ht).fits ht,
    fun ht => (hpiece ht).single ht⟩

/-- Something that is written only in one case. -/
theorem pushWhen_yields {b : Bool} {s : String} {next : Unit → Conversion Unit}
    (hs : s.toList = spell ts) (hnext : ∀ c', Yields (next ()) c' fun _ c'' => Wrote us c' c'') :
    Yields (if b = true then push s >>= next else next ()) c
      fun _ c' => Wrote ((if b = true then ts else []) ++ us) c c' := by
  cases b with
  | false => exact hnext c
  | true => exact wrote_bind (push_yields _ hs) hnext

/-- A run with a background and an underline around its middle. -/
theorem pushWrapped_yields (background : Option String) (underline : Bool)
    (front middle rest : String) :
    Yields (do
        pushEscaped front
        if let some hex := background then push ("\\colorbox[HTML]" ++ braced hex ++ "\x7b")
        if underline then push "\\underline\x7b"
        pushEscaped middle
        if underline then push "\x7d"
        if background.isSome then push "\x7d"
        pushEscaped rest) c fun _ c' =>
      Wrote (front.toList.flatMap textTokens ++
        (boxed background (underlined underline (middle.toList.flatMap textTokens)) ++
          rest.toList.flatMap textTokens)) c c' := by
  refine wrote_bind (pushEscaped_yields front) fun c₁ => ?_
  -- The rest of the action from each of its steps on, the last one first.
  extract_lets finish unboxed inside run
  have hfinish : ∀ c', Yields (finish ()) c' fun _ c'' =>
      Wrote (rest.toList.flatMap textTokens) c' c'' := fun c' => pushEscaped_yields rest
  have hunboxed : ∀ c', Yields (unboxed ()) c' fun _ c'' =>
      Wrote ((if background.isSome = true then [closing] else []) ++ _) c' c'' := fun c' =>
    pushWhen_yields rfl hfinish
  have hinside : ∀ c', Yields (inside ()) c' fun _ c'' => Wrote (middle.toList.flatMap textTokens ++
      ((if underline = true then [closing] else []) ++ _)) c' c'' := fun c' =>
    wrote_bind (pushEscaped_yields middle) fun _ => pushWhen_yields rfl hunboxed
  have hrun : ∀ c', Yields (run ()) c' fun _ c'' =>
      Wrote ((if underline = true then [word "underline", opening] else []) ++ _) c' c'' := fun c' =>
    pushWhen_yields rfl hinside
  clear_value run
  cases background with
  | none =>
    refine (hrun c₁).mono fun _ _ hw => hw.congr ?_
    cases underline <;> simp [boxed, underlined]
  | some hex =>
    have hs : ("\\colorbox[HTML]" ++ braced hex ++ "\x7b").toList =
        spell (colorCommand "colorbox" ++ chars hex.toList ++ [closing, opening]) := by
      simp [colorCommand, braced, render]
    refine (wrote_bind (push_yields _ hs) hrun).mono fun _ _ hw => hw.congr ?_
    cases underline <;> simp [boxed, underlined]

theorem appendRun_addsRow (s : String) : Yields (appendRun s) c fun _ c' => AddsRow o c c' := by
  unfold appendRun
  refine Yields.get_bind (Yields.ite (fun _ => ?_) fun _ => ?_)
  · refine (pushEscaped_yields s).mono fun _ _ hw => ⟨_, ?_, hw⟩
    exact .of_fluent (nest_text s) (fluent_text s)
  · refine (pushWrapped_yields _ _ _ _ _).mono fun _ _ hw =>
      ⟨_, .of_tame (fun stack => ?_) ?_ fun ht => ?_, hw⟩
    · rw [nest_append, nest_text, Option.bind_some, nest_append,
        nest_boxed (nest_underlined (nest_text _)), Option.bind_some, nest_text]
    · exact guarded_append (guarded_of_fluent (fluent_text _)) (guarded_append
        (guarded_boxed (guarded_of_fluent (fluent_underlined (fluent_text _))))
        (guarded_of_fluent (fluent_text _)))
    · have hplain : ∀ hex, (c.formatting.pendingBackground.filter fun _ =>
          !c.formatting.active.contains Kinds.background) = some hex → hex.toList.all isPlain :=
        fun hex h => ht.formatting hex (Option.filter_eq_some_iff.mp h).1
      exact fluent_append (fluent_text _) (fluent_append
        (fluent_boxed hplain (fluent_underlined (fluent_text _))) (fluent_text _))

/-- In a verbatim block a text is written as it is, which is not tame. -/
theorem push_addsRow {s : String} (h : c.preDepth ≠ 0) :
    Yields (push s) c fun _ c' => AddsRow o c c' :=
  (push_yields (chars s.toList) (by simp)).mono fun _ _ hw =>
    ⟨_, .of_tame (fun stack => nest_chars stack _) (guarded_chars _) fun ht => absurd ht.pre h, hw⟩

theorem addsRow_nil (h : Wrote [] c c') : AddsRow o c c' :=
  ⟨[], .of_fluent (fun _ => rfl) rfl, h⟩

theorem emitText_addsRow (setting : Setting) (s : String) :
    Yields (emitText setting s) c fun _ c' => AddsRow o c c' := by
  unfold emitText
  refine Yields.get_bind (Yields.ite (fun h => ?_) fun _ => Yields.ite (fun _ => ?_) fun _ =>
    Yields.ite (fun _ => appendRun_addsRow s) fun _ => ?_)
  · exact push_addsRow (Nat.pos_iff_ne_zero.mp h)
  · exact Yields.unless (fun _ => (warn_wrote _ _).mono fun _ _ h => addsRow_nil h) fun _ => addsRow_nil .nil
  · exact Yields.unless (fun _ => appendRun_addsRow _) fun _ => addsRow_nil .nil

end Runs

end MarkupTex.Convert
