import MarkupTex.Proofs.Convert.Added
import MarkupTex.Proofs.Convert.Arguments
import MarkupTex.Proofs.Convert.Form
import MarkupTex.Proofs.Convert.Lasting
import MarkupTex.Proofs.Convert.Styled
import MarkupTex.Proofs.Convert.Texts
/-!
# Brackets that are out in the open

A closing bracket ends an argument in brackets where no brace is around it.  `Levels d d' c c'` says that
the row which came behind the output leads from one depth of braces to the other with no such bracket on the
way.  Most of what is written leaves the depth as it was, `Calms`; on entering an element it goes down by the
braces that the element opens, and on leaving it comes up again.

There are few things that write a bracket of their own, so that a row has to be deep enough for them: the
commands for colors, links to a fragment, images with options, and texts that have one.
-/

set_option autoImplicit false

namespace MarkupTex.Convert

open Latex Token

variable {α : Type} {doc : Document} {setting : Setting} {id d d' d₁ n : Nat} {e : Element} {style : Style}
  {c c' c₁ c₂ : Converter} {ts us : List Token} {f : Formatting} {s : String} {w : Wish} {closer : Closer}
  {closers : List Closer}

/-! ## From one depth to another -/

theorem calm_spaces (n : Nat) : calm (List.replicate n (char ' ')) := by
  induction n with
  | zero => rfl
  | succ n ih => exact calm_append (a := [char ' ']) rfl ih

theorem calm_trimmed (h : calm ts) : calm (trimmed ts) := by
  simp only [calm, Bool.and_eq_true, beq_iff_eq] at h ⊢
  rw [depthAfter_trimmed]
  exact ⟨trimmed_all h.1, h.2⟩

/-- A calm row came behind the output, and as many braces are owed as before. -/
structure Calms (c c' : Converter) : Prop where
  row : ∃ ts, calm ts ∧ Added ts c c'
  braces : c'.openBraces = c.openBraces

namespace Calms

theorem of_output (h : c'.output = c.output) (braces : c'.openBraces = c.openBraces) : Calms c c' := by
  obtain ⟨n, hadded⟩ := Added.of_output h
  exact ⟨⟨_, calm_spaces n, hadded⟩, braces⟩

theorem of_wrote (h : Wrote ts c c') (hts : calm ts) : Calms c c' := by
  obtain ⟨n, hadded⟩ := Added.of_wrote h (regular_of_quiet (quiet_of_calm hts))
  exact ⟨⟨_, calm_append (calm_spaces n) hts, hadded⟩, h.keeps.openBraces⟩

theorem trims (c : Converter) : Calms c { c with buffer := c.buffer.trimSpaces } :=
  ⟨⟨[], rfl, .trim⟩, rfl⟩

theorem trans (h : Calms c c₁) (h' : Calms c₁ c₂) : Calms c c₂ := by
  obtain ⟨⟨a, ha, hadded⟩, braces⟩ := h
  obtain ⟨⟨b, hb, hadded'⟩, braces'⟩ := h'
  exact ⟨⟨_, calm_append (calm_trimmed ha) hb, hadded.trans hadded'⟩, braces'.trans braces⟩

end Calms

instance : Std.Refl Calms := ⟨fun _ => .of_output rfl rfl⟩

instance : Trans Calms Calms Calms := ⟨Calms.trans⟩

/-- The row that came behind the output leads from one depth of braces to another. -/
def Levels (d d' : Nat) (c c' : Converter) : Prop := ∃ ts, Added ts c c' ∧ depthAfter d ts = some d'

namespace Levels

theorem of_calms (h : Calms c c') (d : Nat) : Levels d d c c' := by
  obtain ⟨ts, hts, hadded⟩ := h.row
  exact ⟨ts, hadded, depthAfter_of_calm hts d⟩

theorem of_output (h : c'.output = c.output) (d : Nat) : Levels d d c c' := by
  obtain ⟨n, hadded⟩ := Added.of_output h
  exact ⟨_, hadded, depthAfter_of_calm (calm_spaces n) d⟩

theorem of_wrote (h : Wrote ts c c₁) (hts : ts.all isRegular) (hd : depthAfter d ts = some d')
    (houtput : c'.output = c₁.output) : Levels d d' c c' := by
  obtain ⟨n, hadded⟩ := Added.of_wrote h hts
  refine ⟨_, ⟨hadded.regular, houtput.trans hadded.output⟩, ?_⟩
  rw [depthAfter_append, depthAfter_of_calm (calm_spaces n), Option.bind_some, hd]

theorem trans (h : Levels d d₁ c c₁) (h' : Levels d₁ d' c₁ c') : Levels d d' c c' := by
  obtain ⟨a, hadded, ha⟩ := h
  obtain ⟨b, hadded', hb⟩ := h'
  refine ⟨_, hadded.trans hadded', ?_⟩
  rw [depthAfter_append, depthAfter_trimmed, ha, Option.bind_some, hb]

theorem before (h : Levels d d' c₁ c') (houtput : c₁.output = c.output) : Levels d d' c c' :=
  (of_output houtput d).trans h

theorem after (h : Levels d d' c c₁) (houtput : c'.output = c₁.output) : Levels d d' c c' :=
  h.trans (of_output houtput d')

end Levels

/-! ### Actions that are calm -/

theorem newline_calms : Relates Calms newline := fun c =>
  (newline_writes c).mono fun _ _ ⟨_, hts, hw⟩ => .of_wrote hw (by rcases hts with rfl | rfl <;> rfl)

theorem trimSpaces_calms : Relates Calms trimSpaces := fun c => Ensures.modifies (.trims c)

theorem paragraphBreak_calms : Relates Calms paragraphBreak := by
  refine fun c => (paragraphBreak_writes c).mono ?_
  rintro _ c' (rfl | ⟨ts, hts, hw⟩)
  · exact .of_output rfl rfl
  · exact (Calms.trims c).trans (.of_wrote hw hts)

theorem push_calms {s : String} (ts : List Token) (hs : s.toList = spell ts) (hts : calm ts) :
    Relates Calms (push s) := fun _ => (push_yields ts hs).ensures.mono fun _ _ hw => .of_wrote hw hts

theorem spaceApart_calms : Relates Calms spaceApart :=
  .get_bind fun _ => .unless fun _ => push_calms [char ' '] rfl rfl

theorem pushTimes_calms {s : String} (ts : List Token) (hs : s.toList = spell ts) (hts : calm ts) :
    ∀ n, Relates Calms (pushTimes s n)
  | 0 => .pure ()
  | n + 1 => (push_calms ts hs hts).bind fun _ => pushTimes_calms ts hs hts n

/-! ## Texts -/

/-- Color commands have an argument in brackets. -/
theorem depthAfter_colorCommand (hd : 0 < d) (name : String) (hex : List Char) :
    depthAfter d (colorCommand name ++ chars hex ++ [closing]) = some d := by
  obtain ⟨d, rfl⟩ := Nat.exists_eq_succ_of_ne_zero (Nat.pos_iff_ne_zero.mp hd)
  simp [colorCommand, depthAfter_append, depthAfter, Token.depth, depthAfter_chars]

theorem depthAfter_underlined {underline : Bool} (h : ∀ d', d ≤ d' → depthAfter d' ts = some d') :
    depthAfter d (underlined underline ts) = some d := by
  cases underline with
  | false => exact h d (Nat.le_refl d)
  | true =>
    rw [underlined, depthAfter_append, depthAfter_append]
    simp [depthAfter, Token.depth, h (d + 1) (Nat.le_succ d)]

theorem depthAfter_boxed {background : Option String} (hdeep : background.isSome → 0 < d)
    (h : ∀ d', d ≤ d' → depthAfter d' ts = some d') : depthAfter d (boxed background ts) = some d := by
  cases background with
  | none => exact h d (Nat.le_refl d)
  | some hex =>
    have hsplit : boxed (some hex) ts = (colorCommand "colorbox" ++ chars hex.toList ++ [closing]) ++
        ([opening] ++ ts ++ [closing]) := by
      simp [boxed]
    rw [hsplit, depthAfter_append, depthAfter_colorCommand (hdeep rfl), Option.bind_some,
      depthAfter_append, depthAfter_append]
    simp [depthAfter, Token.depth, h (d + 1) (Nat.le_succ d)]

/-- A run of text stays at its depth, unless it has a bracket or brings a background with it. -/
theorem TextRow.depth (h : TextRow f s ts) (hbracket : ']' ∈ s.toList → 0 < d)
    (hbackground : f.runBackground.isSome → 0 < d) : depthAfter d ts = some d := by
  have htext : ∀ {cs}, PartOf s cs → ∀ d', d ≤ d' →
      depthAfter d' (cs.flatMap textTokens) = some d' := by
    intro cs hpart d' hle
    refine depthAfter_text fun hmem => ?_
    rcases hpart _ hmem with hspace | hmem
    · cases hspace
    · exact Nat.lt_of_lt_of_le (hbracket hmem) hle
  cases h with
  | nothing => rfl
  | plain part => exact htext part d (Nat.le_refl d)
  | @wrapped _ middle _ start core stop =>
    have hmiddle : ∀ d', d ≤ d' → depthAfter d'
        (underlined f.runUnderline (middle.flatMap textTokens)) = some d' := fun d' hle =>
      depthAfter_underlined fun d'' hle' => htext core d'' (Nat.le_trans hle hle')
    rw [depthAfter_append, htext start d (Nat.le_refl d), Option.bind_some, depthAfter_append,
      depthAfter_boxed hbackground hmiddle, Option.bind_some, htext stop d (Nat.le_refl d)]

/-! ## Moves -/

/-- The wish is for a color. -/
def Wish.isColor : Wish → Bool
  | color _ | background _ => true
  | _ => false

/-- The fragment that an anchor links to. -/
def fragment? (e : Element) : Option String :=
  if e.tag = .anchor then
    ((e.nonBlankAttribute? "href").bind (Text.afterStart? "#")).filter fun fragment => !fragment.isEmpty
  else none

theorem fragment?_eq_some {fragment : String} : fragment? e = some fragment ↔
    e.tag = .anchor ∧ ∃ href, e.nonBlankAttribute? "href" = some href ∧
      Text.afterStart? "#" href = some fragment ∧ fragment.isEmpty = false := by
  unfold fragment?
  split
  · next htag =>
    rw [Option.filter_eq_some_iff, Option.bind_eq_some_iff]
    constructor
    · rintro ⟨⟨href, hhref, hfragment⟩, hsome⟩
      exact ⟨htag, href, hhref, hfragment, by simpa using hsome⟩
    · rintro ⟨-, href, hhref, hfragment, hsome⟩
      exact ⟨⟨href, hhref, hfragment⟩, by simpa using hsome⟩
  · next htag => simp [htag]

/-- A color is asked for wherever the element is. -/
theorem Asks.anywhere (h : Asks e style c w) (hw : w.isColor) (c' : Converter) : Asks e style c' w := by
  cases h with
  | style demands => exact .style demands
  | colorAttribute span free asks read => exact .colorAttribute span free asks read
  | _ => cases hw

/-- An element asks for one color, and for one background. -/
theorem Asks.hex_unique {hex hex' : String} (h : Asks e style c (.color hex))
    (h' : Asks e style c₁ (.color hex')) : hex' = hex := by
  cases h with
  | style demands => exact h'.color_unique demands
  | colorAttribute span free asks read =>
    cases h' with
    | style demands =>
      rw [(demands_color.mp demands).1] at free
      cases free
    | colorAttribute _ _ asks' read' => exact read_unique ⟨_, asks, read⟩ ⟨_, asks', read'⟩

theorem Wish.command?_depth (h : w.command? = some ts) (hw : w.isColor → 0 < d) :
    depthAfter d (ts ++ [opening]) = some (d + 1) := by
  cases w with
  | emphasis k => cases k <;> cases h <;> rfl
  | color hex | background hex =>
    cases h
    rw [depthAfter_append, depthAfter_colorCommand (hw rfl)]
    rfl
  | family g =>
    cases h
    rfl
  | size => cases h

/-- What stands in a group may have brackets. -/
theorem Wish.Switches.depth (h : w.Switches ts) (d : Nat) :
    depthAfter d ([opening] ++ ts) = some (d + 1) := by
  have hone : depthAfter 1 ts = some 1 := by
    cases h with
    | bold | italic => rfl
    | color hex => exact depthAfter_colorCommand (by decide) _ _
    | family g => rfl
    | size _ _ level =>
      rw [depthAfter_append, level]
      rfl
  have hdeep := depthAfter_add hone d
  rw [Nat.add_comm 1] at hdeep
  exact hdeep

theorem Heads.depth (h : Heads e ts) (hlink : (fragment? e).isSome → 0 < d) :
    depthAfter d (ts ++ [opening]) = some (d + 1) := by
  cases h with
  | «section» | script => rfl
  | target href =>
    have hurl : depthAfter (d + 1) (href.toList.flatMap urlTokens) = some (d + 1) :=
      depthAfter_url fun _ => Nat.succ_pos d
    simp [depthAfter_append, depthAfter, Token.depth, hurl]
  | @fragment href fragment tag asks local' some' =>
    have hsome := fragment?_eq_some.mpr ⟨tag, href, asks, local', some'⟩
    obtain ⟨d, rfl⟩ := Nat.exists_eq_succ_of_ne_zero
      (Nat.pos_iff_ne_zero.mp (hlink (Option.isSome_of_eq_some hsome)))
    have hpath : depthAfter (d + 1) (fragment.toList.flatMap pathTokens) = some (d + 1) :=
      depthAfter_path fun _ => Nat.succ_pos d
    simp [depthAfter_append, depthAfter, Token.depth, hpath]

/-- A color that is asked for and is in effect stays in effect. -/
theorem Move.keeps_held (h : Move e style c c') (asks : Asks e style c w) (hw : w.isColor)
    (hheld : w.held c.formatting = true) : w.held c'.formatting = true := by
  have halign : ∀ {f : Formatting} {active : Kinds} (alignment : Option Latex.Alignment),
      (∀ k, f.active.contains k = true → active.contains k = true) → w.held f = true →
        w.held { f with active, alignment } = true := by
    intro f active alignment hactive hheld
    cases w with
    | color | background =>
      simp only [Wish.held, Bool.and_eq_true] at hheld ⊢
      exact ⟨hactive _ hheld.1, hheld.2⟩
    | _ => cases hw
  cases h with
  | note | trim | owe => exact hheld
  | write wrote | command _ wrote | term _ _ wrote =>
    have hsame := wrote.unmoved.formatting
    exact (congrArg (w.held ·) hsame).trans hheld
  | align alignment kept =>
    refine halign alignment (fun k hk => ?_) hheld
    rcases kept with rfl | rfl
    · exact hk
    · exact Kinds.contains_union_left hk _
  | @wish _ w' asks' granted =>
    rcases granted.formatting with ⟨-, heq⟩ | heq | hlater
    · rwa [heq]
    · -- Another color of the same kind is none that the element asks for.
      have hmore : ∀ {f : Formatting} {k : Kinds}, f.active.contains k = true →
          (w'.grant f).active.contains k = true := fun hk => by
        cases w' with
        | _ => exact Kinds.contains_union_left hk _
      rw [heq]
      cases w with
      | color hex =>
        simp only [Wish.held, Bool.and_eq_true, decide_eq_true_eq] at hheld ⊢
        refine ⟨hmore hheld.1, ?_⟩
        cases w' with
        | color hex' => exact congrArg some (asks.hex_unique asks')
        | _ => exact hheld.2
      | background hex =>
        simp only [Wish.held, Bool.and_eq_true, decide_eq_true_eq] at hheld ⊢
        refine ⟨hmore hheld.1, ?_⟩
        cases w' with
        | background hex' =>
          cases asks with
          | style demands => exact congrArg some (asks'.background_unique demands)
        | _ => exact hheld.2
      | _ => cases hw
    · exact (Wish.held_putOff hlater w).trans hheld

/-- A color is asked for that is not in effect, and its command is to be written. -/
def Colors (e : Element) (style : Style) (c : Converter) : Prop :=
  c.blockContent = false ∧ ∃ w : Wish, w.isColor ∧ Asks e style c w ∧ w.held c.formatting = false

/-- The output of an owed row leads down by the braces of the construct. -/
theorem levels_owed (op : Opening) (hn : n ≤ c.openBraces) (wrote : Wrote us c c₁)
    (hus : us.all isRegular)
    (hd : depthAfter (c.openBraces - n) us = some (c.openBraces - n + op.braces))
    (houtput : c'.output = c₁.output) (hbraces : c'.openBraces = c₁.openBraces + op.braces) :
    Levels (c.openBraces - n) (c'.openBraces - n) c c' ∧ c.openBraces ≤ c'.openBraces := by
  rw [hbraces, wrote.keeps.openBraces]
  have hsame : c.openBraces - n + op.braces = c.openBraces + op.braces - n := by omega
  exact ⟨.of_wrote wrote hus (hsame ▸ hd) houtput, Nat.le_add_right _ _⟩

/-- A move leads down by the braces that it opens, if it is made deep enough for the brackets that it
writes. -/
theorem Move.levels (h : Move e style c c') (hn : n ≤ c.openBraces) (hinline : c.inlineOnly = true)
    (hcolors : Colors e style c → n < c.openBraces)
    (hlink : (fragment? e).isSome → n < c.openBraces) :
    Levels (c.openBraces - n) (c'.openBraces - n) c c' ∧ c.openBraces ≤ c'.openBraces := by
  have hcalms : ∀ {c'}, Calms c c' →
      Levels (c.openBraces - n) (c'.openBraces - n) c c' ∧ c.openBraces ≤ c'.openBraces := fun hcalm => by
    rw [hcalm.braces]
    exact ⟨.of_calms hcalm _, Nat.le_refl _⟩
  cases h with
  | note | owe | align => exact hcalms (.of_output rfl rfl)
  | trim => exact hcalms (.trims c)
  | write wrote hcalm => exact hcalms (.of_wrote wrote hcalm)
  | wish asks granted =>
    cases granted with
    | held | putOff => exact hcalms (.of_output rfl rfl)
    | argument fresh inline row wrote =>
      refine levels_owed .argument hn wrote ?_ (Wish.command?_depth row fun hw => ?_) rfl rfl
      · rw [List.all_append, Wish.command?_regular row asks.plain]
        rfl
      · have := hcolors ⟨inline, _, hw, asks, fresh⟩
        omega
    | group _ row wrote =>
      refine levels_owed .group hn wrote ?_ (row.depth _) rfl rfl
      rw [List.all_append, row.regular asks.plain]
      rfl
  | command head wrote =>
    refine levels_owed .argument hn wrote ?_ (head.depth fun hsome => ?_) rfl rfl
    · rw [List.all_append, regular_of_quiet head.quiet]
      rfl
    · have := hlink hsome
      omega
  | term _ blocks =>
    rw [hinline] at blocks
    cases blocks

theorem Moves.colors (h : Moves e style c c') (hcolors : Colors e style c') : Colors e style c := by
  obtain ⟨hblocks, w, hw, asks, hfree⟩ := hcolors
  have hsame : c'.blockContent = c.blockContent :=
    h.relates (R := fun c c' => c'.blockContent = c.blockContent) (fun _ => rfl)
      (fun h h' => h'.trans h) Move.blockContent
  refine ⟨hsame ▸ hblocks, w, hw, asks.anywhere hw c, Bool.eq_false_iff.mpr fun hheld => ?_⟩
  have hstays := h.relates (R := fun c c' => w.held c.formatting = true → w.held c'.formatting = true)
    (fun _ h => h) (fun h h' hc => h' (h hc)) (fun m => m.keeps_held (asks.anywhere hw _) hw) hheld
  rw [hstays] at hfree
  cases hfree

/-- A row of moves leads down by the braces that it opens. -/
theorem Moves.levels (h : Moves e style c c') (hn : n ≤ c.openBraces) (hinline : c.inlineOnly = true)
    (hcolors : Colors e style c → n < c.openBraces)
    (hlink : (fragment? e).isSome → n < c.openBraces) :
    Levels (c.openBraces - n) (c'.openBraces - n) c c' ∧ c.openBraces ≤ c'.openBraces := by
  induction h with
  | refl => exact ⟨.of_output rfl _, Nat.le_refl _⟩
  | tail hmoves m ih =>
    obtain ⟨hlevels, hle⟩ := ih
    obtain ⟨hlevels', hle'⟩ := m.levels (Nat.le_trans hn hle) (Moves.inlineOnly hmoves hinline)
      (fun hc => Nat.lt_of_lt_of_le (hcolors (Moves.colors hmoves hc)) hle)
      fun hs => Nat.lt_of_lt_of_le (hlink hs) hle
    exact ⟨hlevels.trans hlevels', Nat.le_trans hle hle'⟩

theorem Move.argumentDepth_le (h : Move e style c c') : c.argumentDepth ≤ c'.argumentDepth := by
  cases h with
  | note | trim | owe | align => exact Nat.le_refl _
  | write wrote => exact Nat.le_of_eq wrote.keeps.argumentDepth.symm
  | wish _ granted =>
    cases granted with
    | held | putOff => exact Nat.le_refl _
    | argument _ _ _ wrote | group _ _ wrote =>
      exact Nat.le_trans (Nat.le_of_eq wrote.keeps.argumentDepth.symm) (Nat.le_add_right _ _)
  | command _ wrote | term _ _ wrote =>
    exact Nat.le_trans (Nat.le_of_eq wrote.keeps.argumentDepth.symm) (Nat.le_add_right _ _)

/-! ## What is owed -/

/-- It ends a construct of a line, or what it writes is calm. -/
inductive Closer.Plain : Closer → Prop where
  | later {closer : Closer} (h : closer.Later) : Plain closer
  | brace : Plain (.brace "\x7d")
  | argument : Plain .endArgument

/-- In front of what the frame held already there are plain closers, as many for braces as were opened. -/
structure Owing (first : List Closer) (rest : List (List Closer)) (n : Nat) (c : Converter) : Prop where
  closers : ∃ new, c.frames.map Frame.closers = (new ++ first) :: rest ∧
    (∀ closer ∈ new, closer.Plain) ∧ c.openBraces = n + new.countP Closer.isBrace

variable {first : List Closer} {rest : List (List Closer)}

theorem Owing.more (h : Owing first rest n c) (more : List Closer)
    (hframes : c'.frames.map Frame.closers = match c.frames.map Frame.closers with
      | [] => []
      | f :: fs => (more ++ f) :: fs)
    (hplain : ∀ closer ∈ more, closer.Plain)
    (hbraces : c'.openBraces = c.openBraces + more.countP Closer.isBrace) : Owing first rest n c' := by
  obtain ⟨new, hnew, hall, hcount⟩ := h
  refine ⟨more ++ new, ?_, fun closer hcloser => ?_, ?_⟩
  · rw [hframes, hnew, List.append_assoc]
  · exact (List.mem_append.mp hcloser).elim (hplain closer) (hall closer)
  · rw [hbraces, hcount, List.countP_append]
    omega

theorem Owing.same (h : Owing first rest n c)
    (hframes : c'.frames.map Frame.closers = c.frames.map Frame.closers)
    (hbraces : c'.openBraces = c.openBraces) : Owing first rest n c' := by
  obtain ⟨new, hnew, hplain, hcount⟩ := h
  exact ⟨new, hframes.trans hnew, hplain, hbraces.trans hcount⟩

theorem Owing.owe {op : Opening} (h : Owing first rest n c) (hop : op = .group ∨ op = .argument)
    (wrote : Wrote us c c₁) {f : Formatting} :
    Owing first rest n { op.owe c₁ with formatting := f } := by
  have hframes := wrote.unmoved.frames
  have hbraces := wrote.keeps.openBraces
  refine h.more op.closers ?_ ?_ ?_
  · have : (op.owe c₁).frames.map Frame.closers = match c₁.frames.map Frame.closers with
        | [] => []
        | f :: fs => (op.closers ++ f) :: fs := by
      cases hf : c₁.frames <;> simp [Opening.owe, hf, Opening.markFirst, Opening.mark]
    rw [hframes] at this
    exact this
  · rcases hop with rfl | rfl
    · simp [Opening.closers, Closer.Plain.brace]
    · simp [Opening.closers, Closer.Plain.brace, Closer.Plain.argument]
  · rw [← hbraces]
    rcases hop with rfl | rfl <;> rfl

theorem Move.owing (h : Move e style c c') (hinline : c.inlineOnly = true)
    (ho : Owing first rest n c) : Owing first rest n c' := by
  cases h with
  | note cell owed => exact ho.same owed rfl
  | trim | align => exact ho.same rfl rfl
  | write wrote => exact ho.same (congrArg _ wrote.unmoved.frames) wrote.keeps.openBraces
  | @owe closer later =>
    refine ho.more [closer] ?_ (by simpa using Closer.Plain.later later) ?_
    · cases hf : c.frames <;> simp [Convert.owing]
    · simp [later.not_brace]
  | wish _ granted =>
    cases granted with
    | held => exact ho
    | putOff => exact ho.same rfl rfl
    | argument _ _ _ wrote => exact ho.owe (.inr rfl) wrote
    | group _ _ wrote => exact ho.owe (.inl rfl) wrote
  | command _ wrote => exact ho.owe (.inr rfl) wrote (f := (Opening.argument.owe _).formatting)
  | term _ blocks =>
    rw [hinline] at blocks
    cases blocks

theorem Moves.owing (h : Moves e style c c') (hinline : c.inlineOnly = true)
    (ho : Owing first rest n c) : Owing first rest n c' := by
  induction h with
  | refl => exact ho
  | tail hmoves m ih => exact m.owing (Moves.inlineOnly hmoves hinline) ih

/-! ## Leaving -/

theorem pushLabel_calms (name : String) : Relates Calms (emitCloser (.label name)) := fun _ => by
  refine (pushLabel_wrote name).ensures.mono fun _ _ hw => .of_wrote hw ?_
  exact calm_append (a := [word "label"]) rfl
    (calm_braced (quiet_path _) (depthAfter_path fun _ => by decide))

theorem Closer.Later.calms (h : closer.Later) : Relates Calms (emitCloser closer) := by
  cases h with
  | text spelled hcalm => exact push_calms _ spelled hcalm
  | paragraphBreak => exact paragraphBreak_calms
  | newline => exact newline_calms
  | label name => exact pushLabel_calms name

/-- Closers come up by the braces that they end. -/
theorem emitClosers_levels (h : ∀ closer ∈ closers, closer.Plain) (d : Nat) (c : Converter) :
    Ensures (emitClosers closers) c fun _ c' => Levels (d + closers.countP Closer.isBrace) d c c' ∧
      c'.openBraces = c.openBraces - closers.countP Closer.isBrace := by
  induction closers generalizing c with
  | nil => exact Ensures.pure ⟨.of_output rfl _, rfl⟩
  | cons closer closers ih =>
    obtain ⟨hcloser, hclosers⟩ := List.forall_mem_cons.mp h
    cases hcloser with
    | later hlater =>
      refine (hlater.calms c).bind fun _ c₁ h₁ => (ih hclosers c₁).mono fun _ _ ⟨h₂, hbraces⟩ => ?_
      rw [List.countP_cons_of_neg (by simp [hlater.not_brace]), ← h₁.braces]
      exact ⟨(Levels.of_calms h₁ _).trans h₂, hbraces⟩
    | brace =>
      rw [List.countP_cons_of_pos rfl]
      refine emitBrace_yields.ensures.bind fun _ c₁ h₁ => (ih hclosers c₁).mono fun _ _ ⟨h₂, hbraces⟩ => ?_
      have hup : Levels (d + (closers.countP Closer.isBrace + 1)) (d + closers.countP Closer.isBrace)
          { c with openBraces := c.openBraces - 1 } c₁ := .of_wrote h₁ rfl rfl rfl
      refine ⟨(hup.trans h₂).before rfl, ?_⟩
      rw [hbraces, h₁.keeps.openBraces]
      exact Nat.sub_sub _ _ _ |>.trans (by rw [Nat.add_comm])
    | argument =>
      rw [List.countP_cons_of_neg (by simp [Closer.isBrace])]
      refine Ensures.modify_bind ((ih hclosers _).mono fun _ _ ⟨h₂, hbraces⟩ => ⟨?_, hbraces⟩)
      exact h₂.before rfl

/-- As many closers end a brace as there are braces. -/
theorem countP_closers (ops : List Opening) :
    (ops.flatMap Opening.closers).countP Closer.isBrace = bracesOf ops := by
  induction ops with
  | nil => rfl
  | cons op ops ih =>
    rw [List.flatMap_cons, List.countP_append, ih, bracesOf, bracesOf, List.map_cons, total_cons]
    cases op <;> rfl

theorem modifyTable_calms (g : TableState → TableState) : Relates Calms (modifyTable g) :=
  .modifies fun _ => .of_output rfl rfl

theorem closeFrame_levels {frame : Frame} (h : ∀ closer ∈ frame.closers, closer.Plain) (d : Nat)
    (c : Converter) : Ensures (closeFrame frame) c fun _ c' =>
      Levels (d + frame.closers.countP Closer.isBrace) d c c' ∧
        c'.openBraces = c.openBraces - frame.closers.countP Closer.isBrace :=
  emitClosers_levels h d c

/-- A cell in which no brace is left open comes up by those that it ends. -/
theorem closeCell_levels {frame : Frame} (h : ∀ closer ∈ frame.closers, closer.Plain) {braces : Nat}
    (hcell : frame.cellBraces = some braces)
    (hbraces : c.openBraces = braces + frame.closers.countP Closer.isBrace) (d : Nat) :
    Ensures (closeCell frame) c fun _ c' =>
      Levels (d + frame.closers.countP Closer.isBrace) d c c' := by
  unfold closeCell
  rw [hcell]
  refine (trimSpaces_calms c).bind fun _ c₁ h₁ => ?_
  refine (closeFrame_levels h d c₁).bind fun _ c₂ ⟨h₂, hleft⟩ => Ensures.get_bind ?_
  have hclosed : c₂.openBraces ≤ braces := by
    rw [hleft, h₁.braces, hbraces]
    omega
  refine Ensures.bind (closeBraces_yields (Q := fun _ c' => c' = c₂) hclosed _ rfl).ensures ?_
  rintro _ _ rfl
  have hcolumns := pushTimes_calms [char ' ', char '&'] (s := " &") rfl rfl frame.padding
  refine (hcolumns _).bind fun _ c₃ h₃ => (modifyTable_calms _ c₃).mono fun _ _ h₄ => ?_
  exact ((Levels.of_calms h₁ _).trans h₂).trans (.of_calms (h₃.trans h₄) d)

/-- The end of a table that is written without a float. -/
theorem closeTable_levels {frame : Frame} {t : TableState} {outer : Option TableState}
    (hclosers : frame.closers = []) (houter : frame.outerTable = some outer) (ht : c.table = some t)
    (hnested : t.nested = true) : Ensures (closeTable frame) c fun _ c' => Calms c c' := by
  unfold closeTable closeFrame
  rw [hclosers, houter]
  refine Ensures.bind (Ensures.pure (Q := fun _ c' => c' = c) rfl) ?_
  rintro _ c rfl
  have hstart : Calms c { c with table := none } := .of_output rfl rfl
  refine Ensures.get_bind ?_
  rw [ht]
  refine Ensures.modify_bind ((trimSpaces_calms _).bind fun _ c₁ h₁ => ?_)
  refine (newline_calms c₁).bind fun _ c₂ h₂ => ?_
  refine (push_calms (s := endEnvironment "tabular") [endEnv "tabular"] rfl rfl c₂).bind fun _ c₃ h₃ => ?_
  refine Ensures.ite (fun _ => ?_) fun h => absurd hnested h
  exact Ensures.modifies ((hstart.trans ((h₁.trans h₂).trans h₃)).trans (.of_output rfl rfl))

/-- Leaving an element comes up by the braces that it has opened. -/
theorem leave_levels {scope : Scope} {frame : Frame} (howed : Owed e scope frame c c₁)
    (hplain : ∀ closer ∈ frame.closers, closer.Plain) (hr : Restored c₁ c₂)
    (hargument : 0 < c.argumentDepth) (d : Nat) :
    Ensures (leave e) c₂ fun _ c' => Levels (d + bracesOf scope.openings) d c₂ c' := by
  have hcount : frame.closers.countP Closer.isBrace = bracesOf scope.openings := by
    rw [howed.closers, countP_closers]
  refine Ensures.leave (hr.frames.trans howed.frames) ?_
  have hframe : Ensures (closeFrame frame) (c₂.popped c.frames) fun _ c' =>
      Levels (d + bracesOf scope.openings) d c₂ c' := by
    rw [← hcount]
    exact (closeFrame_levels hplain d _).mono fun _ _ h => h.1.before rfl
  suffices h : Ensures (closeElement e frame) (c₂.popped c.frames) fun _ c' =>
      Levels (d + bracesOf scope.openings) d c₂ c' from
    h.mono fun _ _ h => h.after rfl
  have hplaces := howed.places
  cases scope with
  | plain ops =>
    obtain ⟨houter, hcell, -⟩ := hplaces
    rcases closeElement_cases e houter hcell with heq | heq
    · rwa [heq]
    · rw [heq]
      exact hframe.bind fun _ c₃ h => (modifyTable_calms _ c₃).mono fun _ _ h' => h.trans (.of_calms h' d)
  | cell ops =>
    obtain ⟨⟨header, colspan, htag⟩, hcell, -⟩ := hplaces
    unfold closeElement
    rw [htag, ← hcount]
    refine Ensures.ite (fun _ => ?_) fun h => absurd (by rw [hcell]; rfl) h
    refine (closeCell_levels hplain hcell ?_ d).mono fun _ _ h => h.before rfl
    rw [hcount]
    exact hr.openBraces.trans howed.openBraces
  | table nested =>
    obtain ⟨htag, hflat, t, outer, ht, hnested, houter, -⟩ := hplaces
    obtain rfl : nested = true := by
      cases nested with
      | true => rfl
      | false => exact absurd (hflat rfl) (Nat.pos_iff_ne_zero.mp hargument)
    obtain ⟨t', ht', hcore⟩ := Option.map_eq_some_iff.mp (hr.table.trans (congrArg _ ht))
    have hnested' : t'.nested = true := (congrArg TableState.nested hcore).trans hnested
    have hclosers : frame.closers = [] := howed.closers
    unfold closeElement
    rw [htag]
    refine (closeTable_levels hclosers houter (c := c₂.popped c.frames) ht' hnested').mono fun _ _ h => ?_
    exact (Levels.of_calms h d).before rfl

/-! ## Entering -/

theorem calm_gridStart (columns : Nat) (borders : Bool) :
    calm (gridStart (columnSpec columns borders) borders) := by
  have hcolumns := inert_of_plain (columnSpec_plain columns borders)
  have hspec : calm ([opening] ++ chars (columnSpec columns borders).toList ++ [closing]) :=
    calm_braced (quiet_chars hcolumns) (depthAfter_chars (by decide) _)
  have hstart : calm (tabularStart (columnSpec columns borders)) := by
    have hsplit : tabularStart (columnSpec columns borders) = [beginEnv "tabular"] ++
        (([opening] ++ chars (columnSpec columns borders).toList ++ [closing]) ++ [char '\n']) := by
      simp [tabularStart]
    rw [hsplit]
    exact calm_append rfl (calm_append hspec rfl)
  cases borders with
  | true => exact calm_append hstart rfl
  | false => exact calm_append hstart rfl

/-- Where an argument is open there is only the grid of a table. -/
theorem openTable_calms (hc : Framed c) (hargument : 0 < c.argumentDepth) :
    Ensures (openTable doc setting id e) c fun _ c' => Calms c c' := by
  unfold openTable
  refine Ensures.get_bind (Ensures.ite (fun _ => ?_) fun _ => ?_)
  · exact (warn_wrote _ _).ensures.bind fun _ _ hw => Ensures.pure (.of_wrote hw rfl)
  extract_lets bare
  have hbare : bare = true := by simp [bare, hargument]
  rw [hbare]
  refine Ensures.ite (fun h => ?_) fun _ => ?_
  · cases h
  unfold beginTable
  extract_lets columns borders begun
  refine Ensures.bind (Q := fun _ c' => Calms c c') ?_ fun _ _ h => Ensures.pure h
  refine Ensures.bind (Ensures.pure (Q := fun _ c' => c' = c) rfl) ?_
  rintro _ c rfl
  refine ((spaceApart_calms c).and (spaceApart_unmoving c)).bind fun _ c₁ ⟨h₁, hunmoved⟩ => ?_
  have hc₁ : Framed c₁ := by
    rw [Framed, hunmoved.frames]
    exact hc
  refine (beginGrid_yields hc₁ columns borders _).ensures.mono ?_
  rintro _ _ ⟨c₂, h₂, rfl⟩
  exact (h₁.trans (.of_wrote h₂ (calm_gridStart columns borders))).trans (.of_output rfl rfl)

/-- An image writes a bracket: its command has options, or there is one in the text instead of it. -/
inductive ImageBares (setting : Setting) (e : Element) (style : Style) : Prop where
  | options {src path : String} (asks : e.nonBlankAttribute? "src" = some src)
      (found : setting.resolve src = .ok path) (sized : (imageOptions e style).isEmpty = false)
  | alt {src alt : String} {fault : Fault} (asks : e.nonBlankAttribute? "src" = some src)
      (missing : setting.resolve src = .error fault) (given : e.nonBlankAttribute? "alt" = some alt)
      (bracket : ']' ∈ alt.toList)

theorem ImageRow.regular (h : ImageRow setting e style ts) : ts.all isRegular := by
  cases h with
  | nothing => rfl
  | alt => exact regular_of_quiet (quiet_text _)
  | included _ _ _ phrase => exact regular_of_fluent phrase.fluent

theorem ImageRow.depth (h : ImageRow setting e style ts) (hbares : ImageBares setting e style → 0 < d) :
    depthAfter d ts = some d := by
  have hregular := h.regular
  cases h with
  | nothing => rfl
  | alt asks missing given => exact depthAfter_text fun hmem => hbares (.alt asks missing given hmem)
  | @included src path ots asks found spelled phrase =>
    cases hempty : (imageOptions e style).isEmpty with
    | true =>
      have hrow : calm (imageRow true ots path) :=
        calm_append (a := [word "includegraphics"]) rfl
          (calm_braced (quiet_path _) (depthAfter_path fun _ => by decide))
      exact depthAfter_of_calm hrow d
    | false =>
      rw [hempty] at phrase hregular
      exact depthAfter_of_nest hregular (phrase.neutral []) (hbares (.options asks found hempty))

/-- Where an argument is open, entering an element leads down by the braces that it opens, if it is entered
deep enough for the brackets that it writes; and the closers in its frame are plain. -/
theorem enter_levels (hpre : c.preDepth = 0) (hargument : 0 < c.argumentDepth) (hn : n ≤ c.openBraces)
    (hcolors : Colors e style (c.opened (mayFormat e style && doc.hasBlockContent id)) →
      n < c.openBraces)
    (hlink : (fragment? e).isSome → n < c.openBraces)
    (himage : e.tag = .image → ImageBares setting e style → n < c.openBraces) :
    Ensures (enter doc setting id e style) c fun _ c' =>
      Levels (c.openBraces - n) (c'.openBraces - n) c c' ∧
        ∃ frame fs, c'.frames = frame :: fs ∧ ∀ closer ∈ frame.closers, closer.Plain := by
  have hsame : (c.opened (mayFormat e style && doc.hasBlockContent id)).output = c.output := rfl
  by_cases htable : e.tag = .table
  · refine .enter hpre ?_
    unfold openElement
    rw [htable]
    have hframed := (fresh_opened c (mayFormat e style && doc.hasBlockContent id)).framed
    refine ((openTable_calms hframed hargument).and (openTable_begins hframed)).mono ?_
    rintro _ c' ⟨hcalm, hbegins⟩
    refine ⟨?_, ?_⟩
    · rw [hcalm.braces]
      exact (Levels.of_calms hcalm _).before hsame
    · rcases hbegins with h | ⟨t, c₁, h, rfl⟩
      · exact ⟨_, _, h.frames, by simp⟩
      · have hframes : (c₁.install t).frames =
            { saved := some c.formatting, outerTable := some c₁.table } :: c.frames := by
          simp [Converter.install, h.frames, Converter.opened]
        exact ⟨_, _, hframes, by simp⟩
  by_cases htag : e.tag = .image
  · refine .enter hpre ?_
    unfold openElement
    rw [htag]
    refine ((openImage_writes _ _ _ _ _ _).and (openImage_unmoving _)).bind ?_
    rintro _ c' ⟨hwrites, hunmoved⟩
    refine Ensures.pure ⟨?_, _, _, hunmoved.frames, by simp⟩
    rcases hwrites with ⟨ts, hrow, hw⟩ | ⟨hfigure, -⟩
    · rw [hw.keeps.openBraces]
      refine (Levels.of_wrote hw hrow.regular (hrow.depth fun hbares => ?_) rfl).before hsame
      have := himage htag hbares
      omega
    · exact absurd (flat_of_allowsFigure hfigure) (Nat.pos_iff_ne_zero.mp hargument)
  · have hinline : (c.opened (mayFormat e style && doc.hasBlockContent id)).inlineOnly = true := by
      simp [Converter.inlineOnly, Converter.opened, hargument]
    refine (enter_acts htable htag hpre).mono fun _ c' hacts => ⟨?_, ?_⟩
    · exact (hacts.moves.levels hn hinline hcolors hlink).1.before hsame
    · have hnothing : Owing [] (c.frames.map Frame.closers) c.openBraces
          (c.opened (mayFormat e style && doc.hasBlockContent id)) := ⟨[], rfl, by simp, rfl⟩
      obtain ⟨new, hframes, hplain, -⟩ := hacts.moves.owing hinline hnothing
      obtain ⟨frame, fs, hf, hclosers, -⟩ := List.map_eq_cons_iff.mp hframes
      exact ⟨frame, fs, hf, by rwa [hclosers, List.append_nil]⟩

end MarkupTex.Convert
