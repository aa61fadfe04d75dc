import MarkupTex.Proofs.Convert.Floats
/-!
# What goes on in a line

In a cell and in the argument of a command an action goes on with the line that it finds there: what it
writes fits behind all that is before, spaces at the end may go, and what it leaves to be written at the end
of the element does not end the line either.  `Inlines blocks grids c c'` says so of two states, unless
`blocks` holds, and then anything may be written.  In either case no float is counted.

The grid of a table may stand in a line, too.  It is the only environment that may, and where `grids` does not
hold none comes into the line.
-/

set_option autoImplicit false

namespace MarkupTex

open Latex

namespace Latex

variable {grids : Prop} {a b ts : List Token} {cs ds es : List Char}

/-- The row may be written in a line wherever the line stands, and has no environment in it. -/
def joins (ts : List Token) : Bool := fitsLine ts && !lineEndFirst ts && noEnvironment ts

theorem joins_of_fluent (h : fluent ts) (hnone : noEnvironment ts) : joins ts := by
  simp only [fluent, Bool.and_eq_true] at h
  simp only [joins, Bool.and_eq_true]
  exact ⟨h.1, hnone⟩

theorem joins_append (ha : joins a) (hb : joins b) : joins (a ++ b) := by
  simp only [joins, Bool.and_eq_true, Bool.not_eq_true'] at ha hb ⊢
  refine ⟨⟨fitsLine_append ha.1.1 hb.1.1 hb.1.2, ?_⟩, by rw [noEnvironment_append, ha.2, hb.2]; rfl⟩
  cases a with
  | nil => exact hb.1.2
  | cons t a => exact ha.1.2

theorem singleSpaced_of_append (h : singleSpaced (a ++ b)) : singleSpaced a := by
  induction a with
  | nil => rfl
  | cons t a ih =>
    simp only [List.cons_append, singleSpaced, Bool.and_eq_true] at h ⊢
    refine ⟨?_, ih h.2⟩
    cases a with
    | nil => simp [lineEndFirst]
    | cons u a => exact h.1

/-- The first part of such a row is one, too. -/
theorem joins_of_append (h : joins (a ++ b)) : joins a := by
  simp only [joins, fitsLine, List.all_append, Bool.and_eq_true] at h ⊢
  refine ⟨⟨⟨h.1.1.1.1, singleSpaced_of_append h.1.1.2⟩, ?_⟩, noEnvironment_of_append h.2⟩
  cases a with
  | nil => rfl
  | cons t a => exact h.1.2

/-- A line that the one text has come to goes on in the other one. -/
def Continues (cs ds : List Char) : Prop :=
  ∀ front body, cs = front ++ body → front.getLast? ≠ some ' ' → Line body →
    ∃ body', ds = front ++ body' ∧ Line body'

namespace Continues

theorem refl (cs : List Char) : Continues cs cs := fun _ body h _ hline => ⟨body, h, hline⟩

theorem trans (h : Continues cs ds) (h' : Continues ds es) : Continues cs es := by
  intro front body hcs hfront hline
  obtain ⟨body', hds, hline'⟩ := h front body hcs hfront hline
  exact h' front body' hds hfront hline'

end Continues

/-- A row that the one text has come to goes on in the other one.  Unless there may be grids, no environment
comes into it. -/
def ContinuesIn (grids : Prop) (cs ds : List Char) : Prop :=
  ∀ front ts, cs = front ++ spell ts → front.getLast? ≠ some ' ' → fitsLine ts →
    ∃ ts', ds = front ++ spell ts' ∧ fitsLine ts' ∧ (¬ grids → noEnvironment ts → noEnvironment ts')

namespace ContinuesIn

theorem refl (cs : List Char) : ContinuesIn grids cs cs := fun _ ts h _ hts => ⟨ts, h, hts, fun _ => id⟩

theorem trans (h : ContinuesIn grids cs ds) (h' : ContinuesIn grids ds es) : ContinuesIn grids cs es := by
  intro front ts hcs hfront hts
  obtain ⟨us, hds, hus, hnone⟩ := h front ts hcs hfront hts
  obtain ⟨vs, hes, hvs, hnone'⟩ := h' front us hds hfront hus
  exact ⟨vs, hes, hvs, fun hn => hnone' hn ∘ hnone hn⟩

theorem continues (h : ContinuesIn grids cs ds) : Continues cs ds := by
  rintro front _ hcs hfront ⟨ts, hts, rfl⟩
  obtain ⟨us, hds, hus, -⟩ := h front ts hcs hfront hts
  exact ⟨spell us, hds, us, hus, rfl⟩

theorem write (hts : fitsLine ts) (hnone : ¬ grids → noEnvironment ts)
    (hmeet : lineEndFirst ts → cs.getLast? ≠ some '\n') : ContinuesIn grids cs (cs ++ spell ts) := by
  rintro front us rfl _ hus
  refine ⟨us ++ ts, by rw [spell_append, List.append_assoc], ?_, fun hn hnone' => ?_⟩
  · refine fitsLine_append_of_meet hus hts fun hfirst hlast => hmeet hfirst ?_
    rw [List.getLast?_append, hlast, Option.some_or]
  · rw [noEnvironment_append, hnone', hnone hn]
    rfl

theorem join (hts : joins ts) : ContinuesIn grids cs (cs ++ spell ts) := by
  simp only [joins, Bool.and_eq_true, Bool.not_eq_true'] at hts
  exact .write hts.1.1 (fun _ => hts.2) fun hfirst => by simp [hts.1.2] at hfirst

theorem trim (cs : List Char) : ContinuesIn grids cs (Text.dropEndWhile (· = ' ') cs) := by
  rintro front ts rfl hfront hts
  refine ⟨trimmed ts, ?_, fitsLine_trimmed hts, fun _ => noEnvironment_trimmed⟩
  rw [Text.dropSpaces_append hfront, dropSpaces_of_fitsLine hts]

end ContinuesIn

end Latex

namespace Convert

open Token

variable {α β : Type} {blocks grids : Prop} {doc : Document} {setting : Setting} {id : Nat} {e : Element}
  {style : Style} {m : Conversion α} {c c' c₁ c₂ : Converter}

/-- What is written on leaving goes on in a line. -/
inductive Closer.InLine : Closer → Prop where
  | text {s : String} (ts : List Token) (spelled : s.toList = spell ts) (row : joins ts) : InLine (.text s)
  | brace {s : String} (ts : List Token) (spelled : s.toList = spell ts) (row : joins ts) :
      InLine (.brace s)
  | endArgument : InLine .endArgument

/-- All that is to be written at the end of the current element goes on in a line. -/
def OwesLine (c : Converter) : Prop := ∀ f ∈ c.frames.head?, ∀ closer ∈ f.closers, closer.InLine

/-- No float is counted, and without blocks the line goes on, with no environment in it unless there may be
grids. -/
structure Inlines (blocks grids : Prop) (c c' : Converter) : Prop where
  tables : c'.tables = c.tables
  figures : c'.figures = c.figures
  tame : c.formatting.Tame → c'.formatting.Tame
  preDepth : ¬ blocks → c'.preDepth = c.preDepth
  line : ¬ blocks → ContinuesIn grids c.output c'.output
  owes : ¬ blocks → OwesLine c → OwesLine c'

namespace Inlines

theorem refl (c : Converter) : Inlines blocks grids c c :=
  ⟨rfl, rfl, id, fun _ => rfl, fun _ => .refl _, fun _ => id⟩

theorem trans (h : Inlines blocks grids c c₁) (h' : Inlines blocks grids c₁ c₂) : Inlines blocks grids c c₂ where
  tables := h'.tables.trans h.tables
  figures := h'.figures.trans h.figures
  tame := h'.tame ∘ h.tame
  preDepth hb := (h'.preDepth hb).trans (h.preDepth hb)
  line hb := (h.line hb).trans (h'.line hb)
  owes hb := h'.owes hb ∘ h.owes hb

/-- A change of something else. -/
theorem of_eq (tables : c'.tables = c.tables) (figures : c'.figures = c.figures)
    (formatting : c'.formatting = c.formatting) (preDepth : c'.preDepth = c.preDepth)
    (output : c'.output = c.output) (frames : c'.frames = c.frames) : Inlines blocks grids c c' where
  tables := tables
  figures := figures
  tame := by rw [formatting]; exact id
  preDepth _ := preDepth
  line _ := by rw [output]; exact .refl _
  owes _ := by rw [OwesLine, OwesLine, frames]; exact id

theorem of_buffer {b : Buffer} (h : ¬ blocks → ContinuesIn grids c.output b.text.toList) :
    Inlines blocks grids c { c with buffer := b } :=
  ⟨rfl, rfl, id, fun _ => rfl, h, fun _ => id⟩

theorem of_frames {frames : List Frame}
    (h : ¬ blocks → OwesLine c → OwesLine { c with frames := frames }) :
    Inlines blocks grids c { c with frames } :=
  ⟨rfl, rfl, id, fun _ => rfl, fun _ => .refl _, h⟩

end Inlines

instance : Std.Refl (Inlines blocks grids) := ⟨Inlines.refl⟩

instance : Trans (Inlines blocks grids) (Inlines blocks grids) (Inlines blocks grids) := ⟨Inlines.trans⟩

/-- The action counts no float, and without blocks it goes on with the line. -/
abbrev Inlining (blocks grids : Prop) (m : Conversion α) : Prop := Relates (Inlines blocks grids) m

/-! ## Writing -/

theorem write_inlines {act : Buffer → Except Fault Buffer}
    (h : ¬ blocks → ∀ b b' : Buffer, act b = .ok b' → ContinuesIn grids b.text.toList b'.text.toList) :
    Inlining blocks grids (write act) := by
  intro c a c' hm
  rw [write] at hm
  split at hm
  · next b hb =>
    cases hm
    exact .of_buffer fun hn => h hn c.buffer b hb
  · cases hm

/-- Where blocks are allowed anything may be written. -/
theorem write_block (hb : blocks) (act : Buffer → Except Fault Buffer) : Inlining blocks grids (write act) :=
  write_inlines fun hn => absurd hb hn

theorem continues_of_adds {b b' : Buffer} {r : Except Fault Buffer} {ts : List Token} (hts : joins ts)
    (h : b.Adds (spell ts) r) (hr : r = .ok b') : ContinuesIn grids b.text.toList b'.text.toList := by
  subst hr
  rw [show b'.text.toList = b.text.toList ++ spell ts from h]
  exact .join hts

theorem push_inlines {s : String} (h : ¬ blocks → ∃ ts, s.toList = spell ts ∧ joins ts) :
    Inlining blocks grids (push s) := by
  refine write_inlines fun hn b b' => ?_
  obtain ⟨ts, hs, hts⟩ := h hn
  exact continues_of_adds hts (hs ▸ Buffer.append_adds b s)

theorem push_row {s : String} (ts : List Token) (hs : s.toList = spell ts) (hts : joins ts) :
    Inlining blocks grids (push s) :=
  push_inlines fun _ => ⟨ts, hs, hts⟩

theorem pushEscaped_inlines (s : String) : Inlining blocks grids (pushEscaped s) :=
  write_inlines fun _ b _ => continues_of_adds
    (joins_of_fluent (fluent_text s) (noEnvironment_flatMap noEnvironment_textTokens _))
    (Buffer.appendText_adds b s)

theorem pushPath_inlines (s : String) : Inlining blocks grids (pushPath s) :=
  write_inlines fun _ b _ => continues_of_adds
    (joins_of_fluent (fluent_path s) (noEnvironment_flatMap noEnvironment_pathTokens _))
    (Buffer.appendPath_adds b s)

theorem pushUrl_inlines (s : String) : Inlining blocks grids (pushUrl s) :=
  write_inlines fun _ b _ => continues_of_adds
    (joins_of_fluent (fluent_flatMap fluent_urlTokens s.toList) (noEnvironment_flatMap noEnvironment_urlTokens _))
    (Buffer.appendUrl_adds b s)

/-- A line end is written only where there is none before. -/
theorem newline_inlines : Inlining blocks grids newline := by
  refine write_inlines fun _ b b' hb => ?_
  rcases Buffer.newline_adds b with hsame | ⟨hlast, hadds⟩
  · rw [hsame] at hb
    cases hb
    exact .refl _
  · rw [hb] at hadds
    rw [show b'.text.toList = b.text.toList ++ spell [char '\n'] from hadds]
    exact .write rfl (fun _ => rfl) fun _ => hlast

theorem trimSpaces_inlines : Inlining blocks grids trimSpaces :=
  .modifies fun c => .of_buffer fun _ => by
    rw [Buffer.toList_trimSpaces]
    exact .trim _

theorem spaceApart_inlines : Inlining blocks grids spaceApart :=
  .get_bind fun _ => .unless fun _ => push_row [char ' '] rfl rfl

theorem pushTimes_inlines {s : String} (ts : List Token) (hs : s.toList = spell ts) (hts : joins ts) :
    ∀ n, Inlining blocks grids (pushTimes s n)
  | 0 => .pure ()
  | n + 1 => (push_row ts hs hts).bind fun _ => pushTimes_inlines ts hs hts n

theorem pushLabel_inlines (name : String) : Inlining blocks grids (pushLabel name) :=
  (push_row [word "label", opening] rfl rfl).bind fun _ =>
    (pushPath_inlines name).bind fun _ => push_row [closing] rfl rfl

/-! ## Frames and what they owe -/

theorem onLeave_inlines {closer : Closer} (h : ¬ blocks → closer.InLine) :
    Inlining blocks grids (onLeave closer) := by
  refine .modifies fun c => ?_
  cases hf : c.frames with
  | nil => exact .refl c
  | cons f fs =>
    refine .of_frames fun hn howes g hg closer' hmem => ?_
    cases hg
    rcases List.mem_cons.mp hmem with rfl | hmem
    · exact h hn
    · exact howes f (by rw [hf]; rfl) closer' hmem

theorem onLeave_block (hb : blocks) (closer : Closer) : Inlining blocks grids (onLeave closer) :=
  onLeave_inlines fun hn => absurd hb hn

theorem modifyFrame_inlines {g : Frame → Frame} (hg : ∀ f, (g f).closers = f.closers) :
    Inlining blocks grids (modifyFrame g) := by
  intro c
  unfold modifyFrame
  refine Ensures.get_bind ?_
  cases hf : c.frames with
  | nil => exact Ensures.throws
  | cons f fs =>
    refine Ensures.modifies (.of_frames fun _ howes f' hf' closer hmem => ?_)
    cases hf'
    rw [hg] at hmem
    exact howes f (by rw [hf]; rfl) closer hmem

theorem braceOwed_inlines : Inlining blocks grids (braceOwed "\x7d") := by
  unfold braceOwed
  refine .modify_bind (fun _ => .of_eq rfl rfl rfl rfl rfl rfl) ?_
  exact onLeave_inlines fun _ => .brace [closing] rfl rfl

theorem beginArgument_inlines : Inlining blocks grids beginArgument := by
  unfold beginArgument
  exact .modify_bind (fun _ => .of_eq rfl rfl rfl rfl rfl rfl) (onLeave_inlines fun _ => .endArgument)

theorem argumentOwed_inlines : Inlining blocks grids (argumentOwed "\x7d") :=
  braceOwed_inlines.bind fun _ => beginArgument_inlines

theorem openGroup_inlines {s : String} (ts : List Token) (hs : s.toList = spell ts) (hts : joins ts) :
    Inlining blocks grids (openGroup s "\x7d") :=
  (push_row ts hs hts).bind fun _ => braceOwed_inlines

theorem openArgument_inlines {s : String} (ts : List Token) (hs : s.toList = spell ts) (hts : joins ts) :
    Inlining blocks grids (openArgument s "\x7d") :=
  (push_row ts hs hts).bind fun _ => argumentOwed_inlines

theorem emitCloser_inlines {closer : Closer} (h : ¬ blocks → closer.InLine) :
    Inlining blocks grids (emitCloser closer) := by
  -- What a line cannot take is asked for only where blocks are allowed.
  have hblock : (¬ closer.InLine) → blocks := fun hnot => Classical.byContradiction fun hn => hnot (h hn)
  cases closer with
  | text s =>
    refine push_inlines fun hn => ?_
    cases h hn with
    | text _ spelled row => exact ⟨_, spelled, row⟩
  | brace s =>
    refine (push_inlines fun hn => ?_).bind fun _ => .modifies fun _ => .of_eq rfl rfl rfl rfl rfl rfl
    cases h hn with
    | brace _ spelled row => exact ⟨_, spelled, row⟩
  | paragraphBreak => exact write_block (hblock (by rintro ⟨⟩)) _
  | newline => exact newline_inlines
  | label name => exact pushLabel_inlines name
  | endArgument => exact .modifies fun _ => .of_eq rfl rfl rfl rfl rfl rfl

theorem emitClosers_inlines : ∀ {closers : List Closer}, (¬ blocks → ∀ closer ∈ closers, closer.InLine) →
    Inlining blocks grids (emitClosers closers)
  | [], _ => .pure ()
  | _ :: _, h =>
    (emitCloser_inlines fun hn => h hn _ List.mem_cons_self).bind fun _ =>
      emitClosers_inlines fun hn closer hmem => h hn closer (List.mem_cons_of_mem _ hmem)

theorem closeFrame_inlines {f : Frame} (h : ¬ blocks → ∀ closer ∈ f.closers, closer.InLine) :
    Inlining blocks grids (closeFrame f) := emitClosers_inlines h

theorem closeBraces_inlines (saved : Nat) : ∀ n, Inlining blocks grids (closeBraces saved n)
  | 0 => .pure ()
  | n + 1 => by
    unfold closeBraces
    refine .get_bind fun _ => .ite (fun _ => ?_) fun _ => .pure ()
    refine (push_row [closing] rfl rfl).bind fun _ => ?_
    exact .modify_bind (fun _ => .of_eq rfl rfl rfl rfl rfl rfl) (closeBraces_inlines saved n)

/-! ## Formatting -/

theorem warn_inlines (fault : Fault) (element : Option String) : Inlining blocks grids (warn fault element) :=
  .modifies fun _ => .of_eq rfl rfl rfl rfl rfl rfl

theorem orWarn_inlines {name : String} {value : Except Fault α} {use : α → Conversion Unit}
    (h : ∀ a, value = .ok a → Inlining blocks grids (use a)) : Inlining blocks grids (orWarn name value use) := by
  cases value with
  | ok a => exact h a rfl
  | error fault => exact warn_inlines fault (some name)

theorem modifyFormatting_inlines {f : Formatting → Formatting} (h : ∀ g : Formatting, g.Tame → (f g).Tame) :
    Inlining blocks grids (modifyFormatting f) :=
  .modifies fun c => ⟨rfl, rfl, h c.formatting, fun _ => rfl, fun _ => .refl _, fun _ => id⟩

theorem applyEmphasis_inlines (k : Emphasis) : Inlining blocks grids (applyEmphasis k) := by
  have hactivate : Inlining blocks grids (modifyFormatting fun f => { f with active := f.active ∪ k.kind }) :=
    modifyFormatting_inlines fun _ h => h
  unfold applyEmphasis
  refine .get_bind fun c => .unless fun _ => .ite (fun _ => ?_) fun _ => ?_
  · refine Relates.bind ?_ fun _ => hactivate
    cases k with
    | bold => exact openArgument_inlines [word "textbf", opening] rfl rfl
    | italic => exact openArgument_inlines [word "textit", opening] rfl rfl
    | underline => exact openArgument_inlines [word "underline", opening] rfl rfl
  · cases k with
    | bold => exact (openGroup_inlines [opening, word "bfseries", char ' '] rfl rfl).bind fun _ => hactivate
    | italic => exact (openGroup_inlines [opening, word "itshape", char ' '] rfl rfl).bind fun _ => hactivate
    | underline => exact modifyFormatting_inlines fun _ h => h

/-- A command that takes a color, up to the brace behind the color. -/
theorem joins_colored {w hex : String} (hw : fluent (colorCommand w)) (hhex : hex.toList.all isPlain) :
    joins (colorCommand w ++ chars hex.toList ++ [closing]) := by
  refine joins_of_fluent (fluent_append (fluent_append hw (fluent_chars hhex)) rfl) ?_
  rw [noEnvironment_append, noEnvironment_append, noEnvironment_chars]
  rfl

theorem colorArgument_inlines {w hex : String} (hw : fluent (colorCommand w)) (hhex : hex.toList.all isPlain) :
    Inlining blocks grids (openArgument ("\\" ++ w ++ "[HTML]" ++ braced hex ++ "\x7b") "\x7d") := by
  refine openArgument_inlines (colorCommand w ++ chars hex.toList ++ [closing] ++ [opening]) ?_
    (joins_append (joins_colored hw hhex) rfl)
  rw [spell_append, ← colorCommand_spell]
  simp [render]

theorem applyColor_inlines {hex : String} (hhex : hex.toList.all isPlain) :
    Inlining blocks grids (applyColor hex) := by
  unfold applyColor
  refine .get_bind fun c => .unless fun _ => ?_
  extract_lets activate
  have hactivate : Inlining blocks grids (activate ()) := modifyFormatting_inlines fun _ h => h
  refine .ite (fun _ => ?_) fun _ => ?_
  · refine (openGroup_inlines ([opening] ++ (colorCommand "color" ++ chars hex.toList ++ [closing])) ?_
      (joins_append rfl (joins_colored rfl hhex))).bind fun _ => hactivate
    rw [spell_append, ← colorCommand_spell]
    simp [render]
  · exact (colorArgument_inlines (w := "textcolor") rfl hhex).bind fun _ => hactivate

theorem applyBackground_inlines {hex : String} (hhex : hex.toList.all isPlain) :
    Inlining blocks grids (applyBackground hex) := by
  unfold applyBackground
  refine .get_bind fun c => .unless fun _ => .ite (fun _ => ?_) fun _ => ?_
  · refine modifyFormatting_inlines fun _ _ hex' h => ?_
    cases h
    exact hhex
  · refine (colorArgument_inlines (w := "colorbox") rfl hhex).bind fun _ => ?_
    exact modifyFormatting_inlines fun _ h => h

theorem applyFamily_inlines (family : Family) : Inlining blocks grids (applyFamily family) := by
  unfold applyFamily
  refine .get_bind fun c => .unless fun _ => ?_
  extract_lets activate
  have hactivate : Inlining blocks grids (activate ()) := modifyFormatting_inlines fun _ h => h
  refine .ite (fun _ => Relates.bind ?_ fun _ => hactivate) fun _ => Relates.bind ?_ fun _ => hactivate
  · cases family with
    | monospace => exact openGroup_inlines [opening, word "ttfamily", char ' '] rfl rfl
    | sans => exact openGroup_inlines [opening, word "sffamily", char ' '] rfl rfl
    | roman => exact openGroup_inlines [opening, word "rmfamily", char ' '] rfl rfl
  · cases family with
    | monospace => exact openArgument_inlines [word "texttt", opening] rfl rfl
    | sans => exact openArgument_inlines [word "textsf", opening] rfl rfl
    | roman => exact openArgument_inlines [word "textrm", opening] rfl rfl

theorem applySize_inlines {switch : String} (h : IsSize switch) :
    Inlining blocks grids (applySize switch) := by
  obtain ⟨ts, hs, hfluent, hnone, -⟩ := h.spells
  unfold applySize
  refine .get_bind fun c => .unless fun _ => ?_
  refine (openGroup_inlines ([opening] ++ (ts ++ [char ' '])) ?_ ?_).bind fun _ =>
    modifyFormatting_inlines fun _ h => h
  · simp [hs, render]
  · refine joins_append rfl (joins_of_fluent hfluent ?_)
    rw [noEnvironment_append, hnone]
    rfl

theorem applyStyle_inlines (e : Element) (style : Style) : Inlining blocks grids (applyStyle e style) := by
  unfold applyStyle
  -- The rest of the action from each of its steps on, the last one first.
  extract_lets underline italic bold background
  have hunderline : Inlining blocks grids (underline ()) :=
    .ite (fun _ => applyEmphasis_inlines _) fun _ => .pure ()
  have hitalic : Inlining blocks grids (italic ()) :=
    .ite (fun _ => (applyEmphasis_inlines _).bind fun _ => hunderline) fun _ => hunderline
  have hbold : Inlining blocks grids (bold ()) :=
    .ite (fun _ => (applyEmphasis_inlines _).bind fun _ => hitalic) fun _ => hitalic
  have hbackground : Inlining blocks grids (background ()) := by
    refine .ite (fun _ => ?_) fun _ => hbold
    cases style.backgroundColor? with
    | none => exact hbold
    | some value =>
      exact (orWarn_inlines fun _ h => applyBackground_inlines (toHex_plain h)).bind fun _ => hbold
  refine .ite (fun _ => ?_) fun _ => hbackground
  cases style.get? "color" with
  | none => exact hbackground
  | some value =>
    exact (orWarn_inlines fun _ h => applyColor_inlines (toHex_plain h)).bind fun _ => hbackground

/-- A handler that ends in the style of the element. -/
theorem styled_inlines (e : Element) (style : Style) :
    Inlining blocks grids (applyStyle e style >>= fun _ => pure Flow.descend) :=
  (applyStyle_inlines e style).bind fun _ => .pure _

end Convert

end MarkupTex
