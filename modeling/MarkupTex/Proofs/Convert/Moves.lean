import MarkupTex.Proofs.Convert.Causes
import MarkupTex.Proofs.Convert.Wishes
import Mathlib.Logic.Relation
/-!
# What is done on entering an element

A handler is a row of moves, and there are only a few kinds of them: it writes a calm row or trims the
output, it has something written on leaving, it keeps books, it grants a wish, and it opens the argument of
a command that formats nothing.  `Asks` tells where a wish comes from.

`Acts` is a row of moves, and knows whether the style of the element was applied on the way, so that what
is to be shown of all the handlers is shown of a move.  Tables and images are left to themselves: a table
puts formatting back to its beginning, and an image writes brackets.
-/

set_option autoImplicit false

namespace MarkupTex.Convert

open Latex Token

variable {α β : Type} {doc : Document} {setting : Setting} {id : Nat} {e : Element} {style : Style}
  {c c' c₁ c₂ : Converter} {m : Conversion α} {ts : List Token} {b b' : Bool}

/-- The tag that stands for an emphasis. -/
def Emphasis.tag : Emphasis → Tag
  | bold => .bold
  | italic => .italic
  | underline => .underline

/-- The style asks for an emphasis. -/
def Emphasis.wanted (style : Style) : Emphasis → Bool
  | bold => style.isBold
  | italic => style.isItalic
  | underline => style.isUnderline

/-- What a style asks for. -/
inductive Demands (style : Style) : Wish → Prop where
  | color {value hex : String} (has : style.has Kinds.color = true)
      (asks : style.get? "color" = some value) (read : Color.toHex value = .ok hex) :
      Demands style (.color hex)
  | background {value hex : String} (has : style.has Kinds.background = true)
      (asks : style.backgroundColor? = some value) (read : Color.toHex value = .ok hex) :
      Demands style (.background hex)
  | emphasis {k : Emphasis} (asks : k.wanted style = true) : Demands style (.emphasis k)

/-- What an element asks for in a state, and why. -/
inductive Asks (e : Element) (style : Style) (c : Converter) : Wish → Prop where
  | style {w : Wish} (demands : Demands style w) : Asks e style c w
  | tag {k : Emphasis} (tag : e.tag = k.tag) : Asks e style c (.emphasis k)
  | code (tag : e.tag = .code) : Asks e style c (.family .monospace)
  | inlineBold (inline : c.inlineOnly = true) : Asks e style c (.emphasis .bold)
  | inlineMonospace (inline : c.inlineOnly = true) : Asks e style c (.family .monospace)
  | colorAttribute {value hex : String} (span : IsSpan e) (free : style.has Kinds.color = false)
      (asks : e.attribute? "color" = some value) (read : Color.toHex value = .ok hex) :
      Asks e style c (.color hex)
  | size {switch : String} (span : IsSpan e) (asks : spanSize? e style = some (.ok switch)) :
      Asks e style c (.size switch)
  | family {family : Family} (span : IsSpan e)
      (asks : ((style.get? "font-family").or (e.attribute? "face")).bind family? = some family) :
      Asks e style c (.family family)

theorem Demands.plain {w : Wish} (h : Demands style w) : w.Plain := by
  cases h with
  | color _ _ read | background _ _ read => exact toHex_plain read
  | emphasis => trivial

theorem Asks.plain {w : Wish} (h : Asks e style c w) : w.Plain := by
  cases h with
  | style demands => exact demands.plain
  | colorAttribute _ _ _ read => exact toHex_plain read
  | _ => trivial

/-- What it writes on leaving is calm. -/
inductive Closer.Later : Closer → Prop where
  | text {s : String} {ts : List Token} (spelled : s.toList = spell ts) (calm : calm ts) :
      Later (.text s)
  | paragraphBreak : Later .paragraphBreak
  | newline : Later .newline
  | label (name : String) : Later (.label name)

/-- It closes a brace. -/
def Closer.isBrace : Closer → Bool
  | brace _ => true
  | _ => false

theorem Closer.Later.not_brace {closer : Closer} (h : closer.Later) : closer.isBrace = false := by
  cases h <;> rfl

/-- A row that begins the argument of a command which formats nothing, up to its brace. -/
inductive Heads (e : Element) : List Token → Prop where
  | section {level : Nat} {command : String} (tag : e.tag = .heading level)
      (known : headingCommand? level = some command) : Heads e [word command]
  | script {command : String} (known : command = "textsubscript" ∨ command = "textsuperscript") :
      Heads e [word command]
  | target (href : String) :
      Heads e ([word "href", opening] ++ href.toList.flatMap urlTokens ++ [closing])
  | fragment {href fragment : String} (tag : e.tag = .anchor)
      (asks : e.nonBlankAttribute? "href" = some href)
      (local' : Text.afterStart? "#" href = some fragment) (some' : fragment.isEmpty = false) :
      Heads e ([word "hyperref", char '['] ++ fragment.toList.flatMap pathTokens ++ [char ']'])

theorem Heads.quiet (h : Heads e ts) : ts.all isQuiet := by
  cases h with
  | «section» _ known =>
    unfold headingCommand? at known
    split at known <;> cases known <;> rfl
  | script known => rcases known with rfl | rfl <;> rfl
  | target href =>
    rw [List.all_append, List.all_append, quiet_url]
    rfl
  | @fragment _ fragment =>
    rw [List.all_append, List.all_append, quiet_path]
    rfl

/-- The frames with one more thing to be written on leaving the innermost element. -/
def owing (closer : Closer) : List Frame → List Frame
  | [] => []
  | f :: fs => { f with closers := closer :: f.closers } :: fs

/-- One thing that a handler does. -/
inductive Move (e : Element) (style : Style) : Converter → Converter → Prop where
  | note {c : Converter} {table : Option TableState} {tables listDepth preDepth : Nat}
      {reported : List String} {frames : List Frame}
      (cell : c.inCell = true → table.any (·.inCell) = true)
      (owed : frames.map Frame.closers = c.frames.map Frame.closers) :
      Move e style c { c with table, tables, listDepth, preDepth, reported, frames }
  | trim {c : Converter} : Move e style c { c with buffer := c.buffer.trimSpaces }
  | write {c c' : Converter} {ts : List Token} (wrote : Wrote ts c c') (calm : calm ts) :
      Move e style c c'
  | owe {c : Converter} {closer : Closer} (later : closer.Later) :
      Move e style c { c with frames := owing closer c.frames }
  | align {c : Converter} {active : Kinds} (alignment : Option Latex.Alignment)
      (kept : active = c.formatting.active ∨ active = c.formatting.active ∪ Kinds.textAlign) :
      Move e style c { c with formatting := { c.formatting with active, alignment } }
  | wish {c c' : Converter} {w : Wish} (asks : Asks e style c w) (granted : Granted w c c') :
      Move e style c c'
  | command {c c₁ : Converter} {ts : List Token} (head : Heads e ts)
      (wrote : Wrote (ts ++ [opening]) c c₁) : Move e style c (Opening.argument.owe c₁)
  | term {c c₁ : Converter} (tag : e.tag = .descriptionTerm) (blocks : c.inlineOnly = false)
      (wrote : Wrote [word "item", char '['] c c₁) : Move e style c (Opening.term.owe c₁)

/-- A row of moves. -/
abbrev Moves (e : Element) (style : Style) : Converter → Converter → Prop :=
  Relation.ReflTransGen (Move e style)

instance : Trans (Moves e style) (Moves e style) (Moves e style) := ⟨Relation.ReflTransGen.trans⟩

/-- What every move does a row of moves does. -/
theorem Moves.relates {R : Converter → Converter → Prop} (refl : ∀ c, R c c)
    (trans : ∀ {c c₁ c₂}, R c c₁ → R c₁ c₂ → R c c₂) (move : ∀ {c c'}, Move e style c c' → R c c')
    (h : Moves e style c c') : R c c' := by
  induction h with
  | refl => exact refl c
  | tail _ m ih => exact trans ih (move m)

/-! ## The style of an element -/

/-- A row of moves that grants some wishes on the way. -/
structure Grants (e : Element) (style : Style) (wishes : Wish → Prop) (c c' : Converter) : Prop where
  moves : Moves e style c c'
  granted : ∀ w, wishes w → ∃ c₁ c₂, Moves e style c c₁ ∧ Granted w c₁ c₂ ∧ Moves e style c₂ c'

namespace Grants

variable {wishes more : Wish → Prop}

theorem nothing (h : Moves e style c c') : Grants e style (fun _ => False) c c' := ⟨h, fun _ h => h.elim⟩

theorem trans (h : Grants e style wishes c c₁) (h' : Grants e style more c₁ c₂) :
    Grants e style (fun w => wishes w ∨ more w) c c₂ := by
  refine ⟨h.moves.trans h'.moves, fun w hw => ?_⟩
  rcases hw with hw | hw
  · obtain ⟨c₃, c₄, hbefore, hgranted, hafter⟩ := h.granted w hw
    exact ⟨c₃, c₄, hbefore, hgranted, hafter.trans h'.moves⟩
  · obtain ⟨c₃, c₄, hbefore, hgranted, hafter⟩ := h'.granted w hw
    exact ⟨c₃, c₄, h.moves.trans hbefore, hgranted, hafter⟩

theorem mono (h : Grants e style wishes c c') (hsub : ∀ w, more w → wishes w) :
    Grants e style more c c' := ⟨h.moves, fun w hw => h.granted w (hsub w hw)⟩

/-- One wish is granted, if anything is asked for. -/
theorem single {w : Wish} (asks : Demands style w) (h : Granted w c c') :
    Grants e style (· = w) c c' :=
  ⟨.single (.wish (.style asks) h), fun _ hw => ⟨c, c', .refl, hw ▸ h, .refl⟩⟩

end Grants

/-- The action grants the wishes, wherever it succeeds. -/
def Granting (e : Element) (style : Style) (wishes : Wish → Prop) (m : Conversion α) : Prop :=
  ∀ c, Ensures m c fun _ c' => Grants e style wishes c c'

section Granting

variable {wishes more : Wish → Prop} {next : Unit → Conversion Unit} {m : Conversion Unit}

theorem Granting.before (h : Granting e style wishes m) (hnext : Granting e style more (next ())) :
    Granting e style (fun w => wishes w ∨ more w) (m >>= next) := fun c =>
  (h c).bind fun _ c₁ h₁ => (hnext c₁).mono fun _ _ h₂ => h₁.trans h₂

/-- A value that is read is granted, and a fault becomes a warning. -/
theorem orWarn_granting {name : String} {value : Except Fault String} {use : String → Conversion Unit}
    {wish : String → Wish} (asks : ∀ hex, value = .ok hex → Demands style (wish hex))
    (h : ∀ hex c, Ensures (use hex) c fun _ c' => Granted (wish hex) c c') :
    Granting e style (fun w => ∃ hex, value = .ok hex ∧ w = wish hex) (orWarn name value use) := by
  intro c
  cases value with
  | ok hex =>
    refine (h hex c).mono fun _ _ hg => (Grants.single (asks hex rfl) hg).mono ?_
    rintro _ ⟨_, hhex, rfl⟩
    rw [Except.ok.inj hhex]
  | error fault =>
    refine (warn_wrote fault (some name)).ensures.mono fun _ _ hw =>
      (Grants.nothing (.single (.write hw rfl))).mono ?_
    rintro _ ⟨_, hhex, -⟩
    cases hhex

theorem emphasis_granting {k : Emphasis} (hnext : Granting e style more (next ())) :
    Granting e style (fun w => (w = .emphasis k ∧ k.wanted style = true) ∨ more w)
      (if k.wanted style = true then applyEmphasis k >>= next else next ()) := by
  intro c
  refine Ensures.ite (fun hwanted => ?_) fun hnot => ?_
  · have hgrants : Granting e style (· = .emphasis k) (applyEmphasis k) := fun c =>
      (applyEmphasis_grants k c).mono fun _ _ hg => .single (.emphasis hwanted) hg
    exact (hgrants.before hnext c).mono fun _ _ h => h.mono fun w hw => hw.imp_left And.left
  · exact (hnext c).mono fun _ _ h => h.mono fun w hw => hw.resolve_left fun h => hnot h.2

theorem demands_color {hex : String} : Demands style (.color hex) ↔ style.has Kinds.color = true ∧
    ∃ value, style.get? "color" = some value ∧ Color.toHex value = .ok hex := by
  constructor
  · rintro ⟨⟩
    next has asks read => exact ⟨has, _, asks, read⟩
  · rintro ⟨has, _, asks, read⟩
    exact .color has asks read

theorem demands_background {hex : String} : Demands style (.background hex) ↔
    style.has Kinds.background = true ∧
      ∃ value, style.backgroundColor? = some value ∧ Color.toHex value = .ok hex := by
  constructor
  · rintro ⟨⟩
    next has asks read => exact ⟨has, _, asks, read⟩
  · rintro ⟨has, _, asks, read⟩
    exact .background has asks read

/-- A color that a style may have. -/
theorem color_granting {has : Bool} {value? : Option String} {v : String → Wish}
    {use : String → Conversion Unit}
    (asks : ∀ hex, Demands style (v hex) ↔
      has = true ∧ ∃ value, value? = some value ∧ Color.toHex value = .ok hex)
    (grants : ∀ hex c, Ensures (use hex) c fun _ c' => Granted (v hex) c c')
    (hnext : Granting e style more (next ())) :
    Granting e style (fun w => (∃ hex, w = v hex ∧ Demands style w) ∨ more w)
      (if has = true then
        match value? with
        | some value => orWarn e.name (Color.toHex value) use >>= next
        | _ => next ()
      else next ()) := by
  intro c
  refine Ensures.ite (fun hhas => ?_) fun hnot => ?_
  · cases value? with
    | none =>
      refine (hnext c).mono fun _ _ h => h.mono fun w hw => hw.resolve_left ?_
      rintro ⟨hex, rfl, hdemands⟩
      obtain ⟨-, _, hnone, -⟩ := (asks hex).mp hdemands
      cases hnone
    | some value =>
      refine ((orWarn_granting (fun hex hread => (asks hex).mpr ⟨hhas, value, rfl, hread⟩)
        grants).before hnext c).mono fun _ _ h => h.mono fun w hw => hw.imp_left ?_
      rintro ⟨hex, rfl, hdemands⟩
      obtain ⟨-, _, hsome, hread⟩ := (asks hex).mp hdemands
      cases hsome
      exact ⟨hex, hread, rfl⟩
  · refine (hnext c).mono fun _ _ h => h.mono fun w hw => hw.resolve_left ?_
    rintro ⟨hex, rfl, hdemands⟩
    exact hnot ((asks hex).mp hdemands).1

end Granting

/-- Applying a style grants all that it asks for, and does nothing else. -/
theorem applyStyle_granting (e : Element) (style : Style) :
    Granting e style (Demands style) (applyStyle e style) := by
  unfold applyStyle
  -- The rest of the action from each of its steps on, the last one first.
  extract_lets underline italic bold background
  have hnothing : ∀ c, Ensures (pure () : Conversion Unit) c fun _ c' =>
      Grants e style (fun _ => False) c c' := fun c => Ensures.pure (.nothing .refl)
  have hunderline : Granting e style (fun w => w = .emphasis .underline ∧ style.isUnderline = true)
      (underline ()) := fun c =>
    Ensures.ite
      (fun h => (applyEmphasis_grants .underline c).mono fun _ _ hg =>
        (Grants.single (.emphasis (k := .underline) h) hg).mono fun _ hw => hw.1)
      fun h => (hnothing c).mono fun _ _ hg => hg.mono fun _ hw => h hw.2
  have hitalic : Granting e style _ (italic ()) := emphasis_granting (k := .italic) hunderline
  have hbold : Granting e style _ (bold ()) := emphasis_granting (k := .bold) hitalic
  have hbackground : Granting e style _ (background ()) :=
    color_granting (v := .background) (fun _ => demands_background) applyBackground_grants hbold
  refine fun c => (color_granting (fun _ => demands_color) applyColor_grants hbackground c).mono
    fun _ _ h => h.mono fun w hdemands => ?_
  cases hdemands with
  | color has asks read => exact .inl ⟨_, rfl, .color has asks read⟩
  | background has asks read => exact .inr (.inl ⟨_, rfl, .background has asks read⟩)
  | @emphasis k asks =>
    refine .inr (.inr ?_)
    cases k with
    | bold => exact .inl ⟨rfl, asks⟩
    | italic => exact .inr (.inl ⟨rfl, asks⟩)
    | underline => exact .inr (.inr ⟨rfl, asks⟩)

theorem applyStyle_moves (e : Element) (style : Style) :
    Relates (Moves e style) (applyStyle e style) := fun c =>
  (applyStyle_granting e style c).mono fun _ _ h => h.moves

/-! ## Rows of moves -/

/-- A row of moves, and whether the style was applied on the way. -/
inductive Acts (e : Element) (style : Style) : Bool → Converter → Converter → Prop where
  | refl (c : Converter) : Acts e style false c c
  | move {b : Bool} {c c₁ c₂ : Converter} (h : Acts e style b c c₁) (m : Move e style c₁ c₂) :
      Acts e style b c c₂
  | style {b : Bool} {c c₁ c₂ : Converter} (h : Acts e style b c c₁)
      (applied : applyStyle e style c₁ = .ok () c₂) : Acts e style true c c₂

namespace Acts

theorem moves (h : Acts e style b c c') : Moves e style c c' := by
  induction h with
  | refl => exact .refl
  | move _ m ih => exact ih.tail m
  | @style _ _ c₁ c₂ _ applied ih => exact ih.trans (applyStyle_moves e style c₁ () c₂ applied)

/-- If the style was applied, all that it asks for was granted. -/
theorem grants (h : Acts e style true c c') : Grants e style (Demands style) c c' := by
  generalize hb : true = b at h
  induction h with
  | refl => cases hb
  | move _ m ih => exact ((ih hb).trans (.nothing (.single m))).mono fun _ hw => .inl hw
  | @style _ _ c₁ c₂ h applied _ =>
    have happlied := applyStyle_granting e style c₁ () c₂ applied
    exact ((Grants.nothing h.moves).trans happlied).mono fun _ hw => .inr hw

theorem single (m : Move e style c c') : Acts e style false c c' := (refl c).move m

theorem trans (h : Acts e style b c c₁) (h' : Acts e style b' c₁ c₂) :
    Acts e style (b || b') c c₂ := by
  induction h' with
  | refl =>
    rw [Bool.or_false]
    exact h
  | move _ m ih => exact (ih h).move m
  | style _ applied ih =>
    rw [Bool.or_true]
    exact (ih h).style applied

end Acts

/-- If the action succeeds, then by a row of moves. -/
def Performs (e : Element) (style : Style) (b : Bool) (m : Conversion α) (c : Converter) : Prop :=
  Ensures m c fun _ c' => Acts e style b c c'

namespace Performs

theorem pure {a : α} : Performs e style false (Pure.pure a) c := Ensures.pure (.refl c)

theorem move (h : Ensures m c fun _ c' => Move e style c c') : Performs e style false m c :=
  h.mono fun _ _ hm => .single hm

theorem get_bind {next : Converter → Conversion β} (h : Performs e style b (next c) c) :
    Performs e style b (get >>= next) c := h

theorem ite {p : Prop} [Decidable p] {m' : Conversion α} (h : p → Performs e style b m c)
    (h' : ¬ p → Performs e style b m' c) : Performs e style b (if p then m else m') c :=
  Ensures.ite h h'

theorem «unless» {p : Prop} [Decidable p] {m : Conversion Unit}
    (h : ¬ p → Performs e style false m c) : Performs e style false (unless p do m) c :=
  Ensures.unless h fun _ => .refl c

/-- Something comes first that does not apply the style. -/
theorem after {next : α → Conversion β} (h : Performs e style false m c)
    (hnext : ∀ a c₁, Acts e style false c c₁ → Performs e style b (next a) c₁) :
    Performs e style b (m >>= next) c :=
  h.bind fun a c₁ h₁ => (hnext a c₁ h₁).mono fun _ _ h₂ => h₁.trans h₂

/-- Something comes next that does not apply the style. -/
theorem following {next : α → Conversion β} (h : Performs e style b m c)
    (hnext : ∀ a c₁, Acts e style b c c₁ → Performs e style false (next a) c₁) :
    Performs e style b (m >>= next) c :=
  h.bind fun a c₁ h₁ => (hnext a c₁ h₁).mono fun _ _ h₂ => by simpa using h₁.trans h₂

/-- Applying the style comes first. -/
theorem applying {next : Unit → Conversion β}
    (hnext : ∀ c₁, Moves e style c c₁ → Performs e style false (next ()) c₁) :
    Performs e style true (applyStyle e style >>= next) c := by
  have hstyle : Ensures (applyStyle e style) c fun _ c₁ =>
      Acts e style true c c₁ ∧ Moves e style c c₁ :=
    fun a c₁ h => ⟨(Acts.refl c).style h, applyStyle_moves e style c a c₁ h⟩
  exact hstyle.bind fun _ c₁ ⟨h₁, hmoves⟩ => (hnext c₁ hmoves).mono fun _ _ h₂ => h₁.trans h₂

end Performs

/-! ### Writing -/

theorem Wrote.performs {m : Conversion Unit} (h : Yields m c fun _ c' => Wrote ts c c')
    (hts : calm ts) : Performs e style false m c :=
  .move (h.ensures.mono fun _ _ hw => .write hw hts)

theorem push_performs {s : String} (ts : List Token) (hs : s.toList = spell ts) (hts : calm ts) :
    Performs e style false (push s) c :=
  Wrote.performs (push_yields ts hs) hts

theorem warn_performs (fault : Fault) (element : Option String) :
    Performs e style false (warn fault element) c := Wrote.performs (warn_wrote fault element) rfl

theorem trimSpaces_performs : Performs e style false trimSpaces c := .move (Ensures.modifies .trim)

/-- A new line is begun, unless the output is at the beginning of one. -/
theorem newline_writes (c : Converter) :
    Ensures newline c fun _ c' => ∃ ts, (ts = [] ∨ ts = [char '\n']) ∧ Wrote ts c c' := by
  rcases Buffer.newline_adds c.buffer with h | ⟨-, h⟩
  · exact (write_ok (Q := fun _ c' => ∃ ts, (ts = [] ∨ ts = [char '\n']) ∧ Wrote ts c c') h
      ⟨[], .inl rfl, .nil⟩).ensures
  · have hwrote : Yields newline c fun _ c' => Wrote [char '\n'] c c' := write_yields h
    exact hwrote.ensures.mono fun _ _ hw => ⟨_, .inr rfl, hw⟩

/-- A paragraph ends, unless there is nothing to end. -/
theorem paragraphBreak_writes (c : Converter) :
    Ensures paragraphBreak c fun _ c' =>
      c' = c ∨ ∃ ts, calm ts ∧ Wrote ts { c with buffer := c.buffer.trimSpaces } c' := by
  have hadd : ∀ (ts : List Token) (b : Buffer), calm ts →
      b.text.toList = c.buffer.trimSpaces.text.toList ++ spell ts →
      ∃ ts, calm ts ∧ Wrote ts { c with buffer := c.buffer.trimSpaces } { c with buffer := b } :=
    fun ts _ hts hb => ⟨ts, hts, .of_buffer hb⟩
  refine Yields.ensures ?_
  rcases Buffer.paragraphBreak_adds c.buffer with h | h | h | h
  · exact write_ok h (.inl rfl)
  · exact write_ok h (.inr ⟨[], rfl, .nil⟩)
  · exact write_adds h fun b hb => .inr (hadd [char '\n'] b rfl hb)
  · exact write_adds h fun b hb => .inr (hadd [char '\n', char '\n'] b rfl hb)

theorem newline_performs : Performs e style false newline c :=
  (newline_writes c).mono fun _ _ ⟨_, hts, hw⟩ =>
    .single (.write hw (by rcases hts with rfl | rfl <;> rfl))

theorem paragraphBreak_performs : Performs e style false paragraphBreak c := by
  refine (paragraphBreak_writes c).mono ?_
  rintro _ c' (rfl | ⟨ts, hts, hw⟩)
  · exact .refl c'
  · exact (Acts.single .trim).move (.write hw hts)

theorem spaceApart_performs : Performs e style false spaceApart c := by
  unfold spaceApart
  exact .get_bind (.unless fun _ => push_performs [char ' '] rfl rfl)

theorem onLeave_performs {closer : Closer} (h : closer.Later) :
    Performs e style false (onLeave closer) c := by
  refine .move (Ensures.modifies ?_)
  have hmove : Move e style c { c with frames := owing closer c.frames } := .owe h
  cases hf : c.frames with
  | nil =>
    rw [hf, owing, ← hf] at hmove
    exact hmove
  | cons f fs =>
    rw [hf, owing] at hmove
    exact hmove

/-- What is noted in the frame of the element is not written on leaving. -/
theorem modifyFrame_performs {f : Frame → Frame} (hf : ∀ g, (f g).closers = g.closers) :
    Performs e style false (modifyFrame f) c := by
  unfold modifyFrame
  refine Ensures.get_bind ?_
  cases hframes : c.frames with
  | nil => exact Ensures.throws
  | cons g fs =>
    refine Ensures.modifies (.single (.note (fun h => h) ?_))
    simp [hframes, hf]

theorem wish_performs {w : Wish} {m : Conversion Unit} (asks : Asks e style c w)
    (h : Ensures m c fun _ c' => Granted w c c') : Performs e style false m c :=
  .move (h.mono fun _ _ hg => .wish asks hg)

end MarkupTex.Convert
