import MarkupTex.Proofs.Convert.Restoration
/-!
# The output as a row of tokens

Outside of verbatim blocks all that is written is a row of tokens, and stays one where spaces are cut
off.  `Follows old new p c c'` says what becomes of such a row between two states: the brackets `old`
that were opened last have given way to `new`, and a control word got a letter directly behind it if and
only if `p`.  An edit does neither, an opening brings its brackets, and its end takes them away.

A letter can come directly behind a word only where a text is written, or the description of an image
that was not found: everything else begins with a mark of its own.
-/

set_option autoImplicit false

namespace MarkupTex

open Latex Walk

namespace Convert

open Token

variable {o : Options} {c c' c₁ c₂ c₃ : Converter} {ts us : List Token} {op : Opening}
  {ops : List Opening} {old mid new : List Bracket} {p q : Prop}

/-- The output is this row of known tokens, and what may be written next is known as well. -/
structure Spelled (o : Options) (c : Converter) (ts : List Token) : Prop where
  tame : c.Tame
  output : c.output = spell ts
  known : ts.all (Token.known o.figurePlacement)
  anchored : anchored ts

theorem spelled_start (o : Options) : Spelled o Converter.start [] :=
  ⟨⟨rfl, fun _ h => by cases h⟩, rfl, rfl, rfl⟩

/-- What is the same as far as the output goes is spelled the same. -/
theorem Spelled.congr (h : Spelled o c ts) (tame : c'.Tame) (output : c'.output = c.output) :
    Spelled o c' ts := ⟨tame, output.trans h.output, h.known, h.anchored⟩

/-- From a row of tokens another one was made. -/
def Follows (o : Options) (old new : List Bracket) (p : Prop) (c c' : Converter) : Prop :=
  ∀ ts, Spelled o c ts → ∃ us, Spelled o c' us ∧
    (∀ stack, nest [] ts = some (old ++ stack) → nest [] us = some (new ++ stack)) ∧
    (glued us ↔ glued ts ∨ p)

namespace Follows

theorem refl (c : Converter) : Follows o [] [] False c c := fun ts h =>
  ⟨ts, h, fun _ hs => hs, by simp⟩

theorem trans (h : Follows o old mid p c c₁) (h' : Follows o mid new q c₁ c₂) :
    Follows o old new (p ∨ q) c c₂ := by
  intro ts hts
  obtain ⟨us, hus, hnest, hglued⟩ := h ts hts
  obtain ⟨vs, hvs, hnest', hglued'⟩ := h' us hus
  refine ⟨vs, hvs, fun stack hs => hnest' stack (hnest stack hs), ?_⟩
  rw [hglued', hglued, or_assoc]

theorem congr (h : Follows o old new p c c') (hpq : p ↔ q) : Follows o old new q c c' := by
  rw [← propext hpq]
  exact h

/-- Two steps that glue nothing. -/
theorem step (h : Follows o old mid False c c₁) (h' : Follows o mid new False c₁ c₂) :
    Follows o old new False c c₂ := (h.trans h').congr (or_self_iff)

/-- What is open further out does not matter. -/
theorem under (h : Follows o old new p c c') (outer : List Bracket) :
    Follows o (old ++ outer) (new ++ outer) p c c' := by
  intro ts hts
  obtain ⟨us, hus, hnest, hglued⟩ := h ts hts
  refine ⟨us, hus, fun stack hs => ?_, hglued⟩
  rw [List.append_assoc] at hs ⊢
  exact hnest _ hs

/-- A change of something else than the output. -/
theorem of_output (tame : c.Tame → c'.Tame) (output : c'.output = c.output) :
    Follows o [] [] False c c' := fun ts h =>
  ⟨ts, h.congr (tame h.tame) output, fun _ hs => hs, by simp⟩

end Follows

/-! ## Writing -/

theorem Wrote.tame (h : Wrote ts c c') (hc : c.Tame) : c'.Tame := by
  obtain ⟨b, _, _, _, _, rfl, -⟩ := h
  exact ⟨hc.pre, hc.formatting⟩

/-- The output ended in a control word, and a letter was put directly behind it. -/
def Glues (c c' : Converter) : Prop :=
  EndsInWord c.output ∧
    ∃ letter rest, c'.output = c.output ++ letter :: rest ∧ Text.isAsciiLetter letter

theorem letterFirst_iff :
    letterFirst ts ↔ ∃ letter rest, spell ts = letter :: rest ∧ Text.isAsciiLetter letter := by
  rw [← head?_spell ts]
  cases spell ts with
  | nil => simp
  | cons c cs => simp

theorem Wrote.glues_iff (h : Wrote us c c') :
    Glues c c' ↔ EndsInWord c.output ∧ letterFirst us := by
  rw [Glues, letterFirst_iff, h.output]
  simp

/-- Writing a row glues a word to a letter only where the two rows meet. -/
theorem Turns.follows (h : Turns o old new c us) (hw : Wrote us c c') :
    Follows o old new (Glues c c') c c' := by
  intro ts hts
  have hknown := h.known hts.tame
  have hguarded := h.guarded
  simp only [Latex.guarded, Bool.and_eq_true, Bool.not_eq_true'] at hguarded
  obtain ⟨⟨hanchored, hparted⟩, -⟩ := hguarded
  refine ⟨ts ++ us, ⟨hw.tame hts.tame, ?_, ?_, anchored_append hts.anchored hanchored⟩,
    fun stack hs => ?_, ?_⟩
  · rw [hw.output, hts.output, spell_append]
  · rw [List.all_append, hts.known, hknown]
    rfl
  · rw [nest_append, hs, Option.bind_some, h.nests]
  · rw [hw.glues_iff, hts.output, glued_append, hparted, Bool.or_false, Bool.or_eq_true,
      Bool.and_eq_true]
    constructor
    · rintro (hglued | ⟨hlast, hfirst⟩)
      · exact Or.inl hglued
      · exact Or.inr ⟨endsInWord_of_word hts.known hlast, hfirst⟩
    · rintro (hglued | ⟨hend, hfirst⟩)
      · exact Or.inl hglued
      · exact (word_of_endsInWord hts.known (all_isWhole_of_anchored hts.anchored) hend).imp id
          fun hlast => ⟨hlast, hfirst⟩

/-- A row that does not begin with a letter glues nothing. -/
theorem Turns.follows_marked (h : Turns o old new c us) (head : letterFirst us = false)
    (hw : Wrote us c c') : Follows o old new False c c' :=
  (h.follows hw).congr (by simp [hw.glues_iff, head])

theorem AddsRow.follows (h : AddsRow o c c') : Follows o [] [] (Glues c c') c c' := by
  obtain ⟨ts, hpiece, hw⟩ := h
  exact hpiece.follows hw

theorem output_trim (c : Converter) :
    Converter.output { c with buffer := c.buffer.trimSpaces } =
      Text.dropEndWhile (· = ' ') c.output := c.buffer.toList_trimSpaces

theorem Edit.follows (h : Edit o c c') : Follows o [] [] False c c' := by
  cases h with
  | note => exact .of_output (fun hc => ⟨hc.pre, hc.formatting⟩) rfl
  | format f tame => exact .of_output (fun hc => ⟨hc.pre, tame hc.formatting⟩) rfl
  | table => exact .of_output (fun hc => ⟨hc.pre, hc.formatting⟩) rfl
  | trim =>
    intro ts hts
    refine ⟨trimmed ts, ⟨⟨hts.tame.pre, hts.tame.formatting⟩, ?_, trimmed_all hts.known,
      anchored_trimmed hts.anchored⟩, fun stack hs => ?_, ?_⟩
    · rw [output_trim, hts.output, dropSpaces_spell hts.known]
    · rw [nest_trimmed]
      exact hs
    · rw [glued_trimmed, or_false]
  | write wrote piece head => exact piece.follows_marked head wrote

/-! ## Opening and closing -/

/-- The brackets of constructs, as they stand open, the innermost first. -/
def bracketsOf (ops : List Opening) : List Bracket := ops.flatMap Opening.brackets

theorem Open.follows (h : Open o op c c') (hop : op.isVerbatim = false) :
    Follows o [] op.brackets False c c' := by
  obtain ⟨ts, c₁, hbegins, hw, rfl⟩ := h
  have howe : Follows o [] [] False c₁ (op.owe c₁) :=
    .of_output (fun hc => ⟨by simp [Opening.owe, hop, hc.pre], hc.formatting⟩) rfl
  exact (hbegins.turns.follows_marked hbegins.head hw).step (howe.under op.brackets)

theorem Opens.follows (h : Opens o ops c c') (hops : ∀ op ∈ ops, op.isVerbatim = false) :
    Follows o [] (bracketsOf ops) False c c' := by
  induction h with
  | refl c => exact .refl c
  | edit _ e ih => exact (ih hops).step (e.follows.under _)
  | @«open» op ops _ _ _ _ e ih =>
    have hbefore := ih fun op hop => hops op (List.mem_cons_of_mem _ hop)
    exact hbefore.step ((e.follows (hops op List.mem_cons_self)).under (bracketsOf ops))

/-- Edits alone. -/
theorem Opens.follows_edits (h : Opens o [] c c') : Follows o [] [] False c c' :=
  h.follows (by simp)

/-- The end of an environment closes it. -/
theorem nest_ends {name : String} {ts : List Token} (hts : ∀ stack, nest stack ts = some stack)
    (stack : List Bracket) :
    nest (.environment name.toList :: stack) (endEnv name :: ts) = some stack := by
  rw [nest, Token.turn, close, if_pos rfl, Option.bind_some, hts]

/-- The end of a construct closes what its beginning opened. -/
theorem turns_ending (hflat : op.isBlock → Flat c) : Turns o op.brackets [] c op.ending := by
  cases op with
  | group | argument | term | paragraph | space => exact .of_fluent (fun _ => rfl) rfl
  | aligned a => exact .of_sound (hflat rfl) (nest_ends fun _ => rfl) (by cases a <;> rfl)
  | block env => exact .of_sound (hflat rfl) (nest_ends fun _ => rfl) (by cases env <;> rfl)
  | verbatim => exact .of_sound (hflat rfl) (nest_ends fun _ => rfl) rfl
  | list kind => exact .of_sound (hflat rfl) (nest_ends fun _ => rfl) (by cases kind <;> rfl)
  | label name =>
    have hname := fluent_flatMap fluent_pathTokens name.toList
    refine .of_fluent (fun stack => ?_) (fluent_append (fluent_append rfl hname) rfl)
    simp only [Opening.ending, Opening.brackets, nest_append, nest_flatMap nest_pathTokens, nest,
      Token.turn, List.nil_append, Option.bind_some]
    rfl
  | row setting =>
    dsimp only [Opening.ending, Opening.brackets]
    split
    · exact .of_fluent (fun _ => rfl) rfl
    · exact .of_fluent (fun _ => rfl) rfl

theorem letterFirst_ending (op : Opening) : letterFirst op.ending = false := by
  cases op with
  | row setting =>
    dsimp only [Opening.ending]
    split <;> rfl
  | _ => rfl

theorem Opening.settle_flat (hflat : op.isBlock → Flat c) : op.isBlock → Flat (op.settle c) := by
  intro hop
  have hc : c.argumentDepth = 0 := hflat hop
  show c.argumentDepth - _ = 0
  rw [hc, Nat.zero_sub]

theorem Close.follows (h : Close o op c c') : Follows o op.brackets [] False c c' := by
  obtain ⟨c₁, c₂, hflat, hbefore, hw, hafter⟩ := h
  have hturns : Turns o op.brackets [] (op.settle c₁) op.ending :=
    turns_ending (op.settle_flat fun hop => hbefore.flat (hflat hop))
  have hsettle : Follows o [] [] False c₁ (op.settle c₁) :=
    .of_output (fun hc => ⟨hc.pre, hc.formatting⟩) rfl
  have hend := hturns.follows_marked (letterFirst_ending op) hw
  exact (((hbefore.follows_edits.step hsettle).under op.brackets).step hend).step
    hafter.follows_edits

theorem Closes.follows (h : Closes o ops c c') : Follows o (bracketsOf ops) [] False c c' := by
  induction h with
  | nil c => exact .refl c
  | @cons op ops _ _ _ h _ ih => exact (h.follows.under (bracketsOf ops)).step ih

/-! ## Tables and cells -/

theorem BeginsTable.follows {t : TableState} (h : BeginsTable o t c c') :
    Follows o [] (tableBrackets t.nested) False c c' := by
  obtain ⟨ts, c₁, c₂, -, hbefore, hturns, head, hw, rfl⟩ := h
  have hinstall : Follows o [] [] False c₂ (c₂.install t) :=
    .of_output (fun hc => ⟨hc.pre, fun _ h => by cases h⟩) rfl
  exact (hbefore.follows_edits.step (hturns.follows_marked head hw)).step
    (hinstall.under (tableBrackets t.nested))

theorem EndsTable.follows {nested : Bool} {outer : Option TableState}
    (h : EndsTable o nested outer c c') : Follows o (tableBrackets nested) [] False c c' := by
  obtain ⟨ts, c₁, c₂, c₃, hbefore, hturns, head, hw, hafter, rfl⟩ := h
  have hnone : Follows o [] [] False c { c with table := none } :=
    .of_output (fun hc => ⟨hc.pre, hc.formatting⟩) rfl
  have houter : Follows o [] [] False c₃ { c₃ with table := outer } :=
    .of_output (fun hc => ⟨hc.pre, hc.formatting⟩) rfl
  have hend := hturns.follows_marked head hw
  exact (((hnone.step hbefore.follows_edits).under (tableBrackets nested)).step hend).step
    (hafter.follows_edits.step houter)

theorem BeginsCell.follows (h : BeginsCell o ops c c') (hops : ∀ op ∈ ops, op.isVerbatim = false) :
    Follows o [] (bracketsOf ops) False c c' := by
  obtain ⟨c₁, padding, -, -, hbefore, hrest⟩ := h
  have hcell : Follows o [] [] False c₁ (c₁.enterCell padding) :=
    .of_output (fun hc => ⟨hc.pre, hc.formatting⟩) rfl
  exact (hbefore.follows_edits.step hcell).step (hrest.follows hops)

theorem EndsCell.follows (h : EndsCell o ops c c') :
    Follows o (bracketsOf ops) [] False c c' := by
  obtain ⟨c₁, c₂, c₃, hbefore, hcloses, hafter, rfl⟩ := h
  have hleave : Follows o [] [] False c₃ c₃.leaveCell :=
    .of_output (fun hc => ⟨hc.pre, hc.formatting⟩) rfl
  exact ((hbefore.follows_edits.under (bracketsOf ops)).step hcloses.follows).step
    (hafter.follows_edits.step hleave)

/-! ## Nothing begins with a letter -/

/-- Directly behind a part of the output that does not end in a space there stands no letter, if there
was none before. -/
def KeepsMarked (c c' : Converter) : Prop :=
  ∀ front rest, front.getLast? ≠ some ' ' → rest.head?.any Text.isAsciiLetter = false →
    c.output = front ++ rest →
      ∃ rest', c'.output = front ++ rest' ∧ rest'.head?.any Text.isAsciiLetter = false

namespace KeepsMarked

theorem of_output (h : c'.output = c.output) : KeepsMarked c c' := fun _ rest _ hrest hc =>
  ⟨rest, h.trans hc, hrest⟩

theorem trans (h : KeepsMarked c c₁) (h' : KeepsMarked c₁ c') : KeepsMarked c c' := by
  intro front rest hfront hrest hc
  obtain ⟨rest₁, hc₁, hrest₁⟩ := h front rest hfront hrest hc
  exact h' front rest₁ hfront hrest₁ hc₁

/-- So no word at the end of the output got a letter behind it. -/
theorem not_glues (h : KeepsMarked c c') : ¬ Glues c c' := by
  rintro ⟨hend, letter, rest, hc', hletter⟩
  obtain ⟨rest', houtput, hmark⟩ := h c.output [] hend.not_space rfl (by simp)
  rw [hc', List.append_cancel_left_eq] at houtput
  rw [← houtput] at hmark
  simp [hletter] at hmark

end KeepsMarked

theorem Wrote.keepsMarked (h : Wrote ts c c') (head : letterFirst ts = false) :
    KeepsMarked c c' := by
  intro front rest _ hrest hc
  refine ⟨rest ++ spell ts, ?_, ?_⟩
  · rw [h.output, hc, List.append_assoc]
  · cases rest with
    | nil => rw [List.nil_append, head?_spell, head]
    | cons d rest => exact hrest

theorem Edit.keepsMarked (h : Edit o c c') : KeepsMarked c c' := by
  cases h with
  | note | format | table => exact .of_output rfl
  | trim =>
    intro front rest hfront hrest hc
    refine ⟨Text.dropEndWhile (· = ' ') rest, ?_, ?_⟩
    · rw [output_trim, hc, Text.dropSpaces_append hfront]
    · have hprefix : Text.dropEndWhile (· = ' ') rest <+: rest := Text.dropEndWhile_prefix
      cases hcut : Text.dropEndWhile (· = ' ') rest with
      | nil => rfl
      | cons d cut =>
        rw [hcut] at hprefix
        obtain ⟨tail, rfl⟩ := hprefix
        exact hrest
  | write wrote _ head => exact wrote.keepsMarked head

theorem Opens.keepsMarked (h : Opens o ops c c') : KeepsMarked c c' := by
  induction h with
  | refl => exact .of_output rfl
  | edit _ e ih => exact ih.trans e.keepsMarked
  | «open» _ e ih =>
    obtain ⟨ts, c', hbegins, hw, rfl⟩ := e
    exact ih.trans ((hw.keepsMarked hbegins.head).trans (.of_output rfl))

/-! ## Elements -/

/-- The brackets that are open between entering and leaving an element. -/
def Scope.brackets : Scope → List Bracket
  | plain ops | cell ops => bracketsOf ops
  | table nested => tableBrackets nested

variable {e : Element} {scope : Scope} {f : Frame} {blocks : Bool}

theorem Entered.follows (h : Entered o e (c.opened blocks) scope c')
    (htag : e.tag ≠ .preformatted) : Follows o [] scope.brackets (Glues c c') c c' := by
  have hopened : Follows o [] [] False c (c.opened blocks) :=
    .of_output (fun hc => ⟨hc.pre, hc.formatting⟩) rfl
  -- Of all there is only what `AddsRow` writes that can begin with a letter.
  have hmarked : ∀ {brackets}, KeepsMarked (c.opened blocks) c' →
      Follows o [] brackets False (c.opened blocks) c' → Follows o [] brackets (Glues c c') c c' :=
    fun hk hf => (hopened.step hf).congr (iff_of_false not_false hk.not_glues)
  cases h with
  | opens h verbatim =>
    refine hmarked h.keepsMarked (h.follows fun op hop => ?_)
    exact Bool.eq_false_iff.mpr fun hv => htag (verbatim op hop hv).1
  | row h => exact (hopened.trans h.follows).congr (iff_of_eq (false_or _))
  | cell _ h verbatim =>
    refine hmarked ?_ (h.follows verbatim)
    obtain ⟨c₁, padding, -, -, hbefore, hops⟩ := h
    exact (hbefore.keepsMarked.trans (.of_output rfl)).trans hops.keepsMarked
  | table _ h =>
    refine hmarked ?_ h.follows
    obtain ⟨ts, c₁, c₂, -, hbefore, -, head, hw, rfl⟩ := h
    exact (hbefore.keepsMarked.trans (hw.keepsMarked head)).trans (.of_output rfl)

theorem Left.follows (h : Left o f c scope c') : Follows o scope.brackets [] False c c' := by
  cases h with
  | closes h rest => exact h.follows.step rest.follows_edits
  | cell h => exact h.follows
  | table _ h => exact h.follows

end Convert

end MarkupTex
