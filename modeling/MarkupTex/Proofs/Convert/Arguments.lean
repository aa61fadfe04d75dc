import MarkupTex.Proofs.Convert.Tokens
/-!
# The arguments of commands

The state keeps the place of every argument that was opened.  `Enclosed` says that each of them lies in
the output between two marks, and holds nothing that a paragraph ends at: what is inside fits a line as
long as the argument is open, and stays as it is once the argument has ended.

Two things carry this from one action to the next.  A mark stands in front of an argument and another
one behind it, so where spaces are cut off the cut stays on one side of a mark.  And where an argument
is open there is no verbatim block (`Exclusive`), so that all that is written is a row of tokens, which the
action that writes it knows to fit a line.
-/

set_option autoImplicit false

namespace MarkupTex

open Latex Walk

namespace Convert

/-! ## The place of an argument -/

def isOpeningMark (c : Char) : Bool := c == '\x7b' || c == '['

def isClosingMark (c : Char) : Bool := c == '\x7d' || c == ']'

namespace Span

def isOpen (span : Span) : Bool := span.stop.isNone

/-- What a text has between the ends of an argument, or behind its beginning while it is open. -/
def inside (span : Span) (cs : List Char) : List Char :=
  (cs.take (span.stop.getD cs.length)).drop span.start

/-- The argument lies in the text behind a mark, and up to another one if it has ended, with nothing
inside but inline material. -/
inductive Enclosed (cs : List Char) : Span → Prop where
  | «open» {front body : List Char} (split : cs = front ++ body)
      (opens : front.getLast?.any isOpeningMark) (line : Line body) : Enclosed cs ⟨front.length, none⟩
  | ended {front body rest : List Char} (split : cs = front ++ body ++ rest)
      (opens : front.getLast?.any isOpeningMark) (inline : Inline body)
      (closes : rest.head?.any isClosingMark) :
      Enclosed cs ⟨front.length, some (front.length + body.length)⟩

theorem inside_open (front body : List Char) :
    inside ⟨front.length, none⟩ (front ++ body) = body := by
  rw [inside, Option.getD_none, List.take_length, List.drop_left]

theorem inside_ended (front body rest : List Char) :
    inside ⟨front.length, some (front.length + body.length)⟩ (front ++ body ++ rest) = body := by
  rw [inside, Option.getD_some, ← List.length_append, List.take_left, List.drop_left]

namespace Enclosed

variable {cs rest : List Char} {span : Span} {ts : List Token}

theorem inline_inside (h : span.Enclosed cs) : Inline (span.inside cs) := by
  cases h with
  | «open» split _ line =>
    rw [split, inside_open]
    exact line.inline
  | ended split _ inline =>
    rw [split, inside_ended]
    exact inline

theorem getLast?_ne_space (h : cs.getLast?.any isOpeningMark) : cs.getLast? ≠ some ' ' := by
  intro he
  rw [he] at h
  cases h

/-- A row that is added fits the line of an argument that is open, and does not come to one that has
ended. -/
theorem write (h : span.Enclosed cs)
    (hline : span.isOpen → fitsLine ts ∧ (lineEndFirst ts → cs.getLast? ≠ some '\n')) :
    span.Enclosed (cs ++ spell ts) := by
  cases h with
  | @«open» front body split opens line =>
    obtain ⟨hfits, hsingle⟩ := hline rfl
    refine .open (by rw [split, List.append_assoc]) opens (line.append hfits fun hfirst hlast => ?_)
    exact hsingle hfirst (by rw [split, List.getLast?_append, hlast, Option.some_or])
  | @ended front body rest split opens inline closes =>
    refine .ended (by rw [split, List.append_assoc]) opens inline ?_
    cases rest with
    | nil => cases closes
    | cons c rest => exact closes

/-- Spaces are cut off behind the opening mark of an argument that is open, and behind the closing mark
of one that has ended. -/
theorem trim (h : span.Enclosed cs) : span.Enclosed (Text.dropEndWhile (· = ' ') cs) := by
  cases h with
  | @«open» front body split opens line =>
    refine .open ?_ opens line.trim
    rw [split, Text.dropSpaces_append (getLast?_ne_space opens)]
  | @ended front body rest split opens inline closes =>
    cases rest with
    | nil => cases closes
    | cons c rest =>
      have hc : (front ++ body ++ [c]).getLast? ≠ some ' ' := by
        intro he
        obtain rfl : c = ' ' := by simpa using he
        cases closes
      have hcut : Text.dropEndWhile (· = ' ') cs =
          front ++ body ++ (c :: Text.dropEndWhile (· = ' ') rest) := by
        rw [split, List.append_cons, Text.dropSpaces_append hc, List.append_assoc _ [c]]
        rfl
      exact .ended hcut opens inline closes

/-- An argument ends where its closing mark is written. -/
theorem close (h : span.Enclosed cs) (hopen : span.isOpen) (hrest : rest.head?.any isClosingMark) :
    Enclosed (cs ++ rest) { span with stop := some cs.length } := by
  cases h with
  | @«open» front body split opens line =>
    subst split
    rw [List.length_append]
    exact .ended rfl opens line.inline hrest
  | ended => cases hopen

end Enclosed

end Span

section EndInnermost

variable {n : Nat} {span : Span} {spans : List Span}

theorem mem_endInnermost (h : span ∈ endInnermost n spans) :
    span ∈ spans ∨ ∃ opened ∈ spans, opened.isOpen ∧ span = { opened with stop := some n } := by
  induction spans with
  | nil => cases h
  | cons first spans ih =>
    rw [endInnermost] at h
    split at h
    · next hstop =>
      rcases List.mem_cons.mp h with rfl | h
      · exact Or.inr ⟨first, List.mem_cons_self, by simp [Span.isOpen, hstop], rfl⟩
      · exact Or.inl (List.mem_cons_of_mem _ h)
    · rcases List.mem_cons.mp h with rfl | h
      · exact Or.inl List.mem_cons_self
      · rcases ih h with h | ⟨opened, hmem, hopened⟩
        · exact Or.inl (List.mem_cons_of_mem _ h)
        · exact Or.inr ⟨opened, List.mem_cons_of_mem _ hmem, hopened⟩

theorem countP_endInnermost (n : Nat) (spans : List Span) :
    (endInnermost n spans).countP Span.isOpen = spans.countP Span.isOpen - 1 := by
  induction spans with
  | nil => rfl
  | cons first spans ih =>
    rw [endInnermost]
    split
    · next hstop =>
      have hfirst : first.isOpen = true := by simp [Span.isOpen, hstop]
      rw [List.countP_cons_of_pos hfirst, List.countP_cons_of_neg (by simp [Span.isOpen])]
      rfl
    · next hstop =>
      have hfirst : ¬ first.isOpen = true := by simp [Span.isOpen, hstop]
      rw [List.countP_cons_of_neg hfirst, List.countP_cons_of_neg hfirst, ih]

end EndInnermost

/-! ## The invariant -/

/-- No argument is open in a verbatim block. -/
def Exclusive (c : Converter) : Prop := 0 < c.preDepth → c.argumentDepth = 0

/-- Every argument that was opened lies between its marks, and as many are open as are counted. -/
structure Enclosed (c : Converter) : Prop where
  spans : ∀ span ∈ c.arguments, span.Enclosed c.output
  count : c.arguments.countP Span.isOpen = c.argumentDepth
  formatting : c.formatting.Tame

variable {o : Options} {c c' c₁ c₂ : Converter} {ts : List Token} {op : Opening} {ops : List Opening}
  {old new : List Bracket}

/-- Where less is open the two exclude each other just as well. -/
theorem Exclusive.of_le (h : Exclusive c') (hpre : c.preDepth ≤ c'.preDepth)
    (hargument : c.argumentDepth ≤ c'.argumentDepth) : Exclusive c := fun hc =>
  Nat.eq_zero_of_le_zero (h (Nat.lt_of_lt_of_le hc hpre) ▸ hargument)

theorem Keeps.exclusive (h : Keeps c c') (ha : Exclusive c) : Exclusive c' :=
  ha.of_le (Nat.le_of_eq h.preDepth) (Nat.le_of_eq h.argumentDepth)

theorem Keeps.exclusive_before (h : Keeps c c') (ha : Exclusive c') : Exclusive c :=
  ha.of_le (Nat.le_of_eq h.preDepth.symm) (Nat.le_of_eq h.argumentDepth.symm)

theorem Restored.exclusive (h : Restored c c') (ha : Exclusive c) : Exclusive c' :=
  ha.of_le (Nat.le_of_eq h.preDepth) (Nat.le_of_eq h.argumentDepth)

theorem GaveBack.exclusive (h : GaveBack ops c c') (ha : Exclusive c) : Exclusive c' := by
  refine ha.of_le (Nat.le_of_eq h.preDepth) ?_
  rw [h.argumentDepth]
  exact Nat.sub_le _ _

namespace Enclosed

theorem start : Enclosed Converter.start := ⟨by simp [Converter.start], rfl, fun _ h => by cases h⟩

/-- Where an argument is open the state is tame. -/
theorem tame (h : Enclosed c) (ha : Exclusive c) (hd : 0 < c.argumentDepth) : c.Tame := by
  refine ⟨Nat.eq_zero_of_not_pos fun hpre => ?_, h.formatting⟩
  rw [ha hpre] at hd
  exact Nat.lt_irrefl 0 hd

theorem pos_of_isOpen {spans : List Span} {span : Span} {n : Nat}
    (hcount : spans.countP Span.isOpen = n) (hmem : span ∈ spans) (hopen : span.isOpen) : 0 < n := by
  rw [← hcount]
  exact List.countP_pos_iff.mpr ⟨span, hmem, hopen⟩

/-- A change of something else than the output and the arguments. -/
theorem congr (h : Enclosed c) (output : c'.output = c.output) (arguments : c'.arguments = c.arguments)
    (depth : c'.argumentDepth = c.argumentDepth) (tame : c.formatting.Tame → c'.formatting.Tame) :
    Enclosed c' where
  spans := by
    rw [output, arguments]
    exact h.spans
  count := by
    rw [arguments, depth]
    exact h.count
  formatting := tame h.formatting

end Enclosed

/-! ## What an action keeps -/

theorem Turns.encloses (h : Turns o old new c ts) (hw : Wrote ts c c') (ha : Exclusive c)
    (he : Enclosed c) : Enclosed c' := by
  have houtput := hw.output
  obtain ⟨b, _, _, _, _, rfl, -⟩ := hw
  refine ⟨fun span hspan => ?_, he.count, he.formatting⟩
  rw [houtput]
  refine (he.spans span hspan).write fun hopen => ?_
  have hd : 0 < c.argumentDepth := Enclosed.pos_of_isOpen he.count hspan hopen
  have ht : c.Tame := he.tame ha hd
  exact ⟨h.fits ht hd, h.single ht hd⟩

theorem Edit.encloses (h : Edit o c c') (ha : Exclusive c) (he : Enclosed c) : Enclosed c' := by
  cases h with
  | note | table => exact he.congr rfl rfl rfl id
  | format f tame => exact he.congr rfl rfl rfl tame
  | trim =>
    refine ⟨fun span hspan => ?_, he.count, he.formatting⟩
    rw [output_trim]
    exact (he.spans span hspan).trim
  | write wrote piece => exact piece.encloses wrote ha he

/-- An argument begins behind what was written last. -/
theorem Opening.owe_encloses (he : Enclosed c)
    (hmark : op.isArgument → c.output.getLast?.any isOpeningMark) : Enclosed (op.owe c) := by
  cases hop : op.isArgument with
  | false =>
    refine he.congr rfl ?_ ?_ id
    · simp [Opening.owe, hop]
    · simp [Opening.owe, hop]
  | true =>
    refine ⟨?_, ?_, he.formatting⟩
    · intro span hspan
      simp only [Opening.owe, hop, if_true] at hspan
      rcases List.mem_cons.mp hspan with rfl | hspan
      · exact .open (List.append_nil c.output).symm (hmark hop) .nil
      · exact he.spans span hspan
    · have hopen : Span.isOpen { start := c.output.length } = true := rfl
      simp only [Opening.owe, hop, if_true]
      rw [List.countP_cons_of_pos hopen, he.count]
      rfl

theorem Begins.mark (h : Begins o op c ts) (hw : Wrote ts c c') (hop : op.isArgument) :
    c'.output.getLast?.any isOpeningMark := by
  rw [hw.output]
  rcases h.last hop with ⟨front, rfl | rfl⟩
  · simp [Token.render, isOpeningMark]
  · simp [Token.render, isOpeningMark]

theorem Open.encloses (h : Open o op c c') (ha : Exclusive c) (he : Enclosed c) : Enclosed c' := by
  obtain ⟨ts, c₁, hbegins, hw, rfl⟩ := h
  exact Opening.owe_encloses (hbegins.turns.encloses hw ha he) (hbegins.mark hw)

theorem Open.exclusive_before (h : Open o op c c') (ha : Exclusive c') : Exclusive c := by
  obtain ⟨ts, c₁, -, hw, rfl⟩ := h
  refine hw.keeps.exclusive_before (ha.of_le ?_ ?_)
  · exact Nat.le_add_right _ _
  · exact Nat.le_add_right _ _

/-- On the way to a state less is open than there, so arguments and verbatim blocks exclude each other all
along if they do so in the end. -/
theorem Opens.encloses (h : Opens o ops c c') (ha : Exclusive c') (he : Enclosed c) : Enclosed c' := by
  induction h with
  | refl => exact he
  | edit _ e ih =>
    have ha₁ := e.keeps.exclusive_before ha
    exact e.encloses ha₁ (ih ha₁ he)
  | «open» _ e ih =>
    have ha₁ := e.exclusive_before ha
    exact e.encloses ha₁ (ih ha₁ he)

theorem Opens.encloses_edits (h : Opens o [] c c') (ha : Exclusive c) (he : Enclosed c) : Enclosed c' :=
  h.encloses (h.keeps.exclusive ha) he

/-! ## Closing -/

theorem ending_closes (hop : op.isArgument) : (spell op.ending).head?.any isClosingMark := by
  cases op with
  | argument | term => rfl
  | _ => cases hop

/-- The end of a construct, and of the innermost argument if it is one. -/
theorem settle_encloses (hturns : Turns o op.brackets [] (op.settle c) op.ending)
    (hw : Wrote op.ending (op.settle c) c') (ha : Exclusive c) (he : Enclosed c) : Enclosed c' := by
  have ha' : Exclusive (op.settle c) := (op.settle_gaveBack c).exclusive ha
  cases hop : op.isArgument with
  | false =>
    refine hturns.encloses hw ha' (he.congr rfl ?_ ?_ id)
    · simp [Opening.settle, hop]
    · simp [Opening.settle, hop]
  | true =>
    have hcount : (op.settle c).arguments.countP Span.isOpen = (op.settle c).argumentDepth := by
      simp [Opening.settle, hop, countP_endInnermost, he.count]
    have houtput := hw.output
    obtain ⟨b, _, _, _, _, rfl, -⟩ := hw
    refine ⟨fun span hspan => ?_, hcount, he.formatting⟩
    rw [houtput]
    have hmem : span ∈ endInnermost c.output.length c.arguments := by
      simpa [Opening.settle, hop] using hspan
    rcases mem_endInnermost hmem with hold | ⟨opened, hopened, hopen, rfl⟩
    · -- An argument further out goes on with the end of the inner one.
      refine (he.spans span hold).write fun hopen => ?_
      have hd : 0 < (op.settle c).argumentDepth := Enclosed.pos_of_isOpen hcount hspan hopen
      have ht : (op.settle c).Tame :=
        ⟨(he.tame ha (Nat.lt_of_lt_of_le hd (Nat.sub_le _ _))).pre, he.formatting⟩
      exact ⟨hturns.fits ht hd, hturns.single ht hd⟩
    · exact (he.spans opened hopened).close hopen (ending_closes hop)

theorem Close.encloses (h : Close o op c c') (ha : Exclusive c) (he : Enclosed c) : Enclosed c' := by
  obtain ⟨c₁, c₂, hflat, hbefore, hw, hafter⟩ := h
  have hturns : Turns o op.brackets [] (op.settle c₁) op.ending :=
    turns_ending (op.settle_flat fun hop => hbefore.flat (hflat hop))
  have ha₁ : Exclusive c₁ := hbefore.keeps.exclusive ha
  have ha₂ : Exclusive c₂ := hw.keeps.exclusive ((op.settle_gaveBack c₁).exclusive ha₁)
  exact hafter.encloses_edits ha₂ (settle_encloses hturns hw ha₁ (hbefore.encloses_edits ha he))

theorem Closes.encloses (h : Closes o ops c c') (ha : Exclusive c) (he : Enclosed c) : Enclosed c' := by
  induction h with
  | nil => exact he
  | cons h _ ih => exact ih (h.gaveBack.exclusive ha) (h.encloses ha he)

/-! ## Tables and cells -/

theorem BeginsTable.encloses {t : TableState} (h : BeginsTable o t c c') (ha : Exclusive c)
    (he : Enclosed c) : Enclosed c' := by
  obtain ⟨ts, c₁, c₂, -, hbefore, hturns, -, hw, rfl⟩ := h
  have he₁ := hbefore.encloses_edits ha he
  have he₂ := hturns.encloses hw (hbefore.keeps.exclusive ha) he₁
  exact he₂.congr rfl rfl rfl fun _ _ h => by cases h

theorem EndsTable.encloses {nested : Bool} {outer : Option TableState}
    (h : EndsTable o nested outer c c') (ha : Exclusive c) (he : Enclosed c) : Enclosed c' := by
  obtain ⟨ts, c₁, c₂, c₃, hbefore, hturns, -, hw, hafter, rfl⟩ := h
  have ha₁ : Exclusive c₁ := hbefore.keeps.exclusive ha
  have he₁ : Enclosed c₁ := hbefore.encloses_edits ha (he.congr rfl rfl rfl id)
  have he₃ := hafter.encloses_edits (hw.keeps.exclusive ha₁) (hturns.encloses hw ha₁ he₁)
  exact he₃.congr rfl rfl rfl id

theorem BeginsCell.encloses (h : BeginsCell o ops c c') (ha : Exclusive c) (ha' : Exclusive c')
    (he : Enclosed c) : Enclosed c' := by
  obtain ⟨c₁, padding, -, -, hbefore, hops⟩ := h
  exact hops.encloses ha' ((hbefore.encloses_edits ha he).congr rfl rfl rfl id)

theorem EndsCell.encloses (h : EndsCell o ops c c') (ha : Exclusive c) (he : Enclosed c) :
    Enclosed c' := by
  obtain ⟨c₁, c₂, c₃, hbefore, hcloses, hafter, rfl⟩ := h
  have ha₁ : Exclusive c₁ := hbefore.keeps.exclusive ha
  have he₂ : Enclosed c₂ := hcloses.encloses ha₁ (hbefore.encloses_edits ha he)
  exact (hafter.encloses_edits (hcloses.gaveBack.exclusive ha₁) he₂).congr rfl rfl rfl id

theorem AddsRow.encloses (h : AddsRow o c c') (ha : Exclusive c) (he : Enclosed c) : Enclosed c' := by
  obtain ⟨ts, hpiece, hw⟩ := h
  exact hpiece.encloses hw ha he

/-! ## Elements -/

variable {doc : Document} {setting : Setting} {policy : ImportantPolicy} {id : Nat} {e : Element}
  {style : Style} {scope : Scope} {f : Frame} {blocks : Bool} {flow : Flow}

theorem Opens.preDepth (h : Opens o ops c c') (hops : ∀ op ∈ ops, op.isVerbatim = false) :
    c'.preDepth = c.preDepth := by
  induction h with
  | refl => rfl
  | edit _ e ih => exact e.keeps.preDepth.trans (ih hops)
  | @«open» op ops _ _ _ _ e ih =>
    obtain ⟨ts, c₁, -, hw, rfl⟩ := e
    have hrest := ih fun op hop => hops op (List.mem_cons_of_mem _ hop)
    simp [Opening.owe, hops op List.mem_cons_self, hw.keeps.preDepth, hrest]

/-- An element opens arguments, or it is preformatted and opens a verbatim block where no argument is
open. -/
theorem Entered.exclusive (h : Entered o e (c.opened blocks) scope c') (hpre : c.preDepth = 0) :
    Exclusive c' := by
  have hnone : c'.preDepth = c.preDepth → Exclusive c' := by
    intro hkept hpos
    rw [hkept, hpre] at hpos
    exact absurd hpos (Nat.lt_irrefl 0)
  cases h with
  | @opens ops _ h verbatim =>
    by_cases hv : ∃ op ∈ ops, op.isVerbatim
    · obtain ⟨op, hop, hv⟩ := hv
      obtain rfl : ops = [op] := (verbatim op hop hv).2
      obtain rfl : op = .verbatim := by cases op <;> first | rfl | cases hv
      have htally := h.tally (c := c.opened blocks) rfl
      intro _
      rw [htally.argumentDepth]
      exact htally.ordered.1 rfl
    · refine hnone (h.preDepth fun op hop => ?_)
      exact Bool.eq_false_iff.mpr fun hop' => hv ⟨op, hop, hop'⟩
  | row h =>
    obtain ⟨ts, -, hw⟩ := h
    exact hnone hw.keeps.preDepth
  | cell _ h verbatim =>
    obtain ⟨c₁, padding, -, -, hbefore, hops⟩ := h
    exact hnone ((hops.preDepth verbatim).trans hbefore.keeps.preDepth)
  | table _ h =>
    obtain ⟨ts, c₁, c₂, -, hbefore, -, -, hw, rfl⟩ := h
    exact hnone (hw.keeps.preDepth.trans hbefore.keeps.preDepth)

theorem Entered.encloses (h : Entered o e (c.opened blocks) scope c') (ha : Exclusive c)
    (ha' : Exclusive c') (he : Enclosed c) : Enclosed c' := by
  have he₁ : Enclosed (c.opened blocks) := he.congr rfl rfl rfl id
  cases h with
  | opens h => exact h.encloses ha' he₁
  | row h => exact h.encloses ha he₁
  | cell _ h => exact h.encloses ha ha' he₁
  | table _ h => exact h.encloses ha he₁

theorem Left.encloses (h : Left o f c scope c') (ha : Exclusive c) (he : Enclosed c) : Enclosed c' := by
  cases h with
  | closes h rest => exact rest.encloses_edits (h.gaveBack.exclusive ha) (h.encloses ha he)
  | cell h => exact h.encloses ha he
  | table _ h => exact h.encloses ha he

/-- Entering an element keeps both parts of the invariant. -/
theorem enter_encloses (hv : enter doc setting id e style c = .ok flow c')
    (hentered : Entered o e (c.opened blocks) scope c') (ha : Exclusive c) (he : Enclosed c) :
    Exclusive c' ∧ Enclosed c' := by
  have ha' : Exclusive c' := by
    rcases Nat.eq_zero_or_pos c.preDepth with hpre | hpre
    · exact hentered.exclusive hpre
    · obtain ⟨-, blocks, hw⟩ := (enter_verbatim hpre).of_ok hv
      exact fun _ => hw.keeps.argumentDepth.trans (ha hpre)
  exact ⟨ha', hentered.encloses ha ha' he⟩

/-- What a visit does to the arguments, with what it gives back. -/
theorem encloses_conserves (doc : Document) (setting : Setting) (policy : ImportantPolicy) :
    Conserves doc setting policy (fun _ _ _ => False) fun _ c c' =>
      Restored c c' ∧ (Exclusive c → Enclosed c → Enclosed c') where
  refl := fun c => ⟨.refl c, fun _ he => he⟩
  trans := fun h h' => ⟨h.1.trans h'.1, fun ha he => h'.2 (h.1.exclusive ha) (h.2 ha he)⟩
  text := fun _ _ hrow hrestored => ⟨hrestored, hrow.encloses⟩
  element := by
    intro id e style flow c c₁ c₂ c₃ blocks scope f p _ hv hentered _ hr hleft hrestored
    refine ⟨hrestored, fun ha he => ?_⟩
    obtain ⟨ha₁, he₁⟩ := enter_encloses hv hentered ha he
    have he₂ : Enclosed (c₂.popped c.frames) := (hr.2 ha₁ he₁).congr rfl rfl rfl fun h => h
    have ha₂ : Exclusive (c₂.popped c.frames) := hr.1.exclusive ha₁
    refine (hleft.encloses ha₂ he₂).congr rfl rfl rfl fun _ => ?_
    rw [hrestored.formatting]
    exact he.formatting

/-! ## The run -/

/-- At every moment of a run each argument lies between its marks. -/
theorem reaches_encloses {style' : Style} {ids ids' : List Nat}
    (h : Reaches doc policy (visitor doc setting) style ids c style' ids' c') :
    Exclusive c ∧ Enclosed c → Exclusive c' ∧ Enclosed c' := by
  refine Reaches.preserves (I := fun c => Exclusive c ∧ Enclosed c) ?_ ?_ h
  · intro id e style c flow c₁ hv ⟨ha, he⟩
    obtain ⟨-, blocks, scope, hentered⟩ := (enter_yields doc setting id e style c).of_ok hv
    exact enter_encloses hv hentered ha he
  · intro style id c c₁ hvisited ⟨ha, he⟩
    have htracks := (encloses_conserves doc setting policy).tracks fun hr => hr.1
    have hends := traverse_ends htracks [id] style c (by simpa using lt_size_of_visited hvisited)
    rw [hvisited] at hends
    exact ⟨hends.2.1.exclusive ha, hends.2.2 ha he⟩

/-- An argument holds no paragraph break, no sectioning command and no block, whatever is below the
element that opened it.  This is so at every moment of a run, for those that have ended as for those that
are open, which are as many as the state counts; and if the run comes to its end, all have ended, each
between its marks. -/
theorem arguments_inline (doc : Document) (options : Options) (resolve : Image.Resolver) (root : Nat) :
    (∀ (style : Style) (ids : List Nat) (c : Converter),
      Reaches doc options.importantPolicy (visitor doc ⟨options, resolve⟩) Style.empty [root]
        Converter.start style ids c →
      c.arguments.countP Span.isOpen = c.argumentDepth ∧
        ∀ span ∈ c.arguments, Inline (span.inside c.output)) ∧
    ∀ c : Converter, runFrom doc ⟨options, resolve⟩ root = .ok c → ∀ span ∈ c.arguments,
      ∃ front body rest, c.output = front ++ body ++ rest ∧
        span = ⟨front.length, some (front.length + body.length)⟩ ∧
        front.getLast?.any isOpeningMark ∧ rest.head?.any isClosingMark ∧ Inline body := by
  have hstart : Exclusive Converter.start ∧ Enclosed Converter.start := ⟨fun _ => rfl, .start⟩
  refine ⟨fun style ids c hreaches => ?_, fun c hrun span hspan => ?_⟩
  · obtain ⟨-, he⟩ := reaches_encloses hreaches hstart
    exact ⟨he.count, fun span hspan => (he.spans span hspan).inline_inside⟩
  · have htracks := (encloses_conserves doc ⟨options, resolve⟩ options.importantPolicy).tracks
      fun hr => hr.1
    obtain ⟨hrestored, hencloses⟩ := runFrom_ends htracks hrun
    have he : Enclosed c := hencloses hstart.1 hstart.2
    -- None is open any more, as none is counted.
    have hclosed : ¬ span.isOpen := fun hopen => by
      have hpos : 0 < c.argumentDepth := Enclosed.pos_of_isOpen he.count hspan hopen
      rw [hrestored.argumentDepth] at hpos
      exact Nat.lt_irrefl 0 hpos
    cases he.spans span hspan with
    | «open» => exact absurd rfl hclosed
    | @ended front body rest split opens inline closes =>
      exact ⟨front, body, rest, split, rfl, opens, closes, inline⟩

/-- A table with a list in its cell, in a link in a heading. -/
def tableInHeading : Document :=
  let element (doc : Document) (parent : Nat) (name : String) (attributes : List Attribute) :=
    doc.push parent (.element (.ofName name attributes))
  let link := element (.withRoot "h2") 0 "a" [⟨"href", "b.html"⟩]
  let cell := element (element (element link 1 "table" []) 2 "tr" []) 3 "td" []
  (element (element cell 4 "ul" []) 5 "li" []).push 6 (.text "x & y")

/-- The heading and the link open an argument each, one inside the other. -/
theorem arguments_inline_tableInHeading :
    ∃ c, runFrom tableInHeading ⟨{}, fun _ => .ok "image.png"⟩ 0 = .ok c ∧ c.arguments.length = 2 ∧
      ∀ span ∈ c.arguments, ∃ front body rest, c.output = front ++ body ++ rest ∧
        span = ⟨front.length, some (front.length + body.length)⟩ ∧
        front.getLast?.any isOpeningMark ∧ rest.head?.any isClosingMark ∧ Inline body := by
  have hrun : (runFrom tableInHeading ⟨{}, fun _ => .ok "image.png"⟩ 0).toOption.any
      fun c => c.arguments.length = 2 := by decide +kernel
  obtain ⟨c, h⟩ := exists_ok (Option.isSome_of_any hrun)
  have hlength : c.arguments.length = 2 := by simpa [h, Except.toOption] using hrun
  exact ⟨c, h, hlength, (arguments_inline tableInHeading {} (fun _ => .ok "image.png") 0).2 c h⟩

end Convert

end MarkupTex
