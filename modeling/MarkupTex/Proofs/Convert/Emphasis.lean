import MarkupTex.Proofs.Convert.Arguments
import MarkupTex.Proofs.Convert.Form
import MarkupTex.Proofs.Convert.Styled
import MarkupTex.Proofs.Convert.Texts
/-!
# Nothing is set apart twice

A word for bold, italic or underlined letters comes into the output in one way only: the emphasis does not
hold, so that its wish is granted, and then it holds.  So on entering an element as many of its constructs
are opened as its mark in the formatting goes up by, `Moves.tallies`.  Added up over the open elements, above
the innermost table that was begun, there is one where the mark is set and none where it is not,
`emphasis_opened_once`.

An underline takes the form of an argument, which is only opened where no block is below.  So there is no
table in it, and over all the open elements there is one underline at most.
-/

set_option autoImplicit false

namespace MarkupTex.Convert

open Latex Token Walk

variable {doc : Document} {setting : Setting} {policy : ImportantPolicy} {root id : Nat} {e : Element}
  {style : Style} {c c' c₁ c₂ : Converter} {ids : List Nat} {a b ts : List Token} {k : Emphasis}
  {entry : Entry Converter} {entries : List (Entry Converter)}

/-! ## Constructs in a row -/

/-- The words of the constructs for an emphasis: a command, and a declaration if there is one. -/
def Emphasis.words : Emphasis → List String
  | bold => ["textbf", "bfseries"]
  | italic => ["textit", "itshape"]
  | underline => ["underline"]

/-- How often a construct for the emphasis begins in a text. -/
def Emphasis.openedIn (k : Emphasis) (cs : List Char) : Nat :=
  total (k.words.map fun w => Text.occurrences ('\\' :: w.toList) cs)

/-- How often it begins in a row. -/
def Emphasis.openedBy (k : Emphasis) (ts : List Token) : Nat :=
  total (k.words.map fun w => ts.count (word w))

namespace Emphasis

theorem words_emphasis (k : Emphasis) : ∀ w ∈ k.words, w ∈ emphasisWords := by
  cases k <;> decide

theorem openedIn_spell (k : Emphasis) (h : ts.all isRegular) : k.openedIn (spell ts) = k.openedBy ts := by
  rw [openedIn, openedBy]
  exact congrArg total (List.map_congr_left fun w hw => occurrences_spell (k.words_emphasis w hw) h)

theorem openedBy_append (k : Emphasis) (a b : List Token) :
    k.openedBy (a ++ b) = k.openedBy a + k.openedBy b := by
  cases k <;> simp [openedBy, words, List.count_append] <;> omega

theorem openedBy_trimmed (k : Emphasis) (ts : List Token) : k.openedBy (trimmed ts) = k.openedBy ts := by
  rw [openedBy, openedBy]
  exact congrArg total (List.map_congr_left fun w _ => count_trimmed (by simp) ts)

theorem openedBy_quiet (k : Emphasis) (h : ts.all isQuiet) : k.openedBy ts = 0 := by
  have hcount : ∀ w ∈ k.words, ts.count (word w) = 0 := fun w hw =>
    count_of_quiet (k.words_emphasis w hw) h
  rw [openedBy, List.map_congr_left hcount]
  cases k <;> rfl

theorem openedBy_opening (k : Emphasis) : k.openedBy [opening] = 0 := k.openedBy_quiet rfl

theorem openedBy_closing (k : Emphasis) : k.openedBy [closing] = 0 := k.openedBy_quiet rfl

end Emphasis

/-- The mark of the emphasis in the formatting, as a number. -/
def Formatting.mark (f : Formatting) (k : Emphasis) : Nat := (f.active.contains k.kind).toNat

/-! ## Braces that are owed -/

/-- The braces that the innermost element owes. -/
def bracesOwed (c : Converter) : Nat :=
  match c.frames with
  | [] => 0
  | f :: _ => f.closers.countP Closer.isBrace

theorem bracesOwed_congr (h : c'.frames.map Frame.closers = c.frames.map Frame.closers) :
    bracesOwed c' = bracesOwed c := by
  unfold bracesOwed
  cases hf : c.frames <;> cases hf' : c'.frames <;> simp_all

theorem bracesOwed_owe (op : Opening) (hf : c.frames ≠ []) :
    bracesOwed (op.owe c) = op.braces + bracesOwed c := by
  obtain ⟨f, fs, hf⟩ := List.exists_cons_of_ne_nil hf
  simp only [bracesOwed, Opening.owe, hf, Opening.markFirst, Opening.mark, List.countP_append]
  cases op <;> rfl

/-! ## What a row of moves adds -/

/-- What is opened on the way from one state to another, and what there is to show for it. -/
structure Tallied (e : Element) (style : Style) (ts : List Token) (c c' : Converter) : Prop where
  added : Added ts c c'
  marks : ∀ k : Emphasis, k.openedBy ts + c.formatting.mark k = c'.formatting.mark k
  braces : Emphasis.bold.openedBy ts + Emphasis.italic.openedBy ts + Emphasis.underline.openedBy ts +
    bracesOwed c ≤ bracesOwed c'
  underline : 0 < Emphasis.underline.openedBy ts →
    c.blockContent = false ∧ (style.isUnderline = true ∨ e.tag = .underline)
  blockContent : c'.blockContent = c.blockContent
  framed : c'.frames ≠ []

theorem Tallied.trans (h : Tallied e style a c c₁) (h' : Tallied e style b c₁ c₂) :
    Tallied e style (trimmed a ++ b) c c₂ := by
  have hopened : ∀ k : Emphasis, k.openedBy (trimmed a ++ b) = k.openedBy a + k.openedBy b := fun k => by
    rw [k.openedBy_append, k.openedBy_trimmed]
  refine ⟨h.added.trans h'.added, fun k => ?_, ?_, fun hpos => ?_, h'.blockContent.trans h.blockContent,
    h'.framed⟩
  · rw [hopened, ← h'.marks, ← h.marks]
    omega
  · rw [hopened, hopened, hopened]
    have := h.braces
    have := h'.braces
    omega
  · rw [hopened] at hpos
    rcases Nat.eq_zero_or_pos (Emphasis.underline.openedBy a) with ha | ha
    · rw [← h.blockContent]
      exact h'.underline (by omega)
    · exact h.underline ha

/-- A row that sets nothing apart, where no formatting begins. -/
theorem Tallied.of_quiet (hts : ts.all isQuiet) (added : Added ts c c')
    (marks : ∀ k, c'.formatting.mark k = c.formatting.mark k) (braces : bracesOwed c ≤ bracesOwed c')
    (blockContent : c'.blockContent = c.blockContent) (framed : c'.frames ≠ []) :
    Tallied e style ts c c' := by
  have hnone : ∀ k : Emphasis, k.openedBy ts = 0 := fun k => k.openedBy_quiet hts
  refine ⟨added, fun k => ?_, ?_, fun hpos => ?_, blockContent, framed⟩
  · rw [hnone, marks, Nat.zero_add]
  · simpa [hnone] using braces
  · rw [hnone] at hpos
    cases hpos

/-! ## What a move adds -/

/-- How often a wish begins a construct for the emphasis when it is granted. -/
def Wish.opens (k : Emphasis) (w : Wish) : Nat := if w = .emphasis k then 1 else 0

theorem Wish.opens_of_other {w : Wish} (h : ∀ k, w ≠ .emphasis k) (k : Emphasis) : w.opens k = 0 :=
  if_neg (h k)

/-- The command for an emphasis is one word, and the other commands are quiet. -/
theorem Wish.command?_opens {w : Wish} (h : w.command? = some ts) (hw : w.Plain) (k : Emphasis) :
    k.openedBy ts = w.opens k := by
  cases w with
  | emphasis k' => cases k' <;> cases h <;> cases k <;> decide
  | _ =>
    rw [k.openedBy_quiet (Wish.command?_quiet h hw (by simp)), Wish.opens_of_other (by simp)]

theorem Wish.Switches.opens {w : Wish} (h : w.Switches ts) (hw : w.Plain) (k : Emphasis) :
    k.openedBy ts = w.opens k := by
  cases w with
  | emphasis k' => cases h <;> cases k <;> decide
  | _ => rw [k.openedBy_quiet (h.quiet hw (by simp)), Wish.opens_of_other (by simp)]

/-- There is no switch for an underline. -/
theorem Wish.Switches.ne_underline {w : Wish} (h : w.Switches ts) : w ≠ .emphasis .underline := by
  rintro rfl
  cases h

/-- A wish that did not hold sets the mark, if it has one. -/
theorem Wish.mark_grant {w : Wish} {f : Formatting} (h : w.held f = false) (k : Emphasis) :
    w.opens k + f.mark k = (w.grant f).mark k := by
  have hother : ∀ {b : Kinds}, b.intersects k.kind = false →
      0 + f.mark k = Bool.toNat ((f.active ∪ b).contains k.kind) := fun hb => by
    rw [Kinds.contains_union_of_disjoint hb, Nat.zero_add]
    rfl
  cases w with
  | emphasis k' =>
    by_cases hsame : k' = k
    · subst hsame
      have hfree : f.active.contains k'.kind = false := h
      have hset : (f.active ∪ k'.kind).contains k'.kind = true :=
        Kinds.contains_union_self f.active (by cases k' <;> decide)
      simp [Wish.opens, Formatting.mark, Wish.grant, hfree, hset]
    · have hnone : (Wish.emphasis k').opens k = 0 := if_neg (by simpa using hsame)
      rw [hnone]
      exact hother (by cases k' <;> cases k <;> first | rfl | exact absurd rfl hsame)
  | color | background | family | size => exact hother (by cases k <;> rfl)

theorem Asks.underline {e : Element} (h : Asks e style c (.emphasis .underline)) :
    style.isUnderline = true ∨ e.tag = .underline := by
  generalize hw : Wish.emphasis .underline = w at h
  cases h with
  | style demands =>
    cases demands with
    | emphasis asks =>
      cases hw
      exact .inl asks
    | _ => cases hw
  | tag tag =>
    cases hw
    exact .inr tag
  | _ => cases hw

/-- There is a row for what is added. -/
def Tallies (e : Element) (style : Style) (c c' : Converter) : Prop := ∃ ts, Tallied e style ts c c'

/-- The construct that a wish begins owes one brace. -/
theorem Tallies.of_opened {w : Wish} {op : Opening} (hf : c.frames ≠ []) (hop : op.braces = 1)
    (wrote : Wrote ts c c₁) (fresh : w.held c.formatting = false) (hregular : ts.all isRegular)
    (hopened : ∀ k : Emphasis, k.openedBy ts = w.opens k)
    (hunderline : w = .emphasis .underline →
      c.blockContent = false ∧ (style.isUnderline = true ∨ e.tag = .underline)) :
    Tallies e style c { op.owe c₁ with formatting := w.grant c.formatting } := by
  obtain ⟨n, hadded⟩ := Added.of_wrote wrote hregular
  have hblocks := wrote.same.2.2.1
  have hframes := wrote.unmoved.frames
  have hf₁ : c₁.frames ≠ [] := hframes ▸ hf
  have hcount : ∀ k : Emphasis, k.openedBy (List.replicate n (char ' ') ++ ts) = w.opens k := fun k => by
    rw [k.openedBy_append, k.openedBy_quiet (quiet_spaces n), hopened, Nat.zero_add]
  have howed : bracesOwed (op.owe c₁) = 1 + bracesOwed c := by
    rw [bracesOwed_owe op hf₁, hop, bracesOwed_congr (congrArg _ hframes)]
  refine ⟨_, ⟨hadded.regular, hadded.output⟩, fun k => ?_, ?_, fun hpos => ?_, hblocks, ?_⟩
  · rw [hcount]
    exact Wish.mark_grant fresh k
  · rw [hcount, hcount, hcount]
    have hone : w.opens .bold + w.opens .italic + w.opens .underline ≤ 1 := by
      cases w with
      | emphasis k => cases k <;> decide
      | _ => exact Nat.zero_le 1
    have : bracesOwed { op.owe c₁ with formatting := w.grant c.formatting } = 1 + bracesOwed c := howed
    omega
  · rw [hcount, Wish.opens] at hpos
    refine hunderline (Decidable.byContradiction fun hnot => ?_)
    rw [if_neg hnot] at hpos
    cases hpos
  · obtain ⟨f, fs, hfs⟩ := List.exists_cons_of_ne_nil hf₁
    simp [Opening.owe, hfs, Opening.markFirst]

/-- The argument of a command that formats nothing. -/
theorem Tallies.of_owed {op : Opening} (hf : c.frames ≠ []) (wrote : Wrote ts c c₁)
    (hts : ts.all isQuiet) : Tallies e style c (op.owe c₁) := by
  obtain ⟨n, hadded⟩ := Added.of_wrote wrote (regular_of_quiet hts)
  have hblocks := wrote.same.2.2.1
  have hframes := wrote.unmoved.frames
  have hf₁ : c₁.frames ≠ [] := hframes ▸ hf
  refine ⟨_, .of_quiet ?_ ⟨hadded.regular, hadded.output⟩ (fun k => ?_) ?_ hblocks ?_⟩
  · rw [List.all_append, quiet_spaces, hts]
    rfl
  · exact congrArg (Formatting.mark · k) wrote.unmoved.formatting
  · rw [bracesOwed_owe op hf₁, bracesOwed_congr (congrArg _ hframes)]
    exact Nat.le_add_left _ _
  · obtain ⟨f, fs, hfs⟩ := List.exists_cons_of_ne_nil hf₁
    simp [Opening.owe, hfs, Opening.markFirst]

/-- Nothing is written, and nothing begins. -/
theorem Tallies.of_same (hf : c.frames ≠ []) (houtput : c'.output = c.output)
    (marks : ∀ k, c'.formatting.mark k = c.formatting.mark k)
    (hclosers : c'.frames.map Frame.closers = c.frames.map Frame.closers)
    (blockContent : c'.blockContent = c.blockContent) : Tallies e style c c' := by
  obtain ⟨n, hadded⟩ := Added.of_output houtput
  refine ⟨_, .of_quiet (quiet_spaces n) hadded marks (Nat.le_of_eq (bracesOwed_congr hclosers).symm)
    blockContent fun hnil => hf ?_⟩
  rw [hnil] at hclosers
  exact List.map_eq_nil_iff.mp hclosers.symm

theorem bracesOwed_owing {closer : Closer} (h : closer.Later) :
    bracesOwed { c with frames := owing closer c.frames } = bracesOwed c := by
  unfold bracesOwed
  cases hf : c.frames with
  | nil => rfl
  | cons f fs => simp [owing, h.not_brace]

theorem Granted.tallies {w : Wish} (h : Granted w c c') (asks : Asks e style c w) (hf : c.frames ≠ []) :
    Tallies e style c c' := by
  have hplain := asks.plain
  cases h with
  | held => exact .of_same hf rfl (fun _ => rfl) rfl rfl
  | argument fresh inline row wrote =>
    refine .of_opened hf rfl wrote fresh ?_ (fun k => ?_) fun hw => ⟨inline, (hw ▸ asks).underline⟩
    · rw [List.all_append, Wish.command?_regular row hplain]
      rfl
    · rw [k.openedBy_append, Wish.command?_opens row hplain, k.openedBy_opening,
        Nat.add_zero]
  | group fresh row wrote =>
    refine .of_opened hf rfl wrote fresh ?_ (fun k => ?_) fun hw => absurd hw row.ne_underline
    · rw [List.all_append, row.regular hplain]
      rfl
    · rw [k.openedBy_append, row.opens hplain, k.openedBy_opening, Nat.zero_add]
  | putOff _ later =>
    refine .of_same hf rfl (fun k => ?_) rfl rfl
    rcases Wish.putOff?_cases later with ⟨-, rfl⟩ | ⟨_, -, rfl⟩ <;> rfl

theorem Move.tallies (h : Move e style c c') (hf : c.frames ≠ []) :
    Tallies e style c c' := by
  cases h with
  | note cell owed => exact .of_same hf rfl (fun _ => rfl) owed rfl
  | trim => exact ⟨[], .of_quiet rfl .trim (fun _ => rfl) (Nat.le_refl _) rfl hf⟩
  | @write _ ts wrote hcalm =>
    obtain ⟨n, hadded⟩ := Added.of_wrote wrote (regular_of_quiet (quiet_of_calm hcalm))
    have hblocks := wrote.same.2.2.1
    have hframes := wrote.unmoved.frames
    refine ⟨_, .of_quiet ?_ hadded (fun k => by rw [wrote.unmoved.formatting]) ?_ hblocks (hframes ▸ hf)⟩
    · rw [List.all_append, quiet_spaces, quiet_of_calm hcalm]
      rfl
    · exact Nat.le_of_eq (bracesOwed_congr (congrArg _ hframes)).symm
  | owe later =>
    obtain ⟨n, hadded⟩ := Added.of_output (rfl : c.output = c.output)
    refine ⟨_, .of_quiet (quiet_spaces n) ⟨hadded.regular, hadded.output⟩ (fun _ => rfl)
      (Nat.le_of_eq (bracesOwed_owing later).symm) rfl ?_⟩
    obtain ⟨f, fs, hfs⟩ := List.exists_cons_of_ne_nil hf
    simp [Convert.owing, hfs]
  | align alignment kept =>
    refine .of_same hf rfl (fun k => ?_) rfl rfl
    rcases kept with rfl | rfl
    · rfl
    · exact congrArg Bool.toNat (Kinds.contains_union_of_disjoint (by cases k <;> rfl) _)
  | wish asks granted => exact granted.tallies asks hf
  | command head wrote =>
    refine .of_owed hf wrote ?_
    rw [List.all_append, head.quiet]
    rfl
  | term _ _ wrote => exact .of_owed hf wrote rfl

/-- Of a row of moves too there is one row of what was written. -/
theorem Moves.tallies (h : Moves e style c c') (hf : c.frames ≠ []) :
    Tallies e style c c' := by
  induction h with
  | refl => exact .of_same hf rfl (fun _ => rfl) rfl rfl
  | tail _ m ih =>
    obtain ⟨a, ha⟩ := ih
    obtain ⟨b, hb⟩ := m.tallies ha.framed
    exact ⟨_, ha.trans hb⟩

/-! ## Entering an element -/

/-- What was written since an earlier state, with the spaces that were at the end of it. -/
def writtenSince (c₀ c : Converter) : List Char := c.output.drop (leftOf c₀).length

theorem Added.writtenSince_eq (h : Added ts c c') : writtenSince c c' = spell ts := by
  rw [writtenSince, h.output, List.drop_left]

/-- How many constructs for the emphasis an element began that are still to be ended. -/
def Emphasis.begunBy (k : Emphasis) (entry : Entry Converter) : Nat :=
  if bracesOwed entry.after = 0 then 0 else k.openedIn (writtenSince entry.before entry.after)

/-- The element began a table: its frame keeps the table around it. -/
def beginsTable (entry : Entry Converter) : Bool :=
  entry.after.frames.head?.any fun f => f.outerTable.isSome

/-- What entering an element means for emphasis. -/
inductive Marks (doc : Document) (entry : Entry Converter) : Prop where
  | table (begins : beginsTable entry = true) (tag : entry.element.tag = .table)
      (formatting : entry.after.formatting = {}) (owed : bracesOwed entry.after = 0)
  | within (begins : beginsTable entry = false)
      (marks : ∀ k : Emphasis,
        k.begunBy entry + entry.before.formatting.mark k = entry.after.formatting.mark k)
      (owed : Emphasis.bold.begunBy entry + Emphasis.italic.begunBy entry +
        Emphasis.underline.begunBy entry ≤ bracesOwed entry.after)
      (underline : 0 < Emphasis.underline.begunBy entry →
        entry.element.tag ≠ .table ∧ doc.hasBlockContent entry.id = false)

theorem Emphasis.begunBy_of_owed (k : Emphasis) (h : bracesOwed entry.after = 0) :
    k.begunBy entry = 0 := if_pos h

variable {flow : Flow} {blocks : Bool}

/-- An element that leaves formatting alone owes nothing. -/
theorem Marks.of_unmoved (h : Unmoved (c.opened blocks) c') :
    Marks doc ⟨id, e, style, flow, c, c'⟩ := by
  have hframes : c'.frames = { saved := some c.formatting } :: c.frames := h.frames
  have howed : bracesOwed c' = 0 := by
    rw [bracesOwed, hframes]
    rfl
  have hnone : ∀ k : Emphasis, k.begunBy ⟨id, e, style, flow, c, c'⟩ = 0 := fun k =>
    k.begunBy_of_owed howed
  refine .within ?_ (fun k => ?_) ?_ fun hpos => ?_
  · rw [beginsTable, hframes]
    rfl
  · rw [hnone, Nat.zero_add]
    exact congrArg (Formatting.mark · k) h.formatting.symm
  · simp [hnone]
  · rw [hnone] at hpos
    cases hpos

/-- Only a table keeps the table around it. -/
theorem Entered.outerTable {o : Options} {scope : Scope} (h : Entered o e (c.opened blocks) scope c')
    (htag : e.tag ≠ .table) : ∃ f fs, c'.frames = f :: fs ∧ f.outerTable = none := by
  cases h with
  | opens h =>
    obtain ⟨⟨f, hf, -, -, houter, -⟩, -⟩ := h.tally (c := c.opened blocks) rfl
    exact ⟨f, _, hf, houter⟩
  | row h =>
    obtain ⟨ts, -, hw⟩ := h
    exact ⟨_, _, hw.keeps.frames, rfl⟩
  | cell _ h =>
    obtain ⟨c₁, padding, -, -, hbefore, hops⟩ := h
    have hframes : (c₁.enterCell padding).frames =
        { saved := some c.formatting, cellBraces := some c₁.openBraces, padding } :: c.frames := by
      simp [Converter.enterCell, hbefore.keeps.frames, Converter.opened]
    obtain ⟨⟨f, hf, -, -, houter, -⟩, -⟩ := hops.tally hframes
    exact ⟨f, _, hf, houter⟩
  | table tag => exact absurd tag htag

theorem underline_mayFormat (hs : style.Proper) (h : style.isUnderline = true ∨ e.tag = .underline) :
    mayFormat e style = true :=
  h.elim (fun h => Demands.mayFormat hs (.emphasis (k := .underline) h))
    fun h => mayFormat_of_tag (.inr (.inr (.inl h)))

/-- A row of moves that was begun with a frame of its own. -/
theorem Marks.of_moves (hs : style.Proper)
    (h : Moves e style (c.opened (mayFormat e style && doc.hasBlockContent id)) c')
    (htag : e.tag ≠ .table) (hbegins : beginsTable ⟨id, e, style, flow, c, c'⟩ = false) :
    Marks doc ⟨id, e, style, flow, c, c'⟩ := by
  obtain ⟨ts, htallied⟩ := h.tallies (List.cons_ne_nil _ _)
  have hbraces : Emphasis.bold.openedBy ts + Emphasis.italic.openedBy ts +
      Emphasis.underline.openedBy ts ≤ bracesOwed c' := htallied.braces
  have hwritten : writtenSince c c' = spell ts := htallied.added.writtenSince_eq
  -- Where nothing is owed there was nothing to begin.
  have hbegun : ∀ k : Emphasis, k.begunBy ⟨id, e, style, flow, c, c'⟩ = k.openedBy ts := fun k => by
    rw [Emphasis.begunBy]
    dsimp only
    rw [hwritten, k.openedIn_spell htallied.added.regular]
    split
    · next hnone =>
      rw [hnone] at hbraces
      cases k <;> omega
    · rfl
  refine .within hbegins (fun k => ?_) ?_ fun hpos => ⟨htag, ?_⟩
  · rw [hbegun]
    exact htallied.marks k
  · rw [hbegun, hbegun, hbegun]
    exact hbraces
  · rw [hbegun] at hpos
    obtain ⟨hblocks, hunderline⟩ := htallied.underline hpos
    have hblocks : (mayFormat e style && doc.hasBlockContent id) = false := hblocks
    rwa [underline_mayFormat hs hunderline, Bool.true_and] at hblocks

theorem enter_marks (hs : style.Proper) (hv : enter doc setting id e style c = .ok flow c') :
    Marks doc ⟨id, e, style, flow, c, c'⟩ := by
  rcases Nat.eq_zero_or_pos c.preDepth with hpre | hpre
  · by_cases htable : e.tag = .table
    · have hentered : Ensures (enter doc setting id e style) c fun flow c' =>
          Marks doc ⟨id, e, style, flow, c, c'⟩ := by
        refine .enter hpre ?_
        unfold openElement
        rw [htable]
        refine (openTable_begins (fresh_opened _ _).framed).mono ?_
        rintro flow _ (h | ⟨t, c₁, h, rfl⟩)
        · exact .of_unmoved h
        · have hframes : (c₁.install t).frames =
              { saved := some c.formatting, outerTable := some c₁.table } :: c.frames := by
            simp [Converter.install, h.frames, Converter.opened]
          refine .table ?_ htable rfl ?_
          · rw [beginsTable, hframes]
            rfl
          · rw [bracesOwed, hframes]
            rfl
      exact hentered _ _ hv
    · by_cases himage : e.tag = .image
      · have hentered : Ensures (enter doc setting id e style) c fun flow c' =>
            Marks doc ⟨id, e, style, flow, c, c'⟩ := by
          refine .enter hpre ?_
          unfold openElement
          rw [himage]
          exact (openImage_unmoving _).bind fun _ _ h => Ensures.pure (.of_unmoved h)
        exact hentered _ _ hv
      · obtain ⟨-, blocks, scope, hentered⟩ := (enter_yields doc setting id e style c).of_ok hv
        obtain ⟨f, fs, hframes, houter⟩ := hentered.outerTable htable
        refine .of_moves hs (enter_acts htable himage hpre _ _ hv).moves htable ?_
        simp [beginsTable, hframes, houter]
  · obtain ⟨-, blocks, hwrote⟩ := (enter_verbatim hpre).of_ok hv
    exact .of_unmoved hwrote.unmoved

/-! ## Elements that are open -/

/-- How many constructs for the emphasis some elements began that are still to be ended. -/
def Emphasis.begun (k : Emphasis) (entries : List (Entry Converter)) : Nat :=
  total (entries.map k.begunBy)

/-- The open elements in the innermost table, or all of them if no table was begun. -/
def inInnermostTable (entries : List (Entry Converter)) : List (Entry Converter) :=
  entries.takeWhile fun entry => !beginsTable entry

/-- Before the first element all is as at the beginning. -/
theorem Amid.restored_start
    (h : Amid doc policy (visitor doc setting) root Converter.start [] style ids c) :
    Restored Converter.start c := by
  generalize hopen : ([] : List (Entry Converter)) = entries at h
  induction h with
  | start => exact .refl _
  | inside => cases hopen
  | after _ visited ih => exact (ih hopen).trans (visited_restored visited)

/-- Each open element was entered somewhere in the document. -/
theorem Amid.marks (h : Amid doc policy (visitor doc setting) root Converter.start entries style ids c) :
    ∀ entry ∈ entries, doc.element? entry.id = some entry.element ∧ Marks doc entry := by
  induction entries generalizing style ids c with
  | nil => simp
  | cons entry entries ih =>
    obtain ⟨_, _, houter, he, -, hentered, -⟩ := h.enclosing
    refine List.forall_mem_cons.mpr ⟨⟨he, enter_marks h.proper hentered⟩, ih houter⟩

/-- Around a table nothing is underlined by an argument. -/
theorem Amid.underline_none
    (h : Amid doc policy (visitor doc setting) root Converter.start (entry :: entries) style ids c)
    (htag : entry.element.tag = .table) : Emphasis.underline.begun entries = 0 := by
  obtain ⟨_, _, houter, he, -⟩ := h.enclosing
  have hblock : doc.isBlock entry.id = true := by
    rw [Document.isBlock, Document.tag?_of_element? he, htag]
    rfl
  have hnone : ∀ around ∈ entries, Emphasis.underline.begunBy around = 0 := by
    intro around haround
    obtain ⟨he', hmarks⟩ := Amid.marks houter around haround
    by_contra hpos
    cases hmarks with
    | table _ _ _ owed => exact hpos (Emphasis.begunBy_of_owed _ owed)
    | within _ _ _ underline =>
      obtain ⟨htag', hblocks⟩ := underline (Nat.pos_of_ne_zero hpos)
      obtain ⟨path, hleads⟩ := houter.leads List.mem_cons_self around haround
      have hne : entry.id ≠ around.id := by
        intro hsame
        rw [hsame, he'] at he
        exact htag' (Option.some.inj he ▸ htag)
      rw [Document.hasBlockContent_of_leads hleads hne hblock] at hblocks
      cases hblocks
  rw [Emphasis.begun, List.map_congr_left hnone]
  clear h houter hnone
  induction entries with
  | nil => rfl
  | cons _ _ ih => simpa using ih

/-- The elements that are open, and what is to be said of the constructs that they began. -/
structure Opened (entries : List (Entry Converter)) (c : Converter) : Prop where
  marks : ∀ k : Emphasis, k.begun (inInnermostTable entries) = c.formatting.mark k
  owed : List.Forall₂ (fun entry (f : Frame) => Emphasis.bold.begunBy entry +
    Emphasis.italic.begunBy entry + Emphasis.underline.begunBy entry ≤ f.closers.countP Closer.isBrace)
      entries c.frames
  underline : Emphasis.underline.begun entries = c.formatting.mark .underline

theorem Opened.restored (h : Opened entries c) (hr : Restored c c') : Opened entries c' := by
  obtain ⟨marks, owed, underline⟩ := h
  exact ⟨by rwa [hr.formatting], by rwa [hr.frames], by rwa [hr.formatting]⟩

theorem Amid.opened (h : Amid doc policy (visitor doc setting) root Converter.start entries style ids c) :
    Opened entries c := by
  induction entries generalizing style ids c with
  | nil =>
    have hopened : Opened [] Converter.start := ⟨fun k => by cases k <;> rfl, .nil, rfl⟩
    exact hopened.restored (Amid.restored_start h)
  | cons entry entries ih =>
    obtain ⟨_, _, houter, he, -, hentered, -⟩ := h.enclosing
    obtain ⟨marks, owed, underline⟩ := ih houter
    obtain ⟨-, blocks, scope, hscope⟩ := (enter_yields doc setting entry.id entry.element entry.style
      entry.before).of_ok hentered
    obtain ⟨f, howed⟩ := hscope.owed
    have hframes : entry.after.frames = f :: entry.before.frames := howed.frames
    have hbraces : bracesOwed entry.after = f.closers.countP Closer.isBrace := by
      rw [bracesOwed, hframes]
    refine Opened.restored ?_ (Amid.restored h)
    cases enter_marks h.proper hentered with
    | table begins tag formatting hnone =>
      have hbegun : ∀ k : Emphasis, k.begunBy entry = 0 := fun k => k.begunBy_of_owed hnone
      have hfree : ∀ k : Emphasis, entry.after.formatting.mark k = 0 := fun k => by
        rw [formatting]
        cases k <;> rfl
      refine ⟨fun k => ?_, ?_, ?_⟩
      · rw [hfree, inInnermostTable, List.takeWhile_cons_of_neg (by simp [begins])]
        rfl
      · rw [hframes]
        exact .cons (by simp [hbegun]) owed
      · rw [hfree, Emphasis.begun, List.map_cons, total_cons, hbegun, Nat.zero_add]
        exact Amid.underline_none h tag
    | within begins hmarks hsum =>
      refine ⟨fun k => ?_, ?_, ?_⟩
      · rw [inInnermostTable, List.takeWhile_cons_of_pos (by simp [begins]), Emphasis.begun,
          List.map_cons, total_cons]
        have := marks k
        rw [inInnermostTable, Emphasis.begun] at this
        rw [this]
        exact hmarks k
      · rw [hframes]
        exact .cons (hbraces ▸ hsum) owed
      · rw [Emphasis.begun, List.map_cons, total_cons]
        rw [Emphasis.begun] at underline
        rw [underline]
        exact hmarks .underline

/-! ## What a run of text adds -/

theorem openedBy_underlined (k : Emphasis) {underline : Bool} (hts : ts.all isQuiet) :
    k.openedBy (underlined underline ts) = if k = .underline then underline.toNat else 0 := by
  cases underline with
  | false =>
    rw [underlined, k.openedBy_quiet hts]
    split <;> rfl
  | true =>
    rw [underlined, k.openedBy_append, k.openedBy_append, k.openedBy_quiet hts,
      k.openedBy_closing]
    cases k <;> decide

theorem openedBy_boxed (k : Emphasis) {background : Option String}
    (hhex : ∀ hex, background = some hex → hex.toList.all isPlain) (ts : List Token) :
    k.openedBy (boxed background ts) = k.openedBy ts := by
  cases background with
  | none => rfl
  | some hex =>
    have hdigits := quiet_chars (inert_of_plain (hhex hex rfl))
    have hcommand : (colorCommand "colorbox").all isQuiet = true := rfl
    have hbraces : [closing, opening].all isQuiet = true := rfl
    rw [boxed, k.openedBy_append, k.openedBy_append, k.openedBy_append, k.openedBy_append,
      k.openedBy_quiet hdigits, k.openedBy_quiet hcommand,
      k.openedBy_quiet hbraces, k.openedBy_closing]
    omega

/-- A run of text sets nothing apart but by the underline that was put off. -/
theorem TextRow.opens {f : Formatting} {s : String} (h : TextRow f s ts) (tame : f.Tame) :
    Emphasis.bold.openedBy ts = 0 ∧ Emphasis.italic.openedBy ts = 0 ∧
      Emphasis.underline.openedBy ts ≤ f.runUnderline.toNat := by
  have htext : ∀ (k : Emphasis) (cs : List Char), k.openedBy (cs.flatMap textTokens) = 0 := fun k cs =>
    k.openedBy_quiet (quiet_text cs)
  cases h with
  | nothing => exact ⟨rfl, rfl, Nat.zero_le _⟩
  | plain => exact ⟨htext _ _, htext _ _, by simp [htext]⟩
  | @wrapped _ middle =>
    have hplain : ∀ hex, f.runBackground = some hex → hex.toList.all isPlain := fun hex h =>
      tame hex (Option.filter_eq_some_iff.mp h).1
    have hwrapped : ∀ k : Emphasis, k.openedBy
        (underlined f.runUnderline (middle.flatMap textTokens)) =
          if k = .underline then f.runUnderline.toNat else 0 := fun k =>
      openedBy_underlined k (quiet_text middle)
    simp [Emphasis.openedBy_append, htext, openedBy_boxed _ hplain, hwrapped]

/-- A run of text brings no underline where one is in effect. -/
theorem Formatting.runUnderline_le (f : Formatting) :
    f.mark .underline + f.runUnderline.toNat ≤ 1 := by
  rw [Formatting.mark, Formatting.runUnderline]
  cases hmark : f.active.contains Kinds.underline <;> cases f.pendingUnderline <;>
    simp [Emphasis.kind, hmark]

/-- Whatever elements are open, those in the innermost table that was begun have opened one construct for
an emphasis if it is marked as active, and none otherwise, and for each construct a brace is owed.  Among all
of them there is one underline at most, that of a run of text included. -/
theorem emphasis_opened_once (doc : Document) (options : Options) (resolve : Image.Resolver) (root : Nat) :
    ∀ {entries : List (Entry Converter)} {style : Style} {ids : List Nat} {c : Converter},
      Amid doc options.importantPolicy (visitor doc ⟨options, resolve⟩) root Converter.start entries
        style ids c →
      (∀ k : Emphasis, k.begun (inInnermostTable entries) =
        if c.formatting.active.contains k.kind then 1 else 0) ∧
      List.Forall₂ (fun entry (f : Frame) => Emphasis.bold.begunBy entry + Emphasis.italic.begunBy entry +
        Emphasis.underline.begunBy entry ≤ f.closers.countP Closer.isBrace) entries c.frames ∧
      Emphasis.underline.begun entries ≤ 1 ∧
      ∀ {s : String} {flow : Flow} {c' : Converter}, c.preDepth = 0 →
        visitText ⟨options, resolve⟩ s c = .ok flow c' →
        Emphasis.bold.openedIn (writtenSince c c') = 0 ∧ Emphasis.italic.openedIn (writtenSince c c') = 0 ∧
          Emphasis.underline.begun entries + Emphasis.underline.openedIn (writtenSince c c') ≤ 1 := by
  intro entries style ids c h
  obtain ⟨hmarks, howed, hunderline⟩ := Amid.opened h
  refine ⟨fun k => ?_, howed, ?_, fun {s flow c'} hpre hv => ?_⟩
  · rw [hmarks, Formatting.mark]
    cases c.formatting.active.contains k.kind <;> rfl
  · rw [hunderline]
    have := c.formatting.runUnderline_le
    omega
  · have tame : c.formatting.Tame := (reaches_encloses h.reaches ⟨fun _ => rfl, .start⟩).2.formatting
    obtain ⟨ts, hrow, hwrote⟩ := visitText_writes _ s hpre _ _ hv
    obtain ⟨n, hadded⟩ := Added.of_wrote hwrote (hrow.regular tame)
    have hopened : ∀ k : Emphasis, k.openedIn (writtenSince c c') = k.openedBy ts := fun k => by
      rw [hadded.writtenSince_eq, k.openedIn_spell hadded.regular, k.openedBy_append,
        k.openedBy_quiet (quiet_spaces n), Nat.zero_add]
    obtain ⟨hbold, hitalic, hline⟩ := hrow.opens tame
    refine ⟨by rw [hopened, hbold], by rw [hopened, hitalic], ?_⟩
    rw [hopened, hunderline]
    have := c.formatting.runUnderline_le
    omega

/-- Bold letters in bold letters. -/
def boldInBold : Document :=
  ((Document.withRoot "b").push 0 (.element (.ofName "b" []))).push 1 (.text "a")

/-- One command is opened for the two elements. -/
theorem emphasis_opened_once_boldInBold :
    ∃ (inner outer : Entry Converter) (style : Style) (c : Converter),
      Amid boldInBold .localWins (visitor boldInBold ⟨{}, fun _ => .ok "image.png"⟩) 0 Converter.start
        [inner, outer] style [2] c ∧ c.preDepth = 0 ∧
      (∃ c', visitText ⟨{}, fun _ => .ok "image.png"⟩ "a" c = .ok .descend c' ∧
        Emphasis.underline.begun [inner, outer] + Emphasis.underline.openedIn (writtenSince c c') ≤ 1) ∧
      Emphasis.bold.begun (inInnermostTable [inner, outer]) = 1 := by
  have hrun : (match enter boldInBold ⟨{}, fun _ => .ok "image.png"⟩ 0 (.ofName "b" [])
      ((Element.ofName "b" []).styleUnder .localWins Style.empty) Converter.start with
    | .ok flow c => flow = .descend &&
      match enter boldInBold ⟨{}, fun _ => .ok "image.png"⟩ 1
        (.ofName "b" []) ((Element.ofName "b" []).styleUnder
          .localWins ((Element.ofName "b" []).styleUnder .localWins Style.empty).inheritedPart.style) c with
      | .ok flow c => flow = .descend && c.preDepth = 0 && c.formatting.active.contains Kinds.bold &&
        match visitText ⟨{}, fun _ => .ok "image.png"⟩ "a" c with
        | .ok flow _ => decide (flow = .descend)
        | .error .. => false
      | .error .. => false
    | .error .. => false) = true := by decide +kernel
  split at hrun
  · next flow c hbody =>
    simp only [Bool.and_eq_true, decide_eq_true_eq] at hrun
    obtain ⟨rfl, hrun⟩ := hrun
    split at hrun
    · next flow c' hinner =>
      simp only [Bool.and_eq_true, decide_eq_true_eq] at hrun
      obtain ⟨⟨⟨rfl, hpre⟩, hbold⟩, hrun⟩ := hrun
      split at hrun
      · next flow c'' htext =>
        obtain rfl := of_decide_eq_true hrun
        have hstart : Amid boldInBold .localWins (visitor boldInBold ⟨{}, fun _ => .ok "image.png"⟩) 0
          Converter.start [] Style.empty [0] Converter.start := .start
        have hamid := (hstart.inside rfl hbody (by decide)).inside rfl hinner (by decide)
        obtain ⟨hmarks, -, -, hline⟩ :=
          emphasis_opened_once boldInBold {} (fun _ => .ok "image.png") 0 hamid
        refine ⟨_, _, _, c', hamid, hpre, ⟨c'', htext, (hline hpre htext).2.2⟩, ?_⟩
        rw [hmarks]
        exact if_pos hbold
      · cases hrun
    · cases hrun
  · cases hrun

end MarkupTex.Convert
