import MarkupTex.Proofs.Convert.Grids
import MarkupTex.Proofs.Convert.Restoration
import MarkupTex.Proofs.Document.Moments
/-!
# The numbers of floats

A table takes its number when it is begun and uses it when it is left, with anything in between.  But no
other table is a float then: below a table, and in an argument, no table is at the outermost, and the counter
stands still.  So the numbers are used in the order in which they are taken.  A figure is written at once.

The calls of a run are looked at one by one, in the order in which they write.
-/

set_option autoImplicit false

namespace MarkupTex

open Latex Walk

namespace Convert

variable {doc : Document} {setting : Setting} {policy : ImportantPolicy} {id : Nat} {e : Element}
  {style : Style} {ids : List Nat} {flow : Flow} {c c' c₁ c₂ c₃ : Converter} {t : TableState}
  {turns : List (Turn Converter)}

/-! ## The floats of a call -/

/-- The number of the table that is completed as a float. -/
def tableNumber? : Turn Converter → Option Nat
  | .leave _ e before _ => ((endedTable? e before).filter fun t => !t.nested).map (·.number)
  | _ => none

/-- The number of the figure that is written. -/
def figureNumber? (doc : Document) (setting : Setting) : Turn Converter → Option Nat
  | .enter id e before _ => if makesFigure doc setting id e before then some (before.figures + 1) else none
  | _ => none

/-- The label that is made for a float that was given none. -/
def madeLabel? (doc : Document) (setting : Setting) : Turn Converter → Option String
  | .enter id e before after =>
    if (e.nonBlankAttribute? "id").isNone then
      (figureNumber? doc setting (.enter id e before after)).map figureName
    else none
  | .leave id e before after =>
    if (endedTable? e before).any fun t => t.label.isNone then
      (tableNumber? (.leave id e before after)).map tableName
    else none
  | .text .. => none

/-- The counters are as they were. -/
def SameCounters (c c' : Converter) : Prop := c'.tables = c.tables ∧ c'.figures = c.figures

/-- What a call does to the counters, and what it writes of floats: a figure is written when it is entered,
and the float around a table when that is left.  A table that is the grid alone counts for nothing. -/
def WritesFloats (doc : Document) (setting : Setting) : Turn Converter → Prop
  | .enter id e before after =>
    if makesFigure doc setting id e before then
      FigureWritten e (figureCaption doc id e (before.figures + 1)) before after
    else if startsTable doc id e before then
      ∃ blocks, GridBegun doc setting.options id (newTable doc id e before) (before.opened blocks) after
    else SameCounters before after
  | .text _ before after => SameCounters before after
  | .leave _ e before after => SameCounters before after ∧ ∀ t, endedTable? e before = some t →
    t.nested = !isOutermost after ∧ t.label = e.nonBlankAttribute? "id" ∧
      ∃ front, LineEnded before.output front ∧ after.output = front ++ tableEnding t

/-! ## Entering -/

theorem beginsFloat_eq (doc : Document) (id : Nat) (e : Element) (c : Converter) :
    beginsFloat doc id e c = (startsTable doc id e c && isOutermost c) := by
  cases houter : isOutermost c with
  | false => simp [beginsFloat, houter]
  | true =>
    -- At the outermost there is no table around, and so no place between its cells.
    have hskeleton : c.inTableSkeleton = false := by
      cases htable : c.table with
      | none => simp [Converter.inTableSkeleton, htable]
      | some t => simp [isOutermost, htable] at houter
    simp [beginsFloat, startsTable, houter, hskeleton]

/-- An element that begins no table and makes no figure is not counted. -/
theorem enter_sameCounters (hfigure : makesFigure doc setting id e c = false)
    (hbegins : startsTable doc id e c = false) :
    Ensures (enter doc setting id e style) c fun _ c' => SameCounters c c' := by
  have hfloat : beginsFloat doc id e c = false := by rw [beginsFloat_eq, hbegins, Bool.false_and]
  have hallowed : 0 < c.preDepth ∨ startsBlock e c → True := fun _ => trivial
  have hgrids : ¬ True → e.tag = .table → True := fun _ _ => trivial
  refine (enter_inlines hfigure hfloat hallowed hgrids).mono ?_
  rintro _ c' ⟨b, h⟩
  exact ⟨h.tables, h.figures⟩

theorem enter_writesFloats (h : enter doc setting id e style c = .ok flow c') :
    WritesFloats doc setting (.enter id e c c') := by
  rw [WritesFloats]
  cases hfigure : makesFigure doc setting id e c with
  | true => exact enter_figure hfigure flow c' h
  | false =>
    cases hbegins : startsTable doc id e c with
    | true => exact (enter_begins hbegins flow c' h).2
    | false => exact enter_sameCounters hfigure hbegins flow c' h

/-! ## Leaving -/

theorem leave_sameCounters (e : Element) (c : Converter) :
    Ensures (leave e) c fun _ c' => SameCounters c c' := by
  have hcloses : ¬ True → OwesLine c := fun hn => absurd trivial hn
  have hgrids : ¬ True → e.tag = .table → True := fun _ _ => trivial
  exact (leave_inlines hcloses (fun hn => absurd trivial hn) hgrids).mono fun _ _ h => ⟨h.1, h.2.1⟩

theorem leave_writesFloats (hv : enter doc setting id e style c = .ok flow c₁) (hr : Restored c₁ c₂)
    (hl : leave e c₂ = .ok () c₃) : WritesFloats doc setting (.leave id e c₂ c₃) := by
  refine ⟨leave_sameCounters e c₂ () c₃ hl, fun t ht => ?_⟩
  obtain ⟨-, hcore, hends⟩ := ended_spec hv hr ht
  refine ⟨?_, congrArg TableState.label hcore, hends () c₃ hl⟩
  rw [(element_restores hv hr hl).isOutermost]
  exact congrArg TableState.nested hcore

/-! ## The calls of a run -/

theorem visitText_restores {s : String} (h : visitText setting s c = .ok flow c') : Restored c c' := by
  obtain ⟨-, _, -, hw⟩ := (visitText_addsRow (o := setting.options) setting s c).of_ok h
  exact hw.restores

/-- All that belongs to the elements around is as it was at the end of a row of siblings. -/
theorem restored_of_trail (h : Trail doc policy (visitor doc setting) style ids c turns c') :
    Restored c c' := by
  induction h with
  | nil style c => exact .refl c
  | text isText visited goesOn rest ih => exact (visitText_restores visited).trans ih
  | element isElement entered goesOn inside left rest hinside hrest =>
    exact (element_restores entered hinside left).trans hrest

theorem visitText_sameCounters (setting : Setting) (s : String) (c : Converter) :
    Ensures (visitText setting s) c fun _ c' => SameCounters c c' := by
  have hinlines : InlinesFrom True True (visitText setting s) c :=
    visitText_inlines s (fun hn => absurd trivial hn) fun hn => absurd trivial hn
  exact hinlines.mono fun _ _ h => ⟨h.tables, h.figures⟩

/-- Each call of a run does to the counters what it should, and writes the floats that it should. -/
theorem trail_writesFloats (h : Trail doc policy (visitor doc setting) style ids c turns c') :
    ∀ turn ∈ turns, WritesFloats doc setting turn := by
  induction h with
  | nil => simp
  | text isText visited goesOn rest ih =>
    exact List.forall_mem_cons.mpr ⟨visitText_sameCounters setting _ _ _ _ visited, ih⟩
  | element isElement entered goesOn inside left rest hinside hrest =>
    refine List.forall_mem_cons.mpr ⟨enter_writesFloats entered, List.forall_mem_append.mpr ⟨hinside, ?_⟩⟩
    exact List.forall_mem_cons.mpr ⟨leave_writesFloats entered (restored_of_trail inside) left, hrest⟩

/-! ## Counting -/

/-- These are the numbers that a counter goes through, one after the other. -/
def CountsUp (n m : Nat) (numbers : List Nat) : Prop := ∃ k, m = n + k ∧ numbers = List.range' (n + 1) k

namespace CountsUp

variable {n m k : Nat} {numbers others : List Nat}

theorem refl (n : Nat) : CountsUp n n [] := ⟨0, rfl, rfl⟩

theorem one (n : Nat) : CountsUp n (n + 1) [n + 1] := ⟨1, rfl, rfl⟩

theorem trans (h : CountsUp n m numbers) (h' : CountsUp m k others) : CountsUp n k (numbers ++ others) := by
  obtain ⟨i, rfl, rfl⟩ := h
  obtain ⟨j, rfl, rfl⟩ := h'
  refine ⟨i + j, Nat.add_assoc n i j, ?_⟩
  rw [Nat.add_right_comm n i 1, List.range'_append_1]

theorem from_zero (h : CountsUp 0 m numbers) : numbers = List.range' 1 m := by
  obtain ⟨k, rfl, rfl⟩ := h
  rw [Nat.zero_add, Nat.zero_add]

/-- Where the counter stands still there are no numbers. -/
theorem eq_nil (h : CountsUp n n numbers) : numbers = [] := by
  obtain ⟨k, hk, rfl⟩ := h
  have hzero : k = 0 := by omega
  rw [hzero]
  rfl

end CountsUp

theorem filterMap_element {α β : Type} (f : α → Option β) (first last : α) (inner rest : List α) :
    (first :: (inner ++ last :: rest)).filterMap f =
      (f first).toList ++ (inner.filterMap f ++ (f last).toList) ++ rest.filterMap f := by
  simp only [List.filterMap_cons, List.filterMap_append]
  cases f first <;> cases f last <;> simp

/-- Entering an element that begins no table is not counted as a table. -/
theorem enter_tables (hv : enter doc setting id e style c = .ok flow c₁)
    (hbegins : startsTable doc id e c = false) : c₁.tables = c.tables := by
  have hwrites := enter_writesFloats hv
  rw [WritesFloats, hbegins] at hwrites
  split at hwrites
  · exact hwrites.1
  · exact hwrites.1

/-- The tables of an element: those below it, and then its own one.  If it has one of its own there are none
below, as these are not at the outermost. -/
theorem element_tables {inner : List Nat} (hv : enter doc setting id e style c = .ok flow c₁)
    (hr : Restored c₁ c₂) (hl : leave e c₂ = .ok () c₃) (hinner : CountsUp c₁.tables c₂.tables inner)
    (hstill : isOutermost c₁ = false → c₂.tables = c₁.tables) :
    CountsUp c.tables c₃.tables (inner ++ (tableNumber? (.leave id e c₂ c₃)).toList) ∧
      (isOutermost c = false → c₃.tables = c.tables) := by
  have hleft : c₃.tables = c₂.tables := (leave_sameCounters e c₂ () c₃ hl).1
  cases hbegins : startsTable doc id e c with
  | false =>
    have hentered := enter_tables hv hbegins
    have hnone : tableNumber? (.leave id e c₂ c₃) = none := by
      rw [tableNumber?, ended_of_unbegun hbegins hv hr]
      rfl
    rw [hnone, Option.toList_none, List.append_nil, hleft, ← hentered]
    exact ⟨hinner, fun houter => hstill (isOutermost_entered hv houter)⟩
  | true =>
    obtain ⟨-, b, hbegun⟩ := enter_begins hbegins flow c₁ hv
    have hbelow : isOutermost c₁ = false := isOutermost_eq_false.mpr (.inl (by rw [hbegun.table]; rfl))
    have hsame : c₃.tables = c₁.tables := hleft.trans (hstill hbelow)
    have hnil : inner = [] := by
      rw [hstill hbelow] at hinner
      exact hinner.eq_nil
    obtain ⟨t, ht⟩ := ended_of_begun hbegins hv hr
    obtain ⟨-, hcore, -⟩ := ended_spec hv hr ht
    have hnested : t.nested = !isOutermost c := congrArg TableState.nested hcore
    have hnumber : t.core.number = (newTable doc id e c).core.number := by rw [hcore]
    have htables : c₁.tables = c.tables + (isOutermost c).toNat := by
      rw [hbegun.tables, newTable, Bool.not_not]
      rfl
    rw [hnil, hsame, htables, tableNumber?, ht]
    cases houter : isOutermost c with
    | true =>
      refine ⟨?_, Bool.noConfusion⟩
      have hn : t.number = c.tables + 1 := hnumber.trans (by rw [newTable, houter]; rfl)
      rw [Option.filter_some_pos (by rw [hnested, houter]; rfl), Option.map_some, hn]
      exact .one _
    | false =>
      refine ⟨?_, fun _ => rfl⟩
      rw [Option.filter_some_neg (by rw [hnested, houter]; decide)]
      exact .refl _

theorem trail_tables (h : Trail doc policy (visitor doc setting) style ids c turns c') :
    CountsUp c.tables c'.tables (turns.filterMap tableNumber?) ∧
      (isOutermost c = false → c'.tables = c.tables) := by
  induction h with
  | nil style c => exact ⟨.refl _, fun _ => rfl⟩
  | @text style id ids s flow c c₁ c' turns isText visited goesOn rest ih =>
    have hsame := (visitText_sameCounters setting _ _ _ _ visited).1
    have hrestored : Restored c c₁ := visitText_restores visited
    rw [List.filterMap_cons_none rfl, ← hsame, ← hrestored.isOutermost]
    exact ih
  | @element style id ids e flow c c₁ c₂ c₃ c' inner turns isElement entered goesOn inside left rest hinside hrest =>
    have hrestored := element_restores entered (restored_of_trail inside) left
    obtain ⟨hcounts, hstill⟩ := element_tables entered (restored_of_trail inside) left hinside.1 hinside.2
    rw [filterMap_element]
    refine ⟨hcounts.trans hrest.1, fun houter => ?_⟩
    rw [hrest.2 (by rw [hrestored.isOutermost, houter]), hstill houter]

/-- The figures of a call, by which its counter goes up. -/
theorem turn_figures {turn : Turn Converter} (h : WritesFloats doc setting turn) :
    CountsUp turn.before.figures turn.after.figures (figureNumber? doc setting turn).toList := by
  cases turn with
  | text id before after =>
    rw [Turn.before, Turn.after, h.2]
    exact .refl _
  | leave id e before after =>
    rw [Turn.before, Turn.after, h.1.2]
    exact .refl _
  | enter id e before after =>
    rw [WritesFloats] at h
    rw [Turn.before, Turn.after, figureNumber?]
    split at h
    · next hfigure =>
      rw [if_pos hfigure, h.2.1]
      exact .one _
    · next hfigure =>
      rw [if_neg hfigure]
      have hsame : after.figures = before.figures := by
        split at h
        · obtain ⟨b, hbegun⟩ := h
          exact hbegun.figures
        · exact h.2
      rw [hsame]
      exact .refl _

theorem trail_figures (h : Trail doc policy (visitor doc setting) style ids c turns c') :
    CountsUp c.figures c'.figures (turns.filterMap (figureNumber? doc setting)) := by
  induction h with
  | nil style c => exact .refl _
  | text isText visited goesOn rest ih =>
    rw [List.filterMap_cons_none rfl, ← (visitText_sameCounters setting _ _ _ _ visited).2]
    exact ih
  | @element style id ids e flow c c₁ c₂ c₃ c' inner turns isElement entered goesOn inside left rest hinside hrest =>
    have hfirst := turn_figures (enter_writesFloats entered)
    have hlast := turn_figures (leave_writesFloats entered (restored_of_trail inside) left)
    rw [filterMap_element]
    exact (hfirst.trans (hinside.trans hlast)).trans hrest

/-! ## Labels -/

/-- A number can be read from its digits. -/
theorem toString_injective {n m : Nat} (h : toString n = toString m) : n = m := by
  have hdigits : Nat.toDigits 10 n = Nat.toDigits 10 m := by
    have htext := congrArg String.toList h
    rwa [Nat.toString_eq_ofList_toDigits, Nat.toString_eq_ofList_toDigits, String.toList_ofList,
      String.toList_ofList] at htext
  rw [← Nat.ofDigitChars_ten_toDigits (n := n), hdigits, Nat.ofDigitChars_ten_toDigits]

theorem tableName_injective {n m : Nat} (h : tableName n = tableName m) : n = m :=
  toString_injective ((String.append_right_inj "table_").mp h)

theorem figureName_injective {n m : Nat} (h : figureName n = figureName m) : n = m :=
  toString_injective ((String.append_right_inj "figure_").mp h)

theorem tableName_ne_figureName (n m : Nat) : tableName n ≠ figureName m := by
  intro h
  have hfirst := congrArg (fun s => s.toList.head?) h
  simp [tableName, figureName] at hfirst

/-- A label is made from the number of the float. -/
theorem madeLabel?_cases {turn : Turn Converter} {name : String}
    (h : madeLabel? doc setting turn = some name) :
    (∃ n, tableNumber? turn = some n ∧ name = tableName n) ∨
      ∃ n, figureNumber? doc setting turn = some n ∧ name = figureName n := by
  cases turn with
  | text => cases h
  | enter id e before after =>
    rw [madeLabel?] at h
    split at h
    · obtain ⟨n, hn, rfl⟩ := Option.map_eq_some_iff.mp h
      exact .inr ⟨n, hn, rfl⟩
    · cases h
  | leave id e before after =>
    rw [madeLabel?] at h
    split at h
    · obtain ⟨n, hn, rfl⟩ := Option.map_eq_some_iff.mp h
      exact .inl ⟨n, hn, rfl⟩
    · cases h

/-- Different numbers make different labels. -/
theorem madeLabels_nodup (htables : (turns.filterMap tableNumber?).Nodup)
    (hfigures : (turns.filterMap (figureNumber? doc setting)).Nodup) :
    (turns.filterMap (madeLabel? doc setting)).Nodup := by
  rw [List.Nodup, List.pairwise_filterMap] at htables hfigures ⊢
  refine (htables.and hfigures).imp fun {turn other} hapart name hname name' hname' hsame => ?_
  obtain ⟨htable, hfigure⟩ := hapart
  subst hsame
  rcases madeLabel?_cases hname with ⟨n, hn, rfl⟩ | ⟨n, hn, rfl⟩ <;>
    rcases madeLabel?_cases hname' with ⟨m, hm, heq⟩ | ⟨m, hm, heq⟩
  · exact htable n hn m hm (tableName_injective heq)
  · exact tableName_ne_figureName n m heq
  · exact tableName_ne_figureName m n heq.symm
  · exact hfigure n hn m hm (figureName_injective heq)

/-- What is written stays where it is, at every call of a run. -/
theorem trail_extends (h : Trail doc policy (visitor doc setting) style ids c turns c') :
    ∀ turn ∈ turns, Extends turn.before turn.after := by
  induction h with
  | nil => simp
  | text isText visited goesOn rest ih =>
    obtain ⟨-, _, -, hw⟩ := (visitText_addsRow (o := setting.options) setting _ _).of_ok visited
    exact List.forall_mem_cons.mpr ⟨hw.extends, ih⟩
  | element isElement entered goesOn inside left rest hinside hrest =>
    obtain ⟨-, b, scope, hentered⟩ := (enter_yields doc setting _ _ _ _).of_ok entered
    refine List.forall_mem_cons.mpr ⟨hentered.extends, List.forall_mem_append.mpr ⟨hinside, ?_⟩⟩
    exact List.forall_mem_cons.mpr ⟨(leave_goesOn _ _ _ _ left).output, hrest⟩

/-- In a run the tables that are floats are numbered from one on, in the order in which their floats are
completed, and so are the figures.  No label is made twice. -/
theorem floats_numbered {root : Nat} {final : Converter} (hrun : runFrom doc setting root = .ok final) :
    ∃ turns, Trail doc setting.options.importantPolicy (visitor doc setting) Style.empty [root]
        Converter.start turns final ∧
      turns.filterMap tableNumber? = List.range' 1 final.tables ∧
      turns.filterMap (figureNumber? doc setting) = List.range' 1 final.figures ∧
      (turns.filterMap (madeLabel? doc setting)).Nodup ∧
      ∀ turn ∈ turns, Extends turn.before turn.after ∧ WritesFloats doc setting turn := by
  obtain ⟨turns, htrail⟩ := exists_trail (traverse_of_runFrom hrun)
  have htables := (trail_tables htrail).1.from_zero
  have hfigures := (trail_figures htrail).from_zero
  refine ⟨turns, htrail, htables, hfigures, madeLabels_nodup ?_ ?_, fun turn hturn => ?_⟩
  · rw [htables]
    exact List.nodup_range'
  · rw [hfigures]
    exact List.nodup_range'
  · exact ⟨trail_extends htrail turn hturn, trail_writesFloats htrail turn hturn⟩

/-- A table in the cell of another one, an image with a caption, and a table behind them. -/
def numberedFloats : Document :=
  let element (doc : Document) (parent : Nat) (name : String) :=
    doc.push parent (.element (.ofName name []))
  let nested := element (element (element (element (element (element (.withRoot "body") 0 "table") 1 "tr") 2
    "td") 3 "table") 4 "tr") 5 "td"
  let image := nested.push 0 (.element (.ofName "img" [⟨"src", "a.png"⟩, ⟨"alt", "A"⟩]))
  element (element (element image 0 "table") 8 "tr") 9 "td"

theorem floats_numbered_numberedFloats : ∃ final turns,
    runFrom numberedFloats ⟨{}, fun _ => .ok "a.png"⟩ 0 = .ok final ∧
      Trail numberedFloats .localWins (visitor numberedFloats ⟨{}, fun _ => .ok "a.png"⟩) Style.empty [0]
        Converter.start turns final ∧
      turns.filterMap tableNumber? = [1, 2] ∧
      turns.filterMap (figureNumber? numberedFloats ⟨{}, fun _ => .ok "a.png"⟩) = [1] := by
  obtain ⟨final, hrun, htables, hfigures⟩ : ∃ final,
      runFrom numberedFloats ⟨{}, fun _ => .ok "a.png"⟩ 0 = .ok final ∧ final.tables = 2 ∧ final.figures = 1 :=
    exists_ok_and (by decide +kernel)
  obtain ⟨turns, htrail, htableNumbers, hfigureNumbers, -⟩ := floats_numbered hrun
  rw [htables] at htableNumbers
  rw [hfigures] at hfigureNumbers
  exact ⟨final, turns, hrun, htrail, htableNumbers, hfigureNumbers⟩

end Convert

end MarkupTex
