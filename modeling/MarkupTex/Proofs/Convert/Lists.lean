import MarkupTex.Proofs.Convert.Grids
import MarkupTex.Proofs.Convert.Place
/-!
# Lists within lists

A list that becomes an environment owes the end of it until it is left, so that the frames tell which list
environments are open, and of which kind.  The state keeps one depth for all the kinds together
(`listDepth_eq_allOpenLists`).  A numbered list that is to begin with another number than one goes by this
depth when it sets its counter, and that is the counter of its own `enumerate` just where no list of another
kind is open around it.
-/

set_option autoImplicit false

namespace MarkupTex

open Latex Walk

namespace Convert

variable {doc : Document} {setting : Setting} {policy : ImportantPolicy} {o : Options} {root id : Nat}
  {ids : List Nat} {e : Element} {style : Style} {c c' : Converter} {kind : ListKind} {flow : Flow}

/-! ## The list environments that are open -/

/-- What a list environment owes, apart from ends of lines. -/
def ListKind.closer (kind : ListKind) : Closer := .text (endEnvironment kind.environment)

/-- How many environments for lists of a kind are open: so many ends of them are still owed. -/
def openLists (kind : ListKind) (c : Converter) : Nat := (c.frames.flatMap Frame.closers).count kind.closer

/-- How many environments for lists are open. -/
def allOpenLists (c : Converter) : Nat :=
  openLists .bulleted c + openLists .numbered c + openLists .described c

/-- The kind of a list that is opened. -/
def Opening.list? : Opening → Option ListKind
  | .list kind => some kind
  | _ => none

/-- How many of the constructs are lists. -/
def listsOf (ops : List Opening) : Nat := total (ops.map fun op => op.isList.toNat)

/-- Nothing owes the end of a list but the list. -/
theorem Opening.count_closers (op : Opening) (kind : ListKind) :
    op.closers.count kind.closer = if op.list? = some kind then 1 else 0 := by
  cases op with
  | group | argument | paragraph | label => rfl
  | term => cases kind <;> rfl
  | aligned a => cases a <;> cases kind <;> rfl
  | block env => cases env <;> cases kind <;> rfl
  | verbatim => cases kind <;> rfl
  | list kind' => cases kind' <;> cases kind <;> rfl
  | space => cases kind <;> rfl
  | row setting =>
    show [Closer.text (rowEnd setting)].count kind.closer = 0
    unfold rowEnd
    cases setting.options.tableBorders <;> cases kind <;> rfl

/-- A list is of one kind. -/
theorem Opening.count_all (op : Opening) :
    op.closers.count ListKind.bulleted.closer + op.closers.count ListKind.numbered.closer +
      op.closers.count ListKind.described.closer = op.isList.toNat := by
  rw [op.count_closers, op.count_closers, op.count_closers]
  cases op with
  | list kind => cases kind <;> rfl
  | _ => rfl

/-- The depth goes up with each list that is opened. -/
theorem Opens.listDepth {ops : List Opening} (h : Opens o ops c c') :
    c'.listDepth = c.listDepth + listsOf ops := by
  induction h with
  | refl => rfl
  | edit _ e ih => rw [e.keeps.listDepth, ih]
  | @«open» op ops c c₁ c₂ _ e ih =>
    obtain ⟨ts, c₃, -, hw, rfl⟩ := e
    show c₃.listDepth + op.isList.toNat = c.listDepth + (op.isList.toNat + listsOf ops)
    rw [hw.keeps.listDepth, ih]
    omega

theorem Entered.listDepth {scope : Scope} {blocks : Bool} (h : Entered o e (c.opened blocks) scope c') :
    c'.listDepth = c.listDepth + listsOf scope.openings := by
  cases h with
  | opens h => exact h.listDepth
  | row h =>
    obtain ⟨ts, -, hw⟩ := h
    exact hw.keeps.listDepth
  | cell _ h =>
    obtain ⟨c₁, padding, -, -, hbefore, hops⟩ := h
    have hstart : (c₁.enterCell padding).listDepth = c.listDepth := hbefore.keeps.listDepth
    rw [hops.listDepth, hstart]
    rfl
  | table _ h =>
    obtain ⟨ts, c₁, c₂, -, hbefore, -, -, hw, rfl⟩ := h
    exact (hbefore.keeps.trans hw.keeps).listDepth

/-- All the lists that constructs open owe their ends. -/
theorem count_flatMap_closers (ops : List Opening) :
    (ops.flatMap Opening.closers).count ListKind.bulleted.closer +
      (ops.flatMap Opening.closers).count ListKind.numbered.closer +
      (ops.flatMap Opening.closers).count ListKind.described.closer = listsOf ops := by
  induction ops with
  | nil => rfl
  | cons op ops ih =>
    simp only [List.flatMap_cons, List.count_append]
    have hop := op.count_all
    have hlists : listsOf (op :: ops) = op.isList.toNat + listsOf ops := rfl
    omega

/-- As many list environments are open as the depth says. -/
def ListsCounted (c : Converter) : Prop := c.listDepth = allOpenLists c

/-- Entering an element puts on a frame that owes the ends of the lists that it opened. -/
theorem ListsCounted.enter (h : ListsCounted c)
    (hentered : enter doc setting id e style c = .ok flow c') : ListsCounted c' := by
  obtain ⟨-, blocks, scope, hscope⟩ := (enter_yields doc setting id e style c).of_ok hentered
  obtain ⟨f, howed⟩ := hscope.owed
  have hcount : ∀ kind, openLists kind c' = (scope.openings.flatMap Opening.closers).count kind.closer +
      openLists kind c := by
    intro kind
    rw [openLists, howed.frames, List.flatMap_cons, List.count_append, howed.closers]
    rfl
  have hall := count_flatMap_closers scope.openings
  rw [ListsCounted, allOpenLists, hscope.listDepth, h, allOpenLists, hcount, hcount, hcount]
  omega

/-- What has been visited owes nothing any more. -/
theorem ListsCounted.visit (h : ListsCounted c)
    (hvisited : traverse doc policy (visitor doc setting) style [id] c = .ok true c') :
    ListsCounted c' := by
  have hrestored := visited_restored hvisited
  unfold ListsCounted allOpenLists openLists at h ⊢
  rw [hrestored.listDepth, hrestored.frames]
  exact h

/-- At every moment of a conversion the depth counts the list environments of all kinds. -/
theorem listDepth_eq_allOpenLists (h : Reaches doc policy (visitor doc setting) Style.empty [root]
    Converter.start style ids c) : c.listDepth = allOpenLists c :=
  h.preserves (I := ListsCounted) (fun hentered hc => hc.enter hentered)
    (fun hvisited hc => hc.visit hvisited) rfl

/-! ## What a list begins with -/

/-- The command for a list that begins with another number than one, if there is a counter for it. -/
def counterSetting (start : Option Int) (counter : Option String) : String :=
  match start, counter with
  | some n, some counter =>
    if n = 1 then "" else "\\setcounter" ++ braced counter ++ braced (toString (n - 1)) ++ "\n"
  | _, _ => ""

/-- What is written at the beginning of a list environment, at this depth. -/
def listBegin (e : Element) (kind : ListKind) (depth : Nat) : String :=
  beginEnvironment kind.environment ++ "\n" ++
    if kind = .numbered then counterSetting (listStart? e) (listCounter? depth) else ""

/-- The kind of the list that a tag stands for. -/
def listKind? : Tag → Option ListKind
  | .unorderedList => some .bulleted
  | .orderedList => some .numbered
  | .descriptionList => some .described
  | _ => none

/-- Behind the end of the line that was begun, `text` was written, and nothing else. -/
def BeginsLine (text : List Char) (c c' : Converter) : Prop :=
  c'.output = c.output ++ text ∨
    c.output.getLast? ≠ some '\n' ∧ c'.output = c.output ++ '\n' :: text

theorem BeginsLine.append {text more : List Char} {c₁ : Converter} (h : BeginsLine text c c₁)
    (hmore : c'.output = c₁.output ++ more) : BeginsLine (text ++ more) c c' := by
  rcases h with h | ⟨hlast, h⟩
  · left
    rw [hmore, h, List.append_assoc]
  · right
    refine ⟨hlast, ?_⟩
    rw [hmore, h, List.append_assoc, List.cons_append]

theorem push_writes (s : String) (c : Converter) :
    Yields (push s) c fun _ c' => AddsText s.toList c c' :=
  write_adds (Buffer.append_adds c.buffer s) fun b hb => ⟨b, rfl, hb⟩

theorem newline_begins (c : Converter) :
    Yields newline c fun _ c' => BeginsLine [] c c' ∧ ∃ b, c' = { c with buffer := b } := by
  rcases Buffer.newline_adds c.buffer with hsame | ⟨hlast, hadds⟩
  · exact write_ok hsame ⟨.inl (List.append_nil _).symm, _, rfl⟩
  · exact write_adds hadds fun b hb => ⟨.inr ⟨hlast, hb⟩, b, rfl⟩

theorem setCounter_writes (e : Element) (c : Converter) :
    Yields (setCounter e) c fun _ c' =>
      AddsText (counterSetting (listStart? e) (listCounter? c.listDepth)).toList c c' := by
  unfold setCounter counterSetting
  refine Yields.get_bind ?_
  cases listStart? e with
  | none => exact Yields.pure .nil
  | some n =>
    cases listCounter? c.listDepth with
    | none => exact Yields.pure .nil
    | some counter =>
      refine Yields.unless (fun hn => ?_) fun hn => ?_
      · simp only [if_neg hn]
        exact push_writes _ c
      · simp only [if_pos hn]
        exact .nil

/-- A list environment is begun, and its end is owed. -/
theorem openList_begins {f : Frame} {fs : List Frame} (hflat : c.inlineOnly = false)
    (hframes : c.frames = f :: fs) :
    Yields (openList e style kind) c fun _ c' =>
      BeginsLine (listBegin e kind (c.listDepth + 1)).toList c c' ∧
        c'.frames = { f with closers := (Opening.list kind).closers ++ f.closers, list := true } :: fs := by
  unfold openList
  extract_lets finish
  refine Yields.get_bind (Yields.ite (fun h => absurd h (by rw [hflat]; decide)) fun _ => ?_)
  refine (newline_begins c).bind fun _ _ hline => ?_
  obtain ⟨hline, b, rfl⟩ := hline
  refine (push_writes _ _).bind fun _ _ hbegin => ?_
  have hbegun := hline.append hbegin.output
  obtain ⟨b', rfl, -⟩ := hbegin
  refine onLeave_bind hframes (onLeave_bind rfl (onLeave_bind rfl (Yields.modify_bind ?_)))
  refine modifyFrame_bind rfl ?_
  unfold finish listBegin
  refine Yields.ite (fun hkind => ?_) fun hkind => ?_
  · simp only [if_pos hkind]
    refine (setCounter_writes e _).bind fun _ _ hset => Yields.pure ?_
    have hnumbered := hbegun.append hset.output
    obtain ⟨b'', rfl, -⟩ := hset
    exact ⟨by rwa [String.toList_append], rfl⟩
  · simp only [if_neg hkind]
    exact Yields.pure ⟨by rwa [String.append_empty], rfl⟩

theorem enter_begins_list (hkind : listKind? e.tag = some kind) (hpre : c.preDepth = 0)
    (hflat : c.inlineOnly = false) :
    Yields (enter doc setting id e style) c fun _ c' =>
      BeginsLine (listBegin e kind (c.listDepth + 1)).toList c c' ∧
        c'.frames = { closers := (Opening.list kind).closers, saved := some c.formatting, list := true } ::
          c.frames := by
  have hlist : ∀ blocks, Yields (openList e style kind) (c.opened blocks) fun _ c' =>
      BeginsLine (listBegin e kind (c.listDepth + 1)).toList c c' ∧
        c'.frames = { closers := (Opening.list kind).closers, saved := some c.formatting, list := true } ::
          c.frames :=
    fun blocks => openList_begins (c := c.opened blocks) hflat rfl
  refine Yields.congr ?_ (enter_eq hpre)
  unfold openElement
  cases htag : e.tag <;> rw [htag] at hkind <;> cases hkind <;> exact hlist _

/-- Only the first four depths have a counter. -/
theorem lt_of_listCounter? {n : Nat} {counter : String} (h : listCounter? n = some counter) : n < 5 := by
  unfold listCounter? at h
  split at h <;> first | decide | cases h

/-- And each of them has one of its own. -/
theorem listCounter?_inj {n m : Nat} {counter : String} (hn : listCounter? n = some counter)
    (hm : listCounter? m = some counter) : n = m := by
  have hall : ∀ n < 5, ∀ m < 5, listCounter? n = listCounter? m → (listCounter? n).isSome → n = m := by
    decide
  exact hall n (lt_of_listCounter? hn) m (lt_of_listCounter? hm) (hn.trans hm.symm) (by rw [hn]; rfl)

theorem listCounter?_eq_none {n : Nat} (h : 5 ≤ n) : listCounter? n = none := by
  cases hn : listCounter? n with
  | none => rfl
  | some counter => exact absurd (lt_of_listCounter? hn) (Nat.not_lt.mpr h)

/-- Wherever a conversion comes to a list that becomes an environment, it writes the beginning of the
environment and, for a numbered list that is to begin with another number than one, the counter of the depth at
which all list environments are counted.  That is the counter of the depth of the numbered ones among them just
where no other one is open, and there is none within four numbered ones. -/
theorem enter_list_begins (hreach : Reaches doc policy (visitor doc setting) Style.empty [root]
      Converter.start style (id :: ids) c) (hkind : listKind? e.tag = some kind) (hpre : c.preDepth = 0)
    (hflat : c.inlineOnly = false) :
    Yields ((visitor doc setting).enter id e (e.styleUnder policy style)) c fun _ c' =>
      BeginsLine (listBegin e kind (allOpenLists c + 1)).toList c c' ∧
      (∀ k, openLists k c' = openLists k c + if k = kind then 1 else 0) ∧
      (∀ counter, listCounter? (allOpenLists c + 1) = some counter →
        (listCounter? (openLists .numbered c + 1) = some counter ↔
          openLists .bulleted c = 0 ∧ openLists .described c = 0)) ∧
      (4 ≤ openLists .numbered c →
        listBegin e kind (allOpenLists c + 1) = beginEnvironment kind.environment ++ "\n") := by
  have hdepth : c.listDepth = allOpenLists c := listDepth_eq_allOpenLists hreach
  refine (enter_begins_list hkind hpre hflat).mono fun _ c' hbegun => ?_
  obtain ⟨hline, hframes⟩ := hbegun
  rw [hdepth] at hline
  refine ⟨hline, fun k => ?_, fun counter hcounter => ?_, fun hdeep => ?_⟩
  · rw [openLists, hframes, List.flatMap_cons, List.count_append, Opening.count_closers, Nat.add_comm]
    simp only [Opening.list?, Option.some.injEq, eq_comm (a := kind)]
    rfl
  · constructor
    · intro hown
      have hsame := listCounter?_inj hcounter hown
      unfold allOpenLists at hsame
      omega
    · intro hnone
      rw [← hcounter, allOpenLists, hnone.1, hnone.2, Nat.zero_add, Nat.add_zero]
  · rw [listBegin, listCounter?_eq_none (by unfold allOpenLists; omega)]
    cases listStart? e <;> cases kind <;> rfl

/-- A numbered list in an item of a bulleted one, which is to begin with five. -/
def numberedInBulleted : Document :=
  let item := (Document.withRoot "ul").push 0 (.element (.ofName "li" []))
  let list := item.push 1 (.element (.ofName "ol" [⟨"start", "5"⟩]))
  (list.push 2 (.element (.ofName "li" []))).push 3 (.text "x")

/-- No numbered list is open around it, but a bulleted one. -/
theorem enter_list_begins_numberedInBulleted :
    ∃ (style : Style) (c c' : Converter) (flow : Flow),
      Reaches numberedInBulleted .localWins (visitor numberedInBulleted ⟨{}, fun _ => .ok "image.png"⟩)
        Style.empty [0] Converter.start style [2] c ∧
      openLists .numbered c = 0 ∧ openLists .bulleted c = 1 ∧ allOpenLists c = 1 ∧
      enter numberedInBulleted ⟨{}, fun _ => .ok "image.png"⟩ 2 (.ofName "ol" [⟨"start", "5"⟩])
        ((Element.ofName "ol" [⟨"start", "5"⟩]).styleUnder .localWins style) c = .ok flow c' ∧
      BeginsLine (listBegin (.ofName "ol" [⟨"start", "5"⟩]) .numbered 2).toList c c' ∧
      openLists .numbered c' = 1 := by
  have hrun : (match enter numberedInBulleted ⟨{}, fun _ => .ok "image.png"⟩ 0 (.ofName "ul" [])
      ((Element.ofName "ul" []).styleUnder .localWins Style.empty) Converter.start with
    | .ok flow c => flow = .descend &&
      match enter numberedInBulleted ⟨{}, fun _ => .ok "image.png"⟩ 1 (.ofName "li" [])
        ((Element.ofName "li" []).styleUnder .localWins
          ((Element.ofName "ul" []).styleUnder .localWins Style.empty).inheritedPart.style) c with
      | .ok flow c => flow = .descend && c.preDepth = 0 && !c.inlineOnly && openLists .numbered c = 0 &&
          openLists .bulleted c = 1 && allOpenLists c = 1 &&
        match enter numberedInBulleted ⟨{}, fun _ => .ok "image.png"⟩ 2 (.ofName "ol" [⟨"start", "5"⟩])
          ((Element.ofName "ol" [⟨"start", "5"⟩]).styleUnder .localWins
            ((Element.ofName "li" []).styleUnder .localWins
              ((Element.ofName "ul" []).styleUnder .localWins
                Style.empty).inheritedPart.style).inheritedPart.style) c with
        | .ok .. => true
        | .error .. => false
      | .error .. => false
    | .error .. => false) = true := by decide +kernel
  have hkind : listKind? (Element.ofName "ol" [⟨"start", "5"⟩]).tag = some .numbered := by decide +kernel
  split at hrun
  · next flow c₁ hlist =>
    simp only [Bool.and_eq_true, decide_eq_true_eq] at hrun
    obtain ⟨rfl, hrun⟩ := hrun
    split at hrun
    · next flow c hitem =>
      simp only [Bool.and_eq_true, decide_eq_true_eq, Bool.not_eq_true'] at hrun
      obtain ⟨⟨⟨⟨⟨⟨rfl, hpre⟩, hflat⟩, hnumbered⟩, hbulleted⟩, hall⟩, hrun⟩ := hrun
      split at hrun
      · next flow c' hentered =>
        have hreach : Reaches numberedInBulleted .localWins
            (visitor numberedInBulleted ⟨{}, fun _ => .ok "image.png"⟩) Style.empty [0] Converter.start
            _ [2] c := .inside rfl hlist (by decide) (.inside rfl hitem (by decide) (.refl _ _ _))
        obtain ⟨hline, hopen, -, -⟩ := (enter_list_begins hreach hkind hpre hflat).of_ok hentered
        rw [hall] at hline
        refine ⟨_, c, c', flow, hreach, hnumbered, hbulleted, hall, hentered, hline, ?_⟩
        rw [hopen, hnumbered]
        rfl
      · cases hrun
    · cases hrun
  · cases hrun

/-- The list is the first numbered one, but the counter of the second one is set. -/
theorem setCounter_numberedInBulleted :
    ∃ c, runFrom numberedInBulleted ⟨{}, fun _ => .ok "image.png"⟩ 0 = .ok c ∧
      c.output = ("\\begin\x7bitemize\x7d\n\\item \n\\begin\x7benumerate\x7d\n" ++
        "\\setcounter\x7benumii\x7d\x7b4\x7d\n\\item x\n\\end\x7benumerate\x7d\n" ++
        "\\end\x7bitemize\x7d\n").toList :=
  exists_ok_and (by decide +kernel)

end Convert

end MarkupTex
