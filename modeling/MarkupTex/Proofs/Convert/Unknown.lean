import MarkupTex.Proofs.Convert.Bookkeeping
import MarkupTex.Proofs.Convert.Emphasis
/-!
# Unknown elements

Unknown elements are warned about once for each name.  The names that were reported are those that there is a
warning for, `Once`; every call keeps this, and only entering an element of that name outside of verbatim blocks
adds the name, `Tells`.  By induction over the traversal, whatever it ends with, the name is among the reported
ones at the end of a run if there was such a call in it (`endState_tells`).

Whether a verbatim block is open is told by the elements that are open, `Amid.preDepth_eq_zero_iff`.
-/

set_option autoImplicit false

namespace MarkupTex.Convert

open Walk

variable {doc : Document} {setting : Setting} {policy : ImportantPolicy} {root id : Nat} {e : Element}
  {style : Style} {ids : List Nat} {c c' c₁ c₂ : Converter} {W : Warning → Prop} {name : String}

/-! ## Once for each name -/

/-- There is one warning about the name if it is reported, and otherwise there is none. -/
def Once (name : String) (c : Converter) : Prop :=
  c.warnings.count (unknownWarning name) = if name ∈ c.reported then 1 else 0

/-- On the way the name is reported if it was not yet and if `p`, and there is no other way for it. -/
structure Tells (name : String) (p : Prop) (c c' : Converter) : Prop where
  once : Once name c → Once name c'
  reported : name ∈ c'.reported ↔ name ∈ c.reported ∨ p

namespace Tells

variable {p q : Prop}

theorem of_eq (hwarnings : c'.warnings = c.warnings) (hreported : c'.reported = c.reported) :
    Tells name False c c' where
  once := by rw [Once, Once, hwarnings, hreported]; exact fun h => h
  reported := by rw [hreported, or_false]

theorem refl (c : Converter) : Tells name False c c := .of_eq rfl rfl

theorem trans (h : Tells name p c c₁) (h' : Tells name q c₁ c₂) : Tells name (p ∨ q) c c₂ where
  once := fun hc => h'.once (h.once hc)
  reported := by rw [h'.reported, h.reported, or_assoc]

/-- Of the state before, only the warnings and the reported names matter. -/
theorem congr (h : Tells name p c₁ c') (hwarnings : c₁.warnings = c.warnings)
    (hreported : c₁.reported = c.reported) : Tells name p c c' := by
  have hall := (of_eq hwarnings hreported).trans h
  rwa [false_or] at hall

/-- Other warnings do not matter. -/
theorem of_books (h : Books W c c') (hother : ¬ W (unknownWarning name)) : Tells name False c c' where
  once := by
    obtain ⟨ws, hws, hW, -⟩ := h.warned
    have hnone : ws.count (unknownWarning name) = 0 :=
      List.count_eq_zero.mpr fun hmem => hother (hW _ hmem)
    simp only [Once, hws, List.count_append, hnone, Nat.add_zero, h.reported name hother]
    exact fun hc => hc
  reported := by rw [h.reported name hother, or_false]

end Tells

/-- An unknown element is reported under its name, the first time with a warning. -/
theorem reportUnknown_tells (name : String) (c : Converter) :
    Tells name True c (after (reportUnknown name c)) := by
  have happly : after (reportUnknown name c) = if name ∈ c.reported then c else
      { c with
        reported := name :: c.reported
        warnings := c.warnings ++ [unknownWarning name]
        faults := c.faults.record (unknownWarning name).fault } := by
    have hstep : reportUnknown name c = (if c.reported.contains name then pure () else do
        modify fun c => { c with reported := name :: c.reported }
        warn (unknownWarning name).fault (some name) : Conversion Unit) c := rfl
    rw [hstep]
    by_cases hreported : name ∈ c.reported
    · rw [if_pos (List.contains_iff_mem.mpr hreported), if_pos hreported]
      rfl
    · rw [if_neg (by simpa using hreported), if_neg hreported]
      rfl
  rw [happly]
  split
  · next hreported => exact ⟨fun hc => hc, by simp [hreported]⟩
  · next hreported =>
    refine ⟨fun hc => ?_, by simp⟩
    rw [Once, if_neg hreported] at hc
    simp [Once, List.count_append, hc]

/-- No value that cannot be read as a color gives a warning like the one about an unknown element. -/
theorem toHex_ne_unknown {value : String} {fault : Fault} (h : Color.toHex value = .error fault)
    (name : String) : fault ≠ (unknownWarning name).fault := by
  have hunknown : (unknownWarning name).message.toList.head? = some 'u' := by
    simp [unknownWarning, Warning.ofFault, toString]
  have hcolor {fault : Fault} (hmessage : fault.message.toList.head? = some 'c') :
      fault ≠ (unknownWarning name).fault := by
    rintro rfl
    rw [show (unknownWarning name).fault.message = (unknownWarning name).message from rfl, hunknown] at hmessage
    cases hmessage
  have hkind {message : String} : (⟨.cssValue, message⟩ : Fault) ≠ (unknownWarning name).fault :=
    fun heq => by cases congrArg Fault.kind heq
  rw [Color.toHex] at h
  split at h
  · cases h
  · split at h
    · obtain rfl := Except.error.inj h
      exact hcolor (by simp [toString])
    · split at h
      · split at h
        · cases h
        · obtain rfl := Except.error.inj h
          exact hkind
      · split at h
        · split at h
          · cases h
          · obtain rfl := Except.error.inj h
            exact hkind
        · split at h
          · obtain rfl := Except.error.inj h
            exact hcolor (by simp [toString])
          · obtain rfl := Except.error.inj h
            exact hkind

/-- An unknown element is reported and then handled by its style. -/
theorem openElement_tells (htag : e.tag = .other name) (c : Converter) :
    Tells name True c (after (openElement doc setting id e style c)) := by
  have hstyle : Always (Books fun w => w ≠ unknownWarning name) (do
      applyStyle e style
      return Flow.descend) := by
    have happly : Noting (fun w => w ≠ unknownWarning name) (applyStyle e style) :=
      applyStyle_noting (fun _ _ _ hbad hw => toHex_ne_unknown hbad name (congrArg Warning.fault hw))
        fun _ _ _ hbad hw => toHex_ne_unknown hbad name (congrArg Warning.fault hw)
    exact happly.books.bind fun _ => .pure _
  have hopen : openElement doc setting id e style c = (reportUnknown name >>= fun _ => do
      applyStyle e style
      return Flow.descend) c := by
    rw [openElement, htag]
  have hreport := reportUnknown_tells name c
  rw [hopen]
  simp only [bind, EStateM.bind] at hstyle ⊢
  cases hrun : reportUnknown name c with
  | error fault c₁ =>
    rw [hrun] at hreport
    exact hreport
  | ok _ c₁ =>
    rw [hrun] at hreport
    have hall := hreport.trans (.of_books (hstyle.after c₁) (by simp))
    rwa [or_false] at hall

/-- Entering an element outside of verbatim blocks reports its name if it is unknown, and no other name. -/
theorem enter_tells (hname : IsUnknown name) (doc : Document) (setting : Setting) (id : Nat) (e : Element)
    (style : Style) (c : Converter) :
    Tells name (c.preDepth = 0 ∧ e.tag = .other name) c (after (enter doc setting id e style c)) := by
  have hopened {blocks : Bool} {p : Prop} {c' : Converter} (h : Tells name p (c.opened blocks) c') :
      Tells name p c c' := h.congr rfl rfl
  rw [enter_apply]
  apply hopened
  rcases Nat.eq_zero_or_pos c.preDepth with hpre | hpre
  · rw [if_neg (Nat.not_lt.mpr (Nat.le_of_eq hpre))]
    by_cases htag : e.tag = .other name
    · rw [eq_true (And.intro hpre htag)]
      exact openElement_tells htag _
    · rw [eq_false fun h : c.preDepth = 0 ∧ _ => htag h.2]
      exact .of_books ((openElement_books doc setting id e style).after _)
        (Own.not_unknownWarning hname htag)
  · rw [if_pos hpre, eq_false fun h : c.preDepth = 0 ∧ _ => Nat.ne_of_gt hpre h.1]
    exact .of_books (W := fun _ => False) (openVerbatim_books.after _) not_false

theorem visitText_tells (name : String) (setting : Setting) (s : String) (c : Converter) :
    Tells name False c (after (visitText setting s c)) := by
  have hbooks := visitText_books setting s c
  exact (Tells.of_books hbooks fun h => by cases congrArg Warning.element h).congr rfl rfl

theorem leave_tells (name : String) (e : Element) (c : Converter) :
    Tells name False c (after (leave e c)) :=
  (Tells.of_books (leave_books e c) not_false).congr rfl rfl

/-! ## Verbatim blocks -/

/-- No verbatim block is open: a preformatted element begins one where blocks can be written. -/
def OutsideVerbatim (entries : List (Entry Converter)) : Prop :=
  ∀ entry ∈ entries, entry.element.tag = .preformatted → entry.before.inlineOnly = true

/-- One more verbatim block is open if the action succeeds. -/
def Deepens (m : Conversion Flow) : Prop := ∀ c, Ensures m c fun _ c' => c'.preDepth = c.preDepth + 1

theorem Deepens.after {α : Type} {first : Conversion α} {next : α → Conversion Flow}
    (h : Noting (fun _ => False) first) (hnext : ∀ a, Deepens (next a)) : Deepens (first >>= next) :=
  fun c => (h c).bind fun a c₁ hnotes => (hnext a c₁).mono fun _ _ hdeeper => by
    rw [hdeeper, hnotes.preDepth]

theorem openPreformatted_preDepth :
    Ensures (openPreformatted e style) c fun _ c' =>
      c'.preDepth = if c.inlineOnly then c.preDepth else c.preDepth + 1 := by
  unfold openPreformatted
  refine Ensures.get_bind (Ensures.ite (fun hinline => ?_) fun hinline => ?_)
  · have happly : Noting (fun _ => True) (applyStyle e style) :=
      applyStyle_noting (fun _ _ _ _ => trivial) fun _ _ _ _ => trivial
    have hplain : Noting (fun _ => True) (do
        applyStyle e style
        applyFamily .monospace
        return Flow.descend) := happly.bind fun _ => (applyFamily_noting _).bind fun _ => .pure _
    rw [if_pos hinline]
    exact (hplain c).mono fun _ _ hnotes => hnotes.preDepth
  · have hframe : Noting (fun _ => False) (do
        modifyFrame fun frame => { frame with pre := true }
        return Flow.descend) := (modifyFrame_noting _).bind fun _ => .pure _
    rw [if_neg hinline]
    refine Deepens.after paragraphBreak_noting (fun _ => .after (push_noting _) fun _ => ?_) c
    refine .after (onLeave_noting _) fun _ => .after (onLeave_noting _) fun _ => ?_
    refine .after (onLeave_noting _) fun _ c => Ensures.modify_bind ?_
    exact (hframe _).mono fun _ _ hnotes => hnotes.preDepth

/-- Behind an element no verbatim block is open if none was before and the element has not begun one. -/
theorem preDepth_enter {flow : Flow} (h : enter doc setting id e style c = .ok flow c') :
    c'.preDepth = 0 ↔ c.preDepth = 0 ∧ (e.tag = .preformatted → c.inlineOnly = true) := by
  have hblock (hpre : c.preDepth = 0) (htag : e.tag = .preformatted) :
      c'.preDepth = if c.inlineOnly then 0 else 1 := by
    rw [enter_apply, if_neg (Nat.not_lt.mpr (Nat.le_of_eq hpre)), openElement, htag] at h
    have hopen : openPreformatted e style (c.opened _) = .ok flow c' := h
    have hdepth := openPreformatted_preDepth _ _ hopen
    change c'.preDepth = if c.inlineOnly then c.preDepth else c.preDepth + 1 at hdepth
    rw [hdepth, hpre]
  constructor
  · intro hflat
    have hpre := preDepth_of_entered h hflat
    refine ⟨hpre, fun htag => ?_⟩
    by_contra hinline
    rw [hblock hpre htag, if_neg hinline] at hflat
    cases hflat
  · rintro ⟨hpre, hinline⟩
    by_cases htag : e.tag = .preformatted
    · rw [hblock hpre htag, if_pos (hinline htag)]
    · exact preDepth_of_ordinary h hpre htag

theorem Amid.preDepth_eq_zero_iff {entries : List (Entry Converter)}
    (h : Amid doc policy (visitor doc setting) root Converter.start entries style ids c) :
    c.preDepth = 0 ↔ OutsideVerbatim entries := by
  induction entries generalizing style ids c with
  | nil =>
    have hstart : c.preDepth = Converter.start.preDepth := (Amid.restored_start h).preDepth
    simp [OutsideVerbatim, hstart, Converter.start]
  | cons entry entries ih =>
    obtain ⟨_, _, houter, -, -, hentered, -⟩ := h.enclosing
    rw [(Amid.restored h).preDepth, preDepth_enter hentered, ih houter, OutsideVerbatim, OutsideVerbatim,
      List.forall_mem_cons, and_comm]

/-! ## The whole run -/

/-- The turn comes to an element of this name while no verbatim block is open. -/
def EntersUnknown (doc : Document) (name : String) (_style : Style) (id : Nat) (c : Converter) : Prop :=
  c.preDepth = 0 ∧ ∃ e, doc.element? id = some e ∧ e.tag = .other name

theorem tells_accrues (hname : IsUnknown name) (doc : Document) (setting : Setting) (policy : ImportantPolicy) :
    Accrues doc policy (visitor doc setting) (EntersUnknown doc name) (Tells name) where
  refl := .refl
  trans := .trans
  text := by
    intro id t style c ht
    have hevent : ¬ EntersUnknown doc name style id c := by
      rintro ⟨-, e, he, -⟩
      rw [Document.element?_of_text? ht] at he
      cases he
    rw [eq_false hevent]
    exact visitText_tells name setting t c
  enter := by
    intro id e style c he
    have hevent : EntersUnknown doc name style id c ↔ c.preDepth = 0 ∧ e.tag = .other name := by
      rw [EntersUnknown, he]
      simp
    rw [hevent]
    exact enter_tells hname doc setting id e _ c
  leave := fun _ e _ c => leave_tells name e c

/-- In the run of a conversion an element of this name is entered outside of verbatim blocks. -/
def MeetsUnknown (doc : Document) (setting : Setting) (root : Nat) (name : String) : Prop :=
  ∃ entries style id ids c e, Amid doc setting.options.importantPolicy (visitor doc setting) root
    Converter.start entries style (id :: ids) c ∧ OutsideVerbatim entries ∧
    doc.element? id = some e ∧ e.tag = .other name

theorem meetsUnknown_iff : MeetsUnknown doc setting root name ↔
    Happens doc setting.options.importantPolicy (visitor doc setting) (EntersUnknown doc name) Style.empty
      [root] Converter.start := by
  constructor
  · rintro ⟨entries, style, id, ids, c, e, hamid, hverbatim, he, htag⟩
    exact ⟨style, id, ids, c, hamid.reaches, (Amid.preDepth_eq_zero_iff hamid).mpr hverbatim, e, he, htag⟩
  · rintro ⟨style, id, ids, c, hreaches, hpre, e, he, htag⟩
    obtain ⟨entries, hamid⟩ := hreaches.amid
    exact ⟨entries, style, id, ids, c, e, hamid, (Amid.preDepth_eq_zero_iff hamid).mp hpre, he, htag⟩

/-- The state at the end of a run, be it a fault. -/
def endState (doc : Document) (setting : Setting) (root : Nat) : Converter :=
  (after (walk doc root StyleArena.root setting.options.importantPolicy (visitor doc setting)
    { arena := StyleArena.new, state := Converter.start })).state

theorem endState_of_runFrom (h : runFrom doc setting root = .ok c) : endState doc setting root = c := by
  rw [runFrom] at h
  rw [endState]
  split at h
  · next hwalk =>
    rw [hwalk]
    exact Except.ok.inj h
  · cases h

theorem endState_eq (he : doc.element? root = some e) :
    endState doc setting root = after (traverse doc setting.options.importantPolicy (visitor doc setting)
      Style.empty [root] Converter.start) := by
  have hroot : StyleArena.new.style? StyleArena.root.slot = some Style.empty := rfl
  obtain ⟨b, hwalk⟩ := walk_eq_traverse setting.options.importantPolicy he StyleArena.wellFormed_new
    hroot (visitor doc setting) Converter.start
  rw [endState, hwalk]
  cases traverse doc setting.options.importantPolicy (visitor doc setting) Style.empty [root]
      Converter.start <;> rfl

/-- At the end of a run a name is reported if an element of this name was entered. -/
theorem endState_tells (hname : IsUnknown name) (doc : Document) (setting : Setting) (root : Nat) :
    Tells name (MeetsUnknown doc setting root name) Converter.start (endState doc setting root) := by
  rw [meetsUnknown_iff]
  cases he : doc.element? root with
  | some e =>
    rw [endState_eq he]
    refine traverse_accrues (tells_accrues hname doc setting _) [root] Style.empty Converter.start ?_
    simpa using Document.lt_size_of_element? he
  | none =>
    -- Where there is no element to start from, there is no call.
    have hnever : ¬ Happens doc setting.options.importantPolicy (visitor doc setting)
        (EntersUnknown doc name) Style.empty [root] Converter.start := by
      rw [happens_cons]
      rintro ((⟨-, e, hroot, -⟩ | ⟨e, -, -, hroot, -⟩) | ⟨_, -, hrest⟩)
      · rw [he] at hroot
        cases hroot
      · rw [he] at hroot
        cases hroot
      · exact not_happens_nil hrest
    rw [eq_false hnever, endState, walk_of_no_element he]
    exact .refl _

/-- Whatever call is made and whatever becomes of it, warnings are only appended, and the slot has the last of
those that the call has appended.  At the end of a run, be it a fault, there is one warning about an unknown
name if an element of this name was entered outside of verbatim blocks, and none otherwise; and these warnings
are the ones that come with an output. -/
theorem warnings_booked (doc : Document) (setting : Setting) :
    (∀ id e style c, Booked c (after (enter doc setting id e style c))) ∧
    (∀ s c, Booked c (after (visitText setting s c))) ∧
    (∀ e c, Booked c (after (leave e c))) ∧
    ∀ root,
      (∀ name, IsUnknown name →
        (MeetsUnknown doc setting root name →
          (endState doc setting root).warnings.count (unknownWarning name) = 1) ∧
        (¬ MeetsUnknown doc setting root name →
          unknownWarning name ∉ (endState doc setting root).warnings)) ∧
      ∀ output, doc.root? = some root → doc.toLatex setting.options setting.resolve = .ok output →
        output.warnings = (endState doc setting root).warnings := by
  refine ⟨enter_booked doc setting, visitText_booked setting, leave_booked, fun root => ⟨fun name hname => ?_,
    fun output hroot houtput => ?_⟩⟩
  · have htells := endState_tells hname doc setting root
    have hstart : Once name Converter.start := rfl
    have hcount := htells.once hstart
    have hreported : name ∈ (endState doc setting root).reported ↔ MeetsUnknown doc setting root name := by
      simpa [Converter.start] using htells.reported
    refine ⟨fun hmeets => ?_, fun hmeets => ?_⟩
    · rw [hcount, if_pos (hreported.mpr hmeets)]
    · rw [Once, if_neg (mt hreported.mp hmeets)] at hcount
      exact List.count_eq_zero.mp hcount
  · obtain ⟨root', c, hroot', hrun, hwarnings⟩ := warnings_of_toLatex houtput
    obtain rfl : root = root' := Option.some.inj (hroot.symm.trans hroot')
    rw [hwarnings, endState_of_runFrom hrun]

/-- An unknown element in another one of its name. -/
def blinkInBlink : Document :=
  (Document.withRoot "blink").push 0 (.element (.ofName "blink" []))

theorem warnings_booked_blinkInBlink :
    IsUnknown "blink" ∧ MeetsUnknown blinkInBlink ⟨{}, Image.Resolver.passthrough⟩ 0 "blink" ∧
      (endState blinkInBlink ⟨{}, Image.Resolver.passthrough⟩ 0).warnings.count (unknownWarning "blink") = 1 := by
  have hname : IsUnknown "blink" := by
    unfold IsUnknown
    decide +kernel
  have hmeets : MeetsUnknown blinkInBlink ⟨{}, Image.Resolver.passthrough⟩ 0 "blink" :=
    ⟨[], _, 0, [], _, .ofName "blink" [], .start, by simp [OutsideVerbatim], rfl, by decide +kernel⟩
  exact ⟨hname, hmeets, (((warnings_booked blinkInBlink ⟨{}, Image.Resolver.passthrough⟩).2.2.2 0).1
    "blink" hname).1 hmeets⟩

end MarkupTex.Convert
