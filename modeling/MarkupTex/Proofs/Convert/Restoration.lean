import MarkupTex.Proofs.Convert.Elements
import MarkupTex.Proofs.Document.Stack
/-!
# Nothing is left over

Whatever is below an element, leaving it gives back all that entering it took: the braces and the
arguments that it opened, its lists and verbatim blocks, the formatting, and the table around it.  So at
the end of a document no brace is owed, and the only way for a conversion to fail is that the output
finds no room.

`Conserves.tracks` prepares the induction behind this, with room for more: a relation that is to hold between
the states before and after each visit may use that the state was restored below.
-/

set_option autoImplicit false

namespace MarkupTex

open Latex Walk

namespace Convert

variable {c c' : Converter} {ts : List Token} {doc : Document} {setting : Setting}
  {policy : ImportantPolicy}

theorem Wrote.restores (h : Wrote ts c c') : Restored c c' := by
  obtain ⟨b, _, _, _, _, rfl, -⟩ := h
  exact ⟨rfl, rfl, rfl, rfl, rfl, rfl, rfl⟩

/-- What is to be shown of the visits of a conversion: of a text, and of an element around anything of
which the relation holds. -/
structure Conserves (doc : Document) (setting : Setting) (policy : ImportantPolicy)
    (event : Style → Nat → Converter → Prop) (R : Prop → Converter → Converter → Prop) : Prop where
  refl : ∀ c, R False c c
  trans : ∀ {p q c₁ c₂ c₃}, R p c₁ c₂ → R q c₂ c₃ → R (p ∨ q) c₁ c₃
  text : ∀ {id t style flow c c'}, doc.text? id = some t → visitText setting t c = .ok flow c' →
    AddsRow setting.options c c' → Restored c c' → R (event style id c) c c'
  element : ∀ {id e style flow c c₁ c₂ c₃ blocks scope f p}, doc.element? id = some e →
    enter doc setting id e (e.styleUnder policy style) c = .ok flow c₁ →
    Entered setting.options e (c.opened blocks) scope c₁ → Owed e scope f c c₁ → R p c₁ c₂ →
    Left setting.options f (c₂.popped c.frames) scope c₃ → Restored c (c₃.restored f) →
    R (event style id c ∨ p) c (c₃.restored f)

/-- Such a relation holds of every traversal, if it comes with all that an element has to give back. -/
theorem Conserves.tracks {event : Style → Nat → Converter → Prop}
    {R : Prop → Converter → Converter → Prop} (h : Conserves doc setting policy event R)
    (restored : ∀ {p c c'}, R p c c' → Restored c c') :
    Tracks doc policy (visitor doc setting) event R Buffer.Refused where
  refl := h.refl
  trans := h.trans
  text := by
    intro id t style c ht
    have hcall : (visitor doc setting).text id t style c = visitText setting t c := rfl
    rcases (visitText_addsRow (o := setting.options) setting t c).cases with
      ⟨flow, c', hv, hflow, hrow⟩ | ⟨fault, c', hv, hfault⟩
    · have hrestored : Restored c c' := by
        obtain ⟨_, -, hw⟩ := hrow
        exact hw.restores
      rw [hcall, hv]
      exact ⟨hflow, h.text ht hv hrow hrestored⟩
    · rw [hcall, hv]
      exact hfault
  element := by
    intro id e style c he
    have hcall : (visitor doc setting).enter id e (e.styleUnder policy style) c =
        enter doc setting id e (e.styleUnder policy style) c := rfl
    rcases (enter_yields doc setting id e (e.styleUnder policy style) c).cases with
      ⟨flow, c₁, hv, hflow, blocks, scope, hentered⟩ | ⟨fault, c', hv, hfault⟩
    · obtain ⟨f, howed⟩ := hentered.owed
      rw [hcall, hv]
      refine ⟨hflow, fun p c₂ hr => ?_⟩
      have hcall : (visitor doc setting).leave id e (e.styleUnder policy style) c₂ = leave e c₂ := rfl
      rcases (leave_yields (o := setting.options) howed (restored hr)).cases with
        ⟨_, _, hl, c₃, hleft, rfl⟩ | ⟨fault, c', hl, hfault⟩
      · rw [hcall, hl]
        exact h.element he hv hentered howed hr hleft (howed.restored (restored hr) hleft)
      · rw [hcall, hl]
        exact hfault
    · rw [hcall, hv]
      exact hfault

theorem restored_conserves {event : Style → Nat → Converter → Prop} :
    Conserves doc setting policy event fun _ c c' => Restored c c' where
  refl := .refl
  trans := .trans
  text := fun _ _ _ hr => hr
  element := fun _ _ _ _ _ _ hr => hr

/-- Visiting a node leaves all as it was, from whatever state the visit starts. -/
theorem visit_restores (doc : Document) (setting : Setting) (policy : ImportantPolicy)
    {id : Nat} {e : Element} (he : doc.element? id = some e) (style : Style) (c : Converter) :
    match traverse doc policy (visitor doc setting) style [id] c with
    | .ok go c' => go = true ∧ Restored c c'
    | .error fault _ => Buffer.Refused fault := by
  have hlt : id < doc.size := Document.lt_size_of_element? he
  have htracks : Tracks doc policy (visitor doc setting) (fun _ _ _ => False)
      (fun _ c c' => Restored c c') Buffer.Refused := restored_conserves.tracks fun hr => hr
  have hends := traverse_ends htracks [id] style c (by simpa using hlt)
  revert hends
  cases traverse doc policy (visitor doc setting) style [id] c with
  | ok go c' => exact fun h => h
  | error fault c' => exact fun h => h

/-! ## The whole document -/

/-- The conversion of a document is a traversal from its root. -/
theorem runFrom_eq {root : Nat} {e : Element} (he : doc.element? root = some e) :
    runFrom doc setting root =
      match traverse doc setting.options.importantPolicy (visitor doc setting) Style.empty [root]
        Converter.start with
      | .ok _ c => .ok c
      | .error fault _ => .error fault := by
  have hroot : StyleArena.new.style? StyleArena.root.slot = some Style.empty := rfl
  obtain ⟨b, hwalk⟩ := walk_eq_traverse setting.options.importantPolicy he StyleArena.wellFormed_new
    hroot (visitor doc setting) Converter.start
  rw [runFrom, hwalk]
  cases traverse doc setting.options.importantPolicy (visitor doc setting) Style.empty [root]
      Converter.start with
  | ok go c => rfl
  | error fault c => rfl

theorem element?_of_runFrom {root : Nat} (h : runFrom doc setting root = .ok c) :
    ∃ e, doc.element? root = some e := by
  cases he : doc.element? root with
  | some e => exact ⟨e, rfl⟩
  | none =>
    simp [runFrom, walk, walkWithin, he] at h

/-- A relation that holds of the traversals holds between the ends of a run. -/
theorem runFrom_ends {event : Style → Nat → Converter → Prop}
    {R : Prop → Converter → Converter → Prop} {allowed : Fault → Prop} {root : Nat}
    (htracks : Tracks doc setting.options.importantPolicy (visitor doc setting) event R allowed)
    (h : runFrom doc setting root = .ok c) :
    R (Happens doc setting.options.importantPolicy (visitor doc setting) event Style.empty [root]
      Converter.start) Converter.start c := by
  obtain ⟨e, he⟩ := element?_of_runFrom h
  have hends := traverse_ends htracks [root] Style.empty Converter.start
    (by simpa using Document.lt_size_of_element? he)
  rw [runFrom_eq he] at h
  revert h hends
  cases traverse doc setting.options.importantPolicy (visitor doc setting) Style.empty [root]
      Converter.start with
  | error fault c' => exact fun h => by cases h
  | ok go c' =>
    rintro h ⟨-, hr⟩
    cases h
    exact hr

/-- A run that succeeds is a traversal that comes to its end. -/
theorem traverse_of_runFrom {root : Nat} (h : runFrom doc setting root = .ok c) :
    traverse doc setting.options.importantPolicy (visitor doc setting) Style.empty [root]
      Converter.start = .ok true c := by
  obtain ⟨e, he⟩ := element?_of_runFrom h
  have hvisit := visit_restores doc setting setting.options.importantPolicy he Style.empty
    Converter.start
  rw [runFrom_eq he] at h
  revert h hvisit
  cases traverse doc setting.options.importantPolicy (visitor doc setting) Style.empty [root]
      Converter.start with
  | error fault c' => exact fun h => by cases h
  | ok go c' =>
    rintro h ⟨rfl, -⟩
    cases h
    rfl

theorem exists_ok {α : Type} {r : Except Fault α} (h : r.toOption.isSome) : ∃ a, r = .ok a := by
  cases r with
  | ok a => exact ⟨a, rfl⟩
  | error fault => cases h

theorem exists_ok_and {α : Type} {r : Except Fault α} {p : α → Prop} [DecidablePred p]
    (h : r.toOption.any fun a => p a) : ∃ a, r = .ok a ∧ p a := by
  obtain ⟨a, rfl⟩ := exists_ok (Option.isSome_of_any h)
  exact ⟨a, rfl, by simpa [Except.toOption] using h⟩

/-- The result is a fault only if there was no room. -/
def OnlyRefused {α : Type} (r : Except Fault α) : Prop :=
  ∀ fault, r = .error fault → Buffer.Refused fault

namespace OnlyRefused

variable {α β : Type} {r : Except Fault α}

theorem ok (a : α) : OnlyRefused (.ok a : Except Fault α) := fun _ h => by cases h

theorem bind {next : α → Except Fault β} (h : OnlyRefused r) (hnext : ∀ a, OnlyRefused (next a)) :
    OnlyRefused (r >>= next) := by
  cases r with
  | ok a => exact hnext a
  | error fault =>
    intro _ he
    cases he
    exact h fault rfl

theorem map {f : α → β} (h : OnlyRefused r) : OnlyRefused (r.map f) := by
  cases r with
  | ok a => exact .ok (f a)
  | error fault =>
    intro _ he
    cases he
    exact h fault rfl

theorem of_adds {b : Buffer} {cs : List Char} {r : Except Fault Buffer} (h : b.Adds cs r) :
    OnlyRefused r := by
  rintro fault rfl
  exact h

theorem append (b : Buffer) (s : String) : OnlyRefused (b.append s) := .of_adds (b.append_adds s)

theorem appendAll (b : Buffer) (pieces : List String) : OnlyRefused (b.appendAll pieces) :=
  .of_adds (b.appendAll_adds pieces)

end OnlyRefused

/-- What the conversion comes to, behind the walk of the document. -/
theorem toLatex_eq {options : Options} {resolve : Image.Resolver} {root : Nat}
    (hroot : doc.root? = some root) :
    doc.toLatex options resolve =
      (runFrom doc ⟨options, resolve⟩ root).bind fun c => (finish c).bind fun output =>
        if options.fullDocument then
          (wrapDocument options (options.title.or doc.title?) output.content).map fun content =>
            { output with content }
        else .ok output := by
  unfold Document.toLatex
  simp only [hroot]
  refine bind_congr fun c => bind_congr fun output => ?_
  split
  · cases wrapDocument options (options.title.or doc.title?) output.content with
    | ok content => rfl
    | error fault => rfl
  · rfl

/-- A run that comes to an end has a result.  Where the output is ASCII, the characters of the result are the bytes
of it. -/
theorem exists_output {options : Options} {resolve : Image.Resolver} {root : Nat}
    (P : List Warning → List Char → Prop) [∀ ws cs, Decidable (P ws cs)]
    (hroot : doc.root? = some root) (hpart : options.fullDocument = false)
    (h : (runFrom doc ⟨options, resolve⟩ root).toOption.any fun c =>
      c.openBraces = 0 ∧ Text.isAscii c.buffer.trimSpaces.text ∧
        P c.warnings (Text.trimList (Text.byteChars c.buffer.trimSpaces.text))) :
    ∃ output, doc.toLatex options resolve = .ok output ∧ P output.warnings output.content.toList := by
  obtain ⟨c, hrun, hbraces, hascii, hP⟩ := exists_ok_and h
  refine ⟨⟨Text.trim c.buffer.trimSpaces.text, c.warnings⟩, ?_, ?_⟩
  · rw [toLatex_eq hroot, hrun, Except.bind, finish, hbraces, hpart]
    rfl
  · rwa [Text.trim, String.toList_ofList, Text.toList_of_isAscii hascii]

end Convert

end MarkupTex
