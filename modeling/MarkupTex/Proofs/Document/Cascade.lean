import MarkupTex.Proofs.Document.Stack
import MarkupTex.Proofs.Style.Cascade
/-!
# The cascade along a path

What a visitor is shown at a node depends on the declarations of the nodes on the way to it.  A property
that does not inherit is there if the node declares it itself.  One that inherits is as the deepest node
says that declares it; under the policy of importance, as the deepest node that declares it important, if
there is one.

The styles that a walk computes go from node to node: what is handed down, the merge, what is handed down
again.  `winner_concat` shows that the law for a whole path goes the same way, and `Visits.cascaded`
is the induction.
-/

set_option autoImplicit false

namespace MarkupTex

namespace Style

variable {path : List Style} {own : Style} {name : String} {d : Declaration}

/-- The declaration of the deepest style that has one; the styles of a path go from the top down. -/
def deepest (path : List Style) (name : String) : Option Declaration :=
  path.reverse.findSome? fun style => style.find? name

/-- The deepest declaration that is important. -/
def deepestImportant (path : List Style) (name : String) : Option Declaration :=
  path.reverse.findSome? fun style => (style.find? name).filter (·.important)

/-- The declaration of an inheritable property that holds at the end of a path. -/
def winner (policy : ImportantPolicy) (path : List Style) (name : String) : Option Declaration :=
  match policy with
  | .localWins => deepest path name
  | .inheritedImportantWins => (deepestImportant path name).or (deepest path name)

theorem deepest_concat (path : List Style) (own : Style) (name : String) :
    deepest (path ++ [own]) name = (own.find? name).or (deepest path name) := by
  rw [deepest, List.reverse_append, List.findSome?_append]
  congr 1
  simp

theorem deepestImportant_concat (path : List Style) (own : Style) (name : String) :
    deepestImportant (path ++ [own]) name =
      ((own.find? name).filter (·.important)).or (deepestImportant path name) := by
  rw [deepestImportant, List.reverse_append, List.findSome?_append]
  congr 1
  simp

theorem important_of_deepestImportant (h : deepestImportant path name = some d) : d.important := by
  obtain ⟨style, -, hd⟩ := List.exists_of_findSome?_eq_some h
  exact (Option.filter_eq_some_iff.mp hd).2

/-- Where the deepest declaration is important, there is an important one. -/
theorem deepestImportant_of_deepest (h : deepest path name = some d) (hi : d.important) :
    (deepestImportant path name).isSome := by
  rw [deepest] at h
  rw [deepestImportant]
  generalize path.reverse = styles at h ⊢
  induction styles with
  | nil => cases h
  | cons style styles ih =>
    rw [List.findSome?_cons] at h ⊢
    cases hs : style.find? name with
    | none =>
      rw [hs] at h
      exact ih h
    | some e =>
      rw [hs] at h
      cases h
      simp [Option.filter, hi]

/-- One more node on the path: what won so far has to hold against the declaration of the node. -/
theorem winner_concat (policy : ImportantPolicy) (path : List Style) (own : Style) (name : String) :
    winner policy (path ++ [own]) name =
      ((winner policy path name).filter (holdsAgainst policy (own.find? name))).or
        (own.find? name) := by
  cases ho : own.find? name with
  | none =>
    -- The node does not declare it, so that nothing changes.
    have hall : (winner policy path name).filter (holdsAgainst policy none) = winner policy path name := by
      cases winner policy path name <;> rfl
    rw [hall, Option.or_none]
    cases policy with
    | localWins => rw [winner, deepest_concat, ho, Option.none_or, winner]
    | inheritedImportantWins =>
      rw [winner, deepest_concat, deepestImportant_concat, ho, winner]
      rfl
  | some e =>
    cases policy with
    | localWins =>
      have hnone : (deepest path name).filter (holdsAgainst .localWins (some e)) = none := by
        cases deepest path name <;> rfl
      rw [winner, winner, hnone, deepest_concat, ho]
      rfl
    | inheritedImportantWins =>
      rw [winner, winner, deepest_concat, deepestImportant_concat, ho]
      by_cases he : e.important
      · -- An important declaration of the node holds against everything.
        have hnone : ((deepestImportant path name).or (deepest path name)).filter
            (holdsAgainst .inheritedImportantWins (some e)) = none := by
          cases (deepestImportant path name).or (deepest path name) <;>
            simp [holdsAgainst, Option.filter, he]
        rw [hnone]
        simp [Option.filter, he]
      · cases hd : deepestImportant path name with
        | some d =>
          have hi := important_of_deepestImportant hd
          simp [holdsAgainst, Option.filter, he, hi]
        | none =>
          -- What is deepest is not important either, and gives way.
          have hnone : (deepest path name).filter
              (holdsAgainst .inheritedImportantWins (some e)) = none := by
            cases hf : deepest path name with
            | none => rfl
            | some d =>
              have hi : ¬ d.important := by
                intro hi
                have := deepestImportant_of_deepest hf hi
                simp [hd] at this
              simp [holdsAgainst, Option.filter, hi]
          rw [Option.none_or, hnone]
          simp [Option.filter, he]

end Style

/-- What an element declares itself. -/
def Element.declared (e : Element) : Style :=
  match e.attribute? "style" with
  | none => Style.empty
  | some block => Style.ofBlock block

theorem Element.proper_declared (e : Element) : e.declared.Proper := by
  rw [declared]
  split
  · exact Style.proper_empty
  · exact Style.proper_ofBlock _

theorem Element.styleUnder_eq (policy : ImportantPolicy) (e : Element) (inherited : Style) :
    e.styleUnder policy inherited = (Style.merge inherited e.declared policy).style := by
  rw [styleUnder, declared]
  cases e.attribute? "style" <;> rfl

namespace Document

/-- What a node declares itself.  A text declares nothing. -/
def declared (doc : Document) (id : Nat) : Style :=
  match doc.element? id with
  | some e => e.declared
  | none => Style.empty

theorem declared_element {doc : Document} {id : Nat} {e : Element} (h : doc.element? id = some e) :
    doc.declared id = e.declared := by
  rw [declared, h]

theorem declared_text {doc : Document} {id : Nat} {t : String} (h : doc.text? id = some t) :
    doc.declared id = Style.empty := by
  rw [declared, element?_of_text? h]

/-- The nodes of `path` lead from `start` down to `id`, each one a child of the one before. -/
inductive Leads (doc : Document) (start : Nat) : List Nat → Nat → Prop where
  | start : Leads doc start [start] start
  | child {path : List Nat} {id child : Nat} (above : Leads doc start path id)
      (mem : child ∈ doc.children id) : Leads doc start (path ++ [child]) child

end Document

/-- A style is what the cascade makes of the declarations on a path, from its start down to a node that
declares `own`. -/
structure Cascaded (policy : ImportantPolicy) (path : List Style) (own style : Style) : Prop where
  notInherited : ∀ name, Style.isInheritable name = false → style.find? name = own.find? name
  inherited : ∀ name, Style.isInheritable name = true →
    style.find? name = match policy with
      | .localWins => Style.deepest path name
      | .inheritedImportantWins =>
        (Style.deepestImportant path name).or (Style.deepest path name)
  once : (style.declarations.map (·.name)).Nodup
  kinds : style.kinds = Style.kindsOf style.declarations

namespace Walk

variable {σ : Type} {doc : Document} {policy : ImportantPolicy} {start id : Nat} {path ids : List Nat}
  {style : Style}

/-- A style that is handed down to the children of the last node of a path. -/
structure HandedDown (doc : Document) (policy : ImportantPolicy) (path : List Nat) (style : Style) :
    Prop where
  proper : style.Proper
  inherits : style.Inherits
  wins : ∀ name, Style.isInheritable name = true →
    style.find? name = Style.winner policy (path.map doc.declared) name

theorem HandedDown.notInherited (h : HandedDown doc policy path style) {name : String}
    (hi : Style.isInheritable name = false) : style.find? name = none := by
  cases hf : style.find? name with
  | none => rfl
  | some d =>
    have := h.inherits name d hf
    simp [hi] at this

theorem handedDown_empty : HandedDown doc policy [] Style.empty where
  proper := Style.proper_empty
  inherits := fun _ _ h => by cases h
  wins := by
    intro name _
    cases policy <;> rfl

/-- The style that a text is shown with is the one that was handed down to it. -/
theorem HandedDown.text {t : String} (h : HandedDown doc policy path style)
    (ht : doc.text? id = some t) :
    Cascaded policy ((path ++ [id]).map doc.declared) (doc.declared id) style where
  notInherited := by
    intro name hi
    rw [h.notInherited hi, Document.declared_text ht]
    rfl
  inherited := by
    intro name hi
    have hwin := Style.winner_concat policy (path.map doc.declared) Style.empty name
    have hall : (Style.winner policy (path.map doc.declared) name).filter
        (Style.holdsAgainst policy none) = Style.winner policy (path.map doc.declared) name := by
      cases Style.winner policy (path.map doc.declared) name <;> rfl
    have hempty : Style.empty.find? name = none := rfl
    rw [hempty, hall, Option.or_none] at hwin
    rw [List.map_append, List.map_singleton, Document.declared_text ht, h.wins name hi, ← hwin]
    rfl
  once := h.proper.once
  kinds := h.proper.kinds

/-- At an element what was handed down meets what the element declares. -/
theorem HandedDown.find?_styleUnder {e : Element} (h : HandedDown doc policy path style)
    (he : doc.element? id = some e) {name : String} (hi : Style.isInheritable name = true) :
    (e.styleUnder policy style).find? name =
      Style.winner policy ((path ++ [id]).map doc.declared) name := by
  rw [Element.styleUnder_eq, Style.find?_merge h.proper e.proper_declared _ _ (h.inherits name),
    h.wins name hi, List.map_append, List.map_singleton, Document.declared_element he, Style.winner_concat]

theorem HandedDown.proper_styleUnder (h : HandedDown doc policy path style) (e : Element) :
    (e.styleUnder policy style).Proper := by
  rw [Element.styleUnder_eq]
  exact Style.proper_merge h.proper e.proper_declared policy

theorem HandedDown.element {e : Element} (h : HandedDown doc policy path style)
    (he : doc.element? id = some e) :
    Cascaded policy ((path ++ [id]).map doc.declared) (doc.declared id) (e.styleUnder policy style) where
  notInherited := by
    intro name hi
    rw [Element.styleUnder_eq, Style.find?_merge h.proper e.proper_declared _ _ (h.inherits name),
      h.notInherited hi, Document.declared_element he]
    rfl
  inherited := fun name hi => h.find?_styleUnder he hi
  once := (h.proper_styleUnder e).once
  kinds := (h.proper_styleUnder e).kinds

/-- And a part of what comes of this is handed down again. -/
theorem HandedDown.below {e : Element} (h : HandedDown doc policy path style)
    (he : doc.element? id = some e) :
    HandedDown doc policy (path ++ [id]) (e.styleUnder policy style).inheritedPart.style where
  proper := Style.proper_inheritedPart (h.proper_styleUnder e)
  inherits := Style.inherits_inheritedPart (h.proper_styleUnder e)
  wins := by
    intro name hi
    rw [Style.find?_inheritedPart (h.proper_styleUnder e), if_pos hi, h.find?_styleUnder he hi]

/-- Whatever a traversal shows is what the cascade makes of the path to the node. -/
theorem Visits.cascaded {call : Call} (h : Visits doc policy style ids call)
    (hpath : ∀ id ∈ ids, doc.Leads start (path ++ [id]) id) (hd : HandedDown doc policy path style) :
    ∃ way, doc.Leads start way call.id ∧
      Cascaded policy (way.map doc.declared) (doc.declared call.id) call.style := by
  induction h generalizing path with
  | text mem isText => exact ⟨_, hpath _ mem, hd.text isText⟩
  | enter mem isElement => exact ⟨_, hpath _ mem, hd.element isElement⟩
  | leave mem isElement => exact ⟨_, hpath _ mem, hd.element isElement⟩
  | inside mem isElement _ ih =>
    apply ih
    · intro child hchild
      exact .child (hpath _ mem) hchild
    · exact hd.below isElement

/-- What a walk on top of the empty style shows at a node is what the cascade makes of the declarations on
the path from the start of the walk down to it. -/
theorem walk_cascades (doc : Document) (start : Nat) {base : StyleHandle} (policy : ImportantPolicy)
    (v : Visitor σ) {a : StyleArena} (wf : a.WellFormed)
    (hs : a.style? base.slot = some Style.empty) (s : σ) :
    ∀ call ∈ callsOf (walk doc start base policy v.recorded ⟨a, ⟨[], s⟩⟩),
      ∃ path, doc.Leads start path call.id ∧
        Cascaded policy (path.map doc.declared) (doc.declared call.id) call.style := by
  intro call hcall
  cases he : doc.element? start with
  | none =>
    rw [walk_of_no_element he] at hcall
    cases hcall
  | some e =>
    obtain ⟨b, hwalk⟩ := walk_eq_traverse policy he wf hs v.recorded ⟨[], s⟩
    rw [hwalk, callsOf_endsWith] at hcall
    have hadds := traverse_adds [start] Style.empty ⟨[], s⟩ (fun _ h => h) call hcall
    rcases hadds with hnone | hvisits
    · cases hnone
    · have hstart : ∀ id ∈ [start], doc.Leads start ([] ++ [id]) id := by
        intro id hid
        rw [List.mem_singleton.mp hid]
        exact .start
      exact hvisits.cascaded hstart handedDown_empty

theorem walk_cascades_titledText :
    StyleArena.new.WellFormed ∧ StyleArena.new.style? StyleArena.root.slot = some Style.empty ∧
      ∃ call ∈ callsOf (walk titledText 0 StyleArena.root .inheritedImportantWins
          (Search.visitor fun _ _ => false).recorded ⟨StyleArena.new, ⟨[], {}⟩⟩),
        call.id = 3 ∧ ∃ path, titledText.Leads 0 path call.id ∧
          Cascaded .inheritedImportantWins (path.map titledText.declared) (titledText.declared call.id)
            call.style := by
  have wf := StyleArena.wellFormed_new
  have hs : StyleArena.new.style? StyleArena.root.slot = some Style.empty := rfl
  have hshown : (callsOf (walk titledText 0 StyleArena.root .inheritedImportantWins
      (Search.visitor fun _ _ => false).recorded ⟨StyleArena.new, ⟨[], {}⟩⟩)).any
        fun call => call.id = 3 := by decide +kernel
  obtain ⟨call, hcall, hid⟩ := List.any_eq_true.mp hshown
  exact ⟨wf, hs, call, hcall, by simpa using hid,
    walk_cascades titledText 0 .inheritedImportantWins (Search.visitor fun _ _ => false) wf hs {} call
      hcall⟩

end Walk

end MarkupTex
