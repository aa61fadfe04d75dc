import Mathlib.Data.List.Nodup
import Mathlib.Logic.ExistsUnique
import MarkupTex.Proofs.Document.Agreement
import MarkupTex.Proofs.Style.Cascade
import MarkupTex.Proofs.Text.Trim
/-!
# Documents that are built by appending

Nodes are asked for one after the other, each under a node that may not be there or may be a text, and what
is refused leaves the document as it is.  Whatever is asked for, the nodes that are there form one tree:
`Grown` is what a document has when it is built in this way, and one more node keeps it.  That there is just
one path to every node follows from it, since a child comes after its parent and has no other one.
-/

set_option autoImplicit false

namespace MarkupTex

/-- What is written in lower case has no capital letter of ASCII. -/
theorem Text.not_isUpper_of_mem_lower {s : String} {c : Char} (h : c ∈ (Text.lower s).toList) :
    ¬ c.isUpper := by
  rw [Text.toList_lower] at h
  obtain ⟨d, -, rfl⟩ := List.mem_map.mp h
  intro hupper
  have hsame : d.toLower.toLower = d.toLower := Text.toLower_toLower d
  have hmoved : d.toLower.toLower ≠ d.toLower := by
    intro heq
    have hval := congrArg Char.val heq
    have hrange : d.toLower.val ≥ 'A'.val ∧ d.toLower.val ≤ 'Z'.val :=
      of_decide_eq_true hupper
    have hstep : d.toLower.toLower.val = d.toLower.val + ('a'.val - 'A'.val) :=
      congrArg Char.val (dif_pos hrange)
    rw [hstep] at hval
    grind
  exact hmoved hsame

/-- A name means the same tag in any case. -/
theorem Tag.resolve_lower (name : String) (attributes : List Attribute) :
    Tag.resolve (Text.lower name) attributes = Tag.resolve name attributes := by
  rw [Tag.resolve, Tag.resolve, Text.lower_lower]

namespace Document

variable {doc : Document} {id : Nat} {path path' : List Nat}

/-! ## What is asked for -/

/-- A node to append, with the id of the node that it is to be appended to. -/
inductive Addition where
  | element (parent : Nat) (name : String) (attributes : List Attribute)
  | text (parent : Nat) (text : String)
  deriving DecidableEq, Repr

namespace Addition

def parent : Addition → Nat
  | element parent _ _ => parent
  | text parent _ => parent

def content : Addition → Content
  | element _ name attributes => .element (Element.ofName name attributes)
  | text _ s => .text s

/-- What the document answers. -/
def answer (doc : Document) : Addition → Except Fault (Nat × Document)
  | element parent name attributes => doc.appendElement parent name attributes
  | text parent s => doc.appendText parent s

/-- The document that there is after the answer. -/
def applied (doc : Document) (addition : Addition) : Document :=
  match addition.answer doc with
  | .ok (_, doc') => doc'
  | .error _ => doc

theorem answer_eq (doc : Document) (addition : Addition) :
    addition.answer doc = doc.append addition.parent addition.content := by
  cases addition <;> rfl

end Addition

/-- The document after one addition after the other. -/
def appended (doc : Document) (additions : List Addition) : Document :=
  additions.foldl Addition.applied doc

/-- A node is appended to an element; it is the last one then. -/
theorem append_of_element {parent : Nat} {e : Element} (he : doc.element? parent = some e)
    (content : Content) :
    doc.append parent content = .ok (doc.size, doc.push parent content) := by
  rw [element?] at he
  rw [append]
  split at he
  · next hn => rw [hn]
  · cases he

/-- Where there is no element, nothing is appended. -/
theorem append_of_no_element {parent : Nat} (he : doc.element? parent = none) (content : Content) :
    doc.append parent content =
      .error (if parent < doc.size then textParent else noParent parent) := by
  rw [element?] at he
  rw [append]
  cases hn : doc.node? parent with
  | none =>
    have hout : ¬ parent < doc.size := Nat.not_lt.mpr (Array.getElem?_eq_none_iff.mp hn)
    rw [if_neg hout]
  | some node =>
    have hin : parent < doc.size := (Array.getElem?_eq_some_iff.mp hn).1
    rw [if_pos hin]
    obtain ⟨own | own, above, below⟩ := node
    · rw [hn] at he
      cases he
    · rfl

theorem Addition.applied_of_element {addition : Addition} {e : Element}
    (he : doc.element? addition.parent = some e) :
    addition.applied doc = doc.push addition.parent addition.content := by
  rw [applied, answer_eq, append_of_element he]

theorem Addition.applied_of_no_element {addition : Addition}
    (he : doc.element? addition.parent = none) : addition.applied doc = doc := by
  rw [applied, answer_eq, append_of_no_element he]

/-! ## What appending keeps -/

/-- The document has been built by appending to elements. -/
structure Grown (doc : Document) : Prop where
  linked : doc.Linked
  root : doc.parent? 0 = none
  parent : ∀ id, 0 < id → id < doc.size → ∃ parent, doc.parent? id = some parent
  element : ∀ id child, child ∈ doc.children id → ∃ e, doc.element? id = some e
  increasing : ∀ id, (doc.children id).Pairwise (· < ·)
  name : ∀ id e, doc.element? id = some e → Text.lower e.name = e.name

theorem grown_empty : empty.Grown where
  linked := by intro id parent; simp [parent?, children, node?, empty]
  root := rfl
  parent := by simp [size, empty]
  element := by simp [children, node?, empty]
  increasing := by simp [children, node?, empty]
  name := by simp [element?, node?, empty]

theorem element?_withRoot (name : String) (id : Nat) :
    (withRoot name).element? id = if id = 0 then some (.ofName name []) else none := by
  cases id <;> rfl

theorem children_withRoot (name : String) (id : Nat) : (withRoot name).children id = [] := by
  cases id <;> rfl

theorem grown_withRoot (name : String) : (withRoot name).Grown where
  linked := linked_withRoot name
  root := rfl
  parent := by
    intro id hpos hlt
    rw [size_withRoot] at hlt
    omega
  element := by simp [children_withRoot]
  increasing := by simp [children_withRoot]
  name := by
    intro id e he
    rw [element?_withRoot] at he
    split at he
    · cases he
      exact Text.lower_lower name
    · cases he

/-- One more node below an element keeps what the document has. -/
theorem Grown.push {parent : Nat} {e : Element} {content : Content} (h : doc.Grown)
    (he : doc.element? parent = some e)
    (hcontent : ∀ own, content = .element own → Text.lower own.name = own.name) :
    (doc.push parent content).Grown := by
  have hp : parent < doc.size := lt_size_of_element? he
  constructor
  case linked => exact h.linked.push hp content
  case root =>
    rw [parent?_push, if_neg (Nat.ne_of_lt (Nat.zero_lt_of_lt hp)), h.root]
  case parent =>
    intro id hpos hlt
    rw [parent?_push]
    rw [size_push] at hlt
    split
    · exact ⟨parent, rfl⟩
    · exact h.parent id hpos (by omega)
  case element =>
    intro id child hchild
    rw [element?_push]
    rcases (mem_children_push hp content).mp hchild with hold | ⟨rfl, rfl⟩
    · rw [if_neg (by have := lt_of_mem_children hold; omega)]
      exact h.element id child hold
    · rw [if_neg (Nat.ne_of_lt hp)]
      exact ⟨e, he⟩
  case increasing =>
    intro id
    rw [children_push]
    split
    · refine List.pairwise_append.mpr ⟨h.increasing id, List.pairwise_singleton .., ?_⟩
      intro child hchild last hlast
      obtain rfl := List.mem_singleton.mp hlast
      exact (lt_of_mem_children hchild).2
    · exact h.increasing id
  case name =>
    intro id own hown
    rw [element?_push] at hown
    split at hown
    · cases content with
      | element made =>
        cases hown
        exact hcontent own rfl
      | text s => cases hown
    · exact h.name id own hown

theorem Grown.applied (h : doc.Grown) (addition : Addition) : (addition.applied doc).Grown := by
  cases he : doc.element? addition.parent with
  | none => rwa [Addition.applied_of_no_element he]
  | some e =>
    rw [Addition.applied_of_element he]
    refine h.push he fun own hown => ?_
    cases addition with
    | element parent name attributes =>
      cases hown
      exact Text.lower_lower name
    | text parent s => cases hown

theorem Grown.appended (h : doc.Grown) (additions : List Addition) : (doc.appended additions).Grown := by
  induction additions generalizing doc with
  | nil => exact h
  | cons addition rest ih => exact ih (h.applied addition)

/-! ## One tree -/

namespace Grown

/-- There is a path to every node. -/
theorem exists_leads (h : doc.Grown) : ∀ id < doc.size, ∃ path, doc.Leads 0 path id := by
  intro id
  induction id using Nat.strongRecOn with
  | ind id ih =>
    intro hid
    rcases Nat.eq_zero_or_pos id with rfl | hpos
    · exact ⟨[0], .start⟩
    · obtain ⟨parent, hparent⟩ := h.parent id hpos hid
      have hmem : id ∈ doc.children parent := (h.linked id parent).mp hparent
      have hlt := (lt_of_mem_children hmem).1
      obtain ⟨path, hpath⟩ := ih parent hlt (Nat.lt_trans hlt hid)
      exact ⟨path ++ [id], hpath.child hmem⟩

/-- And no second one: a node is a child of its parent only, and the root is no child at all. -/
theorem leads_unique (h : doc.Grown) (hpath : doc.Leads 0 path id) (hpath' : doc.Leads 0 path' id) :
    path = path' := by
  induction hpath generalizing path' with
  | start =>
    cases hpath' with
    | start => rfl
    | child _ mem => exact absurd (lt_of_mem_children mem).1 (Nat.not_lt_zero _)
  | @child above parent child _ mem ih =>
    cases hpath' with
    | start => exact absurd (lt_of_mem_children mem).1 (Nat.not_lt_zero _)
    | @child above' parent' _ hleads' mem' =>
      have hsame : parent' = parent := by
        have hparent := (h.linked child parent).mpr mem
        rw [(h.linked child parent').mpr mem'] at hparent
        exact Option.some.inj hparent
      subst hsame
      rw [ih hleads']

/-- Only an element has something below it. -/
theorem children_eq_nil (h : doc.Grown) (he : doc.element? id = none) : doc.children id = [] := by
  refine List.eq_nil_iff_forall_not_mem.mpr fun child hchild => ?_
  obtain ⟨e, helement⟩ := h.element id child hchild
  rw [he] at helement
  cases helement

end Grown

/-- The nodes form one tree, with its root at the first node. -/
structure IsTree (doc : Document) : Prop where
  /-- Just one path leads from the root to each node. -/
  path : ∀ id < doc.size, ∃! path, doc.Leads 0 path id
  root : doc.parent? 0 = none
  /-- Every other node is listed once, by its parent, which is an element that came before it. -/
  parent : ∀ id, 0 < id → id < doc.size → ∃ parent < id,
    doc.parent? id = some parent ∧ (∃ e, doc.element? parent = some e) ∧
      (doc.children parent).count id = 1 ∧ ∀ other, other ≠ parent → id ∉ doc.children other
  increasing : ∀ id, (doc.children id).Pairwise (· < ·)
  leaf : ∀ id s, doc.text? id = some s → doc.children id = []
  name : ∀ id e, doc.element? id = some e →
    (∀ c ∈ e.name.toList, ¬ c.isUpper) ∧ e.tag = Tag.resolve e.name e.attributes

theorem Grown.isTree (h : doc.Grown) : doc.IsTree where
  path := by
    intro id hid
    obtain ⟨path, hpath⟩ := h.exists_leads id hid
    exact ⟨path, hpath, fun path' hpath' => h.leads_unique hpath' hpath⟩
  root := h.root
  parent := by
    intro id hpos hid
    obtain ⟨parent, hparent⟩ := h.parent id hpos hid
    have hmem : id ∈ doc.children parent := (h.linked id parent).mp hparent
    have hnodup : (doc.children parent).Nodup := (h.increasing parent).imp Nat.ne_of_lt
    refine ⟨parent, (lt_of_mem_children hmem).1, hparent, h.element parent id hmem,
      List.count_eq_one_of_mem hnodup hmem, fun other hne hother => hne ?_⟩
    rw [(h.linked id other).mpr hother] at hparent
    exact Option.some.inj hparent
  increasing := h.increasing
  leaf := fun id s hs => h.children_eq_nil (element?_of_text? hs)
  name := by
    intro id e he
    refine ⟨fun c hc => ?_, rfl⟩
    rw [← h.name id e he] at hc
    exact Text.not_isUpper_of_mem_lower hc

/-! ## Where an element comes from -/

/-- An element that one addition has put there is the one that it asks for. -/
theorem Addition.element?_applied {addition : Addition} {e : Element}
    (he : (addition.applied doc).element? id = some e) :
    doc.element? id = some e ∨ addition.content = .element e := by
  cases hparent : doc.element? addition.parent with
  | none =>
    rw [Addition.applied_of_no_element hparent] at he
    exact .inl he
  | some above =>
    rw [Addition.applied_of_element hparent, element?_push] at he
    split at he
    · split at he
      · next own hown =>
        cases he
        exact .inr hown
      · cases he
    · exact .inl he

/-- Every element was there before, or one of the additions asked for it. -/
theorem element?_appended {additions : List Addition} {e : Element}
    (he : (doc.appended additions).element? id = some e) :
    doc.element? id = some e ∨ ∃ addition ∈ additions, addition.content = .element e := by
  induction additions generalizing doc with
  | nil => exact .inl he
  | cons addition rest ih =>
    rcases ih he with hthen | ⟨later, hlater, hcontent⟩
    · rcases addition.element?_applied hthen with hthen | hcontent
      · exact .inl hthen
      · exact .inr ⟨addition, List.mem_cons_self, hcontent⟩
    · exact .inr ⟨later, List.mem_cons_of_mem addition hlater, hcontent⟩

/-- An element has the tag of its name as it was written. -/
theorem Addition.tag_of_content {addition : Addition} {e : Element}
    (h : addition.content = .element e) :
    ∃ written, addition = .element addition.parent written e.attributes ∧
      e.name = Text.lower written ∧ e.tag = Tag.resolve written e.attributes := by
  cases addition with
  | element parent written attributes =>
    cases h
    exact ⟨written, rfl, rfl, Tag.resolve_lower written attributes⟩
  | text parent s => cases h

/-! ## What is refused -/

/-- A document without nodes has no element to append to. -/
theorem appended_empty (additions : List Addition) : empty.appended additions = empty := by
  induction additions with
  | nil => rfl
  | cons addition rest ih =>
    have hnone : empty.element? addition.parent = none := rfl
    rw [appended, List.foldl_cons, Addition.applied_of_no_element hnone]
    exact ih

/-- An addition is refused just where there is no element for it. -/
theorem Addition.refused_iff (doc : Document) (addition : Addition) :
    (∃ f, addition.answer doc = .error f) ↔ doc.element? addition.parent = none := by
  rw [Addition.answer_eq]
  constructor
  · rintro ⟨f, hf⟩
    cases he : doc.element? addition.parent with
    | none => rfl
    | some e =>
      rw [append_of_element he] at hf
      cases hf
  · intro he
    exact ⟨_, append_of_no_element he addition.content⟩

/-- Whatever is appended to a root, the nodes form one tree, and an element has the name, the attributes and
the tag that were asked for; what is appended to nothing is refused.  An addition is refused just where there
is no element for it, and it is then as if it had not been asked for. -/
theorem appended_isTree (additions : List Addition) :
    (∀ name, ((withRoot name).appended additions).IsTree ∧
      ∀ id e, ((withRoot name).appended additions).element? id = some e →
        id = 0 ∧ e = .ofName name [] ∧ e.tag = Tag.resolve name [] ∨
          ∃ parent written, Addition.element parent written e.attributes ∈ additions ∧
            e.name = Text.lower written ∧ e.tag = Tag.resolve written e.attributes) ∧
      empty.appended additions = empty ∧ empty.IsTree ∧
      ∀ (doc : Document) (addition : Addition),
        ((∃ f, addition.answer doc = .error f) ↔ doc.element? addition.parent = none) ∧
          ∀ f, addition.answer doc = .error f →
            addition.applied doc = doc ∧
              doc.appended (addition :: additions) = doc.appended additions := by
  refine ⟨fun name => ⟨((grown_withRoot name).appended additions).isTree, fun id e he => ?_⟩,
    appended_empty additions, grown_empty.isTree,
    fun doc addition => ⟨addition.refused_iff doc, fun f hf => ?_⟩⟩
  · rcases element?_appended he with hroot | ⟨addition, hmem, hcontent⟩
    · rw [element?_withRoot] at hroot
      split at hroot
      · next hid =>
        cases hroot
        exact .inl ⟨hid, rfl, Tag.resolve_lower name []⟩
      · cases hroot
    · obtain ⟨written, hsame, hname, htag⟩ := addition.tag_of_content hcontent
      rw [hsame] at hmem
      exact .inr ⟨addition.parent, written, hmem, hname, htag⟩
  · have hsame : addition.applied doc = doc :=
      Addition.applied_of_no_element ((addition.refused_iff doc).mp ⟨f, hf⟩)
    refine ⟨hsame, ?_⟩
    rw [appended, List.foldl_cons, hsame, appended]

end Document

end MarkupTex
