import MarkupTex.Check
import MarkupTex.Proofs.Document.Levels
/-!
# What the check comes to

The check keeps a stack of nodes, and with each node a flag that was worked out on the way down to it.  Seen
from a node, all that matters is the path to it: if no element on the path is left out, the check comes to
the node, with the flag that `Document.along` makes of the tags on the path.  `check_covers` says so, and
that what the check reports from there on is the end of its report.
-/

set_option autoImplicit false

namespace MarkupTex

namespace Document

variable {doc : Document} {α : Type}

/-- Works something out on the way down a path, from the tags of its elements. -/
def along (doc : Document) (step : Tag → α → α) (a : α) (path : List Nat) : α :=
  path.foldl (fun a id => match doc.tag? id with
    | some tag => step tag a
    | none => a) a

theorem along_concat {step : Tag → α → α} {a : α} {path : List Nat} {id : Nat} {e : Element}
    (he : doc.element? id = some e) :
    doc.along step a (path ++ [id]) = step e.tag (doc.along step a path) := by
  rw [along, List.foldl_append, List.foldl_cons, List.foldl_nil, tag?_of_element? he]
  rfl

/-- The nodes of a path are elements, and none of them is left out. -/
def Shown (doc : Document) (path : List Nat) : Prop :=
  ∀ id ∈ path, ∃ e, doc.element? id = some e ∧ e.tag.isSuppressed = false

theorem shown_nil : doc.Shown [] := by simp [Shown]

theorem shown_concat {path : List Nat} {id : Nat} :
    doc.Shown (path ++ [id]) ↔
      doc.Shown path ∧ ∃ e, doc.element? id = some e ∧ e.tag.isSuppressed = false := by
  simp [Shown, or_imp, forall_and]

theorem shown_iff_all {path : List Nat} : doc.Shown path ↔
    ∀ id ∈ path, (doc.element? id).any (fun e => !e.tag.isSuppressed) = true := by
  simp [Shown, Option.any_eq_true]

instance (path : List Nat) : Decidable (doc.Shown path) := decidable_of_iff' _ shown_iff_all

/-- An element of which nothing is to be shown. -/
def Withheld (doc : Document) (id : Nat) : Prop :=
  ∃ e, doc.element? id = some e ∧ e.tag.isSuppressed = true

theorem Shown.not_withheld {path : List Nat} {id : Nat} (h : doc.Shown path) (hid : id ∈ path) :
    ¬ doc.Withheld id := by
  rintro ⟨e, he, hsuppressed⟩
  obtain ⟨e', he', hshown⟩ := h id hid
  rw [he] at he'
  cases he'
  rw [hshown] at hsuppressed
  cases hsuppressed

end Document

namespace Check

variable {doc : Document} {known : List String} {id : Nat} {e : Element} {s : String} {flag : Bool}
  {stack : List (Nat × Bool)}

theorem checkFrom_text (h : doc.text? id = some s) :
    checkFrom doc known ((id, flag) :: stack) = checkText id s flag ++ checkFrom doc known stack := by
  rw [checkFrom, h]

theorem checkFrom_element (h : doc.element? id = some e) :
    checkFrom doc known ((id, flag) :: stack) =
      checkElement doc known id e ++
        if e.tag.isSuppressed then checkFrom doc (learn known e) stack
        else
          checkFrom doc (learn known e)
            ((doc.children id).map (fun child => (child, betweenCells e.tag flag)) ++ stack) := by
  rw [checkFrom, Document.text?_of_element? h, h]

/-- As long as nothing is reported, no unknown element is known. -/
theorem learn_eq_nil (h : checkElement doc [] id e = []) : learn [] e = [] := by
  rw [learn]
  cases htag : e.tag with
  | other name => simp [checkElement, checkTag, htag] at h
  | _ => rfl

/-- First comes what is on top of the stack, then the rest. -/
theorem checkFrom_append (doc : Document) (known : List String) (xs ys : List (Nat × Bool)) :
    ∃ front known', checkFrom doc known (xs ++ ys) = front ++ checkFrom doc known' ys ∧
      (front = [] → known = [] → known' = []) := by
  induction known, xs using checkFrom.induct doc with
  | case1 known => exact ⟨[], known, rfl, fun _ h => h⟩
  | case2 known id flag stack s hs ih =>
    obtain ⟨front, known', heq, hsilent⟩ := ih
    refine ⟨checkText id s flag ++ front, known', ?_, fun hnil => hsilent ?_⟩
    · rw [List.cons_append, checkFrom_text hs, heq, List.append_assoc]
    · exact (List.append_eq_nil_iff.mp hnil).2
  | case3 known id flag stack hs he ih =>
    obtain ⟨front, known', heq, hsilent⟩ := ih
    refine ⟨front, known', ?_, hsilent⟩
    rw [List.cons_append, checkFrom, hs, he, heq]
  | case4 known id flag stack hs e he ihSuppressed ihShown =>
    -- Of the two ways on, the one that is taken is what comes behind the report on the element.
    obtain ⟨front, known', heq, hsilent⟩ : ∃ front known',
        (if e.tag.isSuppressed then checkFrom doc (learn known e) (stack ++ ys)
        else checkFrom doc (learn known e)
          ((doc.children id).map (fun child => (child, betweenCells e.tag flag)) ++ (stack ++ ys))) =
            front ++ checkFrom doc known' ys ∧
          (front = [] → learn known e = [] → known' = []) := by
      split
      · exact ihSuppressed
      · rwa [← List.append_assoc]
    refine ⟨checkElement doc known id e ++ front, known', ?_, fun hnil hknown => ?_⟩
    · rw [List.cons_append, checkFrom_element he, heq, List.append_assoc]
    · obtain ⟨hhere, hfront⟩ := List.append_eq_nil_iff.mp hnil
      subst hknown
      exact hsilent hfront (learn_eq_nil hhere)

/-- Whether the check takes what is below a path to stand between the cells of a table. -/
def between (doc : Document) (path : List Nat) : Bool := doc.along betweenCells false path

/-- The check comes to every node that has no element above it that is left out. -/
theorem check_covers {root : Nat} {path : List Nat} (hroot : doc.root? = some root)
    (h : doc.Leads root (path ++ [id]) id) (hshown : doc.Shown path) :
    ∃ front known rest, check doc = front ++ checkFrom doc known ((id, between doc path) :: rest) ∧
      (front = [] → known = []) := by
  generalize hway : path ++ [id] = way at h
  induction h generalizing path with
  | start =>
    obtain rfl : path = [] := by simpa using hway
    exact ⟨[], [], [], by rw [check, hroot]; rfl, fun _ => rfl⟩
  | @child way parent child hleads hmem ih =>
    obtain ⟨rfl, -⟩ := List.append_inj' hway rfl
    obtain ⟨above, rfl⟩ := hleads.ends
    obtain ⟨habove, e, he, hshown⟩ := Document.shown_concat.mp hshown
    obtain ⟨front, known, rest, heq, hsilent⟩ := ih habove rfl
    -- From the parent on come the report on it, its children before this one, and this one.
    obtain ⟨before, after, hchildren⟩ := List.append_of_mem hmem
    let flagged := fun x : Nat => (x, betweenCells e.tag (between doc above))
    have hparent : checkFrom doc known ((parent, between doc above) :: rest) =
        checkElement doc known parent e ++ checkFrom doc (learn known e)
          (before.map flagged ++ (flagged child :: (after.map flagged ++ rest))) := by
      rw [checkFrom_element he, if_neg (by simp [hshown]), hchildren]
      simp [flagged]
    obtain ⟨front', known', heq', hsilent'⟩ := checkFrom_append doc (learn known e)
      (before.map flagged) (flagged child :: (after.map flagged ++ rest))
    have hflag : flagged child = (child, between doc (above ++ [parent])) := by
      rw [between, Document.along_concat he]
      rfl
    refine ⟨front ++ (checkElement doc known parent e ++ front'), known', after.map flagged ++ rest,
      ?_, fun hnil => ?_⟩
    · rw [heq, hparent, heq', hflag]
      simp only [List.append_assoc]
    · obtain ⟨hfront, hrest⟩ := List.append_eq_nil_iff.mp hnil
      obtain ⟨hhere, hfront'⟩ := List.append_eq_nil_iff.mp hrest
      rw [hsilent hfront] at hhere hsilent'
      exact hsilent' hfront' (learn_eq_nil hhere)

/-- What the check says of a text is part of the report. -/
theorem checkText_mem {root : Nat} {path : List Nat} {d : Diagnostic} (hroot : doc.root? = some root)
    (hs : doc.text? id = some s) (h : doc.Leads root (path ++ [id]) id) (hshown : doc.Shown path)
    (hd : d ∈ checkText id s (between doc path)) : d ∈ check doc := by
  obtain ⟨front, known, rest, heq, -⟩ := check_covers hroot h hshown
  rw [heq, checkFrom_text hs]
  exact List.mem_append_right _ (List.mem_append_left _ hd)

/-- If the check has nothing to say, it has nothing to say about any element that it comes to. -/
theorem checkElement_nil {root : Nat} {path : List Nat} (hroot : doc.root? = some root)
    (he : doc.element? id = some e) (h : doc.Leads root (path ++ [id]) id) (hshown : doc.Shown path)
    (hsilent : check doc = []) : checkElement doc [] id e = [] := by
  obtain ⟨front, known, rest, heq, hknown⟩ := check_covers hroot h hshown
  rw [hsilent] at heq
  obtain ⟨hfront, hrest⟩ := List.append_eq_nil_iff.mp heq.symm
  rw [hknown hfront, checkFrom_element he] at hrest
  exact (List.append_eq_nil_iff.mp hrest).1

end Check

end MarkupTex
