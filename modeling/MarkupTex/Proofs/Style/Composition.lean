import Mathlib.Data.List.Nodup
import MarkupTex.Proofs.Style.Cascade
/-!
# Merging in turn

Three styles can be merged from the left or from the right, and it comes to the same.  There are two sides to
this.  Under one name the declaration that holds is found by `prevailing`, and whether another one holds
against it is a question to both that it was found from.  As to the order, a merge that has something to add is
a filter of the inherited declarations followed by a filter of the node's own (`declarations_merge`), so that
all that is left is to compare what the filters let through.

What is handed down is a filter as well, and goes with merging.
-/

set_option autoImplicit false

namespace MarkupTex.Style

variable {a b c style base overlay : Style} {d : Declaration} {ds : List Declaration}
  {policy : ImportantPolicy}

/-! ## Under one name -/

/-- Of an inherited declaration and the node's own, the one that holds. -/
def prevailing (policy : ImportantPolicy) (inherited own : Option Declaration) : Option Declaration :=
  (inherited.filter (holdsAgainst policy own)).or own

/-- What holds against the one that prevails holds against both. -/
theorem holdsAgainst_prevailing (policy : ImportantPolicy) (x y : Option Declaration) (d : Declaration) :
    holdsAgainst policy (prevailing policy x y) d =
      (holdsAgainst policy x d && holdsAgainst policy y d) := by
  cases x with
  | none => rfl
  | some e =>
    cases y with
    | none => simp [prevailing, holdsAgainst, Option.filter]
    | some f =>
      cases policy with
      | localWins => simp [prevailing, holdsAgainst, Option.filter]
      | inheritedImportantWins =>
        -- If the inherited one gives way, it is for being not important or for the other being so.
        cases he : e.important <;> cases hf : f.important <;>
          simp [prevailing, holdsAgainst, Option.filter, he, hf]

/-- The one that prevails holds against a third one if the node's own does, or else if the inherited one
holds against both. -/
theorem any_prevailing (policy : ImportantPolicy) (x y z : Option Declaration) :
    (prevailing policy x y).any (holdsAgainst policy z) =
      (y.any (holdsAgainst policy z) || x.any (holdsAgainst policy (prevailing policy y z))) := by
  cases x with
  | none => simp [prevailing]
  | some e =>
    rw [Option.any_some, holdsAgainst_prevailing]
    cases y with
    | none => simp [prevailing, holdsAgainst]
    | some f =>
      cases z with
      | none => simp [prevailing, holdsAgainst, Option.filter]
      | some g =>
        cases policy with
        | localWins => simp [prevailing, holdsAgainst, Option.filter]
        | inheritedImportantWins =>
          cases he : e.important <;> cases hf : f.important <;>
            simp [prevailing, holdsAgainst, Option.filter, he, hf]

/-! ## What is declared, in order -/

/-- Proper styles that declare the same are the same. -/
theorem Proper.eq_of_declarations (ha : a.Proper) (hb : b.Proper)
    (h : a.declarations = b.declarations) : a = b := by
  have hkinds : a.kinds = b.kinds := by rw [ha.kinds, hb.kinds, h]
  obtain ⟨ds, kinds⟩ := a
  cases b
  subst h hkinds
  rfl

theorem Proper.eq_empty (hs : style.Proper) (h : style.isEmpty) : style = empty :=
  hs.eq_of_declarations proper_empty (List.isEmpty_iff.mp h)

/-- Where no property is declared twice, each declaration is found under its name. -/
theorem find?_of_once (h : (style.declarations.map (·.name)).Nodup) (hd : d ∈ style.declarations) :
    style.find? d.name = some d := by
  cases hf : style.find? d.name with
  | none =>
    have hnone := List.find?_eq_none.mp hf d hd
    simp at hnone
  | some e =>
    rw [List.inj_on_of_nodup_map h (mem_of_find? hf) hd (name_of_find? hf)]

theorem Proper.find?_of_mem (hs : style.Proper) (hd : d ∈ style.declarations) :
    style.find? d.name = some d := find?_of_once hs.once hd

theorem declarations_put_of_new (h : style.find? d.name = none) :
    (style.put d).declarations = style.declarations ++ [d] := by
  rw [put, h]
  rfl

theorem declarations_foldl_put (h : (ds.map (·.name)).Nodup)
    (hnew : ∀ d ∈ ds, style.find? d.name = none) :
    (ds.foldl put style).declarations = style.declarations ++ ds := by
  induction ds generalizing style with
  | nil => simp
  | cons d ds ih =>
    obtain ⟨hnot, hrest⟩ : d.name ∉ ds.map (·.name) ∧ (ds.map (·.name)).Nodup := List.nodup_cons.mp h
    rw [List.foldl_cons, ih hrest, declarations_put_of_new (hnew d List.mem_cons_self),
      List.append_assoc]
    · rfl
    · intro e he
      have hne : d.name ≠ e.name := fun heq => hnot (heq ▸ List.mem_map_of_mem he)
      rw [find?_put, if_neg hne, hnew e (List.mem_cons_of_mem d he)]

theorem Proper.declarations_filter (hs : style.Proper) (p : Declaration → Bool) :
    ((style.declarations.filter p).foldl Style.put empty).declarations = style.declarations.filter p := by
  have hnodup : ((style.declarations.filter p).map (·.name)).Nodup :=
    hs.once.sublist (List.filter_sublist.map _)
  rw [declarations_foldl_put hnodup fun _ _ => rfl]
  rfl

/-- What is filled in are the declarations that are missing. -/
theorem declarations_fill (hds : ∀ d ∈ ds, Text.lower d.name = d.name) (h : (ds.map (·.name)).Nodup) :
    (fill style ds).declarations =
      style.declarations ++ ds.filter fun d => (style.find? d.name).isNone := by
  induction ds generalizing style with
  | nil => simp [fill]
  | cons d ds ih =>
    obtain ⟨hnot, hrest⟩ : d.name ∉ ds.map (·.name) ∧ (ds.map (·.name)).Nodup := List.nodup_cons.mp h
    have hlower : ∀ e ∈ ds, Text.lower e.name = e.name := fun e he => hds e (List.mem_cons_of_mem _ he)
    rw [fill, List.foldl_cons, ← fill, declaration?_of_lower style (hds d List.mem_cons_self), ih hlower hrest]
    cases hf : style.find? d.name with
    | some old => simp [hf]
    | none =>
      -- The names behind are other ones, so that they are missing still if they were.
      have hsame : (ds.filter fun e => ((style.put d).find? e.name).isNone) =
          ds.filter fun e => (style.find? e.name).isNone := by
        refine List.filter_congr fun e he => ?_
        have hne : d.name ≠ e.name := fun heq => hnot (heq ▸ List.mem_map_of_mem he)
        rw [find?_put, if_neg hne]
      simp [hf, hsame, declarations_put_of_new hf]

theorem isNone_filter {α : Type} (o : Option α) (p : α → Bool) : (o.filter p).isNone = !o.any p := by
  cases o with
  | none => rfl
  | some x => cases h : p x <;> simp [Option.filter, h]

/-- A merge that has something to add: the inherited declarations that survive, then those of the node that
none of them stands for. -/
theorem declarations_merge (hb : base.Proper) (ho : overlay.Proper) (hsome : ¬ overlay.isEmpty)
    (policy : ImportantPolicy) :
    (merge base overlay policy).style.declarations =
      base.declarations.filter (survives overlay policy) ++
        overlay.declarations.filter fun d => !(base.find? d.name).any (survives overlay policy) := by
  rw [merge, if_neg hsome]
  show (mergeDeclarations base overlay policy).declarations = _
  rw [mergeDeclarations_eq, declarations_fill ho.lower ho.once, hb.declarations_filter]
  simp only [find?_foldl_filter hb, isNone_filter]

/-- What is handed down, in order. -/
theorem declarations_inheritedPart (hs : style.Proper) :
    style.inheritedPart.style.declarations = style.declarations.filter fun d => isInheritable d.name := by
  rw [inheritedPart]
  split
  · next h =>
    rw [List.all_eq_true] at h
    exact (List.filter_eq_self.mpr h).symm
  · exact hs.declarations_filter _

/-- An inherited declaration survives if its property inherits and it holds against the node's own. -/
theorem survives_of_lower (hd : Text.lower d.name = d.name) (overlay : Style) (policy : ImportantPolicy) :
    survives overlay policy d =
      (isInheritable d.name && holdsAgainst policy (overlay.find? d.name) d) := by
  cases hi : isInheritable d.name with
  | false => rw [survives, hi, Bool.false_and, Bool.false_and]
  | true => rw [survives_eq hd hi, Bool.true_and]

theorem any_survives (hs : style.Proper) (overlay : Style) (policy : ImportantPolicy) (name : String) :
    (style.find? name).any (survives overlay policy) =
      (isInheritable name && (style.find? name).any (holdsAgainst policy (overlay.find? name))) := by
  cases hf : style.find? name with
  | none => simp
  | some d =>
    have hname := name_of_find? hf
    subst hname
    rw [Option.any_some, Option.any_some, survives_of_lower (hs.lower d (mem_of_find? hf))]

theorem not_isEmpty_merge (hb : base.Proper) (ho : overlay.Proper) (hsome : ¬ overlay.isEmpty)
    (policy : ImportantPolicy) : ¬ (merge base overlay policy).style.isEmpty := by
  intro h
  rw [isEmpty, List.isEmpty_iff, declarations_merge hb ho hsome, List.append_eq_nil_iff] at h
  obtain ⟨hbase, hown⟩ := h
  -- With nothing that survives, all the declarations of the node are there.
  have hall : overlay.declarations = [] := by
    refine List.eq_nil_iff_forall_not_mem.mpr fun d hd => ?_
    have hout := List.filter_eq_nil_iff.mp hown d hd
    rw [Bool.not_eq_true', Bool.not_eq_false, Option.any_eq_true] at hout
    obtain ⟨e, he, hsurvives⟩ := hout
    exact List.filter_eq_nil_iff.mp hbase e (mem_of_find? he) hsurvives
  exact hsome (List.isEmpty_iff.mpr hall)

/-! ## Laws -/

theorem merge_empty_left (hb : b.Proper) (policy : ImportantPolicy) :
    (merge empty b policy).style = b := by
  by_cases hsome : b.isEmpty
  · rw [hb.eq_empty hsome]
    rfl
  · refine (proper_merge proper_empty hb policy).eq_of_declarations hb ?_
    rw [declarations_merge proper_empty hb hsome]
    simp [empty, find?]

/-- It does not matter in which order styles are merged. -/
theorem merge_assoc (ha : a.Proper) (hb : b.Proper) (hc : c.Proper) (policy : ImportantPolicy) :
    (merge (merge a b policy).style c policy).style =
      (merge a (merge b c policy).style policy).style := by
  by_cases hcsome : c.isEmpty
  · rw [hc.eq_empty hcsome]
    rfl
  by_cases hbsome : b.isEmpty
  · rw [hb.eq_empty hbsome, merge_empty_left hc]
    rfl
  have hab := proper_merge ha hb policy
  have hbc := proper_merge hb hc policy
  refine (proper_merge hab hc policy).eq_of_declarations (proper_merge ha hbc policy) ?_
  rw [declarations_merge hab hc hcsome, declarations_merge ha hb hbsome,
    declarations_merge ha hbc (not_isEmpty_merge hb hc hcsome policy),
    declarations_merge hb hc hcsome, List.filter_append, List.filter_append, List.append_assoc]
  -- What is declared by the merge of two, under a name that inherits.
  have hright : ∀ {name}, isInheritable name → (merge b c policy).style.find? name =
      prevailing policy (b.find? name) (c.find? name) := fun hi =>
    find?_merge hb hc policy _ fun _ _ => hi
  have hleft : ∀ {name}, isInheritable name → (merge a b policy).style.find? name =
      prevailing policy (a.find? name) (b.find? name) := fun hi =>
    find?_merge ha hb policy _ fun _ _ => hi
  congr 1
  · -- The first style: to survive both is to survive what they come to.
    rw [List.filter_filter]
    refine List.filter_congr fun d hd => ?_
    have hlower := ha.lower d hd
    rw [survives_of_lower hlower, survives_of_lower hlower, survives_of_lower hlower]
    cases hi : isInheritable d.name with
    | false => rfl
    | true =>
      rw [hright hi, holdsAgainst_prevailing]
      simp [Bool.and_comm]
  congr 1
  · -- The second one: where it survives the third, it is what they come to.
    rw [List.filter_filter, List.filter_filter]
    refine List.filter_congr fun d hd => ?_
    have hlower := hb.lower d hd
    have hfound := hb.find?_of_mem hd
    cases hs : survives c policy d with
    | false => simp
    | true =>
      rw [survives_of_lower hlower, Bool.and_eq_true] at hs
      rw [any_survives ha, any_survives ha, hright hs.1, hfound]
      simp [prevailing, Option.filter, hs.2]
  · -- The third one: it is there unless one of the others stands for it.
    rw [List.filter_filter]
    refine List.filter_congr fun d _ => ?_
    rw [any_survives hab, any_survives hb, any_survives ha]
    cases hi : isInheritable d.name with
    | false => rfl
    | true =>
      rw [hleft hi, hright hi, any_prevailing]
      simp [Bool.and_comm]

/-! ## What is handed down -/

/-- What is handed down is handed down in whole. -/
theorem inheritedPart_inheritedPart (hs : style.Proper) :
    style.inheritedPart.style.inheritedPart.style = style.inheritedPart.style := by
  have hpart := proper_inheritedPart hs
  refine (proper_inheritedPart hpart).eq_of_declarations hpart ?_
  rw [declarations_inheritedPart hpart, declarations_inheritedPart hs, List.filter_filter]
  simp only [Bool.and_self]

/-- Only what the node hands down is in the way of what it inherits. -/
theorem survives_inheritedPart (ho : overlay.Proper) (hd : Text.lower d.name = d.name)
    (policy : ImportantPolicy) :
    survives overlay.inheritedPart.style policy d = survives overlay policy d := by
  rw [survives_of_lower hd, survives_of_lower hd]
  cases hi : isInheritable d.name with
  | false => rfl
  | true => rw [find?_inheritedPart ho, if_pos hi]

/-- A node that declares something takes no more than what is handed down to it. -/
theorem merge_inheritedPart_left (ha : a.Proper) (hb : b.Proper) (hsome : ¬ b.isEmpty)
    (policy : ImportantPolicy) :
    (merge a.inheritedPart.style b policy).style = (merge a b policy).style := by
  have hpart := proper_inheritedPart ha
  refine (proper_merge hpart hb policy).eq_of_declarations (proper_merge ha hb policy) ?_
  rw [declarations_merge hpart hb hsome, declarations_merge ha hb hsome, declarations_inheritedPart ha,
    List.filter_filter]
  congr 1
  · refine List.filter_congr fun d hd => ?_
    rw [survives_of_lower (ha.lower d hd), Bool.and_right_comm, Bool.and_self]
  · refine List.filter_congr fun d _ => ?_
    rw [any_survives hpart, any_survives ha, find?_inheritedPart ha]
    cases hi : isInheritable d.name <;> simp

/-- What is handed down of a merge, in the order of a merge of what is handed down. -/
theorem declarations_inheritedPart_merge (ha : a.Proper) (hb : b.Proper) (hsome : ¬ b.isEmpty)
    (policy : ImportantPolicy) :
    (merge a b policy).style.inheritedPart.style.declarations =
      a.inheritedPart.style.declarations.filter (survives b.inheritedPart.style policy) ++
        b.inheritedPart.style.declarations.filter fun d =>
          !(a.inheritedPart.style.find? d.name).any (survives b.inheritedPart.style policy) := by
  rw [declarations_inheritedPart (proper_merge ha hb policy), declarations_merge ha hb hsome,
    declarations_inheritedPart ha, declarations_inheritedPart hb, List.filter_append, List.filter_filter,
    List.filter_filter, List.filter_filter, List.filter_filter]
  congr 1
  · refine List.filter_congr fun d hd => ?_
    rw [survives_inheritedPart hb (ha.lower d hd), Bool.and_comm]
  · refine List.filter_congr fun d _ => ?_
    rw [any_survives ha, any_survives (proper_inheritedPart ha), find?_inheritedPart ha,
      find?_inheritedPart hb]
    cases hi : isInheritable d.name <;> simp

/-- Merging goes with handing down. -/
theorem inheritedPart_merge (ha : a.Proper) (hb : b.Proper) (policy : ImportantPolicy) :
    (merge a b policy).style.inheritedPart.style =
      (merge a.inheritedPart.style b.inheritedPart.style policy).style := by
  by_cases hsome : b.isEmpty
  · rw [hb.eq_empty hsome]
    rfl
  have hpa := proper_inheritedPart ha
  have hpb := proper_inheritedPart hb
  have hleft := proper_inheritedPart (proper_merge ha hb policy)
  refine hleft.eq_of_declarations (proper_merge hpa hpb policy) ?_
  rw [declarations_inheritedPart_merge ha hb hsome]
  by_cases hpart : b.inheritedPart.style.isEmpty
  · -- The node declares something, but hands nothing down.
    rw [hpb.eq_empty hpart]
    show _ ++ [] = a.inheritedPart.style.declarations
    rw [List.append_nil, List.filter_eq_self]
    intro d hd
    rw [survives_of_lower (hpa.lower d hd), inherits_inheritedPart ha d.name d (hpa.find?_of_mem hd)]
    rfl
  · rw [declarations_merge hpa hpb hpart]

/-- Proper styles can be merged in any order, and the empty style adds nothing on either side, be it to what is
declared, in which order, how important it is or which kinds it has an effect on.  What is handed down is handed
down in whole; it can be taken before merging or after it; and where the node declares something, no more than
it is taken anyway. -/
theorem merge_composes (policy : ImportantPolicy) (ha : a.Proper) (hb : b.Proper) (hc : c.Proper) :
    (merge (merge a b policy).style c policy).style =
        (merge a (merge b c policy).style policy).style ∧
      (merge a empty policy).style = a ∧ (merge empty a policy).style = a ∧
      a.inheritedPart.style.inheritedPart.style = a.inheritedPart.style ∧
      (merge a b policy).style.inheritedPart.style =
        (merge a.inheritedPart.style b.inheritedPart.style policy).style ∧
      (b.isEmpty = false →
        (merge a.inheritedPart.style b policy).style = (merge a b policy).style) := by
  refine ⟨merge_assoc ha hb hc policy, rfl, merge_empty_left ha policy, inheritedPart_inheritedPart ha,
    inheritedPart_merge ha hb policy, fun hsome => merge_inheritedPart_left ha hb ?_ policy⟩
  rw [hsome]
  exact Bool.false_ne_true

/-- An important color, a border and a normal color above one another. -/
theorem merge_composes_importantColor :
    (ofBlock "border: none; color: red !important").Proper ∧
      (ofBlock "color: blue; border: none").Proper ∧ (ofBlock "font-size: 2em; color: green").Proper ∧
      (ofBlock "color: blue; border: none").isEmpty = false ∧
      (merge (merge (ofBlock "border: none; color: red !important") (ofBlock "color: blue; border: none")
          .inheritedImportantWins).style (ofBlock "font-size: 2em; color: green")
          .inheritedImportantWins).style =
        (merge (ofBlock "border: none; color: red !important")
          (merge (ofBlock "color: blue; border: none") (ofBlock "font-size: 2em; color: green")
            .inheritedImportantWins).style .inheritedImportantWins).style ∧
      (merge (ofBlock "border: none; color: red !important").inheritedPart.style
          (ofBlock "color: blue; border: none") .inheritedImportantWins).style =
        (merge (ofBlock "border: none; color: red !important")
          (ofBlock "color: blue; border: none") .inheritedImportantWins).style := by
  have ha := proper_ofBlock "border: none; color: red !important"
  have hb := proper_ofBlock "color: blue; border: none"
  have hc := proper_ofBlock "font-size: 2em; color: green"
  have hsome : (ofBlock "color: blue; border: none").isEmpty = false := by decide +kernel
  obtain ⟨hassoc, -, -, -, -, hleft⟩ := merge_composes .inheritedImportantWins ha hb hc
  exact ⟨ha, hb, hc, hsome, hassoc, hleft hsome⟩

end MarkupTex.Style
