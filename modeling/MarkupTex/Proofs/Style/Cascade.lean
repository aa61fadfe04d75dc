import MarkupTex.Style.Cascade
import MarkupTex.Style.Declarations
/-!
# What the cascade keeps

A style is known by what it declares under each name: `find?`.  Each operation of the cascade is an
equation about `find?`, and what holds along a whole path follows from these equations.

`Proper` is what makes `find?` the whole truth: names are in lower case, no property is declared twice, and
the kinds are those of the properties that are declared.  All styles that come from blocks and from the
cascade are proper.
-/

set_option autoImplicit false

namespace MarkupTex

theorem Text.toLower_toLower (c : Char) : c.toLower.toLower = c.toLower := by
  have hkept : ∀ c : Char, ¬ (c.val ≥ 'A'.val ∧ c.val ≤ 'Z'.val) → c.toLower = c :=
    fun _ h => dif_neg h
  by_cases h : c.val ≥ 'A'.val ∧ c.val ≤ 'Z'.val
  · have hlower : c.toLower.val = c.val + ('a'.val - 'A'.val) := congrArg Char.val (dif_pos h)
    refine hkept c.toLower fun h' => ?_
    rw [hlower] at h'
    grind
  · rw [hkept c h, hkept c h]

theorem Text.lower_lower (s : String) : Text.lower (Text.lower s) = Text.lower s := by
  rw [Text.lower, Text.lower, String.map_map, show Char.toLower ∘ Char.toLower = Char.toLower from
    funext Text.toLower_toLower]

namespace Style

variable {style base overlay : Style} {d : Declaration} {ds : List Declaration} {name : String}

/-- The kinds that declarations have an effect on. -/
def kindsOf (ds : List Declaration) : Kinds :=
  ds.foldl (fun kinds d => kinds ∪ Kinds.ofProperty d.name) Kinds.none

theorem kindsOf_concat (ds : List Declaration) (d : Declaration) :
    kindsOf (ds ++ [d]) = kindsOf ds ∪ Kinds.ofProperty d.name := by
  rw [kindsOf, List.foldl_append]
  rfl

/-- The kinds depend on the names alone. -/
theorem kindsOf_map {f : Declaration → Declaration} (h : ∀ d, (f d).name = d.name)
    (ds : List Declaration) : kindsOf (ds.map f) = kindsOf ds := by
  rw [kindsOf, List.foldl_map]
  simp only [h]
  rfl

/-- Names are in lower case, every property is declared once, and the kinds are those of the
properties. -/
structure Proper (style : Style) : Prop where
  lower : ∀ d ∈ style.declarations, Text.lower d.name = d.name
  once : (style.declarations.map (·.name)).Nodup
  kinds : style.kinds = kindsOf style.declarations

theorem proper_empty : empty.Proper where
  lower := by simp [empty]
  once := by simp [empty]
  kinds := rfl

/-! ## One declaration -/

theorem name_of_find? (h : style.find? name = some d) : d.name = name := by
  have := List.find?_some h
  simpa using this

theorem mem_of_find? (h : style.find? name = some d) : d ∈ style.declarations :=
  List.mem_of_find?_eq_some h

/-- Under a name that is in lower case already. -/
theorem declaration?_of_lower (style : Style) (h : Text.lower name = name) :
    style.declaration? name = style.find? name := by
  rw [declaration?, h]

theorem find?_insertNew (h : style.find? d.name = none) (name : String) :
    (style.insertNew d).find? name = if d.name = name then some d else style.find? name := by
  rw [insertNew, find?, List.find?_append]
  by_cases hd : d.name = name
  · subst hd
    rw [find?] at h
    simp [h]
  · simp [hd, find?]

theorem name_replaced (d old : Declaration) : (if old.name = d.name then d else old).name = old.name := by
  split
  · next h => exact h.symm
  · rfl

theorem find?_replace {old : Declaration} (h : style.find? d.name = some old) (name : String) :
    (style.replace d).find? name = if d.name = name then some d else style.find? name := by
  rw [replace, find?, List.find?_map]
  have hsame : ((fun d : Declaration => decide (d.name = name)) ∘
      fun old => if old.name = d.name then d else old) = fun d => decide (d.name = name) := by
    funext old
    simp only [Function.comp_apply, name_replaced]
  rw [hsame]
  by_cases hd : d.name = name
  · subst hd
    have hold := name_of_find? h
    rw [find?] at h
    rw [h, if_pos rfl, Option.map_some, if_pos hold]
  · rw [if_neg hd, find?]
    cases hf : style.declarations.find? fun d => d.name = name with
    | none => rfl
    | some other =>
      have hother : other.name = name := name_of_find? hf
      rw [Option.map_some, if_neg (by rw [hother]; exact Ne.symm hd)]

theorem find?_put (style : Style) (d : Declaration) (name : String) :
    (style.put d).find? name = if d.name = name then some d else style.find? name := by
  rw [put]
  split
  · next h => exact find?_replace h name
  · next h => exact find?_insertNew h name

theorem Proper.insertNew (hs : style.Proper) (hd : Text.lower d.name = d.name)
    (h : style.find? d.name = none) : (style.insertNew d).Proper where
  lower := by
    intro e he
    rw [Style.insertNew] at he
    rcases List.mem_append.mp he with he | he
    · exact hs.lower e he
    · rw [List.mem_singleton.mp he, hd]
  once := by
    rw [Style.insertNew, List.map_append]
    refine List.nodup_append.mpr ⟨hs.once, by simp, ?_⟩
    intro a ha b hb hab
    obtain ⟨e, he, rfl⟩ := List.mem_map.mp ha
    have hne := List.find?_eq_none.mp h e he
    simp_all
  kinds := by rw [Style.insertNew, kindsOf_concat, hs.kinds]

theorem Proper.replace (hs : style.Proper) (hd : Text.lower d.name = d.name) :
    (style.replace d).Proper where
  lower := by
    intro e he
    rw [Style.replace] at he
    obtain ⟨old, hold, rfl⟩ := List.mem_map.mp he
    split
    · exact hd
    · exact hs.lower old hold
  once := by
    have hnames : (style.replace d).declarations.map (·.name) = style.declarations.map (·.name) := by
      rw [Style.replace, List.map_map]
      exact List.map_congr_left fun old _ => name_replaced d old
    rw [hnames]
    exact hs.once
  kinds := by
    rw [Style.replace, kindsOf_map (name_replaced d)]
    exact hs.kinds

theorem Proper.put (hs : style.Proper) (hd : Text.lower d.name = d.name) : (style.put d).Proper := by
  rw [Style.put]
  split
  · exact hs.replace hd
  · next h => exact hs.insertNew hd h

theorem Proper.set (hs : style.Proper) (hd : Text.lower d.name = d.name) : (style.set d).Proper := by
  rw [Style.set]
  split
  · exact hs
  · split
    · split
      · exact hs
      · exact hs.replace hd
    · next h => exact hs.insertNew hd h

/-! ## Blocks -/

theorem lower_of_declarationOf? {piece : List Char} (h : declarationOf? piece = some d) :
    Text.lower d.name = d.name := by
  have hname : ∃ name value important, d = Declaration.ofText name value important := by
    rw [declarationOf?] at h
    split at h
    · cases h
    · next name rest _ =>
      cases hb : beforeImportant? rest with
      | none =>
        simp only [hb, Option.ite_none_left_eq_some, Option.some.injEq] at h
        exact ⟨_, _, _, h.2.symm⟩
      | some value =>
        simp only [hb, Option.ite_none_left_eq_some, Option.some.injEq] at h
        exact ⟨_, _, _, h.2.symm⟩
  obtain ⟨name, value, important, rfl⟩ := hname
  exact Text.lower_lower _

/-- A style that a block describes is proper. -/
theorem proper_ofBlock (text : String) : (ofBlock text).Proper := by
  have hfold : ∀ (ds : List Declaration) (style : Style), style.Proper →
      (∀ d ∈ ds, Text.lower d.name = d.name) → (ds.foldl Style.set style).Proper := by
    intro ds
    induction ds with
    | nil => exact fun _ hs _ => hs
    | cons d ds ih =>
      intro style hs hds
      exact ih _ (hs.set (hds d List.mem_cons_self)) fun e he => hds e (List.mem_cons_of_mem _ he)
  refine hfold _ _ proper_empty fun d hd => ?_
  obtain ⟨piece, -, hpiece⟩ := List.mem_filterMap.mp hd
  exact lower_of_declarationOf? hpiece

/-! ## Merging -/

/-- Declarations that are put into a style one after another: the last one of a name counts. -/
theorem find?_foldl_put (ds : List Declaration) (style : Style) (name : String) :
    (ds.foldl put style).find? name =
      (ds.reverse.find? fun d => d.name = name).or (style.find? name) := by
  induction ds generalizing style with
  | nil => rfl
  | cons d ds ih =>
    rw [List.foldl_cons, ih, find?_put, List.reverse_cons, List.find?_append, Option.or_assoc]
    congr 1
    by_cases hd : d.name = name <;> simp [hd]

theorem Proper.foldl_put (hs : style.Proper) (hds : ∀ d ∈ ds, Text.lower d.name = d.name) :
    (ds.foldl Style.put style).Proper := by
  induction ds generalizing style with
  | nil => exact hs
  | cons d ds ih =>
    exact ih (hs.put (hds d List.mem_cons_self)) fun e he => hds e (List.mem_cons_of_mem _ he)

theorem find?_eq_none_of_not_mem (h : name ∉ ds.map (·.name)) :
    (ds.find? fun d => d.name = name) = none := by
  refine List.find?_eq_none.mpr fun d hd hname => h ?_
  exact List.mem_map.mpr ⟨d, hd, by simpa using hname⟩

/-- Where no name comes twice, the last declaration of a name is the first one. -/
theorem find?_reverse (h : (ds.map (·.name)).Nodup) (name : String) :
    (ds.reverse.find? fun d => d.name = name) = ds.find? fun d => d.name = name := by
  induction ds with
  | nil => rfl
  | cons d ds ih =>
    obtain ⟨hnot, hrest⟩ : d.name ∉ ds.map (·.name) ∧ (ds.map (·.name)).Nodup :=
      List.nodup_cons.mp h
    rw [List.reverse_cons, List.find?_append, ih hrest]
    by_cases hd : d.name = name
    · rw [find?_eq_none_of_not_mem (hd ▸ hnot)]
      simp [hd]
    · simp [hd]

/-- Of a style, the declarations that have some property. -/
theorem find?_filter (h : (ds.map (·.name)).Nodup) (p : Declaration → Bool) (name : String) :
    ((ds.filter p).find? fun d => d.name = name) = (ds.find? fun d => d.name = name).filter p := by
  induction ds with
  | nil => rfl
  | cons d ds ih =>
    obtain ⟨hnot, hrest⟩ : d.name ∉ ds.map (·.name) ∧ (ds.map (·.name)).Nodup :=
      List.nodup_cons.mp h
    by_cases hd : d.name = name
    · have hnone := find?_eq_none_of_not_mem (hd ▸ hnot)
      by_cases hp : p d
      · simp [hp, hd, Option.filter]
      · simp [hp, hd, ih hrest, hnone, Option.filter]
    · by_cases hp : p d
      · simp [hp, hd, ih hrest]
      · simp [hp, hd, ih hrest]

/-- The part of a style that a filter lets through, as a style of its own. -/
theorem find?_foldl_filter (hs : style.Proper) (p : Declaration → Bool) (name : String) :
    ((style.declarations.filter p).foldl put empty).find? name = (style.find? name).filter p := by
  have hnodup : ((style.declarations.filter p).map (·.name)).Nodup :=
    hs.once.sublist ((List.filter_sublist).map _)
  rw [find?_foldl_put, find?_reverse hnodup, find?_filter hs.once]
  show ((style.find? name).filter p).or none = _
  rw [Option.or_none]

theorem Proper.foldl_filter (hs : style.Proper) (p : Declaration → Bool) :
    ((style.declarations.filter p).foldl Style.put empty).Proper :=
  proper_empty.foldl_put fun d hd => hs.lower d (List.mem_filter.mp hd).1

/-- Adding what is not there yet. -/
def fill (style : Style) (ds : List Declaration) : Style :=
  ds.foldl (fun out d => if (out.declaration? d.name).isSome then out else out.put d) style

theorem find?_fill (hds : ∀ d ∈ ds, Text.lower d.name = d.name) (name : String) :
    (fill style ds).find? name = (style.find? name).or (ds.find? fun d => d.name = name) := by
  induction ds generalizing style with
  | nil => simp [fill]
  | cons d ds ih =>
    have hrest : ∀ e ∈ ds, Text.lower e.name = e.name := fun e he => hds e (List.mem_cons_of_mem _ he)
    have hd := declaration?_of_lower style (hds d List.mem_cons_self)
    rw [fill, List.foldl_cons, ← fill, hd]
    by_cases hn : d.name = name
    · subst hn
      cases hf : style.find? d.name with
      | none => simp [ih hrest, find?_put]
      | some old => simp [ih hrest, hf]
    · by_cases hf : (style.find? d.name).isSome
      · simp [ih hrest, hf, hn]
      · simp [ih hrest, hf, hn, find?_put]

theorem Proper.fill (hs : style.Proper) (hds : ∀ d ∈ ds, Text.lower d.name = d.name) :
    (style.fill ds).Proper := by
  induction ds generalizing style with
  | nil => exact hs
  | cons d ds ih =>
    have hrest : ∀ e ∈ ds, Text.lower e.name = e.name := fun e he => hds e (List.mem_cons_of_mem _ he)
    rw [Style.fill, List.foldl_cons, ← Style.fill]
    split
    · exact ih hs hrest
    · exact ih (hs.put (hds d List.mem_cons_self)) hrest

theorem mergeDeclarations_eq (base overlay : Style) (policy : ImportantPolicy) :
    mergeDeclarations base overlay policy =
      ((base.declarations.filter (survives overlay policy)).foldl put empty).fill
        overlay.declarations := rfl

/-- Everything that a style declares is handed down to the children. -/
def Inherits (style : Style) : Prop := ∀ name d, style.find? name = some d → isInheritable name

theorem proper_merge (hb : base.Proper) (ho : overlay.Proper) (policy : ImportantPolicy) :
    (merge base overlay policy).style.Proper := by
  rw [merge]
  split
  · exact hb
  · show (mergeDeclarations base overlay policy).Proper
    rw [mergeDeclarations_eq]
    exact (hb.foldl_filter _).fill ho.lower

/-- Whether an inherited declaration holds against what the node itself declares under its name. -/
def holdsAgainst (policy : ImportantPolicy) (own : Option Declaration) (d : Declaration) : Bool :=
  match own with
  | none => true
  | some own => policy = .inheritedImportantWins && d.important && !own.important

theorem survives_eq (hd : Text.lower d.name = d.name) (hi : isInheritable d.name)
    (policy : ImportantPolicy) :
    survives overlay policy d = holdsAgainst policy (overlay.find? d.name) d := by
  rw [survives, hi, declaration?_of_lower overlay hd, Bool.true_and]
  rfl

/-- A declaration of the merged style is an inherited one that holds, or else the node's own. -/
theorem find?_merge (hb : base.Proper) (ho : overlay.Proper) (policy : ImportantPolicy) (name : String)
    (hi : ∀ d, base.find? name = some d → isInheritable name) :
    (merge base overlay policy).style.find? name =
      ((base.find? name).filter (holdsAgainst policy (overlay.find? name))).or
        (overlay.find? name) := by
  rw [merge]
  split
  · next hempty =>
    have hnone : overlay.find? name = none := by
      rw [isEmpty, List.isEmpty_iff] at hempty
      rw [find?, hempty]
      rfl
    rw [hnone, Option.or_none]
    show base.find? name = _
    cases base.find? name <;> rfl
  · show (mergeDeclarations base overlay policy).find? name = _
    rw [mergeDeclarations_eq, find?_fill ho.lower, find?_foldl_filter hb]
    congr 1
    cases hf : base.find? name with
    | none => rfl
    | some d =>
      have hname := name_of_find? hf
      subst hname
      have hlower := hb.lower d (mem_of_find? hf)
      rw [Option.filter, Option.filter, survives_eq hlower (hi d hf)]

/-! ## Inheriting -/

theorem proper_inheritedPart (hs : style.Proper) : style.inheritedPart.style.Proper := by
  rw [inheritedPart]
  split
  · exact hs
  · exact hs.foldl_filter _

/-- What is handed down are the declarations of properties that inherit. -/
theorem find?_inheritedPart (hs : style.Proper) (name : String) :
    style.inheritedPart.style.find? name = if isInheritable name then style.find? name else none := by
  have hfilter : (style.find? name).filter (fun d => isInheritable d.name) =
      if isInheritable name then style.find? name else none := by
    cases hf : style.find? name with
    | none => simp
    | some d =>
      have hd := name_of_find? hf
      by_cases hi : isInheritable name <;> simp [hd, hi, Option.filter]
  rw [inheritedPart, ← hfilter]
  split
  · next hall =>
    show style.find? name = _
    cases hf : style.find? name with
    | none => rfl
    | some d =>
      have hd := List.all_eq_true.mp hall d (mem_of_find? hf)
      simp [hd, Option.filter]
  · exact find?_foldl_filter hs _ name

theorem inherits_inheritedPart (hs : style.Proper) : style.inheritedPart.style.Inherits := by
  intro name d hd
  rw [find?_inheritedPart hs] at hd
  split at hd
  · next hi => exact hi
  · cases hd

end Style

end MarkupTex
