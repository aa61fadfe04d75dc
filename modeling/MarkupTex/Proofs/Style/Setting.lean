import MarkupTex.Proofs.Style.Composition
import MarkupTex.Proofs.Style.Cutting
import MarkupTex.Proofs.Style.Kinds
/-!
# Setting declarations one after another

What a row of declarations comes to can be said without going through it.  `Resolves` names each property once, in
the order in which the properties first come up, and gives it the last important declaration of the row, or
else the last one.

One declaration at a time it is a merge of one property (`find?_set`): the declaration that is set prevails over
the one before as it would in a cascade in which importance wins.

The kinds are kept up on the way, one union for each property that is new.  `Tallied` is what this keeps, and
the other ways of making a style keep it as well.
-/

set_option autoImplicit false

namespace MarkupTex.Style

variable {style base overlay : Style} {d old : Declaration} {ds : List Declaration} {name : String}

/-! ## The kinds -/

/-- The kinds are those of the properties that are declared. -/
def Tallied (style : Style) : Prop := style.kinds = kindsOf style.declarations

/-- A style has to do with some kinds if one of its properties has. -/
theorem Tallied.has_iff (h : style.Tallied) (k : Kinds) :
    style.has k = true ↔ ∃ d ∈ style.declarations, (Kinds.ofProperty d.name).intersects k = true := by
  rw [has, h, kindsOf_intersects_iff]

theorem tallied_empty : empty.Tallied := rfl

theorem Tallied.insertNew (h : style.Tallied) (d : Declaration) : (style.insertNew d).Tallied := by
  rw [Tallied, Style.insertNew, kindsOf_concat, h]

theorem Tallied.replace (h : style.Tallied) (d : Declaration) : (style.replace d).Tallied := by
  rw [Tallied, Style.replace, kindsOf_map (name_replaced d)]
  exact h

theorem Tallied.put (h : style.Tallied) (d : Declaration) : (style.put d).Tallied := by
  rw [Style.put]
  split
  · exact h.replace d
  · exact h.insertNew d

theorem Tallied.set (h : style.Tallied) (d : Declaration) : (style.set d).Tallied := by
  rw [Style.set]
  split
  · exact h
  · split
    · split
      · exact h
      · exact h.replace d
    · exact h.insertNew d

/-- Whatever is done for each declaration of a row, if it keeps the kinds it does so for the row. -/
theorem Tallied.foldl {step : Style → Declaration → Style}
    (hstep : ∀ {style : Style}, style.Tallied → ∀ d, (step style d).Tallied) (h : style.Tallied)
    (ds : List Declaration) : (ds.foldl step style).Tallied := by
  induction ds generalizing style with
  | nil => exact h
  | cons d ds ih => exact ih (hstep h d)

theorem Tallied.merge (h : base.Tallied) (overlay : Style) (policy : ImportantPolicy) :
    (merge base overlay policy).style.Tallied := by
  rw [Style.merge]
  split
  · exact h
  · refine Tallied.foldl (fun {style} hs d => ?_) (tallied_empty.foldl Tallied.put _) _
    split
    · exact hs
    · exact hs.put d

theorem Tallied.inheritedPart (h : style.Tallied) : style.inheritedPart.style.Tallied := by
  rw [Style.inheritedPart]
  split
  · exact h
  · exact tallied_empty.foldl Tallied.put _

/-! ## Under one name -/

/-- The last declaration of a property in a row. -/
def last? (ds : List Declaration) (name : String) : Option Declaration :=
  ds.reverse.find? fun d => d.name = name

/-- The last declaration of a property that is important. -/
def lastImportant? (ds : List Declaration) (name : String) : Option Declaration :=
  ds.reverse.find? fun d => d.name = name && d.important

/-- The declaration that a row comes to under a name. -/
def resolved (ds : List Declaration) (name : String) : Option Declaration :=
  (lastImportant? ds name).or (last? ds name)

theorem last?_concat (ds : List Declaration) (d : Declaration) (name : String) :
    last? (ds ++ [d]) name = if d.name = name then some d else last? ds name := by
  rw [last?, List.reverse_append, List.reverse_singleton, List.singleton_append, List.find?_cons]
  by_cases h : d.name = name <;> simp [h, last?]

theorem lastImportant?_concat (ds : List Declaration) (d : Declaration) (name : String) :
    lastImportant? (ds ++ [d]) name =
      if d.name = name ∧ d.important then some d else lastImportant? ds name := by
  rw [lastImportant?, List.reverse_append, List.reverse_singleton, List.singleton_append, List.find?_cons]
  by_cases h : d.name = name <;> cases d.important <;> simp [h, lastImportant?]

/-- What a row comes to is important just if one of its declarations is. -/
theorem filter_resolved (ds : List Declaration) (name : String) :
    (resolved ds name).filter (·.important) = lastImportant? ds name := by
  rw [resolved]
  cases hi : lastImportant? ds name with
  | some d =>
    have himportant := List.find?_some hi
    simp only [Bool.and_eq_true] at himportant
    simp [Option.filter, himportant.2]
  | none =>
    cases hl : last? ds name with
    | none => rfl
    | some d =>
      have hname : d.name = name := by simpa using List.find?_some hl
      have hnone := List.find?_eq_none.mp hi d (List.mem_of_find?_eq_some hl)
      have hnormal : d.important = false := by simpa [hname] using hnone
      simp [Option.filter, hnormal]

/-- One more declaration has to prevail over what the row came to so far. -/
theorem resolved_concat (ds : List Declaration) (d : Declaration) (name : String) :
    resolved (ds ++ [d]) name =
      if d.name = name then prevailing .inheritedImportantWins (resolved ds name) (some d)
      else resolved ds name := by
  rw [resolved, last?_concat, lastImportant?_concat]
  by_cases hname : d.name = name
  · rw [if_pos hname, if_pos hname, prevailing]
    cases hi : d.important with
    | true =>
      have hnone : (resolved ds name).filter (holdsAgainst .inheritedImportantWins (some d)) = none := by
        cases resolved ds name <;> simp [holdsAgainst, Option.filter, hi]
      rw [hnone, if_pos ⟨hname, rfl⟩]
      rfl
    | false =>
      have hsame : holdsAgainst .inheritedImportantWins (some d) = (·.important) := by
        funext old
        simp [holdsAgainst, hi]
      rw [hsame, filter_resolved, if_neg (by simp)]
  · rw [if_neg hname, if_neg hname, if_neg (fun h => hname h.1)]
    rfl

theorem set_of_no_name (h : d.name = "") (style : Style) : style.set d = style := by
  rw [set, h]
  rfl

/-- A declaration that is set prevails over the one of the same name, if that one is not important or it is
important itself. -/
theorem find?_set (h : d.name ≠ "") (style : Style) (name : String) :
    (style.set d).find? name =
      if d.name = name then prevailing .inheritedImportantWins (style.find? name) (some d)
      else style.find? name := by
  rw [set, if_neg (by simpa using h)]
  cases hf : style.find? d.name with
  | none =>
    show (style.insertNew d).find? name = _
    rw [find?_insertNew hf]
    by_cases hname : d.name = name
    · rw [if_pos hname, if_pos hname, ← hname, hf]
      rfl
    · rw [if_neg hname, if_neg hname]
  | some old =>
    show (if old.important && !d.important then style else style.replace d).find? name = _
    by_cases hname : d.name = name
    · rw [if_pos hname, ← hname, hf]
      split
      · next hold =>
        rw [hf]
        simp [prevailing, holdsAgainst, Option.filter, hold]
      · next hold =>
        rw [find?_replace hf, if_pos rfl]
        simp [prevailing, holdsAgainst, Option.filter, hold]
    · rw [if_neg hname]
      split
      · rfl
      · rw [find?_replace hf, if_neg hname]

/-! ## The names in order -/

theorem mem_names_iff (style : Style) (name : String) :
    name ∈ style.declarations.map (·.name) ↔ (style.find? name).isSome = true := by
  constructor
  · intro h
    obtain ⟨d, hd, rfl⟩ := List.mem_map.mp h
    rw [find?, List.find?_isSome]
    exact ⟨d, hd, by simp⟩
  · intro h
    obtain ⟨d, hd⟩ := Option.isSome_iff_exists.mp h
    exact name_of_find? hd ▸ List.mem_map_of_mem (mem_of_find? hd)

theorem names_replace (style : Style) (d : Declaration) :
    (style.replace d).declarations.map (·.name) = style.declarations.map (·.name) := by
  rw [replace, List.map_map]
  exact List.map_congr_left fun old _ => name_replaced d old

/-- A property that is declared already keeps its place, and a new one comes last. -/
theorem names_set (h : d.name ≠ "") (style : Style) :
    (style.set d).declarations.map (·.name) =
      style.declarations.map (·.name) ++
        if d.name ∈ style.declarations.map (·.name) then [] else [d.name] := by
  rw [set, if_neg (by simpa using h)]
  cases hf : style.find? d.name with
  | none =>
    have hnot : d.name ∉ style.declarations.map (·.name) := by
      rw [mem_names_iff, hf]
      exact Bool.false_ne_true
    rw [if_neg hnot]
    exact List.map_append
  | some old =>
    have hmem : d.name ∈ style.declarations.map (·.name) := by
      rw [mem_names_iff, hf]
      rfl
    rw [if_pos hmem, List.append_nil]
    show (if old.important && !d.important then style else style.replace d).declarations.map _ = _
    split
    · rfl
    · exact names_replace style d

/-! ## A row of declarations -/

/-- What a row of declarations comes to: each name of the row once, blank ones apart, in the order in which they
first come up, and with the declaration that the row comes to under it. -/
structure Resolves (ds : List Declaration) (style : Style) : Prop where
  names : ∀ name, name ∈ style.declarations.map (·.name) ↔ name ≠ "" ∧ name ∈ ds.map (·.name)
  once : (style.declarations.map (·.name)).Nodup
  order : (style.declarations.map (·.name)).Pairwise fun first second =>
    (ds.map (·.name)).idxOf first < (ds.map (·.name)).idxOf second
  winner : ∀ d ∈ style.declarations, resolved ds d.name = some d
  kinds : style.kinds = kindsOf style.declarations
  has_iff : ∀ k, style.has k = true ↔
    ∃ d ∈ style.declarations, (Kinds.ofProperty d.name).intersects k = true

theorem find?_foldl_set (ds : List Declaration) (h : name ≠ "") :
    (ds.foldl set empty).find? name = resolved ds name := by
  induction ds using List.reverseRecOn with
  | nil => rfl
  | append_singleton ds d ih =>
    rw [List.foldl_concat, resolved_concat, ← ih]
    by_cases hname : d.name = ""
    · rw [set_of_no_name hname, if_neg (hname ▸ h.symm)]
    · exact find?_set hname _ name

theorem mem_names_foldl_set (ds : List Declaration) (name : String) :
    name ∈ (ds.foldl set empty).declarations.map (·.name) ↔ name ≠ "" ∧ name ∈ ds.map (·.name) := by
  induction ds using List.reverseRecOn generalizing name with
  | nil => simp [empty]
  | append_singleton ds d ih =>
    rw [List.foldl_concat, List.map_append, List.mem_append, List.map_singleton, List.mem_singleton]
    by_cases hname : d.name = ""
    · rw [set_of_no_name hname, ih, hname]
      exact and_congr_right fun hne => by simp [hne]
    · rw [names_set hname, List.mem_append, ih]
      split
      · next hmem =>
        -- The name was there before.
        have hrow := ((ih d.name).mp hmem).2
        grind
      · grind

theorem order_foldl_set (ds : List Declaration) :
    ((ds.foldl set empty).declarations.map (·.name)).Pairwise fun first second =>
      (ds.map (·.name)).idxOf first < (ds.map (·.name)).idxOf second := by
  induction ds using List.reverseRecOn with
  | nil => exact .nil
  | append_singleton ds d ih =>
    rw [List.foldl_concat, List.map_append, List.map_singleton]
    -- The declarations so far stand where they stood.
    have hplace : ∀ {name}, name ∈ (ds.foldl set empty).declarations.map (·.name) →
        (ds.map (·.name) ++ [d.name]).idxOf name = (ds.map (·.name)).idxOf name :=
      fun h => List.idxOf_append_of_mem ((mem_names_foldl_set ds _).mp h).2
    have hkept := ih.imp_of_mem fun hfirst hsecond hlt => by
      rw [← hplace hfirst, ← hplace hsecond] at hlt
      exact hlt
    by_cases hname : d.name = ""
    · rw [set_of_no_name hname]
      exact hkept
    · rw [names_set hname]
      refine List.pairwise_append.mpr ⟨hkept, ?_, fun first hfirst second hsecond => ?_⟩
      · split
        · exact .nil
        · exact List.pairwise_singleton _ _
      · split at hsecond
        · cases hsecond
        · next hnew =>
          -- A property that is new stands first at the end of the row.
          have hrow : d.name ∉ ds.map (·.name) := fun h => hnew ((mem_names_foldl_set ds _).mpr ⟨hname, h⟩)
          have hlt := List.idxOf_lt_length_of_mem ((mem_names_foldl_set ds first).mp hfirst).2
          rw [List.mem_singleton.mp hsecond, hplace hfirst, List.idxOf_append, if_neg hrow]
          omega

theorem once_foldl_set (ds : List Declaration) :
    ((ds.foldl set empty).declarations.map (·.name)).Nodup :=
  (order_foldl_set ds).imp fun hlt heq => by
    rw [heq] at hlt
    exact absurd hlt (Nat.lt_irrefl _)

theorem resolves_foldl_set (ds : List Declaration) : Resolves ds (ds.foldl set empty) where
  names := mem_names_foldl_set ds
  once := once_foldl_set ds
  order := order_foldl_set ds
  winner := fun d hd => by
    have hname := ((mem_names_foldl_set ds d.name).mp (List.mem_map_of_mem hd)).1
    rw [← find?_foldl_set ds hname, find?_of_once (once_foldl_set ds) hd]
  kinds := tallied_empty.foldl Tallied.set ds
  has_iff := (tallied_empty.foldl Tallied.set ds).has_iff

/-- A declaration as it is written. -/
structure Written where
  name : String
  value : String
  important : Bool
  deriving DecidableEq, Repr, Inhabited

def Written.declaration (w : Written) : Declaration := .ofText w.name w.value w.important

/-- Declarations that are set one after another come to what the row of them says, be they set one by one or read
from a block.  Where the kinds are those of the properties, the question for some kinds is a question for the
properties; and what is put, merged or handed down keeps the kinds so. -/
theorem set_resolves :
    (∀ calls : List Written, Resolves (calls.map Written.declaration)
        (calls.foldl (fun style w => style.set w.declaration) empty)) ∧
      (∀ text, Resolves (declarationsOf text) (ofBlock text)) ∧
      ∀ style : Style, style.kinds = kindsOf style.declarations →
        (∀ k, style.has k = true ↔
          ∃ d ∈ style.declarations, (Kinds.ofProperty d.name).intersects k = true) ∧
        (∀ d, (style.put d).kinds = kindsOf (style.put d).declarations) ∧
        (∀ overlay policy, (merge style overlay policy).style.kinds =
          kindsOf (merge style overlay policy).style.declarations) ∧
        style.inheritedPart.style.kinds = kindsOf style.inheritedPart.style.declarations := by
  refine ⟨fun calls => ?_, fun text => resolves_foldl_set (declarationsOf text), fun style h => ?_⟩
  · rw [← List.foldl_map]
    exact resolves_foldl_set (calls.map Written.declaration)
  · have htallied : style.Tallied := h
    exact ⟨htallied.has_iff, htallied.put, htallied.merge, htallied.inheritedPart⟩

/-- An important color between two that are not, and a border. -/
def importantColor : String := "Color: red; border-top: 0; color: blue !important; COLOR: green"

theorem set_resolves_importantColor :
    (ofBlock importantColor).declarations = [⟨"color", "blue", true⟩, ⟨"border-top", "0", false⟩] ∧
      resolved (declarationsOf importantColor) "color" = some ⟨"color", "blue", true⟩ ∧
      (ofBlock importantColor).kinds = kindsOf (ofBlock importantColor).declarations ∧
      (ofBlock importantColor).has Kinds.border = true ∧
      ((ofBlock importantColor).put ⟨"margin", "0", false⟩).kinds =
        kindsOf ((ofBlock importantColor).put ⟨"margin", "0", false⟩).declarations := by
  have hrow : declarationsOf importantColor = [⟨"color", "red", false⟩, ⟨"border-top", "0", false⟩,
      ⟨"color", "blue", true⟩, ⟨"color", "green", false⟩] := by decide +kernel
  have hdeclared : (ofBlock importantColor).declarations =
      [⟨"color", "blue", true⟩, ⟨"border-top", "0", false⟩] := by
    rw [ofBlock_eq, hrow]
    decide
  obtain ⟨-, hblock, hkinds⟩ := set_resolves
  have hresolves := hblock importantColor
  obtain ⟨hhas, hput, -, -⟩ := hkinds _ hresolves.kinds
  have hwinner := hresolves.winner ⟨"color", "blue", true⟩ (by rw [hdeclared]; exact List.mem_cons_self)
  have hborder : ∃ d ∈ (ofBlock importantColor).declarations,
      (Kinds.ofProperty d.name).intersects Kinds.border = true := by
    rw [hdeclared]
    exact ⟨_, List.mem_cons_of_mem _ List.mem_cons_self, by decide +kernel⟩
  exact ⟨hdeclared, hwinner, hresolves.kinds, (hhas Kinds.border).mpr hborder, hput _⟩

end MarkupTex.Style
