import MarkupTex.Document.Tag
import MarkupTex.Html.Content
/-!
# Tags and their attributes

A tag is a name and attributes up to a `>`.  Names are in lower case, of attributes with the same
name the first is kept, and references are resolved in their values.  A `>` in quotes does not end
the tag, and a tag that the text ends in is none.
-/

set_option autoImplicit false

namespace MarkupTex.Html

/-- The value of an attribute, after its equals sign, and what follows it.  Quotes have to be
closed. -/
def attributeValue? (cs : List Char) : Option (List Char × List Char) :=
  match cs.dropWhile isSpace with
  | c :: rest =>
    if c = '\x22' || c = '\x27' then Text.splitAtChar c rest
    else
      let inValue := fun c : Char => !isSpace c && c ≠ '>'
      some ((c :: rest).takeWhile inValue, (c :: rest).dropWhile inValue)
  | [] => none

theorem length_of_attributeValue? {cs value rest : List Char}
    (h : attributeValue? cs = some (value, rest)) : rest.length ≤ cs.length := by
  have hblank := (List.dropWhile_sublist (l := cs) isSpace).length_le
  unfold attributeValue? at h
  split at h
  · next c cs' hcs =>
    rw [hcs] at hblank
    split at h
    · have := Text.length_of_splitAtChar h
      simp only [List.length_cons] at hblank
      omega
    · cases h
      exact Nat.le_trans (List.dropWhile_sublist _).length_le hblank
  · cases h

/-- Adds an attribute behind the others, unless there is one of this name. -/
def addAttribute (attributes : List Attribute) (a : Attribute) : List Attribute :=
  if attributes.any fun old => old.name = a.name then attributes else attributes ++ [a]

/-- Brings the name of a tag or an attribute into its form. -/
def nameOf (cs : List Char) : String := Text.lower (String.ofList (withoutNul cs))

def valueOf (cs : List Char) : String := String.ofList (resolve true (withoutNul cs))

/-- What may stand in the name of an attribute behind its first character. -/
def isInName (c : Char) : Bool := !endsName c && c ≠ '='

/-- The attribute whose name begins with `c`, and what follows it, unless the text ends in its
value. -/
def attribute? (c : Char) (cs : List Char) : Option (Attribute × List Char) :=
  let name := nameOf (c :: cs.takeWhile isInName)
  let behind := cs.dropWhile isInName
  match behind.dropWhile isSpace with
  | '=' :: afterSign =>
    (attributeValue? afterSign).map fun (value, rest) => (⟨name, valueOf value⟩, rest)
  | _ => some (⟨name, ""⟩, behind)

theorem length_of_attribute? {c : Char} {cs rest : List Char} {a : Attribute}
    (h : attribute? c cs = some (a, rest)) : rest.length ≤ cs.length := by
  have hname := (List.dropWhile_sublist (l := cs) isInName).length_le
  have hblank := (List.dropWhile_sublist (l := cs.dropWhile isInName) isSpace).length_le
  unfold attribute? at h
  dsimp only at h
  split at h
  · next afterSign hsign =>
    obtain ⟨⟨value, r⟩, hvalue, heq⟩ := Option.map_eq_some_iff.1 h
    obtain ⟨-, rfl⟩ : _ ∧ r = rest := by simpa using heq
    have hrest := length_of_attributeValue? hvalue
    rw [hsign, List.length_cons] at hblank
    omega
  · cases h
    exact hname

/-- The attributes of a tag up to its end, and what follows the tag, unless the text ends before
it. -/
def attributesFrom (attributes : List Attribute) :
    List Char → Option (List Attribute × List Char)
  | [] => none
  | c :: cs =>
    if c = '>' then some (attributes, cs)
    else if isSpace c || c = '/' then attributesFrom attributes cs
    else
      match h : attribute? c cs with
      | none => none
      | some (a, rest) =>
        have : rest.length ≤ cs.length := length_of_attribute? h
        attributesFrom (addAttribute attributes a) rest
termination_by cs => cs.length
decreasing_by all_goals simp <;> omega

theorem length_of_attributesFrom {attributes found : List Attribute} {cs rest : List Char}
    (h : attributesFrom attributes cs = some (found, rest)) : rest.length < cs.length := by
  fun_induction attributesFrom attributes cs with
  | case1 => cases h
  | case2 => cases h; simp
  | case3 attributes c cs _ _ ih =>
    have := ih h
    simp only [List.length_cons]
    omega
  | case4 => cases h
  | case5 attributes c cs _ _ a r _ hr ih =>
    have := ih h
    simp only [List.length_cons]
    omega

/-- The name and the attributes of the tag whose name begins the text, and what follows it. -/
def tag? (cs : List Char) : Option (String × List Attribute × List Char) :=
  (attributesFrom [] (cs.dropWhile fun c => !endsName c)).map fun (attributes, rest) =>
    (nameOf (cs.takeWhile fun c => !endsName c), attributes, rest)

theorem length_of_tag? {cs rest : List Char} {name : String} {attributes : List Attribute}
    (h : tag? cs = some (name, attributes, rest)) : rest.length < cs.length := by
  obtain ⟨⟨found, r⟩, hfrom, heq⟩ := Option.map_eq_some_iff.1 h
  obtain ⟨-, -, rfl⟩ : _ ∧ _ ∧ r = rest := by simpa using heq
  exact Nat.lt_of_lt_of_le (length_of_attributesFrom hfrom)
    (List.dropWhile_sublist _).length_le

end MarkupTex.Html
