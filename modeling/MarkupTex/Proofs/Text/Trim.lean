import Mathlib.Data.List.TakeWhile
import MarkupTex.Proofs.Latex.Token
import MarkupTex.Proofs.Style.Cascade
/-!
# Trimming and collapsing

A text that is trimmed has no blanks at its ends, and what has no blanks at its ends is not touched when
the text around it is trimmed.  With the collapsing of blanks it is the same: what comes of a piece of a
text stands in what comes of the text, but for blanks at its ends.
-/

set_option autoImplicit false

namespace MarkupTex.Text

variable {p : Char → Bool} {cs ds : List Char}

/-- The list has a character at both ends that is not of the class. -/
structure Sharp (p : Char → Bool) (cs : List Char) : Prop where
  head : cs.head?.any p = false
  last : cs.getLast?.any p = false

theorem head?_dropWhile (p : Char → Bool) (cs : List Char) : (cs.dropWhile p).head?.any p = false := by
  have h := List.head?_dropWhile_not p cs
  cases hd : (cs.dropWhile p).head? with
  | none => rfl
  | some c => simpa [hd] using h

theorem getLast?_dropEndWhile (p : Char → Bool) (cs : List Char) :
    (dropEndWhile p cs).getLast?.any p = false := by
  rw [dropEndWhile, List.getLast?_reverse]
  exact head?_dropWhile p cs.reverse

theorem sharp_trimList (cs : List Char) : Sharp isBlank (trimList cs) := by
  refine ⟨?_, getLast?_dropEndWhile _ _⟩
  obtain ⟨rest, hrest⟩ : dropEndWhile isBlank (trimStartList cs) <+: trimStartList cs :=
    dropEndWhile_prefix
  have hhead := head?_dropWhile isBlank cs
  cases ht : trimList cs with
  | nil => rfl
  | cons c ds =>
    have hcs : trimStartList cs = c :: (ds ++ rest) := by
      rw [← hrest]
      exact congrArg (· ++ rest) ht
    rw [trimStartList] at hcs
    rw [hcs] at hhead
    exact hhead

theorem dropWhile_of_head? (h : cs.head?.any p = false) : cs.dropWhile p = cs := by
  cases cs with
  | nil => rfl
  | cons c cs =>
    have hc : p c = false := h
    simp [hc]

theorem Sharp.trimList_eq (h : Sharp isBlank cs) : trimList cs = cs := by
  rw [trimList, trimStartList, dropWhile_of_head? h.head]
  exact dropEndWhile_eq_self h.last

theorem Sharp.cons {c : Char} (hc : p c = false) (h : Sharp p cs) : Sharp p (c :: cs) := by
  refine ⟨hc, ?_⟩
  cases cs with
  | nil => exact hc
  | cons d cs =>
    rw [List.getLast?_cons_cons]
    exact h.last

theorem sharp_of_forall (h : ∀ c ∈ cs, p c = false) : Sharp p cs := by
  have hany : ∀ o : Option Char, (∀ c ∈ o, c ∈ cs) → o.any p = false := by
    intro o ho
    cases o with
    | none => rfl
    | some c => exact h c (ho c rfl)
  exact ⟨hany _ fun _ hc => List.mem_of_head? hc, hany _ fun _ hc => List.mem_of_getLast? hc⟩

theorem trimList_trimList (cs : List Char) : trimList (trimList cs) = trimList cs :=
  (sharp_trimList cs).trimList_eq

theorem trim_trim (s : String) : trim (trim s) = trim s := by
  rw [trim, trim, String.toList_ofList, trimList_trimList]

/-- What was in front does not matter. -/
theorem trimList_trimStartList (cs : List Char) : trimList (trimStartList cs) = trimList cs := by
  rw [trimList, trimList, trimStartList, trimStartList, dropWhile_of_head? (head?_dropWhile isBlank cs)]

/-- Blanks around a text do not matter. -/
theorem trimList_padded {before after : List Char} (hbefore : before.all isBlank = true)
    (hafter : after.all isBlank = true) (cs : List Char) : trimList (before ++ cs ++ after) = trimList cs := by
  have hfront : trimStartList (before ++ cs ++ after) = trimStartList (cs ++ after) := by
    rw [trimStartList, trimStartList, List.append_assoc,
      List.dropWhile_append_of_pos (List.all_eq_true.mp hbefore)]
  rw [trimList, trimList, hfront]
  by_cases hall : cs.all isBlank = true
  · -- Nothing is left of either.
    have hnone : ∀ ds : List Char, ds.all isBlank = true → trimStartList ds = [] := fun ds hds =>
      List.dropWhile_eq_nil_iff.mpr (List.all_eq_true.mp hds)
    rw [hnone cs hall, hnone (cs ++ after) (by rw [List.all_append, hall, hafter]; rfl)]
  · have hleft : cs.dropWhile isBlank ≠ [] := by
      rw [Ne, List.dropWhile_eq_nil_iff, ← List.all_eq_true]
      exact hall
    have hstart : trimStartList (cs ++ after) = trimStartList cs ++ after := by
      rw [trimStartList, trimStartList, List.dropWhile_append, if_neg (by simpa using hleft)]
    have hback : ∀ c ∈ after.reverse, isBlank c = true := fun c hc =>
      List.all_eq_true.mp hafter c (List.mem_reverse.mp hc)
    rw [hstart, trimEndList, trimEndList, dropEndWhile, dropEndWhile, List.reverse_append,
      List.dropWhile_append_of_pos hback]

theorem trim_padded {before after : String} (hbefore : isBlankText before = true)
    (hafter : isBlankText after = true) (s : String) : trim (before ++ s ++ after) = trim s := by
  rw [trim, trim, String.toList_append, String.toList_append, trimList_padded hbefore hafter]

theorem Sharp.imp {q : Char → Bool} (h : Sharp p cs) (hpq : ∀ c, q c = true → p c = true) :
    Sharp q cs := by
  have hany : ∀ o : Option Char, o.any p = false → o.any q = false := by
    intro o ho
    cases o with
    | none => rfl
    | some c =>
      have hc : p c = false := ho
      have := hpq c
      simpa [hc] using this
  exact ⟨hany _ h.head, hany _ h.last⟩

theorem Sharp.reverse (h : Sharp p cs) : Sharp p cs.reverse :=
  ⟨by rw [List.head?_reverse]; exact h.last, by rw [List.getLast?_reverse]; exact h.head⟩

/-! ## Pieces of a text -/

/-- A piece with sharp ends stays whole when the beginning of the text is cut. -/
theorem Sharp.infix_dropWhile (h : Sharp p cs) (hin : cs <:+: ds) : cs <:+: ds.dropWhile p := by
  obtain ⟨front, back, rfl⟩ := hin
  rw [List.append_assoc, List.dropWhile_append]
  split
  · cases cs with
    | nil => exact List.nil_infix
    | cons c cs =>
      rw [dropWhile_of_head? (show ((c :: cs) ++ back).head?.any p = false from h.head)]
      exact (List.prefix_append _ _).isInfix
  · exact ⟨front.dropWhile p, back, by rw [List.append_assoc]⟩

theorem Sharp.infix_dropEndWhile (h : Sharp p cs) (hin : cs <:+: ds) :
    cs <:+: dropEndWhile p ds := by
  have hrev := h.reverse.infix_dropWhile (List.reverse_infix.mpr hin)
  rw [dropEndWhile, ← List.reverse_infix, List.reverse_reverse]
  exact hrev

theorem Sharp.infix_trimList (h : Sharp isBlank cs) (hin : cs <:+: ds) : cs <:+: trimList ds :=
  h.infix_dropEndWhile (h.infix_dropWhile hin)

theorem trimList_isInfix (cs : List Char) : trimList cs <:+: cs :=
  dropEndWhile_prefix.isInfix.trans (List.dropWhile_suffix _).isInfix

/-- Ends that are sharp stay so, if what comes of a character has sharp ends. -/
theorem Sharp.flatMap {q : Char → Bool} {f : Char → List Char} (h : Sharp p cs)
    (hf : ∀ c, p c = false → f c ≠ [] ∧ Sharp q (f c)) : Sharp q (cs.flatMap f) := by
  constructor
  · cases cs with
    | nil => rfl
    | cons c cs =>
      obtain ⟨hne, hsharp⟩ := hf c h.head
      obtain ⟨d, ds, hd⟩ := List.exists_cons_of_ne_nil hne
      have hhead := hsharp.head
      rw [hd] at hhead
      rw [List.flatMap_cons, hd]
      exact hhead
  · rcases List.eq_nil_or_concat cs with rfl | ⟨cs, c, rfl⟩
    · rfl
    · obtain ⟨hne, hsharp⟩ := hf c (by simpa using h.last)
      obtain ⟨last, hlast⟩ := Option.isSome_iff_exists.mp (List.getLast?_isSome.mpr hne)
      have hend := hsharp.last
      rw [hlast] at hend
      rw [List.concat_eq_append, List.flatMap_append, List.flatMap_singleton, List.getLast?_append,
        hlast]
      exact hend

/-! ## Collapsing -/

/-- Whether a run of blanks is going on behind a text, and before it if the text is empty. -/
def runAfter (inRun : Bool) (cs : List Char) : Bool := cs.foldl (fun _ c => isBlank c) inRun

theorem runAfter_append (inRun : Bool) (cs ds : List Char) :
    runAfter inRun (cs ++ ds) = runAfter (runAfter inRun cs) ds := List.foldl_append

/-- The last character tells. -/
theorem runAfter_of_getLast? {c : Char} (h : cs.getLast? = some c) (inRun : Bool) :
    runAfter inRun cs = isBlank c := by
  obtain ⟨front, rfl⟩ := List.getLast?_eq_some_iff.mp h
  rw [runAfter_append]
  rfl

theorem collapseFrom_append (inRun : Bool) (cs ds : List Char) :
    collapseFrom inRun (cs ++ ds) = collapseFrom inRun cs ++ collapseFrom (runAfter inRun cs) ds := by
  induction cs generalizing inRun with
  | nil => rfl
  | cons c cs ih =>
    have hrun : runAfter inRun (c :: cs) = runAfter (isBlank c) cs := rfl
    rw [List.cons_append, collapseFrom, collapseFrom, hrun]
    cases isBlank c with
    | false => exact congrArg (c :: ·) (ih false)
    | true =>
      cases inRun with
      | false => exact congrArg (' ' :: ·) (ih true)
      | true => exact ih true

/-- Whether a text begins in a run of blanks does not matter once it is trimmed. -/
theorem trimList_collapseFrom (inRun : Bool) (cs : List Char) :
    trimList (collapseFrom inRun cs) = trimList (collapseFrom false cs) := by
  cases inRun with
  | false => rfl
  | true =>
    cases cs with
    | nil => rfl
    | cons c cs =>
      rw [collapseFrom, collapseFrom]
      split
      · have hspace : isBlank ' ' = true := rfl
        simp [trimList, trimStartList, hspace]
      · rfl

/-- What a piece of a text is collapsed to, without its ends, is a piece of what the text is collapsed
to. -/
theorem trimList_collapse_isInfix (front cs back : List Char) :
    trimList (collapseFrom false cs) <:+: trimList (collapseFrom false (front ++ cs ++ back)) := by
  refine (sharp_trimList _).infix_trimList ?_
  rw [List.append_assoc, collapseFrom_append, collapseFrom_append, ← trimList_collapseFrom (runAfter false front)]
  refine (trimList_isInfix _).trans ?_
  exact ⟨collapseFrom false front, _, by rw [List.append_assoc]⟩

/-! ## Characters of ASCII -/

/-- What a function does to the characters of a class of ASCII is told by their codes. -/
theorem of_ascii {f : Char → Char} {p q : Char → Bool} (hp : ∀ c, p c → c.toNat < 128)
    (h : ∀ n ∈ List.range 128, p (Char.ofNat n) → q (f (Char.ofNat n))) {c : Char}
    (hc : p c) : q (f c) := by
  have := h c.toNat (List.mem_range.mpr (hp c hc))
  rw [Char.ofNat_toNat] at this
  exact this hc

/-! ## Lower case -/

theorem toLower_of_not_upper {c : Char} (h : ¬ (c.val ≥ 'A'.val ∧ c.val ≤ 'Z'.val)) :
    c.toLower = c := dif_neg h

/-- What holds of a character that stays and of every character with a small code holds of all: letters have a
small code, and only they change. -/
theorem forall_toLower (P : Char → Char → Prop) (hsame : ∀ c, P c c)
    (hsmall : ∀ n ∈ List.range 128, P (Char.ofNat n) (Char.ofNat n).toLower) (c : Char) : P c c.toLower := by
  by_cases h : c.val ≥ 'A'.val ∧ c.val ≤ 'Z'.val
  · have hlt : c.toNat < 128 := by
      have hle : c.val.toNat ≤ 90 := UInt32.le_iff_toNat_le.mp h.2
      have : c.toNat = c.val.toNat := rfl
      omega
    have hc := hsmall c.toNat (List.mem_range.mpr hlt)
    rwa [Char.ofNat_toNat] at hc
  · rw [toLower_of_not_upper h]
    exact hsame c

theorem isBlank_toLower (c : Char) : isBlank c.toLower = isBlank c :=
  forall_toLower (fun c d => isBlank d = isBlank c) (fun _ => rfl) (by decide +kernel) c

theorem trimList_map_toLower (cs : List Char) :
    trimList (cs.map Char.toLower) = (trimList cs).map Char.toLower := by
  have hsame : isBlank ∘ Char.toLower = isBlank := funext isBlank_toLower
  rw [trimList, trimList, trimEndList, trimEndList, dropEndWhile, dropEndWhile, trimStartList,
    trimStartList, List.dropWhile_map, hsame, ← List.map_reverse, List.dropWhile_map, hsame,
    ← List.map_reverse]

theorem toList_lower (s : String) : (lower s).toList = s.toList.map Char.toLower := String.toList_map

theorem lower_trim (s : String) : lower (trim s) = trim (lower s) := by
  apply String.toList_inj.mp
  rw [toList_lower, trim, trim, String.toList_ofList, String.toList_ofList, toList_lower,
    trimList_map_toLower]

/-- An attribute that is not blank has no blanks at its ends, and is not empty. -/
theorem nonBlank?_eq_some {s t : String} (h : nonBlank? s = some t) :
    trim t = t ∧ t.isEmpty = false := by
  rw [nonBlank?] at h
  split at h
  · cases h
  · next hne =>
    obtain rfl := Option.some.inj h
    exact ⟨trim_trim s, by simpa using hne⟩

/-- With a mark in front it is still an attribute with no blanks at its ends. -/
theorem nonBlank?_marked {s t : String} {mark : Char} (hmark : isBlank mark = false)
    (h : nonBlank? s = some t) : nonBlank? (String.singleton mark ++ t) = some (String.singleton mark ++ t) := by
  have hsharp : Sharp isBlank t.toList := by
    rw [← (nonBlank?_eq_some h).1, trim, String.toList_ofList]
    exact sharp_trimList t.toList
  have htrim : trim (String.singleton mark ++ t) = String.singleton mark ++ t := by
    rw [← String.toList_inj, trim, String.toList_ofList, String.toList_append, String.toList_singleton]
    exact (hsharp.cons hmark).trimList_eq
  have hsome : (String.singleton mark ++ t).isEmpty = false := by
    simp [← String.toList_inj]
  rw [nonBlank?, htrim, hsome]
  rfl

end MarkupTex.Text
