import MarkupTex.Proofs.Latex.Occurrence
import MarkupTex.Proofs.Latex.Values
/-!
# Rows that set nothing apart

A row is quiet if no letters are set apart in it, and calm if it is quiet and neither opens nor closes
anything at the depth of an argument in brackets.  Most of what a conversion writes is calm.

Foreign text is quiet, and calm unless it has a closing bracket, for which there is no escape.
-/

set_option autoImplicit false

namespace MarkupTex.Latex

open Token

/-- A regular token that sets nothing apart. -/
def Token.isQuiet (t : Token) : Bool := t.isRegular && !t.isEmphasis

/-- A row of quiet tokens that comes back to the depth where it begins. -/
def calm (ts : List Token) : Bool := ts.all isQuiet && depthAfter 0 ts == some 0

variable {a b ts : List Token} {w : String} {c : Char} {cs : List Char} {d : Nat}

theorem regular_of_quiet (h : ts.all isQuiet) : ts.all isRegular :=
  List.all_eq_true.mpr fun t ht => by
    have := List.all_eq_true.mp h t ht
    simp only [isQuiet, Bool.and_eq_true] at this
    exact this.1

theorem count_of_quiet (hw : w ∈ emphasisWords) (h : ts.all isQuiet) : ts.count (word w) = 0 := by
  refine List.count_eq_zero.mpr fun hmem => ?_
  have := List.all_eq_true.mp h _ hmem
  simp [isQuiet, isEmphasis, hw] at this

theorem quiet_of_calm (h : calm ts) : ts.all isQuiet := by
  simp only [calm, Bool.and_eq_true] at h
  exact h.1

/-- A calm row counts for nothing at any depth. -/
theorem depthAfter_of_calm (h : calm ts) (d : Nat) : depthAfter d ts = some d := by
  simp only [calm, Bool.and_eq_true, beq_iff_eq] at h
  exact depthAfter_of_zero h.2 d

theorem calm_append (ha : calm a) (hb : calm b) : calm (a ++ b) := by
  have hdepth := depthAfter_of_calm hb
  simp only [calm, Bool.and_eq_true, beq_iff_eq] at ha hb ⊢
  rw [List.all_append, ha.1, hb.1, depthAfter_append, ha.2, Option.bind_some, hdepth]
  exact ⟨rfl, rfl⟩

/-! ## Foreign text -/

theorem quiet_chars (h : cs.all isInert) : (chars cs).all isQuiet := by
  rw [chars, List.all_map, List.all_eq_true]
  intro c hc
  have hinert := List.all_eq_true.mp h c hc
  simp [isQuiet, isRegular, isEmphasis, known, hinert]

theorem quiet_spaces (n : Nat) : (List.replicate n (char ' ')).all isQuiet := by
  rw [List.all_replicate]
  split <;> rfl

theorem inert_of_plain (h : cs.all isPlain) : cs.all isInert :=
  List.all_eq_true.mpr fun c hc => by
    have := List.all_eq_true.mp h c hc
    simp only [isPlain, Bool.and_eq_true] at this
    exact this.1

theorem quiet_of_fluent (h : fluent ts) (hplain : ts.all fun t => !t.isEmphasis) :
    ts.all isQuiet :=
  List.all_eq_true.mpr fun t ht => by
    have hregular := List.all_eq_true.mp (regular_of_fluent h) t ht
    have hnone := List.all_eq_true.mp hplain t ht
    rw [isQuiet, hregular, hnone]
    rfl

theorem quiet_flatMap {f : Char → List Token} (hf : ∀ c, (f c).all isQuiet) (cs : List Char) :
    (cs.flatMap f).all isQuiet := by
  rw [List.all_flatMap, List.all_eq_true]
  exact fun c _ => hf c

theorem quiet_text (cs : List Char) : (cs.flatMap textTokens).all isQuiet := by
  refine quiet_flatMap (fun c => quiet_of_fluent (fluent_textTokens c) ?_) cs
  unfold textTokens
  repeat' split
  all_goals rfl

theorem quiet_path (cs : List Char) : (cs.flatMap pathTokens).all isQuiet := by
  refine quiet_flatMap (fun c => quiet_of_fluent (fluent_pathTokens c) ?_) cs
  unfold pathTokens
  repeat' split
  all_goals rfl

theorem quiet_url (cs : List Char) : (cs.flatMap urlTokens).all isQuiet := by
  refine quiet_flatMap (fun c => quiet_of_fluent (fluent_urlTokens c) ?_) cs
  unfold urlTokens
  repeat' split
  all_goals rfl

/-- A bracket counts only where no brace is around it. -/
theorem depthAfter_text (h : ']' ∈ cs → 0 < d) : depthAfter d (cs.flatMap textTokens) = some d :=
  depthAfter_flatMap fun _ hc => depthAfter_textTokens fun he => h (he ▸ hc)

theorem depthAfter_path (h : ']' ∈ cs → 0 < d) : depthAfter d (cs.flatMap pathTokens) = some d :=
  depthAfter_flatMap fun _ hc => depthAfter_pathTokens fun he => h (he ▸ hc)

theorem depthAfter_url (h : ']' ∈ cs → 0 < d) : depthAfter d (cs.flatMap urlTokens) = some d :=
  depthAfter_flatMap fun _ hc => depthAfter_urlTokens fun he => h (he ▸ hc)

/-- A name in braces, whatever it is. -/
theorem calm_braced (h : ts.all isQuiet) (hdepth : depthAfter 1 ts = some 1) :
    calm ([opening] ++ ts ++ [closing]) := by
  have hquiet : ([opening] ++ ts ++ [closing]).all isQuiet := by
    rw [List.all_append, List.all_append, h]
    rfl
  rw [calm, hquiet, depthAfter_append, depthAfter_append]
  simp [depthAfter, Token.depth, hdepth]

/-! ## Sizes of letters -/

/-- A switch for the size of letters sets nothing apart, and in a group it counts for nothing. -/
def Sized (switch : String) : Prop :=
  ∃ ts, switch.toList = spell ts ∧ ts.all isQuiet ∧ depthAfter 1 ts = some 1

theorem IsSize.sized {switch : String} (h : IsSize switch) : Sized switch := by
  obtain ⟨ts, hs, hrow⟩ := h
  cases hrow with
  | keyword hw =>
    have hquiet : ∀ w ∈ sizeWords, [word w].all isQuiet ∧ depthAfter 1 [word w] = some 1 := by decide
    exact ⟨_, hs, hquiet _ hw⟩
  | points x =>
    have hnumber : ∀ x, (chars (formatNumber x).toList).all isQuiet := fun x =>
      quiet_chars (inert_of_plain (all_isPlain_formatNumber x))
    refine ⟨_, hs, ?_, ?_⟩
    · simp only [List.all_append, hnumber]
      rfl
    · simp [depthAfter_append, depthAfter, Token.depth, depthAfter_chars]

end MarkupTex.Latex
