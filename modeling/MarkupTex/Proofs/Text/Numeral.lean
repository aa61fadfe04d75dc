import Mathlib.Data.List.Induction
import Mathlib.Data.Nat.Digits.Defs
import MarkupTex.Text.Numeral
import MarkupTex.Proofs.Text.Trim
/-!
# Numerals and what they denote

A text writes a number if it is a decimal numeral of it, of any length, with blanks around it and perhaps a
plus sign in front.  What is read as a positive whole number of 64 bits is such a text, and the number is the
one that it writes; a text that writes a larger number is not read at all (`int64?_trim_eq_some_iff`).
-/

set_option autoImplicit false

namespace MarkupTex.Text

variable {cs : List Char} {n : Nat}

/-- What a digit stands for. -/
def digitValue (c : Char) : Nat := c.toNat - '0'.toNat

/-- A row of decimal digits, the first one the most significant. -/
structure IsNumeral (cs : List Char) (n : Nat) : Prop where
  nonempty : cs ≠ []
  digits : ∀ c ∈ cs, c.isDigit = true
  value : Nat.ofDigits 10 (cs.reverse.map digitValue) = n

/-- The text is a numeral of the number, perhaps with a plus sign, and blanks around. -/
def Writes (s : String) (n : Nat) : Prop :=
  ∃ before sign digits after : List Char, s.toList = before ++ (sign ++ digits) ++ after ∧
    before.all isBlank = true ∧ after.all isBlank = true ∧ (sign = [] ∨ sign = ['+']) ∧
    IsNumeral digits n

/-! ## Digits -/

theorem natOfDigits_eq (cs : List Char) :
    natOfDigits cs = Nat.ofDigits 10 (cs.reverse.map digitValue) := by
  induction cs using List.reverseRecOn with
  | nil => rfl
  | append_singleton cs c ih =>
    rw [List.reverse_append, List.reverse_singleton, List.singleton_append, List.map_cons,
      Nat.ofDigits_cons, ← ih, natOfDigits, List.foldl_append, ← natOfDigits]
    exact Nat.add_comm _ _

theorem digits?_eq_some_iff : digits? cs = some n ↔ IsNumeral cs n := by
  rw [digits?]
  constructor
  · intro h
    split at h
    · cases h
    · next hdigits =>
      simp only [Bool.or_eq_true, List.isEmpty_iff, Bool.not_eq_true', not_or,
        Bool.not_eq_false, List.all_eq_true] at hdigits
      cases h
      exact ⟨hdigits.1, hdigits.2, (natOfDigits_eq cs).symm⟩
  · rintro ⟨hne, hdigits, hvalue⟩
    have hall : cs.all Char.isDigit = true := List.all_eq_true.mpr hdigits
    rw [if_neg (by simp [hne, hall]), natOfDigits_eq, hvalue]

/-- Neither a sign nor a blank is a digit. -/
theorem isDigit_apart {c : Char} (h : c.isDigit = true) : c ≠ '+' ∧ c ≠ '-' ∧ isBlank c = false := by
  refine ⟨?_, ?_, ?_⟩
  · rintro rfl
    revert h
    decide
  · rintro rfl
    revert h
    decide
  · have hrange : 48 ≤ c.toNat ∧ c.toNat ≤ 57 := by
      simp only [Char.isDigit, Bool.and_eq_true, decide_eq_true_eq, ge_iff_le, UInt32.le_iff_toNat_le] at h
      exact h
    simp only [isBlank, blankRanges, List.any_cons, List.any_nil, Bool.or_false, Bool.or_eq_false_iff,
      Bool.and_eq_false_iff, decide_eq_false_iff_not]
    omega

/-! ## Signs -/

/-- Digits alone are read as they are. -/
theorem integerList?_numeral (h : IsNumeral cs n) : integerList? cs = some (n : Int) := by
  obtain ⟨c, ds, rfl⟩ := List.exists_cons_of_ne_nil h.nonempty
  obtain ⟨hplus, hminus, -⟩ := isDigit_apart (h.digits c List.mem_cons_self)
  rw [integerList?, digits?_eq_some_iff.mpr h]
  · rfl
  · exact fun _ hc => hplus (List.cons.inj hc).1
  · exact fun _ hc => hminus (List.cons.inj hc).1

/-- A positive number has a numeral, perhaps with a plus sign in front. -/
theorem integerList?_eq_some_iff (hn : 1 ≤ n) :
    integerList? cs = some (n : Int) ↔
      ∃ sign digits, cs = sign ++ digits ∧ (sign = [] ∨ sign = ['+']) ∧ IsNumeral digits n := by
  constructor
  · intro h
    rw [integerList?.eq_def] at h
    split at h
    · next digits => exact ⟨['+'], digits, rfl, .inr rfl, digits?_eq_some_iff.mp (by simpa [Option.bind_eq_some_iff] using h)⟩
    · simp only [Option.pure_def, Option.bind_eq_bind, Option.map_bind, Option.bind_eq_some_iff] at h
      obtain ⟨m, -, hcast⟩ := h
      have hneg : -(m : Int) = n := Option.some.inj hcast
      omega
    · exact ⟨[], cs, rfl, .inl rfl, digits?_eq_some_iff.mp (by simpa [Option.bind_eq_some_iff] using h)⟩
  · rintro ⟨sign, digits, rfl, rfl | rfl, hdigits⟩
    · exact integerList?_numeral hdigits
    · rw [List.singleton_append, integerList?, digits?_eq_some_iff.mpr hdigits]
      rfl

/-! ## Blanks -/

/-- A text is what is left of it when it is trimmed, between blanks. -/
theorem exists_padding (cs : List Char) :
    ∃ before after, cs = before ++ trimList cs ++ after ∧ before.all isBlank = true ∧
      after.all isBlank = true := by
  have hfront : cs.takeWhile isBlank ++ trimStartList cs = cs := List.takeWhile_append_dropWhile
  obtain ⟨after, hafter, hblank⟩ : ∃ after, trimStartList cs = trimList cs ++ after ∧
      after.all isBlank = true := by
    refine ⟨((trimStartList cs).reverse.takeWhile isBlank).reverse, ?_, ?_⟩
    · rw [trimList, trimEndList, dropEndWhile, ← List.reverse_append, List.takeWhile_append_dropWhile,
        List.reverse_reverse]
    · rw [List.all_reverse]
      exact List.all_takeWhile
  refine ⟨cs.takeWhile isBlank, after, ?_, List.all_takeWhile, hblank⟩
  rw [List.append_assoc, ← hafter, hfront]

/-- A numeral is not touched when it is trimmed, and neither is its sign. -/
theorem sharp_numeral {sign : List Char} (hsign : sign = [] ∨ sign = ['+']) (h : IsNumeral cs n) :
    Sharp isBlank (sign ++ cs) := by
  refine sharp_of_forall fun c hc => ?_
  rcases List.mem_append.mp hc with hc | hc
  · rcases hsign with rfl | rfl
    · cases hc
    · obtain rfl := List.mem_singleton.mp hc
      rfl
  · exact (isDigit_apart (h.digits c hc)).2.2

theorem integerList?_trim_iff {s : String} (hn : 1 ≤ n) :
    integerList? (trim s).toList = some (n : Int) ↔ Writes s n := by
  rw [trim, String.toList_ofList, integerList?_eq_some_iff hn]
  constructor
  · rintro ⟨sign, digits, htrim, hsign, hdigits⟩
    obtain ⟨before, after, hs, hbefore, hafter⟩ := exists_padding s.toList
    rw [htrim] at hs
    exact ⟨before, sign, digits, after, hs, hbefore, hafter, hsign, hdigits⟩
  · rintro ⟨before, sign, digits, after, hs, hbefore, hafter, hsign, hdigits⟩
    refine ⟨sign, digits, ?_, hsign, hdigits⟩
    rw [hs, trimList_padded hbefore hafter, (sharp_numeral hsign hdigits).trimList_eq]

/-- A positive number is read from the texts that write it, if it is one of 64 bits. -/
theorem int64?_trim_eq_some_iff {s : String} (hn : 1 ≤ n) :
    int64? (trim s) = some (n : Int) ↔ Writes s n ∧ n ≤ 9223372036854775807 := by
  rw [int64?, integerBetween?, Option.filter_eq_some_iff, integerList?_trim_iff hn]
  simp only [Bool.and_eq_true, decide_eq_true_eq]
  refine and_congr_right fun _ => ⟨fun h => by omega, fun h => by omega⟩

/-- A text writes one number at most. -/
theorem Writes.unique {s : String} {m : Nat} (h : Writes s n) (h' : Writes s m) (hn : 1 ≤ n) (hm : 1 ≤ m) :
    m = n := by
  have hread := (integerList?_trim_iff hn).mpr h
  rw [(integerList?_trim_iff hm).mpr h'] at hread
  exact_mod_cast Option.some.inj hread

end MarkupTex.Text
