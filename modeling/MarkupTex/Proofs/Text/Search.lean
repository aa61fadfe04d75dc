import Mathlib.Data.List.Infix
import MarkupTex.Text.Blank
import MarkupTex.Text.Search
/-!
# Where a piece is found

A search cuts a text in three: what is before the piece, the piece, and what is behind it.  That it is the first
occurrence is said by what is before: the piece is not in there, not even if all but its last character is added.

A piece without blanks does not reach from one word into the next, so where a text has it, a word of the text
has it.
-/

set_option autoImplicit false

namespace MarkupTex.Text

variable {piece cs before after word : List Char} {sep : Char}

/-! ## The first occurrence -/

theorem splitFirst_cons_of_first {c : Char} (h : piece <+: c :: cs) :
    splitFirst piece (c :: cs) = some ([], (c :: cs).drop piece.length) := by
  rw [splitFirst, if_pos (List.isPrefixOf_iff_prefix.mpr h)]

theorem splitFirst_cons_of_later {c : Char} (h : ¬ piece <+: c :: cs) :
    splitFirst piece (c :: cs) = (splitFirst piece cs).map fun (before, after) => (c :: before, after) := by
  rw [splitFirst, if_neg (mt List.isPrefixOf_iff_prefix.mp h)]

theorem splitFirst_eq_none (hpiece : piece ≠ []) : splitFirst piece cs = none ↔ ¬ piece <:+: cs := by
  induction cs with
  | nil => simp [splitFirst, hpiece]
  | cons c cs ih =>
    rw [List.infix_cons_iff]
    by_cases h : piece <+: c :: cs
    · simp [splitFirst_cons_of_first h, h]
    · simp [splitFirst_cons_of_later h, h, ih]

theorem exists_splitFirst (hpiece : piece ≠ []) (h : piece <:+: cs) :
    ∃ before after, splitFirst piece cs = some (before, after) := by
  cases hsplit : splitFirst piece cs with
  | none => exact absurd h ((splitFirst_eq_none hpiece).mp hsplit)
  | some parts => exact ⟨parts.1, parts.2, rfl⟩

/-- What is before the first occurrence, if one begins the text. -/
theorem before_eq_nil_of_first {c : Char} (hpiece : piece ≠ []) (h : piece <+: c :: cs)
    (hcs : c :: cs = before ++ piece ++ after) (hfirst : ¬ piece <:+: before ++ piece.dropLast) :
    before = [] := by
  cases before with
  | nil => rfl
  | cons b before =>
    have hpos := List.length_pos_iff.mpr hpiece
    have hshort : (b :: before) ++ piece.dropLast <+: c :: cs := by
      rw [hcs]
      exact ((List.prefix_append_right_inj _).mpr piece.dropLast_prefix).trans (List.prefix_append _ _)
    have hlength : piece.length ≤ ((b :: before) ++ piece.dropLast).length := by
      simp only [List.length_append, List.length_cons, List.length_dropLast]
      omega
    exact absurd (List.prefix_of_prefix_length_le h hshort hlength).isInfix hfirst

theorem splitFirst_eq_some (hpiece : piece ≠ []) :
    splitFirst piece cs = some (before, after) ↔
      cs = before ++ piece ++ after ∧ ¬ piece <:+: before ++ piece.dropLast := by
  have hnot : ¬ piece <:+: piece.dropLast := by
    intro h
    have hle := h.length_le
    have hpos := List.length_pos_iff.mpr hpiece
    rw [List.length_dropLast] at hle
    omega
  induction cs generalizing before with
  | nil => simp [splitFirst, hpiece]
  | cons c cs ih =>
    by_cases h : piece <+: c :: cs
    · obtain ⟨rest, hrest⟩ := h
      rw [splitFirst_cons_of_first ⟨rest, hrest⟩, ← hrest, List.drop_left]
      constructor
      · intro heq
        obtain ⟨rfl, rfl⟩ : [] = before ∧ rest = after := by simpa using heq
        exact ⟨rfl, hnot⟩
      · rintro ⟨hcs, hfirst⟩
        obtain rfl := before_eq_nil_of_first hpiece ⟨rest, hrest⟩ (hrest ▸ hcs) hfirst
        obtain rfl : rest = after := List.append_cancel_left hcs
        rfl
    · rw [splitFirst_cons_of_later h, Option.map_eq_some_iff]
      constructor
      · rintro ⟨⟨front, rest⟩, hsplit, heq⟩
        obtain ⟨rfl, rfl⟩ : c :: front = before ∧ rest = after := by simpa using heq
        obtain ⟨rfl, hfirst⟩ := ih.mp hsplit
        refine ⟨rfl, fun hin => ?_⟩
        rw [List.cons_append, List.infix_cons_iff] at hin
        refine hin.elim (fun hpre => h (hpre.trans ?_)) hfirst
        rw [List.append_assoc, List.prefix_cons_inj, List.prefix_append_right_inj]
        exact piece.dropLast_prefix.trans (List.prefix_append _ _)
      · rintro ⟨hcs, hfirst⟩
        cases before with
        | nil => exact absurd ⟨after, hcs.symm⟩ h
        | cons b front =>
          obtain ⟨rfl, rfl⟩ : c = b ∧ cs = front ++ piece ++ after := by simpa using hcs
          exact ⟨(front, after), ih.mpr ⟨rfl, fun hin => hfirst (List.infix_cons hin)⟩, rfl⟩

/-- A separator is a piece of one character. -/
theorem splitAtChar_eq_splitFirst (sep : Char) (cs : List Char) : splitAtChar sep cs = splitFirst [sep] cs := by
  induction cs with
  | nil => rfl
  | cons c cs ih =>
    by_cases h : c = sep
    · simp [splitAtChar, splitFirst, h]
    · simp [splitAtChar, splitFirst, h, Ne.symm h, ih]

theorem splitAtChar_eq_some :
    splitAtChar sep cs = some (before, after) ↔ cs = before ++ sep :: after ∧ sep ∉ before := by
  rw [splitAtChar_eq_splitFirst, splitFirst_eq_some (List.cons_ne_nil _ _), List.append_assoc]
  simp [List.singleton_infix_iff]

/-! ## Words -/

theorem not_isBlank_of_mem_wordsFrom (hword : ∀ c ∈ word, isBlank c = false) {w : List Char}
    (hw : w ∈ wordsFrom word cs) : ∀ c ∈ w, isBlank c = false := by
  induction cs generalizing word with
  | nil =>
    rw [wordsFrom] at hw
    split at hw
    · cases hw
    · obtain rfl := List.mem_singleton.mp hw
      exact fun c hc => hword c (List.mem_reverse.mp hc)
  | cons c cs ih =>
    have hnil : ∀ c ∈ ([] : List Char), isBlank c = false := fun _ h => absurd h List.not_mem_nil
    rw [wordsFrom] at hw
    split at hw
    · split at hw
      · exact ih hnil hw
      · rcases List.mem_cons.mp hw with rfl | hw
        · exact fun c hc => hword c (List.mem_reverse.mp hc)
        · exact ih hnil hw
    · next hblank => exact ih (List.forall_mem_cons.mpr ⟨by simpa using hblank, hword⟩) hw

/-- A word that has been begun is read on from there. -/
theorem exists_mem_wordsFrom (hword : word ≠ []) (cs : List Char) :
    ∃ rest, rest <+: cs ∧ word.reverse ++ rest ∈ wordsFrom word cs := by
  induction cs generalizing word with
  | nil => exact ⟨[], List.nil_prefix, by simp [wordsFrom, hword]⟩
  | cons c cs ih =>
    rw [wordsFrom]
    split
    · exact ⟨[], List.nil_prefix, by simp [hword]⟩
    · obtain ⟨rest, hrest, hmem⟩ := ih (List.cons_ne_nil c word)
      exact ⟨c :: rest, List.cons_prefix_cons.mpr ⟨rfl, hrest⟩, by simpa using hmem⟩

theorem wordsFrom_append (hpiece : ∀ c ∈ piece, isBlank c = false) (word cs : List Char) :
    wordsFrom word (piece ++ cs) = wordsFrom (piece.reverse ++ word) cs := by
  induction piece generalizing word with
  | nil => rfl
  | cons c piece ih =>
    obtain ⟨hc, hrest⟩ := List.forall_mem_cons.mp hpiece
    rw [List.cons_append, wordsFrom, if_neg (by simp [hc]), ih hrest]
    simp

/-- Where a text has a piece without blanks, a word of the text has it, and goes on as the text does. -/
theorem exists_word_of_append (hpiece : ∀ c ∈ piece, isBlank c = false) (hne : piece ≠ [])
    (word before after : List Char) :
    ∃ front back, front ++ piece ++ back ∈ wordsFrom word (before ++ piece ++ after) ∧ back <+: after := by
  induction before generalizing word with
  | nil =>
    obtain ⟨back, hback, hmem⟩ :=
      exists_mem_wordsFrom (List.append_ne_nil_of_left_ne_nil (List.reverse_ne_nil_iff.mpr hne) word) after
    refine ⟨word.reverse, back, ?_, hback⟩
    rw [List.nil_append, wordsFrom_append hpiece]
    simpa using hmem
  | cons c before ih =>
    rw [List.cons_append, List.cons_append, wordsFrom]
    split
    · obtain ⟨front, back, hmem, hback⟩ := ih []
      refine ⟨front, back, ?_, hback⟩
      split
      · exact hmem
      · exact List.mem_cons_of_mem _ hmem
    · exact ih (c :: word)

end MarkupTex.Text
