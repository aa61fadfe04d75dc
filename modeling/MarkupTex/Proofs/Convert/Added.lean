import MarkupTex.Proofs.Convert.Effects
import MarkupTex.Proofs.Latex.Depth
import MarkupTex.Proofs.Text.Trim
/-!
# Rows behind the output

Spaces at the end of the output may be cut off before more is written.  `Added ts c c'` says that the row
`ts` came behind what is left of the output without them.  Such rows can be put together, so that what a
handler writes, or a whole visit, is one row of tokens.
-/

set_option autoImplicit false

namespace MarkupTex

/-- What is cut off from the end are spaces. -/
theorem Text.exists_spaces (cs : List Char) :
    ∃ n, cs = dropEndWhile (· = ' ') cs ++ List.replicate n ' ' := by
  refine ⟨(cs.reverse.takeWhile (· = ' ')).length, ?_⟩
  have hspaces : cs.reverse.takeWhile (· = ' ') =
      List.replicate (cs.reverse.takeWhile (· = ' ')).length ' ' :=
    List.eq_replicate_iff.mpr ⟨rfl, fun c hc => by
      simpa using List.all_eq_true.mp List.all_takeWhile c hc⟩
  have hsplit := List.takeWhile_append_dropWhile (p := (· = ' ')) (l := cs.reverse)
  rw [dropEndWhile, ← List.reverse_replicate, ← hspaces, ← List.reverse_append, hsplit,
    List.reverse_reverse]

namespace Convert

open Latex Token

variable {a b ts : List Token} {c c' c₁ c₂ : Converter}

/-- The output without spaces at its end. -/
def leftOf (c : Converter) : List Char := Text.dropEndWhile (· = ' ') c.output

/-- The row came behind what is left of the output. -/
structure Added (ts : List Token) (c c' : Converter) : Prop where
  regular : ts.all isRegular
  output : c'.output = leftOf c ++ spell ts

namespace Added

/-- The spaces at the end count as added. -/
theorem of_wrote (h : Wrote ts c c') (hts : ts.all isRegular) :
    ∃ n, Added (List.replicate n (char ' ') ++ ts) c c' := by
  obtain ⟨n, hn⟩ := Text.exists_spaces c.output
  have hspaces : (List.replicate n (char ' ')).all isRegular = true := by
    rw [List.all_replicate]
    split <;> rfl
  refine ⟨n, by rw [List.all_append, hspaces, hts]; rfl, ?_⟩
  have hspell : spell (List.replicate n (char ' ')) = List.replicate n ' ' := by
    rw [← List.map_replicate]
    exact spell_chars _
  rw [h.output, spell_append, hspell, ← List.append_assoc]
  exact congrArg (· ++ spell ts) hn

theorem of_output (h : c'.output = c.output) : ∃ n, Added (List.replicate n (char ' ')) c c' := by
  obtain ⟨n, hn⟩ := of_wrote (Wrote.nil (c := c)) rfl
  rw [List.append_nil] at hn
  exact ⟨n, hn.regular, h.trans hn.output⟩

theorem trim : Added [] c { c with buffer := c.buffer.trimSpaces } :=
  ⟨rfl, (Buffer.toList_trimSpaces c.buffer).trans (List.append_nil _).symm⟩

theorem getLast?_leftOf (c : Converter) : (leftOf c).getLast? ≠ some ' ' := by
  have hlast := Text.getLast?_dropEndWhile (· = ' ') c.output
  intro h
  rw [leftOf] at h
  simp [h] at hlast

theorem trans (h : Added a c c₁) (h' : Added b c₁ c₂) : Added (trimmed a ++ b) c c₂ := by
  refine ⟨?_, ?_⟩
  · rw [List.all_append, trimmed_all h.regular, h'.regular]
    rfl
  · rw [h'.output, leftOf, h.output, Text.dropSpaces_append (getLast?_leftOf c),
      dropSpaces_spell (all_known_of_regular h.regular ""), spell_append, List.append_assoc]

end Added

end Convert

end MarkupTex
