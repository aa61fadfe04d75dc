import MarkupTex.Proofs.Latex.Depth
/-!
# Commands that set letters apart

How often a command for bold, italic or underlined letters comes up in a text can be told from the tokens
of the text: no other command begins like one of these, and none of these can come about where two tokens
meet.
-/

set_option autoImplicit false

namespace MarkupTex

/-- How often a text comes up in another one. -/
def Text.occurrences (mark : List Char) : List Char → Nat
  | [] => 0
  | c :: cs => (if mark.isPrefixOf (c :: cs) then 1 else 0) + occurrences mark cs

namespace Latex

open Token

/-- The words that set letters apart: commands with an argument, and declarations. -/
def emphasisWords : List String := ["textbf", "bfseries", "textit", "itshape", "underline"]

/-- The token sets letters apart. -/
def Token.isEmphasis : Token → Bool
  | word name => emphasisWords.contains name
  | _ => false

variable {w : String} {t : Token} {ts : List Token} {cs rest : List Char}

theorem emphasisWords_apart : ∀ w ∈ emphasisWords, ∀ n ∈ controlWords, n ≠ w →
    Apart w.toList n.toList := by
  have hknown : ∀ w ∈ emphasisWords, w ∈ controlWords := by decide
  have hread : ∀ w ∈ emphasisWords, ∀ n ∈ controlWords, n ≠ w →
      Apart (Text.byteChars w) (Text.byteChars n) := by decide
  intro w hw n hn
  rw [toList_controlWord (hknown w hw), toList_controlWord hn]
  exact hread w hw n hn

theorem emphasisWords_symbols : ∀ w ∈ emphasisWords, ∀ c ∈ ['\n', ' ', '\\'] ++ escapedSymbols,
    Apart w.toList [c] := by
  decide

theorem emphasisWords_marks : ∀ w ∈ emphasisWords, Apart w.toList beginMark ∧
    Apart w.toList endMark ∧ Apart w.toList "hline".toList := by
  decide

/-- Where there is no backslash, no command begins. -/
theorem occurrences_plain (name : List Char) (h : '\\' ∉ cs) (rest : List Char) :
    Text.occurrences ('\\' :: name) (cs ++ rest) = Text.occurrences ('\\' :: name) rest := by
  induction cs with
  | nil => rfl
  | cons c cs ih =>
    have hc : ('\\' == c) = false := by
      simp only [beq_eq_false_iff_ne, ne_eq]
      rintro rfl
      exact h List.mem_cons_self
    rw [List.cons_append, Text.occurrences, List.isPrefixOf, hc,
      ih fun hmem => h (List.mem_cons_of_mem _ hmem)]
    simp

/-- A backslash that something else follows than the name. -/
theorem occurrences_apart {name cs : List Char} (h : Apart name cs) (rest : List Char) :
    Text.occurrences ('\\' :: name) ('\\' :: (cs ++ rest)) =
      Text.occurrences ('\\' :: name) (cs ++ rest) := by
  have hno : ('\\' :: name).isPrefixOf ('\\' :: (cs ++ rest)) = false := by
    rw [Bool.eq_false_iff]
    intro hp
    exact h.not_prefix_append rest (List.cons_prefix_cons.mp (List.isPrefixOf_iff_prefix.mp hp)).2
  rw [Text.occurrences, hno]
  simp

theorem letters_no_backslash (h : cs.all Text.isAsciiLetter) : '\\' ∉ cs := fun hmem =>
  absurd (List.all_eq_true.mp h _ hmem) (by decide)

/-- The mark of an environment is another command, and its name has none in it. -/
theorem occurrences_mark {name mark environment : List Char} (h : Apart name mark) (hmark : '\\' ∉ mark)
    (henvironment : environment.all Text.isAsciiLetter) (rest : List Char) :
    Text.occurrences ('\\' :: name) ('\\' :: (mark ++ environment ++ '\x7d' :: rest)) =
      Text.occurrences ('\\' :: name) rest := by
  have hplain : '\\' ∉ mark ++ environment ++ ['\x7d'] := by
    simp [hmark, letters_no_backslash henvironment]
  rw [List.append_assoc, occurrences_apart h, ← List.append_assoc, List.append_cons,
    occurrences_plain name hplain]

theorem occurrences_token (hw : w ∈ emphasisWords) (h : t.isRegular) :
    Text.occurrences ('\\' :: w.toList) (t.render ++ rest) =
      (if t = word w then 1 else 0) + Text.occurrences ('\\' :: w.toList) rest := by
  have hsymbol := emphasisWords_symbols w hw
  obtain ⟨hbegin, hend, hline⟩ := emphasisWords_marks w hw
  cases t with
  | word name =>
    have hmem : name ∈ controlWords := by simpa [isRegular, known] using h
    have hplain := letters_no_backslash (controlWords_letters name hmem).2
    by_cases hname : name = w
    · subst hname
      rw [if_pos rfl, render, List.cons_append, Text.occurrences, occurrences_plain _ hplain]
      simp [List.isPrefixOf]
    · rw [if_neg (by simpa using hname), render, List.cons_append,
        occurrences_apart (emphasisWords_apart w hw name hmem hname), occurrences_plain _ hplain,
        Nat.zero_add]
  | symbol c =>
    have hc : c ∈ escapedSymbols := by simpa [isRegular] using h
    have hplain : ∀ c ∈ escapedSymbols, '\\' ∉ [c] := by decide
    have happly := occurrences_apart (hsymbol c (by simp [hc])) rest
    rw [occurrences_plain _ (hplain c hc)] at happly
    simpa [render] using happly
  | opening =>
    have hplain : '\\' ∉ ['\x7b'] := by decide
    simpa [render] using occurrences_plain w.toList hplain rest
  | closing =>
    have hplain : '\\' ∉ ['\x7d'] := by decide
    simpa [render] using occurrences_plain w.toList hplain rest
  | beginEnv name =>
    have hname := environments_letters name (by simpa [isRegular, known] using h)
    simpa [render] using occurrences_mark hbegin (by decide) hname rest
  | endEnv name =>
    have hname := environments_letters name (by simpa [isRegular, known] using h)
    simpa [render] using occurrences_mark hend (by decide) hname rest
  | char c =>
    have hc : '\\' ∉ [c] := by
      rw [List.mem_singleton]
      rintro rfl
      cases h
    simpa [render] using occurrences_plain w.toList hc rest
  | lineEnd =>
    have hfirst := occurrences_apart (hsymbol '\\' (by decide)) ('\n' :: rest)
    have hsecond := occurrences_apart (hsymbol '\n' (by decide)) rest
    have hplain : '\\' ∉ ['\n'] := by decide
    rw [occurrences_plain _ hplain] at hsecond
    simpa [render] using hfirst.trans hsecond
  | ruleEnd =>
    have hfirst := occurrences_apart (hsymbol '\\' (by decide)) (" \\hline\n".toList ++ rest)
    have hsecond := occurrences_apart (hsymbol ' ' (by decide)) ("\\hline\n".toList ++ rest)
    have hthird := occurrences_apart hline ("\n".toList ++ rest)
    have hspace : '\\' ∉ [' '] := by decide
    have hword : '\\' ∉ "hline".toList := by decide
    have hend : '\\' ∉ "\n".toList := by decide
    rw [occurrences_plain _ hspace] at hsecond
    rw [occurrences_plain _ hword, occurrences_plain _ hend] at hthird
    simpa [render] using hfirst.trans (hsecond.trans hthird)
  | placement => cases h

/-- The command comes up as often as its token. -/
theorem occurrences_spell (hw : w ∈ emphasisWords) (h : ts.all isRegular) :
    Text.occurrences ('\\' :: w.toList) (spell ts) = ts.count (word w) := by
  induction ts with
  | nil => rfl
  | cons t ts ih =>
    obtain ⟨ht, hts⟩ : t.isRegular = true ∧ ts.all isRegular = true := by simpa using h
    rw [spell_cons, occurrences_token hw ht, ih hts, List.count_cons, Nat.add_comm]
    simp

/-- Spaces at the end do not count. -/
theorem count_trimmed (ht : t ≠ char ' ') (ts : List Token) : (trimmed ts).count t = ts.count t := by
  have hspace : (char ' ' == t) = false := by simpa using fun h => ht h.symm
  unfold trimmed
  induction ts with
  | nil => rfl
  | cons u ts ih =>
    rw [cutBy_cons]
    split
    · next he =>
      have hzero : ts.count t = 0 := by rw [← ih, he]; rfl
      rw [cutSpace]
      split
      · next hs => simp [List.count_cons, hs, hspace, hzero]
      · simp [List.count_cons, hzero]
    · simp [List.count_cons, ih]

end Latex

end MarkupTex
