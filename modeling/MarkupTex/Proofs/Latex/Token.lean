import MarkupTex.Latex.Buffer
import MarkupTex.Latex.Commands
import MarkupTex.Proofs.Text.Bytes
/-!
# Output as a row of tokens

What a conversion writes is put together from a few kinds of units: control words and control
symbols, braces, the ends of environments, and characters that mean nothing to LaTeX.  `spell` writes
such a row out.

A row can be taken apart where a text cannot.  Behind `\\item ` a text may go on with any letter, but
the row says that the word ends before the space, and still says so when the space has been cut
off.  So what is to be shown of the output is shown of its tokens, one token after the other.
-/

set_option autoImplicit false

namespace MarkupTex

namespace Text

/-- Whether something holds of the characters of a list is found out from the list, and not by going
through all the characters that there are. -/
instance decidableForallMem (p : Char → Prop) [DecidablePred p] (cs : List Char) :
    Decidable (∀ c ∈ cs, p c) := List.decidableBAll p cs

variable {p : Char → Bool} {a b cs : List Char} {c : Char}

theorem dropEndWhile_append :
    dropEndWhile p (a ++ b) =
      if dropEndWhile p b = [] then dropEndWhile p a else a ++ dropEndWhile p b := by
  rw [dropEndWhile, dropEndWhile, dropEndWhile, List.reverse_append, List.dropWhile_append]
  by_cases h : b.reverse.dropWhile p = []
  · simp [h]
  · simp [h]

theorem dropEndWhile_concat_of_neg (h : p c = false) : dropEndWhile p (cs ++ [c]) = cs ++ [c] :=
  dropEndWhile_eq_self (by simp [h])

/-- What is left is a first part. -/
theorem dropEndWhile_prefix : dropEndWhile p cs <+: cs := by
  rw [dropEndWhile, ← List.reverse_suffix, List.reverse_reverse]
  exact List.dropWhile_suffix p

/-- Spaces are cut off down to a part that does not end in one. -/
theorem dropSpaces_append (h : a.getLast? ≠ some ' ') :
    dropEndWhile (· = ' ') (a ++ b) = a ++ dropEndWhile (· = ' ') b := by
  have hself : dropEndWhile (· = ' ') a = a := by
    refine dropEndWhile_eq_self ?_
    cases hl : a.getLast? with
    | none => rfl
    | some c => simpa [hl] using h
  rw [dropEndWhile_append]
  split
  · next he => rw [hself, he, List.append_nil]
  · rfl

theorem isBlank_of_isAsciiLetter (h : isAsciiLetter c) : isBlank c = false := by
  have hrange : 65 ≤ c.toNat ∧ c.toNat ≤ 122 := by
    simp only [isAsciiLetter, Bool.or_eq_true, Bool.and_eq_true, decide_eq_true_eq, Char.le_def,
      UInt32.le_iff_toNat_le] at h
    have : c.toNat = c.val.toNat := rfl
    simp at h
    omega
  simp [isBlank, blankRanges]
  omega

end Text

namespace Latex

/-- The switches: words that hold up to the end of a group or of the line, and that a space sets
apart from what follows. -/
def switches : List String :=
  ["newline", "item", "bfseries", "itshape", "ttfamily", "sffamily", "rmfamily", "tiny",
   "scriptsize", "small", "normalsize", "large", "Large", "LARGE", "Huge", "selectfont"]

/-- Words that begin a part of the document or end a paragraph. -/
def blockWords : List String :=
  ["section", "subsection", "subsubsection", "paragraph", "subparagraph", "par"]

/-- Words that escapes are made of, and commands that may stand in a line. -/
def lineWords : List String :=
  ["textbackslash", "textasciicircum", "textasciitilde", "textless", "textgreater", "textbf",
   "textit", "underline", "color", "textcolor", "colorbox", "texttt", "textsf", "textrm",
   "fontsize", "label", "setcounter", "textbullet", "noindent", "rule", "textwidth",
   "textsubscript", "textsuperscript", "hyperref", "href", "includegraphics", "linewidth",
   "caption", "centering", "hline"]

/-- All the control words that a conversion writes. -/
def controlWords : List String := switches ++ blockWords ++ lineWords

/-- The characters that escapes put a backslash in front of. -/
def escapedSymbols : List Char := ['\x7b', '\x7d', '&', '%', '$', '#', '_']

/-- All the control symbols that a conversion writes; two backslashes end a line. -/
def controlSymbols : List Char := '\\' :: escapedSymbols

/-- Environments that paragraphs end at. -/
def blockEnvironments : List String :=
  ["table", "figure", "itemize", "enumerate", "description", "quote", "center", "flushleft",
   "flushright", "verbatim"]

/-- All the environments that a conversion writes. -/
def environments : List String := "tabular" :: blockEnvironments

theorem toList_controlWord {w : String} (h : w ∈ controlWords) : w.toList = Text.byteChars w := by
  have hascii : ∀ w ∈ controlWords, Text.isAscii w := by decide
  exact Text.toList_of_isAscii (hascii w h)

theorem controlWords_letters :
    ∀ w ∈ controlWords, w.toList ≠ [] ∧ w.toList.all Text.isAsciiLetter := by
  have hread : ∀ w ∈ controlWords, Text.byteChars w ≠ [] ∧ (Text.byteChars w).all Text.isAsciiLetter := by
    decide
  intro w hw
  rw [toList_controlWord hw]
  exact hread w hw

/-- What follows the backslash where an environment begins. -/
def beginMark : List Char := ['b', 'e', 'g', 'i', 'n', '\x7b']

/-- What follows the backslash where an environment ends. -/
def endMark : List Char := ['e', 'n', 'd', '\x7b']

/-- A unit of the output. -/
inductive Token where
  | word (name : String)
  | symbol (c : Char)
  | opening
  | closing
  | beginEnv (name : String)
  | endEnv (name : String)
  | char (c : Char)
  /-- The end of a line by two backslashes. -/
  | lineEnd
  /-- The end of a row with a line below it. -/
  | ruleEnd
  /-- Where a figure may be placed, in brackets. -/
  | placement (places : String)
  deriving DecidableEq, Repr

namespace Token

def render : Token → List Char
  | word name => '\\' :: name.toList
  | symbol c => ['\\', c]
  | opening => ['\x7b']
  | closing => ['\x7d']
  | beginEnv name => '\\' :: beginMark ++ name.toList ++ ['\x7d']
  | endEnv name => '\\' :: endMark ++ name.toList ++ ['\x7d']
  | char c => [c]
  | lineEnd => ['\\', '\\', '\n']
  | ruleEnd => ['\\', '\\', ' ', '\\', 'h', 'l', 'i', 'n', 'e', '\n']
  | placement places => '[' :: places.toList ++ [']']

def isBlank : Token → Bool
  | char c => Text.isBlank c
  | _ => false

/-- A letter, as far as the names of control words go. -/
def isLetter : Token → Bool
  | char c => Text.isAsciiLetter c
  | _ => false

/-- A character that means nothing to LaTeX where the text is read. -/
def isInert (c : Char) : Bool := c != '\\' && c != '\x7b' && c != '\x7d'

/-- The token is one of those that a conversion writes where figures may be placed at `places`. -/
def known (places : String) : Token → Bool
  | word name => controlWords.contains name
  | symbol c => controlSymbols.contains c
  | beginEnv name | endEnv name => environments.contains name
  | char c => isInert c
  | placement p => p == places
  | opening | closing | lineEnd | ruleEnd => true

end Token

open Token

/-- A row of tokens, written out. -/
def spell (ts : List Token) : List Char := ts.flatMap render

@[simp] theorem spell_nil : spell [] = [] := rfl

@[simp] theorem spell_cons (t : Token) (ts : List Token) : spell (t :: ts) = t.render ++ spell ts := rfl

@[simp] theorem spell_append (a b : List Token) : spell (a ++ b) = spell a ++ spell b :=
  List.flatMap_append

/-- Characters, each by itself. -/
def chars (cs : List Char) : List Token := cs.map char

@[simp] theorem spell_chars (cs : List Char) : spell (chars cs) = cs := by
  induction cs with
  | nil => rfl
  | cons c cs ih => simpa [chars, render] using ih

@[simp] theorem chars_nil : chars [] = [] := rfl

@[simp] theorem chars_cons (c : Char) (cs : List Char) : chars (c :: cs) = char c :: chars cs := rfl

/-- Every known token but a space has something else than a space at its end. -/
theorem render_concat {places : String} {t : Token} (h : t.known places) (hs : t ≠ char ' ') :
    ∃ front c, t.render = front ++ [c] ∧ c ≠ ' ' := by
  cases t with
  | word name =>
    obtain ⟨hne, hall⟩ := controlWords_letters name (by simpa [known] using h)
    refine ⟨'\\' :: name.toList.dropLast, name.toList.getLast hne, ?_, ?_⟩
    · simp [render, List.dropLast_concat_getLast]
    · intro hc
      have hl := List.all_eq_true.mp hall _ (List.getLast_mem hne)
      rw [hc] at hl
      exact absurd hl (by decide)
  | symbol c =>
    refine ⟨['\\'], c, rfl, ?_⟩
    rintro rfl
    simp [known, controlSymbols, escapedSymbols] at h
  | opening => exact ⟨[], '\x7b', rfl, by decide⟩
  | closing => exact ⟨[], '\x7d', rfl, by decide⟩
  | beginEnv name => exact ⟨_, '\x7d', rfl, by decide⟩
  | endEnv name => exact ⟨_, '\x7d', rfl, by decide⟩
  | char c => exact ⟨[], c, rfl, fun hc => hs (by rw [hc])⟩
  | lineEnd => exact ⟨['\\', '\\'], '\n', rfl, by decide⟩
  | ruleEnd => exact ⟨['\\', '\\', ' ', '\\', 'h', 'l', 'i', 'n', 'e'], '\n', rfl, by decide⟩
  | placement p => exact ⟨_, ']', rfl, by decide⟩

/-- Every token but a character by itself begins with a mark that is no blank. -/
theorem render_cons {t : Token} (h : ∀ c, t ≠ char c) :
    ∃ c rest, t.render = c :: rest ∧ Text.isBlank c = false := by
  cases t with
  | char c => exact absurd rfl (h c)
  | opening => exact ⟨'\x7b', [], rfl, by decide⟩
  | closing => exact ⟨'\x7d', [], rfl, by decide⟩
  | placement p => exact ⟨'[', _, rfl, by decide⟩
  | _ => exact ⟨'\\', _, rfl, by decide⟩

theorem render_ne_nil (t : Token) : t.render ≠ [] := by
  by_cases h : ∀ c, t ≠ char c
  · obtain ⟨c, rest, hr, -⟩ := render_cons h
    simp [hr]
  · intro hr
    refine h fun c hc => ?_
    simp [hc, render] at hr

theorem spell_eq_nil {ts : List Token} : spell ts = [] ↔ ts = [] := by
  cases ts with
  | nil => simp
  | cons t ts => simp [render_ne_nil t]

/-! ## The end of a row -/

/-- The row with `cut` applied to its last token, and to the one before if nothing is left of the
last, and so on. -/
def cutBy (cut : Token → List Token) : List Token → List Token
  | [] => []
  | t :: ts =>
    match cutBy cut ts with
    | [] => cut t
    | rest => t :: rest

theorem cutBy_cons (cut : Token → List Token) (t : Token) (ts : List Token) :
    cutBy cut (t :: ts) = if cutBy cut ts = [] then cut t else t :: cutBy cut ts := by
  rw [cutBy]
  cases cutBy cut ts with
  | nil => simp
  | cons _ _ => simp

section Cut

variable {places : String} {p : Char → Bool} {cut : Token → List Token} {ts : List Token}

/-- What holds of a token and of what may be left of it holds all along a row that was cut. -/
theorem cutBy_all {q : Token → Bool} (hcut : ∀ t, q t → (cut t).all q) (h : ts.all q) :
    (cutBy cut ts).all q := by
  induction ts with
  | nil => exact h
  | cons t ts ih =>
    obtain ⟨ht, hts⟩ : q t = true ∧ ts.all q = true := by simpa using h
    rw [cutBy_cons]
    split
    · exact hcut t ht
    · simpa [ht] using ih hts

/-- Characters are dropped from the end of a text by cutting its row of tokens. -/
theorem dropEndWhile_spell
    (hcut : ∀ t, known places t → Text.dropEndWhile p t.render = spell (cut t))
    (h : ts.all (known places)) : Text.dropEndWhile p (spell ts) = spell (cutBy cut ts) := by
  induction ts with
  | nil => rfl
  | cons t ts ih =>
    obtain ⟨ht, hts⟩ : t.known places = true ∧ ts.all (known places) = true := by simpa using h
    rw [spell_cons, Text.dropEndWhile_append, ih hts, cutBy_cons]
    by_cases he : cutBy cut ts = []
    · rw [if_pos he, he, spell_nil, if_pos rfl, hcut t ht]
    · rw [if_neg he, if_neg (mt spell_eq_nil.mp he), spell_cons]

end Cut

/-- A token without the space that it may be. -/
def cutSpace (t : Token) : List Token := if t = char ' ' then [] else [t]

/-- The row without the spaces at its end. -/
def trimmed (ts : List Token) : List Token := cutBy cutSpace ts

theorem cutSpace_all {q : Token → Bool} {t : Token} (h : q t) : (cutSpace t).all q := by
  rw [cutSpace]
  split
  · rfl
  · simpa using h

theorem trimmed_all {q : Token → Bool} {ts : List Token} (h : ts.all q) : (trimmed ts).all q :=
  cutBy_all (fun _ => cutSpace_all) h

/-- Cutting the spaces off a text takes the tokens for them away and touches no other. -/
theorem dropSpaces_spell {places : String} {ts : List Token} (h : ts.all (known places)) :
    Text.dropEndWhile (· = ' ') (spell ts) = spell (trimmed ts) := by
  refine dropEndWhile_spell ?_ h
  intro t ht
  rw [cutSpace]
  split
  · next hs =>
    subst hs
    rfl
  · next hs =>
    obtain ⟨front, c, hr, hc⟩ := render_concat ht fun h => hs (h.symm ▸ rfl)
    rw [hr, Text.dropEndWhile_concat_of_neg (by simpa using hc)]
    simp [hr]

/-- A token without the blanks at its end. -/
def cutBlank : Token → List Token
  | lineEnd => [symbol '\\']
  | ruleEnd => [symbol '\\', char ' ', word "hline"]
  | char c => if Text.isBlank c then [] else [char c]
  | t => [t]

/-- The row without the blanks at its ends. -/
def stripped (ts : List Token) : List Token := cutBy cutBlank (ts.dropWhile isBlank)

theorem cutBlank_known {places : String} {t : Token} (h : t.known places) :
    (cutBlank t).all (known places) := by
  cases t with
  | char c =>
    rw [cutBlank]
    split
    · rfl
    · simpa using h
  | lineEnd => rfl
  | ruleEnd => rfl
  | _ => simpa [cutBlank] using h

theorem dropWhile_known {places : String} {p : Token → Bool} {ts : List Token}
    (h : ts.all (known places)) : (ts.dropWhile p).all (known places) :=
  List.all_eq_true.mpr fun t ht =>
    List.all_eq_true.mp h t ((List.dropWhile_suffix p).subset ht)

theorem stripped_known {places : String} {ts : List Token} (h : ts.all (known places)) :
    (stripped ts).all (known places) :=
  cutBy_all (fun _ => cutBlank_known) (dropWhile_known h)

/-- At the front a blank of the text is a token by itself. -/
theorem dropWhile_spell (ts : List Token) :
    (spell ts).dropWhile Text.isBlank = spell (ts.dropWhile isBlank) := by
  induction ts with
  | nil => rfl
  | cons t ts ih =>
    by_cases h : ∀ c, t ≠ char c
    · obtain ⟨c, rest, hr, hc⟩ := render_cons h
      have ht : t.isBlank = false := by
        cases t with
        | char c => exact absurd rfl (h c)
        | _ => rfl
      simp [hr, hc, ht]
    · obtain ⟨c, rfl⟩ : ∃ c, t = char c := by
        cases t with
        | char c => exact ⟨c, rfl⟩
        | _ => exact absurd (fun _ => Token.noConfusion) h
      by_cases hc : Text.isBlank c
      · simpa [render, isBlank, hc] using ih
      · simp [render, isBlank, hc]

/-- Trimming a text strips its row of tokens. -/
theorem trimList_spell {places : String} {ts : List Token} (h : ts.all (known places)) :
    Text.trimList (spell ts) = spell (stripped ts) := by
  rw [Text.trimList, Text.trimStartList, dropWhile_spell, Text.trimEndList]
  refine dropEndWhile_spell ?_ (dropWhile_known h)
  intro t ht
  cases t with
  | char c =>
    rw [cutBlank]
    by_cases hc : Text.isBlank c
    · simp [hc, render, Text.dropEndWhile]
    · simp [hc, render, Text.dropEndWhile]
  | lineEnd => rfl
  | ruleEnd => rfl
  | word name =>
    obtain ⟨hne, hall⟩ := controlWords_letters name (by simpa [known] using ht)
    have hl := List.all_eq_true.mp hall _ (List.getLast_mem hne)
    rw [render, ← List.dropLast_concat_getLast hne, ← List.cons_append,
      Text.dropEndWhile_concat_of_neg (Text.isBlank_of_isAsciiLetter hl)]
    simp [cutBlank, render, List.dropLast_concat_getLast]
  | symbol c =>
    rw [render, show ['\\', c] = ['\\'] ++ [c] from rfl, Text.dropEndWhile_concat_of_neg]
    · rfl
    · have hc : ∀ c ∈ controlSymbols, Text.isBlank c = false := by decide
      exact hc c (by simpa [known] using ht)
  | opening => rfl
  | closing => rfl
  | beginEnv name => exact (Text.dropEndWhile_concat_of_neg (by decide)).trans (by simp [cutBlank, render])
  | endEnv name => exact (Text.dropEndWhile_concat_of_neg (by decide)).trans (by simp [cutBlank, render])
  | placement p => exact (Text.dropEndWhile_concat_of_neg (by decide)).trans (by simp [cutBlank, render])

end Latex

end MarkupTex
