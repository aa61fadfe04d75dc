import Mathlib.Data.List.Infix
import MarkupTex.Proofs.Latex.ControlSequence
/-!
# Inline material

The argument of a command may hold no paragraph break, no sectioning command and no environment that
paragraphs end at.  `Inline` says of a text that no such mark occurs anywhere in it.

`inline_spell` finds it from a row of tokens: each token has to be one that may stand in a line, and no
line end may have another one directly behind it.  A mark cannot come about where two tokens meet,
since no control word of the one kind is the beginning of one of the other.
-/

set_option autoImplicit false

namespace MarkupTex.Latex

/-- The sectioning commands. -/
def sectioning : List String :=
  ["\\part", "\\chapter", "\\section", "\\subsection", "\\subsubsection", "\\paragraph",
   "\\subparagraph"]

/-- What may not occur in the argument of a command: a blank line, the beginning of a block, and a
sectioning command. -/
def blockMarks : List String :=
  "\n\n" :: blockEnvironments.map beginEnvironment ++ sectioning

/-- No mark of a block occurs in the text. -/
def Inline (cs : List Char) : Prop := ∀ mark ∈ blockMarks, ¬ mark.toList <:+: cs

instance (cs : List Char) : Decidable (Inline cs) := List.decidableBAll _ _

/-- Words that never stand in a line; a rule goes across the page and has a paragraph of its own. -/
def standingWords : List String := "rule" :: blockWords

namespace Token

/-- The token may stand in a line. -/
def inLine : Token → Bool
  | word name => controlWords.contains name && !standingWords.contains name
  | symbol c => escapedSymbols.contains c
  | beginEnv name | endEnv name => name == "tabular"
  | char c => isInert c
  | opening | closing | lineEnd | ruleEnd => true
  | placement _ => false

/-- The token begins or ends an environment. -/
def isEnvironment : Token → Bool
  | beginEnv _ | endEnv _ => true
  | _ => false

def endsLine : Token → Bool
  | char c => c == '\n'
  | lineEnd | ruleEnd => true
  | _ => false

def startsLine : Token → Bool
  | char c => c == '\n'
  | _ => false

theorem known_of_inLine {t : Token} (h : t.inLine) (places : String) : t.known places := by
  cases t with
  | word name =>
    simp only [inLine, Bool.and_eq_true] at h
    exact h.1
  | symbol c =>
    have hc : c ∈ escapedSymbols := by simpa [inLine] using h
    simp [known, controlSymbols, hc]
  | beginEnv name => simp_all [inLine, known, environments]
  | endEnv name => simp_all [inLine, known, environments]
  | char c => exact h
  | opening => rfl
  | closing => rfl
  | lineEnd => rfl
  | ruleEnd => rfl
  | placement p => cases h

end Token

open Token

/-- The row begins with the end of a line. -/
def lineEndFirst (ts : List Token) : Bool := ts.head?.any startsLine

/-- No line end has another one directly behind it. -/
def singleSpaced : List Token → Bool
  | [] => true
  | t :: ts => !(t.endsLine && lineEndFirst ts) && singleSpaced ts

/-- No environment begins or ends in the row. -/
def noEnvironment (ts : List Token) : Bool := ts.all fun t => !t.isEnvironment

/-- The row may go on in a line: what it begins with does not depend on what is before. -/
def fitsLine (ts : List Token) : Bool := ts.all inLine && singleSpaced ts

section Rows

variable {a b ts : List Token} {t : Token}

theorem singleSpaced_append (ha : singleSpaced a) (hb : singleSpaced b)
    (hmeet : a.getLast?.any endsLine → lineEndFirst b = false) : singleSpaced (a ++ b) := by
  induction a with
  | nil => exact hb
  | cons t a ih =>
    simp only [singleSpaced, Bool.and_eq_true, Bool.not_eq_true'] at ha
    simp only [List.cons_append, singleSpaced, Bool.and_eq_true, Bool.not_eq_true']
    cases a with
    | nil =>
      refine ⟨?_, hb⟩
      cases he : t.endsLine with
      | false => rfl
      | true => simpa [he] using hmeet (by simpa using he)
    | cons u a =>
      exact ⟨ha.1, ih ha.2 fun h => hmeet (by rwa [List.getLast?_cons_cons])⟩

theorem fitsLine_append (ha : fitsLine a) (hb : fitsLine b) (hfirst : lineEndFirst b = false) :
    fitsLine (a ++ b) := by
  simp only [fitsLine, Bool.and_eq_true] at ha hb ⊢
  exact ⟨by rw [List.all_append, ha.1, hb.1]; rfl, singleSpaced_append ha.2 hb.2 fun _ => hfirst⟩

theorem singleSpaced_trimmed (h : singleSpaced ts) : singleSpaced (trimmed ts) := by
  induction ts with
  | nil => rfl
  | cons t ts ih =>
    simp only [singleSpaced, Bool.and_eq_true] at h
    have hcons : trimmed (t :: ts) = if trimmed ts = [] then cutSpace t else t :: trimmed ts :=
      cutBy_cons cutSpace t ts
    rw [hcons]
    by_cases he : trimmed ts = []
    · rw [if_pos he, cutSpace]
      split <;> simp [singleSpaced, lineEndFirst]
    · rw [if_neg he, singleSpaced, lineEndFirst, head?_trimmed he, ih h.2]
      simpa [lineEndFirst] using h.1

theorem fitsLine_trimmed (h : fitsLine ts) : fitsLine (trimmed ts) := by
  simp only [fitsLine, Bool.and_eq_true] at h ⊢
  exact ⟨trimmed_all h.1, singleSpaced_trimmed h.2⟩

end Rows

/-! ## No mark of a block -/

section Marks

variable {mark cs front rest : List Char} {t : Token} {ts : List Token}

/-- An occurrence in two pieces begins in the first or lies in the second. -/
theorem infix_append (h : mark <:+: front ++ rest) :
    (∃ before after, front = before ++ after ∧ after ≠ [] ∧ mark <+: after ++ rest) ∨
      mark <:+: rest := by
  induction front with
  | nil => exact Or.inr h
  | cons c front ih =>
    rw [List.cons_append, List.infix_cons_iff] at h
    rcases h with h | h
    · exact Or.inl ⟨[], c :: front, rfl, by simp, h⟩
    · rcases ih h with ⟨before, after, he, hne, hp⟩ | hr
      · exact Or.inl ⟨c :: before, after, by rw [he]; rfl, hne, hp⟩
      · exact Or.inr hr

/-- A blank line does not begin in a token that has a line end at most as its last character. -/
theorem blankLine_token (h : t.inLine) :
    ∃ front, '\n' ∉ front ∧ (t.render = front ∨ (t.render = front ++ ['\n'] ∧ t.endsLine)) := by
  cases t with
  | word name =>
    simp only [inLine, Bool.and_eq_true, List.contains_iff_mem] at h
    obtain ⟨-, hletters⟩ := controlWords_letters name h.1
    refine ⟨'\\' :: name.toList, ?_, Or.inl rfl⟩
    intro hmem
    rcases List.mem_cons.mp hmem with he | hin
    · exact absurd he (by decide)
    · exact absurd (List.all_eq_true.mp hletters _ hin) (by decide)
  | symbol c =>
    have hsymbols : ∀ c ∈ escapedSymbols, '\n' ∉ ['\\', c] := by decide
    exact ⟨['\\', c], hsymbols c (by simpa [inLine] using h), Or.inl rfl⟩
  | opening => exact ⟨['\x7b'], by decide, Or.inl rfl⟩
  | closing => exact ⟨['\x7d'], by decide, Or.inl rfl⟩
  | beginEnv name =>
    obtain rfl : name = "tabular" := by simpa [inLine] using h
    exact ⟨_, by decide, Or.inl rfl⟩
  | endEnv name =>
    obtain rfl : name = "tabular" := by simpa [inLine] using h
    exact ⟨_, by decide, Or.inl rfl⟩
  | char c =>
    by_cases hc : c = '\n'
    · subst hc
      exact ⟨[], by simp, Or.inr ⟨rfl, rfl⟩⟩
    · exact ⟨[c], by simpa using Ne.symm hc, Or.inl rfl⟩
  | lineEnd => exact ⟨['\\', '\\'], by decide, Or.inr ⟨rfl, rfl⟩⟩
  | ruleEnd =>
    exact ⟨['\\', '\\', ' ', '\\', 'h', 'l', 'i', 'n', 'e'], by decide, Or.inr ⟨rfl, rfl⟩⟩
  | placement p => cases h

theorem lineEndFirst_of_spell (h : ts.all inLine) (hs : spell ts = '\n' :: rest) :
    lineEndFirst ts := by
  cases ts with
  | nil => cases hs
  | cons t ts =>
    by_cases hchar : ∀ c, t ≠ char c
    · obtain ⟨c, tail, hr, hc⟩ := render_cons hchar
      rw [spell_cons, hr] at hs
      obtain ⟨rfl, -⟩ : c = '\n' ∧ tail ++ spell ts = rest := by simpa using hs
      cases hc
    · cases t with
      | char c =>
        obtain ⟨rfl, -⟩ : c = '\n' ∧ spell ts = rest := by simpa [render] using hs
        rfl
      | _ => exact absurd (fun _ => Token.noConfusion) hchar

theorem not_blankLine (h : ts.all inLine) (hs : singleSpaced ts) : ¬ ['\n', '\n'] <:+: spell ts := by
  induction ts with
  | nil => simp
  | cons t ts ih =>
    obtain ⟨ht, hts⟩ : t.inLine = true ∧ ts.all inLine = true := by simpa using h
    simp only [singleSpaced, Bool.and_eq_true, Bool.not_eq_true'] at hs
    intro hmark
    rw [spell_cons] at hmark
    rcases infix_append hmark with ⟨before, after, hr, hne, hp⟩ | hin
    · -- It begins in the first token, which has its only line end at its end, if it has one.
      obtain ⟨front, hfront, hrender | ⟨hrender, hends⟩⟩ := blankLine_token ht
      · cases after with
        | nil => exact hne rfl
        | cons c after =>
          obtain ⟨rfl, -⟩ := List.cons_prefix_cons.mp hp
          exact hfront (by rw [← hrender, hr]; simp)
      · obtain rfl | ⟨tail, c, rfl⟩ := List.eq_nil_or_concat after
        · exact hne rfl
        rw [List.concat_eq_append] at *
        rw [hrender, ← List.append_assoc] at hr
        obtain ⟨hfr, hc⟩ := List.append_inj' hr rfl
        obtain rfl : '\n' = c := by simpa using hc
        cases tail with
        | nil =>
          obtain ⟨-, hp⟩ := List.cons_prefix_cons.mp hp
          obtain ⟨rest, hrest⟩ := hp
          -- Then the next token would begin with the second line end.
          have := lineEndFirst_of_spell hts hrest.symm
          simp [hends, this] at hs
        | cons d tail =>
          obtain ⟨rfl, -⟩ := List.cons_prefix_cons.mp hp
          exact hfront (by rw [hfr]; simp)
    · exact ih hts hs.2 hin

/-- Neither text is the beginning of the other. -/
def Apart (a b : List Char) : Prop := ¬ a <+: b ∧ ¬ b <+: a

instance (a b : List Char) : Decidable (Apart a b) := inferInstanceAs (Decidable (_ ∧ _))

theorem Apart.not_prefix_append {a b : List Char} (h : Apart a b) (rest : List Char) :
    ¬ a <+: b ++ rest := by
  intro hp
  rcases List.prefix_or_prefix_of_prefix hp (List.prefix_append b rest) with hab | hba
  · exact h.1 hab
  · exact h.2 hba

theorem apart_of_take {a b : List Char} {n : Nat} (ha : n ≤ a.length) (hb : n ≤ b.length)
    (h : a.take n ≠ b.take n) : Apart a b := by
  constructor
  · rintro ⟨rest, rfl⟩
    exact h (List.take_append_of_le_length ha).symm
  · rintro ⟨rest, rfl⟩
    exact h (List.take_append_of_le_length hb)

/-- The marks that begin with a backslash, without it; that of a rule is one of them. -/
def commandMarks : List (List Char) :=
  ("\\rule" :: blockEnvironments.map beginEnvironment ++ sectioning).map fun mark => mark.toList.drop 1

theorem commandMarks_words : ∀ w ∈ controlWords, w ∉ standingWords →
    ∀ mark ∈ commandMarks, Apart mark w.toList := by
  have hread : ∀ w ∈ controlWords, w ∉ standingWords →
      ∀ mark ∈ commandMarks, Apart mark (Text.byteChars w) := by decide +kernel
  intro w hw
  rw [toList_controlWord hw]
  exact hread w hw

theorem commandMarks_symbols : ∀ c ∈ ['\n', ' ', '\\'] ++ escapedSymbols,
    ∀ mark ∈ commandMarks, Apart mark [c] := by
  decide +kernel

theorem commandMarks_tabular : ∀ mark ∈ commandMarks,
    Apart mark (beginMark ++ "tabular".toList ++ ['\x7d']) ∧
      Apart mark (endMark ++ "tabular".toList ++ ['\x7d']) ∧ Apart mark ['h'] := by
  decide +kernel

/-- Where environments begin and end, without the backslash. -/
def environmentMarks : List (List Char) := [beginMark, endMark]

theorem environmentMarks_words : ∀ w ∈ controlWords, ∀ mark ∈ environmentMarks, Apart mark w.toList := by
  intro w hw mark hmark
  obtain ⟨hlength, hbegin, hend⟩ := controlWords_start w hw
  rcases List.mem_pair.mp hmark with rfl | rfl
  · exact apart_of_take (by decide) hlength hbegin.symm
  · exact apart_of_take (by decide) hlength hend.symm

theorem environmentMarks_symbols : ∀ c ∈ ['\n', ' ', '\\'] ++ escapedSymbols,
    ∀ mark ∈ environmentMarks, Apart mark [c] := by
  decide

theorem environmentMarks_line : ∀ mark ∈ environmentMarks, Apart mark ['h'] := by
  decide

theorem eq_of_backslash {before after : List Char} (hcs : '\\' ∉ cs)
    (h : '\\' :: cs = before ++ '\\' :: after) : after = cs := by
  cases before with
  | nil => exact (List.cons.inj h).2.symm
  | cons c before => exact absurd (by rw [(List.cons.inj h).2]; simp) hcs

/-- Behind each backslash of a token that may stand in a line there is something that the mark does not
begin with, if it begins with no word and no symbol that stands in a line. -/
theorem apart_of_inLine {before after : List Char} (h : t.inLine)
    (hr : t.render = before ++ '\\' :: after)
    (hword : ∀ w ∈ controlWords, w ∉ standingWords → Apart mark w.toList)
    (hsymbol : ∀ c ∈ ['\n', ' ', '\\'] ++ escapedSymbols, Apart mark [c]) (hh : Apart mark ['h'])
    (htabular : t.isEnvironment → Apart mark (beginMark ++ "tabular".toList ++ ['\x7d']) ∧
      Apart mark (endMark ++ "tabular".toList ++ ['\x7d'])) :
    ∃ name rest, after = name ++ rest ∧ Apart mark name := by
  cases t with
  | word name =>
    simp only [inLine, Bool.and_eq_true, Bool.not_eq_true', List.contains_iff_mem] at h
    obtain ⟨-, hletters⟩ := controlWords_letters name h.1
    have hnot : '\\' ∉ name.toList := fun hin =>
      absurd (List.all_eq_true.mp hletters _ hin) (by decide)
    refine ⟨name.toList, [], ?_, hword name h.1 (by simpa using h.2)⟩
    rw [eq_of_backslash hnot hr, List.append_nil]
  | symbol c =>
    have hc : c ∈ escapedSymbols := by simpa [inLine] using h
    have hnot : ∀ c ∈ escapedSymbols, '\\' ∉ [c] := by decide
    refine ⟨[c], [], ?_, hsymbol c (by simp [hc])⟩
    rw [eq_of_backslash (hnot c hc) hr, List.append_nil]
  | opening => simp [render, List.cons_eq_append_iff] at hr
  | closing => simp [render, List.cons_eq_append_iff] at hr
  | beginEnv name =>
    obtain rfl : name = "tabular" := by simpa [inLine] using h
    exact ⟨_, [], by rw [eq_of_backslash (by decide) hr, List.append_nil]; rfl, (htabular rfl).1⟩
  | endEnv name =>
    obtain rfl : name = "tabular" := by simpa [inLine] using h
    exact ⟨_, [], by rw [eq_of_backslash (by decide) hr, List.append_nil]; rfl, (htabular rfl).2⟩
  | char c =>
    have hc : '\\' ≠ c := by
      rintro rfl
      cases h
    simp [render, List.cons_eq_append_iff, hc] at hr
  | lineEnd =>
    -- The backslash is the first or the second of the two.
    simp [render, List.cons_eq_append_iff] at hr
    rcases hr with ⟨-, rfl⟩ | ⟨_, -, -, rfl⟩
    · exact ⟨['\\'], ['\n'], rfl, hsymbol '\\' (by decide)⟩
    · exact ⟨['\n'], [], rfl, hsymbol '\n' (by decide)⟩
  | ruleEnd =>
    simp [render, List.cons_eq_append_iff] at hr
    rcases hr with ⟨-, rfl⟩ | ⟨_, -, ⟨-, rfl⟩ | ⟨_, -, _, -, -, rfl⟩⟩
    · exact ⟨['\\'], _, rfl, hsymbol '\\' (by decide)⟩
    · exact ⟨[' '], _, rfl, hsymbol ' ' (by decide)⟩
    · exact ⟨['h'], _, rfl, hh⟩
  | placement p => cases h

/-- A mark that no token of a row has is not in the row. -/
theorem not_mark (h : ∀ t ∈ ts, ∀ before after, t.render = before ++ '\\' :: after →
    ∃ name rest, after = name ++ rest ∧ Apart mark name) : ¬ '\\' :: mark <:+: spell ts := by
  induction ts with
  | nil => simp
  | cons t ts ih =>
    obtain ⟨ht, hts⟩ := List.forall_mem_cons.mp h
    intro hin
    rw [spell_cons] at hin
    rcases infix_append hin with ⟨before, after, hr, hne, hp⟩ | hin
    · cases after with
      | nil => exact hne rfl
      | cons c after =>
        rw [List.cons_append] at hp
        obtain ⟨hc, hname⟩ := List.cons_prefix_cons.mp hp
        obtain ⟨name, rest, rfl, hapart⟩ := ht before after (hc ▸ hr)
        rw [List.append_assoc] at hname
        exact hapart.not_prefix_append _ hname
    · exact ih hts hin

theorem not_commandMark (h : ts.all inLine) (hmark : mark ∈ commandMarks) :
    ¬ '\\' :: mark <:+: spell ts := by
  obtain ⟨hbegin, hend, hh⟩ := commandMarks_tabular mark hmark
  exact not_mark fun t ht before after hr => apart_of_inLine (List.all_eq_true.mp h t ht) hr
    (fun w hw hstanding => commandMarks_words w hw hstanding mark hmark)
    (fun c hc => commandMarks_symbols c hc mark hmark) hh fun _ => ⟨hbegin, hend⟩

/-- In such a row no environment begins or ends. -/
theorem not_environmentMark (h : ts.all inLine) (hnone : noEnvironment ts) (hmark : mark ∈ environmentMarks) :
    ¬ '\\' :: mark <:+: spell ts := by
  refine not_mark fun t ht before after hr => apart_of_inLine (List.all_eq_true.mp h t ht) hr
    (fun w hw _ => environmentMarks_words w hw mark hmark)
    (fun c hc => environmentMarks_symbols c hc mark hmark) (environmentMarks_line mark hmark) fun henv => ?_
  have hnot := List.all_eq_true.mp hnone t ht
  rw [henv] at hnot
  cases hnot

theorem blockMarks_cases : ∀ mark ∈ blockMarks,
    mark.toList = ['\n', '\n'] ∨ ∃ name ∈ commandMarks, mark.toList = '\\' :: name := by
  decide +kernel

end Marks

/-- A row that fits a line is inline material. -/
theorem inline_spell {ts : List Token} (h : fitsLine ts) : Inline (spell ts) := by
  simp only [fitsLine, Bool.and_eq_true] at h
  intro mark hmark
  rcases blockMarks_cases mark hmark with he | ⟨name, hname, he⟩
  · rw [he]
    exact not_blankLine h.1 h.2
  · rw [he]
    exact not_commandMark h.1 hname

/-- Nor is there a rule in it. -/
theorem not_rule_spell {ts : List Token} (h : fitsLine ts) : ¬ "\\rule".toList <:+: spell ts := by
  simp only [fitsLine, Bool.and_eq_true] at h
  have hmark : "rule".toList ∈ commandMarks := by decide
  exact not_commandMark h.1 hmark

/-! ## A line that grows -/

theorem dropSpaces_of_fitsLine {ts : List Token} (h : fitsLine ts) :
    Text.dropEndWhile (· = ' ') (spell ts) = spell (trimmed ts) := by
  refine @dropSpaces_spell "" ts ?_
  simp only [fitsLine, Bool.and_eq_true] at h
  exact List.all_eq_true.mpr fun t ht => known_of_inLine (List.all_eq_true.mp h.1 t ht) ""

/-- The row ends in a line end only if its text does. -/
theorem getLast?_of_endsLine {t : Token} (h : t.inLine) (he : t.endsLine) :
    t.render.getLast? = some '\n' := by
  cases t with
  | char c =>
    have hc : c = '\n' := eq_of_beq he
    rw [hc]
    rfl
  | lineEnd => rfl
  | ruleEnd => rfl
  | _ => cases he

/-- A row goes on with another one that does not meet it with a second line end. -/
theorem fitsLine_append_of_meet {us ts : List Token} (hus : fitsLine us) (hts : fitsLine ts)
    (hmeet : lineEndFirst ts → (spell us).getLast? ≠ some '\n') : fitsLine (us ++ ts) := by
  simp only [fitsLine, Bool.and_eq_true] at hus hts ⊢
  refine ⟨by rw [List.all_append, hus.1, hts.1]; rfl, singleSpaced_append hus.2 hts.2 fun hlast => ?_⟩
  refine Bool.eq_false_iff.mpr fun hfirst => hmeet hfirst ?_
  obtain rfl | ⟨front, t, rfl⟩ := List.eq_nil_or_concat us
  · simp at hlast
  · have ht : t.inLine = true := by simpa using List.all_eq_true.mp hus.1 t (by simp)
    have hl := getLast?_of_endsLine ht (by simpa using hlast)
    simp [List.getLast?_append, hl]

/-- A text that may stand in a line, taken as a row of tokens. -/
def Line (cs : List Char) : Prop := ∃ ts, fitsLine ts ∧ cs = spell ts

namespace Line

variable {cs : List Char} {ts : List Token}

theorem nil : Line [] := ⟨[], rfl, rfl⟩

theorem inline (h : Line cs) : Inline cs := by
  obtain ⟨ts, hts, rfl⟩ := h
  exact inline_spell hts

theorem not_rule (h : Line cs) : ¬ "\\rule".toList <:+: cs := by
  obtain ⟨ts, hts, rfl⟩ := h
  exact not_rule_spell hts

theorem trim (h : Line cs) : Line (Text.dropEndWhile (· = ' ') cs) := by
  obtain ⟨ts, hts, rfl⟩ := h
  exact ⟨trimmed ts, fitsLine_trimmed hts, dropSpaces_of_fitsLine hts⟩

theorem append (h : Line cs) (hts : fitsLine ts)
    (hmeet : lineEndFirst ts → cs.getLast? ≠ some '\n') : Line (cs ++ spell ts) := by
  obtain ⟨us, hus, rfl⟩ := h
  exact ⟨us ++ ts, fitsLine_append_of_meet hus hts hmeet, (spell_append us ts).symm⟩

end Line

/-! ## Rows that may be written anywhere -/

/-- The row may be written in a line wherever the line stands, and keeps its words apart. -/
def fluent (ts : List Token) : Bool := fitsLine ts && !lineEndFirst ts && guarded ts

/-- The row consists of known tokens and keeps its words apart. -/
def sound (places : String) (ts : List Token) : Bool := ts.all (known places) && guarded ts

/-- A character that may stand by itself in a line. -/
def isPlain (c : Char) : Bool := isInert c && c != '\n'

section Pieces

variable {places : String} {a b ts : List Token} {cs : List Char}

theorem fluent_append (ha : fluent a) (hb : fluent b) : fluent (a ++ b) := by
  simp only [fluent, Bool.and_eq_true, Bool.not_eq_true'] at ha hb ⊢
  refine ⟨⟨fitsLine_append ha.1.1 hb.1.1 hb.1.2, ?_⟩, guarded_append ha.2 hb.2⟩
  cases a with
  | nil => exact hb.1.2
  | cons t a => exact ha.1.2

theorem sound_append (ha : sound places a) (hb : sound places b) : sound places (a ++ b) := by
  simp only [sound, Bool.and_eq_true] at ha hb ⊢
  exact ⟨by rw [List.all_append, ha.1, hb.1]; rfl, guarded_append ha.2 hb.2⟩

theorem sound_of_fluent (places : String) (h : fluent ts) : sound places ts := by
  simp only [fluent, fitsLine, sound, Bool.and_eq_true] at h ⊢
  exact ⟨List.all_eq_true.mpr fun t ht =>
    known_of_inLine (List.all_eq_true.mp h.1.1.1 t ht) places, h.2⟩

theorem fluent_flatMap {f : Char → List Token} (hf : ∀ c, fluent (f c)) (cs : List Char) :
    fluent (cs.flatMap f) := by
  induction cs with
  | nil => rfl
  | cons c cs ih => exact fluent_append (hf c) ih

theorem fluent_chars (h : cs.all isPlain) : fluent (chars cs) := by
  induction cs with
  | nil => rfl
  | cons c cs ih =>
    obtain ⟨hc, hcs⟩ : isPlain c = true ∧ cs.all isPlain = true := by simpa using h
    have hone : fluent [char c] := by
      simp only [isPlain, Bool.and_eq_true, bne_iff_ne, ne_eq] at hc
      have hinline : (char c).inLine = true := hc.1
      have hends : (char c).endsLine = false := beq_false_of_ne hc.2
      have hstarts : (char c).startsLine = false := beq_false_of_ne hc.2
      simp [fluent, fitsLine, singleSpaced, lineEndFirst, guarded, anchored, glued, letterFirst,
        isWhole, isSwitch, isWord, hinline, hends, hstarts]
    exact fluent_append hone (ih hcs)

theorem fluent_textTokens (c : Char) : fluent (textTokens c) := by
  unfold textTokens
  by_cases h : c ∈ ['\\', '^', '~', '<', '>', '\n', '\r'] ++ escapedSymbols
  · revert c
    decide
  · simp only [escapedSymbols, List.mem_append, List.mem_cons, List.not_mem_nil, or_false,
      not_or] at h
    have hc : [c].all isPlain := by simp [isPlain, isInert, h]
    simpa [h, escapedSymbols] using fluent_chars hc

theorem fluent_pathTokens (c : Char) : fluent (pathTokens c) := by
  unfold pathTokens
  split
  · rfl
  · split
    · rfl
    · next hb hs =>
      simp only [Bool.or_eq_true, List.contains_iff_mem, not_or] at hs
      have hopen : c ≠ '\x7b' := fun he => hs.1 (he ▸ by decide)
      have hclose : c ≠ '\x7d' := fun he => hs.1 (he ▸ by decide)
      have hline : c ≠ '\n' := fun he => hs.2 (he ▸ by decide)
      have hc : [c].all isPlain := by simp [isPlain, isInert, hb, hopen, hclose, hline]
      simpa using fluent_chars hc

theorem fluent_urlTokens (c : Char) : fluent (urlTokens c) := by
  unfold urlTokens
  by_cases h : c ∈ ['%', '#', '\\', '\x7b', '\x7d']
  · revert c
    decide
  · simp only [List.mem_cons, List.not_mem_nil, or_false, not_or] at h
    by_cases hc : isControl c
    · simp [h, hc]
      rfl
    · have hline : c ≠ '\n' := fun he => hc (he ▸ by decide)
      have hplain : [c].all isPlain := by simp [isPlain, isInert, h, hline]
      simpa [h, hc] using fluent_chars hplain

/-! ## Rows without environments -/

@[simp] theorem noEnvironment_append (a b : List Token) :
    noEnvironment (a ++ b) = (noEnvironment a && noEnvironment b) := List.all_append

@[simp] theorem noEnvironment_chars (cs : List Char) : noEnvironment (chars cs) = true := by
  rw [noEnvironment, chars, List.all_map, List.all_eq_true]
  exact fun _ _ => rfl

theorem noEnvironment_flatMap {f : Char → List Token} (hf : ∀ c, noEnvironment (f c)) (cs : List Char) :
    noEnvironment (cs.flatMap f) := by
  rw [noEnvironment, List.all_flatMap, List.all_eq_true]
  exact fun c _ => hf c

theorem noEnvironment_textTokens (c : Char) : noEnvironment (textTokens c) := by
  unfold textTokens
  repeat' split
  all_goals rfl

theorem noEnvironment_pathTokens (c : Char) : noEnvironment (pathTokens c) := by
  unfold pathTokens
  repeat' split
  all_goals rfl

theorem noEnvironment_urlTokens (c : Char) : noEnvironment (urlTokens c) := by
  unfold urlTokens
  repeat' split
  all_goals rfl

theorem noEnvironment_of_append (h : noEnvironment (a ++ b)) : noEnvironment a := by
  rw [noEnvironment_append, Bool.and_eq_true] at h
  exact h.1

theorem noEnvironment_trimmed (h : noEnvironment ts) : noEnvironment (trimmed ts) := trimmed_all h

end Pieces

end MarkupTex.Latex
