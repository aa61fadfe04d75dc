import MarkupTex.Proofs.Latex.Writing
import MarkupTex.Proofs.Text.Search
/-!
# Nesting

`scan` reads a text from left to right and keeps a stack of what is open, braces and environments.
A backslash and the character behind it are one unit, so that an escaped brace is none; only the marks
that begin and end an environment are read further, up to the closing brace behind the name.  The
reading fails where something is closed that was not opened last.

`scan_spell` says that the tokens of a row are units of this reading: the stack after a text can be
found from its row.
-/

set_option autoImplicit false

namespace MarkupTex.Latex

/-- Something that has to be closed. -/
inductive Bracket where
  | brace
  | environment (name : List Char)
  deriving DecidableEq, Repr

/-- The mark of an environment, as it is read behind a backslash. -/
inductive Mark where
  | begins (name : List Char)
  | ends (name : List Char)
  deriving DecidableEq, Repr

/-- The mark of an environment, and what follows its closing brace. -/
def mark? (cs : List Char) : Option (Mark × List Char) :=
  if beginMark.isPrefixOf cs then
    (Text.splitAtChar '\x7d' (cs.drop beginMark.length)).map fun (name, rest) => (.begins name, rest)
  else if endMark.isPrefixOf cs then
    (Text.splitAtChar '\x7d' (cs.drop endMark.length)).map fun (name, rest) => (.ends name, rest)
  else none

theorem length_of_mark? {cs rest : List Char} {mark : Mark} (h : mark? cs = some (mark, rest)) :
    rest.length < cs.length := by
  have hdrop : ∀ n, Text.splitAtChar '\x7d' (cs.drop n) = none ∨
      ∃ name r, Text.splitAtChar '\x7d' (cs.drop n) = some (name, r) ∧ r.length < cs.length := by
    intro n
    cases hs : Text.splitAtChar '\x7d' (cs.drop n) with
    | none => exact Or.inl rfl
    | some parts =>
      have hl := @Text.length_of_splitAtChar _ _ parts.1 parts.2 hs
      rw [List.length_drop] at hl
      exact Or.inr ⟨_, _, rfl, by omega⟩
  rw [mark?] at h
  split at h
  · rcases hdrop beginMark.length with hn | ⟨name, r, hs, hl⟩
    · simp [hn] at h
    · rw [hs] at h
      cases h
      exact hl
  · split at h
    · rcases hdrop endMark.length with hn | ⟨name, r, hs, hl⟩
      · simp [hn] at h
      · rw [hs] at h
        cases h
        exact hl
    · cases h

/-- Closes what was opened last, if it is this. -/
def close (b : Bracket) : List Bracket → Option (List Bracket)
  | [] => none
  | top :: outer => if top = b then some outer else none

/-- What an environment mark does to the stack. -/
def Mark.turn : Mark → List Bracket → Option (List Bracket)
  | begins name, stack => some (.environment name :: stack)
  | ends name, stack => close (.environment name) stack

/-- What is open behind a text, if all that was closed in it was what was opened last. -/
def scan (stack : List Bracket) : List Char → Option (List Bracket)
  | [] => some stack
  | c :: cs =>
    if c = '\\' then
      match _h : mark? cs with
      | some (mark, rest) => (mark.turn stack).bind fun stack => scan stack rest
      | none =>
        match cs with
        | [] => none
        | _ :: rest => scan stack rest
    else if c = '\x7b' then scan (.brace :: stack) cs
    else if c = '\x7d' then (close .brace stack).bind fun stack => scan stack cs
    else scan stack cs
termination_by cs => cs.length
decreasing_by
  all_goals simp only [List.length_cons]
  · have := length_of_mark? _h
    omega
  all_goals omega

/-- The braces and environments of a text are well nested, and none is left open. -/
def WellNested (cs : List Char) : Prop := scan [] cs = some []

instance (cs : List Char) : Decidable (WellNested cs) := inferInstanceAs (Decidable (_ = _))

/-! ## The same on rows of tokens -/

/-- What one token does to the stack. -/
def Token.turn : Token → List Bracket → Option (List Bracket)
  | opening, stack => some (.brace :: stack)
  | closing, stack => close .brace stack
  | beginEnv name, stack => some (.environment name.toList :: stack)
  | endEnv name, stack => close (.environment name.toList) stack
  | _, stack => some stack

/-- What is open behind a row of tokens. -/
def nest (stack : List Bracket) : List Token → Option (List Bracket)
  | [] => some stack
  | t :: ts => (t.turn stack).bind fun stack => nest stack ts

theorem nest_append (stack : List Bracket) (a b : List Token) :
    nest stack (a ++ b) = (nest stack a).bind fun stack => nest stack b := by
  induction a generalizing stack with
  | nil => rfl
  | cons t a ih =>
    rw [List.cons_append, nest, nest, Option.bind_assoc]
    congr 1
    funext stack
    exact ih stack

open Token

theorem nest_chars (stack : List Bracket) (cs : List Char) : nest stack (chars cs) = some stack := by
  induction cs with
  | nil => rfl
  | cons c cs ih => simpa [nest, turn] using ih

/-- Tokens of which each leaves the stack as it is. -/
theorem nest_flatMap {f : Char → List Token} (hf : ∀ c stack, nest stack (f c) = some stack)
    (stack : List Bracket) (cs : List Char) : nest stack (cs.flatMap f) = some stack := by
  induction cs with
  | nil => rfl
  | cons c cs ih => rw [List.flatMap_cons, nest_append, hf, Option.bind_some, ih]

theorem nest_textTokens (c : Char) (stack : List Bracket) :
    nest stack (textTokens c) = some stack := by
  unfold textTokens
  repeat' split
  all_goals rfl

theorem nest_pathTokens (c : Char) (stack : List Bracket) :
    nest stack (pathTokens c) = some stack := by
  unfold pathTokens
  repeat' split
  all_goals rfl

theorem nest_urlTokens (c : Char) (stack : List Bracket) :
    nest stack (urlTokens c) = some stack := by
  unfold urlTokens
  repeat' split
  all_goals rfl

/-- Cutting tokens at the end does not count where what is left of each does the same. -/
theorem nest_cutBy {cut : Token → List Token}
    (hcut : ∀ t, cut t = [t] ∨ ∀ stack, t.turn stack = some stack ∧ nest stack (cut t) = some stack)
    (ts : List Token) (stack : List Bracket) : nest stack (cutBy cut ts) = nest stack ts := by
  induction ts generalizing stack with
  | nil => rfl
  | cons t ts ih =>
    rw [cutBy_cons]
    split
    · next he =>
      have hts : ∀ stack, nest stack ts = some stack := fun stack => by rw [← ih, he, nest]
      rcases hcut t with h | h
      · rw [h, nest, nest]
        simp [nest, hts]
      · rw [nest, (h stack).1, (h stack).2, Option.bind_some, hts]
    · rw [nest, nest]
      congr 1
      funext stack
      exact ih stack

theorem nest_trimmed (ts : List Token) (stack : List Bracket) :
    nest stack (trimmed ts) = nest stack ts := by
  refine nest_cutBy (fun t => ?_) ts stack
  rw [cutSpace]
  split
  · next h =>
    subst h
    exact Or.inr fun stack => ⟨rfl, rfl⟩
  · exact Or.inl rfl

theorem nest_dropWhile (ts : List Token) (stack : List Bracket) :
    nest stack (ts.dropWhile isBlank) = nest stack ts := by
  induction ts with
  | nil => rfl
  | cons t ts ih =>
    rw [List.dropWhile_cons]
    split
    · next h =>
      cases t with
      | char c => exact ih
      | _ => exact absurd h (by simp [isBlank])
    · rfl

theorem nest_stripped (ts : List Token) (stack : List Bracket) :
    nest stack (stripped ts) = nest stack ts := by
  rw [stripped, nest_cutBy, nest_dropWhile]
  intro t
  cases t with
  | char c =>
    rw [cutBlank]
    split
    · exact Or.inr fun stack => ⟨rfl, rfl⟩
    · exact Or.inl rfl
  | lineEnd => exact Or.inr fun stack => ⟨rfl, rfl⟩
  | ruleEnd => exact Or.inr fun stack => ⟨rfl, rfl⟩
  | _ => exact Or.inl rfl

/-! ## Tokens are units of the reading -/

section Units

variable {stack : List Bracket} {cs rest : List Char} {c : Char}

theorem scan_inert (h : isInert c) : scan stack (c :: rest) = scan stack rest := by
  simp only [isInert, Bool.and_eq_true, bne_iff_ne, ne_eq] at h
  rw [scan]
  simp [h]

theorem scan_inert_append (h : cs.all isInert) : scan stack (cs ++ rest) = scan stack rest := by
  induction cs with
  | nil => rfl
  | cons c cs ih =>
    obtain ⟨hc, hcs⟩ : isInert c = true ∧ cs.all isInert = true := by simpa using h
    rw [List.cons_append, scan_inert hc, ih hcs]

theorem scan_unit (h : mark? (c :: cs) = none) : scan stack ('\\' :: c :: cs) = scan stack cs := by
  rw [scan]
  simp only [if_true]
  split
  · next hs => rw [h] at hs; cases hs
  · rfl

theorem scan_mark {mark : Mark} (h : mark? cs = some (mark, rest)) :
    scan stack ('\\' :: cs) = (mark.turn stack).bind fun stack => scan stack rest := by
  rw [scan]
  simp only [if_true]
  split
  · next hs => rw [h] at hs; cases hs; rfl
  · next hs => rw [h] at hs; cases hs

theorem splitAtChar_name (rest : List Char) {name : List Char} (h : name.all isInert) :
    Text.splitAtChar '\x7d' (name ++ '\x7d' :: rest) = some (name, rest) := by
  refine Text.splitAtChar_eq_some.mpr ⟨rfl, fun hmem => ?_⟩
  exact absurd (List.all_eq_true.mp h _ hmem) (by decide)

theorem mark?_begin {name : List Char} (h : name.all isInert) :
    mark? (beginMark ++ name ++ ['\x7d'] ++ rest) = some (.begins name, rest) := by
  have hs := splitAtChar_name rest h
  simp [mark?, beginMark, hs]

theorem mark?_end {name : List Char} (h : name.all isInert) :
    mark? (endMark ++ name ++ ['\x7d'] ++ rest) = some (.ends name, rest) := by
  have hs := splitAtChar_name rest h
  simp [mark?, beginMark, endMark, hs]

theorem controlWords_start : ∀ w ∈ controlWords, 2 ≤ w.toList.length ∧
    w.toList.take 2 ≠ ['b', 'e'] ∧ w.toList.take 2 ≠ ['e', 'n'] := by
  have hread : ∀ w ∈ controlWords, 2 ≤ (Text.byteChars w).length ∧
      (Text.byteChars w).take 2 ≠ ['b', 'e'] ∧ (Text.byteChars w).take 2 ≠ ['e', 'n'] := by decide
  intro w hw
  rw [toList_controlWord hw]
  exact hread w hw

/-- No control word that is written begins like the mark of an environment. -/
theorem mark?_word {w : String} (h : w ∈ controlWords) (rest : List Char) :
    mark? (w.toList ++ rest) = none := by
  obtain ⟨hlen, hbegin, hend⟩ := controlWords_start w h
  match hw : w.toList with
  | [] => simp [hw] at hlen
  | [_] => simp [hw] at hlen
  | a :: b :: cs =>
    rw [hw] at hbegin hend
    have hb : beginMark.isPrefixOf (a :: b :: cs ++ rest) = false := by
      refine Bool.eq_false_iff.mpr fun hp => hbegin ?_
      simp only [beginMark, List.cons_append, List.isPrefixOf, Bool.and_eq_true, beq_iff_eq] at hp
      simp [← hp.1, ← hp.2.1]
    have he : endMark.isPrefixOf (a :: b :: cs ++ rest) = false := by
      refine Bool.eq_false_iff.mpr fun hp => hend ?_
      simp only [endMark, List.cons_append, List.isPrefixOf, Bool.and_eq_true, beq_iff_eq] at hp
      simp [← hp.1, ← hp.2.1]
    rw [mark?, hb, he]
    rfl

theorem isInert_of_isAsciiLetter (h : Text.isAsciiLetter c) : isInert c := by
  have hspecial : ∀ d ∈ ['\\', '\x7b', '\x7d'], Text.isAsciiLetter d = false := by decide
  have hne : ∀ d ∈ ['\\', '\x7b', '\x7d'], c ≠ d := by
    rintro d hd rfl
    exact absurd h (by simp [hspecial c hd])
  simp [isInert, hne]

theorem environments_inert : ∀ n ∈ environments, n.toList.all isInert := by decide

theorem controlSymbols_unmarked : ∀ c ∈ controlSymbols, ∀ rest, mark? (c :: rest) = none := by
  simp [controlSymbols, escapedSymbols, mark?, beginMark, endMark]

/-- A known token does to the stack what its characters do, whatever follows. -/
theorem scan_token {places : String} (hplaces : places.toList.all isInert) {t : Token}
    (h : t.known places) :
    scan stack (t.render ++ rest) = (t.turn stack).bind fun stack => scan stack rest := by
  cases t with
  | word name =>
    have hmem : name ∈ controlWords := by simpa [known] using h
    obtain ⟨hne, hletters⟩ := controlWords_letters name hmem
    have hmark := mark?_word hmem rest
    -- The unit is the backslash with the first letter, and the other letters do nothing.
    cases hname : name.toList with
    | nil => exact absurd hname hne
    | cons c cs =>
      rw [hname] at hletters hmark
      have hcs : cs.all isInert := List.all_eq_true.mpr fun d hd =>
        isInert_of_isAsciiLetter (List.all_eq_true.mp hletters d (List.mem_cons_of_mem c hd))
      rw [render, hname]
      exact (scan_unit hmark).trans (scan_inert_append hcs)
  | symbol c =>
    exact scan_unit (controlSymbols_unmarked c (by simpa [known] using h) rest)
  | opening =>
    rw [render, List.singleton_append, scan]
    rfl
  | closing =>
    rw [render, List.singleton_append, scan]
    rfl
  | beginEnv name =>
    have hn := environments_inert name (by simpa [known] using h)
    exact scan_mark (mark?_begin hn)
  | endEnv name =>
    have hn := environments_inert name (by simpa [known] using h)
    exact scan_mark (mark?_end hn)
  | char c => exact scan_inert h
  | lineEnd => exact (scan_unit rfl).trans (scan_inert rfl)
  | ruleEnd =>
    have hline : ['l', 'i', 'n', 'e', '\n'].all isInert := rfl
    exact (scan_unit rfl).trans <| (scan_inert rfl).trans <|
      (scan_unit rfl).trans (scan_inert_append hline)
  | placement p =>
    have hp : (('[' :: p.toList) ++ [']']).all isInert := by
      have : p = places := by simpa [known] using h
      rw [this]
      simp only [List.all_append, List.all_cons, hplaces]
      rfl
    exact scan_inert_append hp

end Units

theorem scan_spell {places : String} (hplaces : places.toList.all isInert) {ts : List Token}
    (h : ts.all (known places)) (stack : List Bracket) :
    scan stack (spell ts) = nest stack ts := by
  induction ts generalizing stack with
  | nil => rw [spell_nil, scan, nest]
  | cons t ts ih =>
    obtain ⟨ht, hts⟩ : t.known places = true ∧ ts.all (known places) = true := by simpa using h
    rw [spell_cons, scan_token hplaces ht, nest]
    congr 1
    funext stack
    exact ih hts stack

end MarkupTex.Latex
