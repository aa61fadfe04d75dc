import MarkupTex.Proofs.Latex.Inline
import MarkupTex.Proofs.Latex.Nesting
/-!
# Arguments in brackets

An argument in brackets ends at the first closing bracket that stands at the depth of its own braces:
`splitAtBracket` finds it.  A backslash takes the next character along, so that an escaped brace is no
brace; a bracket has no escape of its own.

`depthAfter` says the same of a row of tokens.  It goes down a row as long as no bracket stands at depth
zero, and `splitAtBracket_spell` reads the row past in the text.
-/

set_option autoImplicit false

namespace MarkupTex.Latex

open Token

/-- A text that was split, with `front` before it. -/
def withFront (front : List Char) (split : Option (List Char × List Char)) :
    Option (List Char × List Char) :=
  split.map fun (inside, rest) => (front ++ inside, rest)

theorem withFront_nil (split : Option (List Char × List Char)) : withFront [] split = split := by
  cases split <;> rfl

theorem withFront_append (front back : List Char) (split : Option (List Char × List Char)) :
    withFront front (withFront back split) = withFront (front ++ back) split := by
  cases split <;> simp [withFront]

/-- What comes before the first closing bracket at this depth of braces, and what comes behind it.  There
is none where the group around the argument ends first. -/
def splitAtBracket (depth : Nat) : List Char → Option (List Char × List Char)
  | [] => none
  | '\\' :: c :: cs => withFront ['\\', c] (splitAtBracket depth cs)
  | c :: cs =>
    if c = '\x7b' then withFront [c] (splitAtBracket (depth + 1) cs)
    else if depth = 0 ∧ c = ']' then some ([], cs)
    else if depth = 0 ∧ c = '\x7d' then none
    else withFront [c] (splitAtBracket (if c = '\x7d' then depth - 1 else depth) cs)

/-! ## Rows of tokens -/

/-- The token is known and its backslashes begin commands, whatever follows. -/
def Token.isRegular : Token → Bool
  | placement _ => false
  | symbol c => escapedSymbols.contains c
  | t => t.known ""

/-- The depth of braces behind a token.  There is none where a bracket ends the argument, or where the
group around it ends. -/
def Token.depth : Token → Nat → Option Nat
  | opening, d => some (d + 1)
  | closing, 0 => none
  | closing, d + 1 => some d
  | char c, 0 => if c = ']' then none else some 0
  | placement _, _ => none
  | _, d => some d

/-- The depth of braces behind a row. -/
def depthAfter (d : Nat) : List Token → Option Nat
  | [] => some d
  | t :: ts => (t.depth d).bind fun d => depthAfter d ts

variable {places : String} {d d' n : Nat} {a b ts : List Token} {t : Token} {c : Char}
  {cs rest : List Char}

theorem known_of_isRegular (h : t.isRegular) (places : String) : t.known places := by
  cases t with
  | symbol c =>
    have hc : c ∈ escapedSymbols := by simpa [isRegular] using h
    simp [known, controlSymbols, hc]
  | placement => cases h
  | _ => exact h

theorem all_known_of_regular (h : ts.all isRegular) (places : String) : ts.all (known places) :=
  List.all_eq_true.mpr fun t ht => known_of_isRegular (List.all_eq_true.mp h t ht) places

theorem isRegular_of_inLine (h : t.inLine) : t.isRegular := by
  have hknown := known_of_inLine h ""
  cases t with
  | symbol c => exact h
  | placement => cases h
  | _ => exact hknown

theorem regular_of_fluent (h : fluent ts) : ts.all isRegular := by
  simp only [fluent, fitsLine, Bool.and_eq_true] at h
  exact List.all_eq_true.mpr fun t ht => isRegular_of_inLine (List.all_eq_true.mp h.1.1.1 t ht)

theorem depthAfter_append (d : Nat) (a b : List Token) :
    depthAfter d (a ++ b) = (depthAfter d a).bind fun d => depthAfter d b := by
  induction a generalizing d with
  | nil => rfl
  | cons t a ih =>
    rw [List.cons_append, depthAfter, depthAfter, Option.bind_assoc]
    congr 1
    funext d
    exact ih d

/-- Deeper inside, a token does what it does further out. -/
theorem depth_add (h : t.depth d = some d') (n : Nat) : t.depth (d + n) = some (d' + n) := by
  have hchar : ∀ c k, ¬ (c = ']' ∧ k = 0) → Token.depth (char c) k = some k := by
    intro c k hk
    cases k with
    | zero => simp_all [Token.depth]
    | succ k => rfl
  cases t with
  | opening => cases h; simp [Token.depth]; omega
  | closing =>
    cases d with
    | zero => cases h
    | succ d =>
      cases h
      rw [Nat.add_right_comm]
      rfl
  | char c =>
    have hc : ¬ (c = ']' ∧ d = 0) := by
      rintro ⟨rfl, rfl⟩
      cases h
    rw [hchar c d hc] at h
    cases h
    exact hchar c _ fun ⟨hb, hd⟩ => hc ⟨hb, by omega⟩
  | placement => cases h
  | _ => cases h; rfl

theorem depthAfter_add (h : depthAfter d ts = some d') (n : Nat) :
    depthAfter (d + n) ts = some (d' + n) := by
  induction ts generalizing d with
  | nil =>
    cases h
    rfl
  | cons t ts ih =>
    rw [depthAfter] at h ⊢
    obtain ⟨k, ht, hts⟩ := Option.bind_eq_some_iff.mp h
    rw [depth_add ht, Option.bind_some, ih hts]

/-- A row that can stand at depth zero can stand anywhere. -/
theorem depthAfter_of_zero (h : depthAfter 0 ts = some n) (d : Nat) :
    depthAfter d ts = some (d + n) := by
  have := depthAfter_add h d
  rwa [Nat.zero_add, Nat.add_comm n] at this

/-- Inside of braces no character counts. -/
theorem depthAfter_chars (hd : 0 < d) (cs : List Char) : depthAfter d (chars cs) = some d := by
  induction cs with
  | nil => rfl
  | cons c cs ih =>
    cases d with
    | zero => cases hd
    | succ d => exact ih

theorem depthAfter_flatMap {f : Char → List Token} (hf : ∀ c ∈ cs, depthAfter d (f c) = some d) :
    depthAfter d (cs.flatMap f) = some d := by
  induction cs with
  | nil => rfl
  | cons c cs ih =>
    rw [List.flatMap_cons, depthAfter_append, hf c List.mem_cons_self, Option.bind_some]
    exact ih fun c hc => hf c (List.mem_cons_of_mem _ hc)

theorem depth_char (h : c = ']' → 0 < d) : Token.depth (char c) d = some d := by
  cases d with
  | zero =>
    have hc : c ≠ ']' := fun hc => absurd (h hc) (Nat.lt_irrefl 0)
    simp [Token.depth, hc]
  | succ d => rfl

theorem depthAfter_textTokens (h : c = ']' → 0 < d) : depthAfter d (textTokens c) = some d := by
  have hchar := depth_char h
  unfold textTokens
  repeat' split
  case isFalse => simp [depthAfter, hchar]
  all_goals cases d <;> rfl

theorem depthAfter_pathTokens (h : c = ']' → 0 < d) : depthAfter d (pathTokens c) = some d := by
  have hchar := depth_char h
  unfold pathTokens
  repeat' split
  case isFalse => simp [depthAfter, hchar]
  all_goals cases d <;> rfl

theorem depthAfter_urlTokens (h : c = ']' → 0 < d) : depthAfter d (urlTokens c) = some d := by
  have hchar := depth_char h
  unfold urlTokens
  repeat' split
  case isFalse => simp [depthAfter, hchar]
  all_goals cases d <;> rfl

/-- Spaces at the end do not count. -/
theorem depthAfter_trimmed (d : Nat) (ts : List Token) :
    depthAfter d (trimmed ts) = depthAfter d ts := by
  have hspace : ∀ d, Token.depth (char ' ') d = some d := fun d => by cases d <;> rfl
  unfold trimmed
  induction ts generalizing d with
  | nil => rfl
  | cons t ts ih =>
    rw [cutBy_cons]
    split
    · next he =>
      have hts : ∀ d, depthAfter d ts = some d := fun d => by rw [← ih, he, depthAfter]
      rw [cutSpace]
      split
      · next hs => rw [hs, depthAfter, depthAfter, hspace, Option.bind_some, hts]
      · simp [depthAfter, hts]
    · rw [depthAfter, depthAfter]
      congr 1
      funext d
      exact ih d

/-! ### Rows that leave nothing open -/

/-- The braces among what is open. -/
def bracesIn (stack : List Bracket) : Nat := stack.countP (· == .brace)

theorem bracesIn_of_close {b : Bracket} {stack stack' : List Bracket} (h : close b stack = some stack') :
    bracesIn stack = bracesIn stack' + if b = .brace then 1 else 0 := by
  cases stack with
  | nil => cases h
  | cons top outer =>
    rw [close] at h
    split at h
    · next htop =>
      cases h
      rw [bracesIn, bracesIn, List.countP_cons, htop]
      simp
    · cases h

/-- In braces the depth goes with what is open. -/
theorem depth_of_turn {stack stack' : List Bracket} (ht : t.isRegular) (h : t.turn stack = some stack')
    (hd : 0 < d) : t.depth (d + bracesIn stack) = some (d + bracesIn stack') := by
  have hsame : ∀ t : Token, (∀ d, 0 < d → t.depth d = some d) → t.turn stack = some stack →
      t.turn stack = some stack' → t.depth (d + bracesIn stack) = some (d + bracesIn stack') := by
    intro t hdepth hturn h
    rw [hturn] at h
    cases h
    exact hdepth _ (by omega)
  cases t with
  | opening =>
    cases h
    simp [Token.depth, bracesIn]
    omega
  | closing =>
    have hcount := bracesIn_of_close h
    rw [if_pos rfl] at hcount
    rw [hcount]
    rfl
  | beginEnv name =>
    cases h
    rfl
  | endEnv name =>
    have hcount := bracesIn_of_close h
    rw [if_neg (by simp)] at hcount
    rw [hcount]
    rfl
  | char c => exact hsame _ (fun d hd => depth_char fun _ => hd) rfl h
  | placement => cases ht
  | _ => exact hsame _ (fun _ _ => rfl) rfl h

/-- A row that leaves nothing open comes back to the depth where it begins, if braces are around it. -/
theorem depthAfter_of_nest {stack stack' : List Bracket} (hts : ts.all isRegular)
    (h : nest stack ts = some stack') (hd : 0 < d) :
    depthAfter (d + bracesIn stack) ts = some (d + bracesIn stack') := by
  induction ts generalizing stack with
  | nil =>
    cases h
    rfl
  | cons t ts ih =>
    obtain ⟨ht, hts⟩ : t.isRegular = true ∧ ts.all isRegular = true := by simpa using hts
    obtain ⟨between, hturn, hnest⟩ := Option.bind_eq_some_iff.mp h
    rw [depthAfter, depth_of_turn ht hturn hd, Option.bind_some, ih hts hnest]

/-! ## Reading a row past -/

/-- A character that means nothing here, except perhaps as the end. -/
theorem splitAtBracket_inert (h : isInert c) (hbracket : c = ']' → 0 < d) :
    splitAtBracket d (c :: cs) = withFront [c] (splitAtBracket d cs) := by
  simp only [isInert, Bool.and_eq_true, bne_iff_ne, ne_eq] at h
  obtain ⟨⟨hback, hopen⟩, hclose⟩ := h
  have hend : ¬ (d = 0 ∧ c = ']') := by
    rintro ⟨hd, hc⟩
    have := hbracket hc
    omega
  rw [splitAtBracket.eq_def]
  split
  · next heq => cases heq
  · next heq =>
    cases heq
    exact absurd rfl hback
  · next heq =>
    cases heq
    rw [if_neg hopen, if_neg hend, if_neg (hclose ·.2), if_neg hclose]

theorem splitAtBracket_inert_append {name : List Char} (h : name.all isInert)
    (hbracket : ']' ∉ name) :
    splitAtBracket d (name ++ cs) = withFront name (splitAtBracket d cs) := by
  induction name with
  | nil => exact (withFront_nil _).symm
  | cons c name ih =>
    obtain ⟨hc, hname⟩ : isInert c = true ∧ name.all isInert = true := by simpa using h
    have hfirst : c = ']' → 0 < d := fun he => absurd List.mem_cons_self (he ▸ hbracket)
    rw [List.cons_append, splitAtBracket_inert hc hfirst,
      ih hname fun hmem => hbracket (List.mem_cons_of_mem _ hmem), withFront_append]
    rfl

/-- A backslash with the character behind it. -/
theorem splitAtBracket_escape (c : Char) :
    splitAtBracket d ('\\' :: c :: cs) = withFront ['\\', c] (splitAtBracket d cs) := by
  rw [splitAtBracket]

theorem letters_plain (h : cs.all Text.isAsciiLetter) : cs.all isInert ∧ ']' ∉ cs := by
  refine ⟨List.all_eq_true.mpr fun c hc => isInert_of_isAsciiLetter (List.all_eq_true.mp h c hc), ?_⟩
  intro hmem
  exact absurd (List.all_eq_true.mp h _ hmem) (by decide)

/-- A backslash with letters behind it: the unit is the backslash with the first of them, and the others do
nothing. -/
theorem splitAtBracket_word {word : List Char} (hne : word ≠ []) (h : word.all Text.isAsciiLetter) :
    splitAtBracket d ('\\' :: (word ++ cs)) = withFront ('\\' :: word) (splitAtBracket d cs) := by
  cases word with
  | nil => exact absurd rfl hne
  | cons c word =>
    rw [List.all_cons, Bool.and_eq_true] at h
    obtain ⟨hinert, hbracket⟩ := letters_plain h.2
    rw [List.cons_append, splitAtBracket_escape, splitAtBracket_inert_append hinert hbracket,
      withFront_append]
    rfl

theorem environments_letters : ∀ n ∈ environments, n.toList.all Text.isAsciiLetter := by decide

/-- The name of an environment in braces. -/
theorem splitAtBracket_braced {name : List Char} (h : name.all Text.isAsciiLetter) :
    splitAtBracket d ('\x7b' :: name ++ '\x7d' :: cs) =
      withFront ('\x7b' :: name ++ ['\x7d']) (splitAtBracket d cs) := by
  obtain ⟨hinert, hbracket⟩ := letters_plain h
  have hopen : ∀ cs, splitAtBracket d ('\x7b' :: cs) =
      withFront ['\x7b'] (splitAtBracket (d + 1) cs) := by
    intro cs
    rw [splitAtBracket.eq_def]
    rfl
  have hclose : splitAtBracket (d + 1) ('\x7d' :: cs) =
      withFront ['\x7d'] (splitAtBracket d cs) := by
    rw [splitAtBracket.eq_def]
    simp
  rw [List.cons_append, hopen, splitAtBracket_inert_append hinert hbracket, hclose,
    withFront_append, withFront_append]
  simp

/-- The mark of an environment: a control word and a name in braces. -/
theorem splitAtBracket_mark (word : List Char) {name : List Char} (hne : word ≠ [])
    (h : word.all Text.isAsciiLetter) (hname : name.all Text.isAsciiLetter) (d : Nat) (rest : List Char) :
    splitAtBracket d ('\\' :: (word ++ ('\x7b' :: name ++ '\x7d' :: rest))) =
      withFront ('\\' :: (word ++ ('\x7b' :: name ++ ['\x7d']))) (splitAtBracket d rest) := by
  rw [splitAtBracket_word hne h, splitAtBracket_braced hname, withFront_append]
  rfl

/-- A token is read past, at the depth that it leaves. -/
theorem splitAtBracket_token (h : t.isRegular) (hd : t.depth d = some d') :
    splitAtBracket d (t.render ++ rest) =
      withFront t.render (splitAtBracket d' rest) := by
  cases t with
  | word name =>
    cases hd
    obtain ⟨hne, hletters⟩ := controlWords_letters name (by simpa [isRegular, known] using h)
    exact splitAtBracket_word hne hletters
  | symbol c =>
    cases hd
    exact splitAtBracket_escape c
  | opening =>
    cases hd
    rw [render, List.singleton_append, splitAtBracket.eq_def]
    rfl
  | closing =>
    cases d with
    | zero => cases hd
    | succ d =>
      cases hd
      rw [render, List.singleton_append, splitAtBracket.eq_def]
      simp
  | beginEnv name =>
    cases hd
    have hname := environments_letters name (by simpa [isRegular, known] using h)
    simpa [render, beginMark] using
      splitAtBracket_mark ['b', 'e', 'g', 'i', 'n'] (by decide) rfl hname d rest
  | endEnv name =>
    cases hd
    have hname := environments_letters name (by simpa [isRegular, known] using h)
    simpa [render, endMark] using splitAtBracket_mark ['e', 'n', 'd'] (by decide) rfl hname d rest
  | char c =>
    have hc : c = ']' → 0 < d := by
      rintro rfl
      cases d with
      | zero => cases hd
      | succ d => exact Nat.succ_pos d
    rw [depth_char hc] at hd
    cases hd
    exact splitAtBracket_inert h hc
  | lineEnd =>
    cases hd
    have hsplit : lineEnd.render ++ rest = '\\' :: '\\' :: ('\n' :: rest) := rfl
    rw [hsplit, splitAtBracket_escape, splitAtBracket_inert rfl (fun h => by cases h),
      withFront_append]
    rfl
  | ruleEnd =>
    cases hd
    have hline : (['l', 'i', 'n', 'e', '\n'] : List Char).all isInert := rfl
    have hsplit : ruleEnd.render ++ rest =
        '\\' :: '\\' :: ' ' :: '\\' :: 'h' :: (['l', 'i', 'n', 'e', '\n'] ++ rest) := rfl
    rw [hsplit, splitAtBracket_escape, splitAtBracket_inert rfl (fun h => by cases h), splitAtBracket_escape,
      splitAtBracket_inert_append hline (by decide), withFront_append, withFront_append,
      withFront_append]
    rfl
  | placement => cases h

/-- A row is read past, at the depth behind it. -/
theorem splitAtBracket_spell (h : ts.all isRegular) (hd : depthAfter d ts = some d') :
    splitAtBracket d (spell ts ++ rest) =
      withFront (spell ts) (splitAtBracket d' rest) := by
  induction ts generalizing d with
  | nil =>
    cases hd
    exact (withFront_nil _).symm
  | cons t ts ih =>
    obtain ⟨ht, hts⟩ : t.isRegular = true ∧ ts.all isRegular = true := by simpa using h
    obtain ⟨k, hk, hrest⟩ := Option.bind_eq_some_iff.mp hd
    rw [spell_cons, List.append_assoc, splitAtBracket_token ht hk, ih hts hrest, withFront_append]

/-- The bracket behind a row that comes back to depth zero is the first one at this depth. -/
theorem splitAtBracket_closes (h : ts.all isRegular) (hd : depthAfter 0 ts = some 0) :
    splitAtBracket 0 (spell ts ++ ']' :: rest) = some (spell ts, rest) := by
  rw [splitAtBracket_spell h hd, splitAtBracket.eq_def]
  simp [withFront]

end MarkupTex.Latex
