import Mathlib.Data.List.Induction
import Mathlib.Data.List.TakeWhile
import MarkupTex.Proofs.Latex.Nesting
/-!
# Control sequences

`Authored` says of a text, read the way LaTeX reads it, that every backslash begins a control
sequence that a conversion writes, and that the marks of environments have names that it writes.  A
control word takes in all the letters that follow, and so it is lost where a letter comes directly
behind it.

On a row of tokens this is the one thing that can go wrong: `authored_spell` says that the text of a
row is `Authored` if and only if no word in it is `glued` to a letter.  It needs that words stand in
front of letters only where spaces were cut off, which is so for the switches alone.
-/

set_option autoImplicit false

namespace MarkupTex.Latex

/-- What follows the control sequence behind a backslash, if it is one that a conversion writes. -/
def sequence? (cs : List Char) : Option (List Char) :=
  let name := cs.takeWhile Text.isAsciiLetter
  let rest := cs.dropWhile Text.isAsciiLetter
  if name = ['b', 'e', 'g', 'i', 'n'] || name = ['e', 'n', 'd'] then
    match rest with
    | '\x7b' :: rest =>
      match Text.splitAtChar '\x7d' rest with
      | some (environment, rest) =>
        if environments.contains (String.ofList environment) then some rest else none
      | none => none
    | _ => none
  else if name.isEmpty then
    match cs with
    | [] => none
    | c :: rest => if controlSymbols.contains c then some rest else none
  else if controlWords.contains (String.ofList name) then some rest else none

theorem length_of_sequence? {cs rest : List Char} (h : sequence? cs = some rest) :
    rest.length ≤ cs.length := by
  have hle := List.length_dropWhile_le Text.isAsciiLetter cs
  unfold sequence? at h
  dsimp only at h
  split at h
  · split at h
    · next tail ht =>
      split at h
      · next environment after hs =>
        split at h
        · cases h
          have := Text.length_of_splitAtChar hs
          rw [ht, List.length_cons] at hle
          omega
        · cases h
      · cases h
    · cases h
  · split at h
    · split at h
      · cases h
      · split at h
        · cases h
          simp
        · cases h
    · split at h
      · cases h
        exact hle
      · cases h

/-- Every backslash begins a control sequence of the fixed set, and every environment has a name of
the fixed set. -/
def authored : List Char → Bool
  | [] => true
  | c :: cs =>
    if c = '\\' then
      match _h : sequence? cs with
      | some rest => authored rest
      | none => false
    else authored cs
termination_by cs => cs.length
decreasing_by
  all_goals simp only [List.length_cons]
  · have := length_of_sequence? _h
    omega
  · omega

/-! ## Words and what stands behind them -/

open Token

namespace Token

def isWord : Token → Bool
  | word _ => true
  | _ => false

/-- The token is a switch, if it is a word. -/
def isSwitch : Token → Bool
  | word name => switches.contains name
  | _ => true

/-- Two backslashes are written together with what follows them. -/
def isWhole : Token → Bool
  | symbol c => c != '\\'
  | _ => true

end Token

/-- The row begins with a letter. -/
def letterFirst (ts : List Token) : Bool := ts.head?.any isLetter

/-- A word has a letter directly behind it. -/
def glued : List Token → Bool
  | [] => false
  | t :: ts => (t.isWord && letterFirst ts) || glued ts

/-- No word but a switch has a letter directly behind it. -/
def parted : List Token → Bool
  | [] => true
  | t :: ts => (t.isSwitch || !letterFirst ts) && parted ts

/-- Every word but a switch has something directly behind it that is neither a letter nor a space. -/
def anchored : List Token → Bool
  | [] => true
  | t :: ts =>
    t.isWhole && (t.isSwitch || ts.head?.any fun u => !u.isLetter && u != char ' ') && anchored ts

/-- No word stands at the end, and none has a letter behind it; a space only switches have. -/
def guarded (ts : List Token) : Bool := anchored ts && !glued ts && !ts.getLast?.any isWord

section Rows

variable {a b ts : List Token} {t : Token} {cs : List Char}

@[simp] theorem letterFirst_cons : letterFirst (t :: ts) = t.isLetter := rfl

/-- Two rows are glued where one of them is, or where they meet. -/
theorem glued_append : glued (a ++ b) =
    (glued a || glued b || (a.getLast?.any isWord && letterFirst b)) := by
  induction a with
  | nil => simp [glued]
  | cons t a ih =>
    rw [List.cons_append, glued, ih, glued]
    cases a with
    | nil =>
      cases hw : t.isWord <;> simp [hw, glued, letterFirst, Bool.or_comm]
    | cons u a => simp [letterFirst, Bool.or_assoc, List.getLast?_cons_cons]

theorem anchored_append (ha : anchored a) (hb : anchored b) : anchored (a ++ b) := by
  induction a with
  | nil => exact hb
  | cons t a ih =>
    simp only [anchored, Bool.and_eq_true, Bool.or_eq_true] at ha
    obtain ⟨⟨hwhole, hnext⟩, hrest⟩ := ha
    simp only [List.cons_append, anchored, Bool.and_eq_true, Bool.or_eq_true]
    refine ⟨⟨hwhole, hnext.imp id fun h => ?_⟩, ih hrest⟩
    cases a with
    | nil => exact absurd h (by simp)
    | cons u a => exact h

theorem guarded_append (ha : guarded a) (hb : guarded b) : guarded (a ++ b) := by
  simp only [guarded, Bool.and_eq_true, Bool.not_eq_true'] at ha hb ⊢
  refine ⟨⟨anchored_append ha.1.1 hb.1.1, ?_⟩, ?_⟩
  · rw [glued_append, ha.1.2, hb.1.2, ha.2]
    rfl
  · rw [List.getLast?_append]
    cases hl : b.getLast? with
    | none => simpa using ha.2
    | some u => simpa [hl] using hb.2

/-- Between characters and symbols there is nothing to be parted. -/
theorem guarded_wordless (h : ts.all fun t => !t.isWord && t.isWhole) : guarded ts := by
  have hall := List.all_eq_true.mp h
  have hlast : ts.getLast?.any isWord = false := by
    cases hl : ts.getLast? with
    | none => rfl
    | some u =>
      have := hall u (List.mem_of_getLast? hl)
      simp only [Bool.and_eq_true, Bool.not_eq_true'] at this
      simpa using this.1
  have hrows : anchored ts = true ∧ glued ts = false := by
    clear hlast
    induction ts with
    | nil => exact ⟨rfl, rfl⟩
    | cons t ts ih =>
      have ht := hall t List.mem_cons_self
      simp only [Bool.and_eq_true, Bool.not_eq_true'] at ht
      have hswitch : t.isSwitch = true := by
        cases t with
        | word name => exact absurd ht.1 (by simp [isWord])
        | _ => rfl
      have hts : ts.all fun t => !t.isWord && t.isWhole :=
        List.all_eq_true.mpr fun u hu => hall u (List.mem_cons_of_mem t hu)
      obtain ⟨hanchored, hglued⟩ := ih hts fun u hu => hall u (List.mem_cons_of_mem t hu)
      exact ⟨by simp [anchored, ht, hswitch, hanchored], by simp [glued, ht, hglued]⟩
  simp [guarded, hrows, hlast]

theorem guarded_chars (cs : List Char) : guarded (chars cs) :=
  guarded_wordless (by simp [chars, isWord, isWhole])

theorem parted_of_anchored (h : anchored ts) : parted ts := by
  induction ts with
  | nil => rfl
  | cons t ts ih =>
    simp only [anchored, Bool.and_eq_true, Bool.or_eq_true] at h
    obtain ⟨⟨-, hnext⟩, hrest⟩ := h
    simp only [parted, Bool.and_eq_true, Bool.or_eq_true, Bool.not_eq_true']
    refine ⟨hnext.imp id fun h => ?_, ih hrest⟩
    cases ts with
    | nil => rfl
    | cons u ts =>
      simp only [List.head?_cons, Option.any_some, Bool.and_eq_true, Bool.not_eq_true'] at h
      exact h.1

/-! ## Cutting -/

/-- What may be cut off a token at the end is no word and no letter, and leaves none behind. -/
def CutsSafely (cut : Token → List Token) : Prop :=
  ∀ t, cut t = [t] ∨ (t.isWord = false ∧ t.isLetter = false ∧ letterFirst (cut t) = false ∧
    glued (cut t) = false ∧ parted (cut t) = true)

theorem cutsSafely_cutSpace : CutsSafely cutSpace := by
  intro t
  rw [cutSpace]
  split
  · next h =>
    subst h
    exact Or.inr ⟨rfl, rfl, rfl, rfl, rfl⟩
  · exact Or.inl rfl

theorem isAsciiLetter_of_isBlank {c : Char} (h : Text.isBlank c) : Text.isAsciiLetter c = false := by
  cases hl : Text.isAsciiLetter c with
  | false => rfl
  | true =>
    rw [Text.isBlank_of_isAsciiLetter hl] at h
    cases h

theorem cutsSafely_cutBlank : CutsSafely cutBlank := by
  intro t
  cases t with
  | char c =>
    rw [cutBlank]
    split
    · next h => exact Or.inr ⟨rfl, isAsciiLetter_of_isBlank h, rfl, rfl, rfl⟩
    · exact Or.inl rfl
  | lineEnd => exact Or.inr ⟨rfl, rfl, rfl, rfl, rfl⟩
  | ruleEnd => exact Or.inr ⟨rfl, rfl, rfl, rfl, rfl⟩
  | _ => exact Or.inl rfl

variable {cut : Token → List Token}

theorem letterFirst_cutBy (hcut : CutsSafely cut) (ts : List Token) :
    letterFirst (cutBy cut ts) = letterFirst ts := by
  cases ts with
  | nil => rfl
  | cons t ts =>
    rw [cutBy_cons]
    split
    · rcases hcut t with h | ⟨-, hletter, hfirst, -, -⟩
      · rw [h]
        rfl
      · rw [hfirst, letterFirst_cons, hletter]
    · rfl

theorem glued_cutBy (hcut : CutsSafely cut) (ts : List Token) :
    glued (cutBy cut ts) = glued ts := by
  induction ts with
  | nil => rfl
  | cons t ts ih =>
    have hfirst := letterFirst_cutBy hcut ts
    rw [cutBy_cons, glued, ← ih, ← hfirst]
    split
    · next he =>
      rw [he]
      rcases hcut t with h | ⟨hword, -, -, hglued, -⟩
      · rw [h]
        rfl
      · rw [hglued, hword]
        rfl
    · rfl

theorem parted_cutBy (hcut : CutsSafely cut) (h : parted ts) : parted (cutBy cut ts) := by
  induction ts with
  | nil => rfl
  | cons t ts ih =>
    obtain ⟨hnext, hrest⟩ : (t.isSwitch || !letterFirst ts) = true ∧ parted ts = true := by
      simpa [parted] using h
    rw [cutBy_cons]
    split
    · next he =>
      rcases hcut t with h | ⟨-, -, -, -, hparted⟩
      · rw [h, parted, parted, letterFirst]
        simp
      · exact hparted
    · rw [parted, letterFirst_cutBy hcut, hnext, ih hrest]
      rfl

theorem head?_trimmed (h : trimmed ts ≠ []) : (trimmed ts).head? = ts.head? := by
  cases ts with
  | nil => rfl
  | cons t ts =>
    rw [trimmed, cutBy_cons] at h ⊢
    split
    · next he =>
      rw [if_pos he, cutSpace] at h
      rw [cutSpace]
      split
      · next hs => exact absurd (if_pos hs) h
      · rfl
    · rfl

/-- Where nothing but spaces stands a word is not anchored. -/
theorem spaceFirst_of_trimmed (h : trimmed ts = []) :
    (ts.head?.any fun u => !u.isLetter && u != char ' ') = false := by
  cases ts with
  | nil => rfl
  | cons t ts =>
    rw [trimmed, cutBy_cons] at h
    split at h
    · rw [cutSpace] at h
      split at h
      · next hs =>
        subst hs
        rfl
      · cases h
    · cases h

theorem anchored_trimmed (h : anchored ts) : anchored (trimmed ts) := by
  induction ts with
  | nil => rfl
  | cons t ts ih =>
    simp only [anchored, Bool.and_eq_true] at h
    obtain ⟨⟨hwhole, hnext⟩, hrest⟩ := h
    have hcons : trimmed (t :: ts) = if trimmed ts = [] then cutSpace t else t :: trimmed ts :=
      cutBy_cons cutSpace t ts
    rw [hcons]
    by_cases he : trimmed ts = []
    · rw [spaceFirst_of_trimmed he, Bool.or_false] at hnext
      rw [if_pos he, cutSpace]
      split
      · rfl
      · simp [anchored, hwhole, hnext]
    · rw [if_neg he, anchored, head?_trimmed he, hwhole, hnext, ih hrest]
      rfl

/-- Blanks at the front are no words and stand behind none. -/
theorem glued_dropWhile (ts : List Token) : glued (ts.dropWhile isBlank) = glued ts := by
  induction ts with
  | nil => rfl
  | cons t ts ih =>
    rw [List.dropWhile_cons]
    split
    · next hb =>
      cases t with
      | char c => exact ih
      | _ => exact absurd hb (by simp [isBlank])
    · rfl

theorem parted_dropWhile (h : parted ts) : parted (ts.dropWhile isBlank) := by
  induction ts with
  | nil => rfl
  | cons t ts ih =>
    rw [List.dropWhile_cons]
    split
    · simp only [parted, Bool.and_eq_true] at h
      exact ih h.2
    · exact h

theorem glued_trimmed (ts : List Token) : glued (trimmed ts) = glued ts :=
  glued_cutBy cutsSafely_cutSpace ts

theorem glued_stripped (ts : List Token) : glued (stripped ts) = glued ts := by
  rw [stripped, glued_cutBy cutsSafely_cutBlank, glued_dropWhile]

theorem parted_stripped (h : parted ts) : parted (stripped ts) :=
  parted_cutBy cutsSafely_cutBlank (parted_dropWhile h)

end Rows

/-! ## Reading a row -/

section Reading

variable {cs rest : List Char} {c : Char}

theorem authored_plain (h : c ≠ '\\') : authored (c :: rest) = authored rest := by
  rw [authored]
  simp [h]

theorem authored_plain_append (h : '\\' ∉ cs) : authored (cs ++ rest) = authored rest := by
  induction cs with
  | nil => rfl
  | cons c cs ih =>
    obtain ⟨hc, hcs⟩ : '\\' ≠ c ∧ '\\' ∉ cs := by simpa using h
    rw [List.cons_append, authored_plain (Ne.symm hc), ih hcs]

theorem authored_sequence (h : sequence? cs = some rest) :
    authored ('\\' :: cs) = authored rest := by
  rw [authored]
  simp only [if_true]
  split
  · next hs => rw [h] at hs; cases hs; rfl
  · next hs => rw [h] at hs; cases hs

theorem authored_none (h : sequence? cs = none) : authored ('\\' :: cs) = false := by
  rw [authored]
  simp only [if_true]
  split
  · next hs => rw [h] at hs; cases hs
  · rfl

/-- The name that is read behind a backslash, where letters are followed by something else. -/
theorem span_letters (h : cs.all Text.isAsciiLetter) (hrest : rest.head?.any Text.isAsciiLetter = false) :
    (cs ++ rest).takeWhile Text.isAsciiLetter = cs ∧
      (cs ++ rest).dropWhile Text.isAsciiLetter = rest := by
  have hall : ∀ c ∈ cs, Text.isAsciiLetter c := List.all_eq_true.mp h
  rw [List.takeWhile_append_of_pos hall, List.dropWhile_append_of_pos hall]
  cases rest with
  | nil => simp
  | cons c rest =>
    have hc : Text.isAsciiLetter c = false := by simpa using hrest
    simp [hc]

theorem controlWords_unmarked : ∀ w ∈ controlWords,
    w.toList ≠ ['b', 'e', 'g', 'i', 'n'] ∧ w.toList ≠ ['e', 'n', 'd'] := by
  intro w hw
  obtain ⟨-, hbegin, hend⟩ := controlWords_start w hw
  exact ⟨fun h => hbegin (by rw [h]; rfl), fun h => hend (by rw [h]; rfl)⟩

/-- A known word is read as such where no letter follows. -/
theorem sequence?_word {w : String} (h : w ∈ controlWords)
    (hrest : rest.head?.any Text.isAsciiLetter = false) : sequence? (w.toList ++ rest) = some rest := by
  obtain ⟨hne, hletters⟩ := controlWords_letters w h
  obtain ⟨htake, hdrop⟩ := span_letters hletters hrest
  obtain ⟨hbegin, hend⟩ := controlWords_unmarked w h
  simp [sequence?, htake, hdrop, hne, hbegin, hend, h]

/-- No name is a switch with letters behind it. -/
theorem switches_whole : ∀ w ∈ switches, ∀ name ∈ "begin" :: "end" :: controlWords,
    w.toList <+: name.toList → w = name := by
  have hknown : ∀ w ∈ switches, w ∈ controlWords := by decide
  have hmarks : ∀ w ∈ switches, ∀ name ∈ ["begin", "end"], w.toList <+: name.toList → w = name := by decide
  have hread : ∀ w ∈ switches, ∀ name ∈ controlWords,
      Text.byteChars w <+: Text.byteChars name → w = name := by decide +kernel
  intro w hw name hname
  rcases List.mem_append.mp (show name ∈ ["begin", "end"] ++ controlWords from hname) with hmark | hword
  · exact hmarks w hw name hmark
  · rw [toList_controlWord (hknown w hw), toList_controlWord hword]
    exact hread w hw name hword

/-- A switch with a letter behind it is no known word any more. -/
theorem sequence?_glued {w : String} (h : w ∈ switches) (hc : Text.isAsciiLetter c) :
    sequence? (w.toList ++ c :: rest) = none := by
  have hmem : w ∈ controlWords := by simp [controlWords, h]
  obtain ⟨-, hletters⟩ := controlWords_letters w hmem
  have hall : ∀ c ∈ w.toList, Text.isAsciiLetter c := List.all_eq_true.mp hletters
  have htake : (w.toList ++ c :: rest).takeWhile Text.isAsciiLetter =
      w.toList ++ c :: rest.takeWhile Text.isAsciiLetter := by
    rw [List.takeWhile_append_of_pos hall, List.takeWhile_cons_of_pos hc]
  have hother : ∀ name ∈ "begin" :: "end" :: controlWords,
      w.toList ++ c :: rest.takeWhile Text.isAsciiLetter ≠ name.toList := by
    intro name hname he
    have hw := switches_whole w h name hname ⟨_, he⟩
    rw [hw] at he
    simpa using congrArg List.length he
  have hbegin := hother "begin" (by simp)
  have hend := hother "end" (by simp)
  have hword : String.ofList (w.toList ++ c :: rest.takeWhile Text.isAsciiLetter) ∉ controlWords := by
    intro hin
    exact hother _ (List.mem_cons_of_mem _ (List.mem_cons_of_mem _ hin)) String.toList_ofList.symm
  have hbegin' : w.toList ++ c :: rest.takeWhile Text.isAsciiLetter ≠ ['b', 'e', 'g', 'i', 'n'] := hbegin
  have hend' : w.toList ++ c :: rest.takeWhile Text.isAsciiLetter ≠ ['e', 'n', 'd'] := hend
  unfold sequence?
  simp only [htake]
  rw [if_neg (by simp [hbegin', hend']), if_neg (by simp), if_neg (by simpa using hword)]

theorem environments_inert_name {name : String} (h : name ∈ environments) (rest : List Char) :
    Text.splitAtChar '\x7d' (name.toList ++ '\x7d' :: rest) = some (name.toList, rest) :=
  splitAtChar_name _ (environments_inert name h)

theorem sequence?_begin {name : String} (h : name ∈ environments) (rest : List Char) :
    sequence? (beginMark ++ name.toList ++ ['\x7d'] ++ rest) = some rest := by
  have hs := environments_inert_name h rest
  unfold sequence?
  simp [beginMark, Text.isAsciiLetter, hs, h]

theorem sequence?_end {name : String} (h : name ∈ environments) (rest : List Char) :
    sequence? (endMark ++ name.toList ++ ['\x7d'] ++ rest) = some rest := by
  have hs := environments_inert_name h rest
  unfold sequence?
  simp [endMark, Text.isAsciiLetter, hs, h]

theorem sequence?_symbol (h : c ∈ controlSymbols) (rest : List Char) :
    sequence? (c :: rest) = some rest := by
  have hletter : ∀ c ∈ controlSymbols, Text.isAsciiLetter c = false := by decide
  unfold sequence?
  simp [hletter c h, h]

theorem head?_spell (ts : List Token) :
    (spell ts).head?.any Text.isAsciiLetter = letterFirst ts := by
  cases ts with
  | nil => rfl
  | cons t ts =>
    by_cases hchar : ∀ c, t ≠ char c
    · cases t with
      | char c => exact absurd rfl (hchar c)
      | _ => rfl
    · cases t with
      | char c => rfl
      | _ => exact absurd (fun _ => Token.noConfusion) hchar

end Reading

/-- A word is read as it was written if no letter comes behind it; of a switch that is glued to a letter
nothing is left. -/
theorem authored_word {name : String} {ts : List Token} (hmem : name ∈ controlWords)
    (hnext : (word name).isSwitch || !letterFirst ts) :
    authored ((word name).render ++ spell ts) = (!letterFirst ts && authored (spell ts)) := by
  cases hl : letterFirst ts with
  | false =>
    have hhead : (spell ts).head?.any Text.isAsciiLetter = false := by
      rw [head?_spell, hl]
    rw [render, List.cons_append, authored_sequence (sequence?_word hmem hhead)]
    rfl
  | true =>
    have hswitch : name ∈ switches := by simpa [hl, isSwitch] using hnext
    obtain ⟨c, us, rfl, hc⟩ : ∃ c us, ts = char c :: us ∧ Text.isAsciiLetter c = true := by
      cases ts with
      | nil => exact absurd hl (by simp [letterFirst])
      | cons u us =>
        cases u with
        | char c => exact ⟨c, us, rfl, hl⟩
        | _ => exact absurd hl (by simp [letterFirst, isLetter])
    rw [render, List.cons_append, spell_cons, render, List.singleton_append,
      authored_none (sequence?_glued hswitch hc)]
    rfl

/-- A row is read without fault if and only if no word in it is glued to a letter. -/
theorem authored_spell {places : String} (hplaces : '\\' ∉ places.toList) {ts : List Token}
    (h : ts.all (known places)) (hparted : parted ts) : authored (spell ts) = !glued ts := by
  induction ts with
  | nil =>
    rw [spell_nil, authored]
    rfl
  | cons t ts ih =>
    obtain ⟨ht, hts⟩ : t.known places = true ∧ ts.all (known places) = true := by simpa using h
    obtain ⟨hnext, hrest⟩ : (t.isSwitch || !letterFirst ts) = true ∧ parted ts = true := by
      simpa [parted] using hparted
    have ih := ih hts hrest
    rw [spell_cons, glued]
    cases t with
    | word name =>
      rw [authored_word (by simpa [known] using ht) hnext, ih]
      simp [isWord]
    | symbol c =>
      have hc : c ∈ controlSymbols := by simpa [known] using ht
      exact (authored_sequence (sequence?_symbol hc (spell ts))).trans ih
    | opening => exact (authored_plain (by decide)).trans ih
    | closing => exact (authored_plain (by decide)).trans ih
    | beginEnv name =>
      have hn : name ∈ environments := by simpa [known] using ht
      exact (authored_sequence (sequence?_begin hn (spell ts))).trans ih
    | endEnv name =>
      have hn : name ∈ environments := by simpa [known] using ht
      exact (authored_sequence (sequence?_end hn (spell ts))).trans ih
    | char c =>
      have hc : c ≠ '\\' := by
        rintro rfl
        exact absurd ht (by simp [known, isInert])
      exact (authored_plain hc).trans ih
    | lineEnd =>
      have hsymbol := sequence?_symbol (c := '\\') (by decide) ('\n' :: spell ts)
      exact (authored_sequence hsymbol).trans ((authored_plain (by decide)).trans ih)
    | ruleEnd =>
      have hsymbol := sequence?_symbol (c := '\\') (by decide)
        ([' ', '\\', 'h', 'l', 'i', 'n', 'e', '\n'] ++ spell ts)
      have hword : sequence? (['h', 'l', 'i', 'n', 'e'] ++ '\n' :: spell ts) = some ('\n' :: spell ts) :=
        sequence?_word (w := "hline") (by decide) rfl
      exact (authored_sequence hsymbol).trans <| (authored_plain (by decide)).trans <|
        (authored_sequence hword).trans <| (authored_plain (by decide)).trans ih
    | placement p =>
      have hp : '\\' ∉ '[' :: p.toList ++ [']'] := by
        have : p = places := by simpa [known] using ht
        simp [this, hplaces]
      exact (authored_plain_append hp).trans ih

/-! ## Words at the end -/

/-- The text ends in a backslash and letters: a control word that a letter would go on with. -/
def EndsInWord (cs : List Char) : Prop :=
  ∃ front name, cs = front ++ '\\' :: name ∧ name ≠ [] ∧ name.all Text.isAsciiLetter

theorem EndsInWord.not_space {cs : List Char} (h : EndsInWord cs) : cs.getLast? ≠ some ' ' := by
  obtain ⟨front, name, rfl, hne, hname⟩ := h
  intro hlast
  rw [← List.dropLast_concat_getLast hne, ← List.cons_append, ← List.append_assoc,
    List.getLast?_concat, Option.some.injEq] at hlast
  have hletter := List.all_eq_true.mp hname _ (List.getLast_mem hne)
  rw [hlast] at hletter
  exact absurd hletter (by decide)

theorem all_isWhole_of_anchored {ts : List Token} (h : anchored ts) : ts.all isWhole := by
  induction ts with
  | nil => rfl
  | cons t ts ih =>
    simp only [anchored, Bool.and_eq_true] at h
    simp [h.1.1, ih h.2]

/-- A known token that is no word and no letter ends in a mark. -/
theorem render_mark {places : String} {t : Token} (h : t.known places) (hwhole : t.isWhole)
    (hword : t.isWord = false) (hletter : t.isLetter = false) :
    ∃ front c, t.render = front ++ [c] ∧ c ≠ '\\' ∧ Text.isAsciiLetter c = false := by
  cases t with
  | word name => cases hword
  | symbol c =>
    have hc : ∀ c ∈ controlSymbols, Text.isAsciiLetter c = false := by decide
    exact ⟨['\\'], c, rfl, by simpa [isWhole] using hwhole, hc c (by simpa [known] using h)⟩
  | opening => exact ⟨[], '\x7b', rfl, by decide, rfl⟩
  | closing => exact ⟨[], '\x7d', rfl, by decide, rfl⟩
  | beginEnv name => exact ⟨_, '\x7d', rfl, by decide, rfl⟩
  | endEnv name => exact ⟨_, '\x7d', rfl, by decide, rfl⟩
  | char c =>
    refine ⟨[], c, rfl, ?_, hletter⟩
    rintro rfl
    exact absurd h (by simp [known, isInert])
  | lineEnd => exact ⟨['\\', '\\'], '\n', rfl, by decide, rfl⟩
  | ruleEnd => exact ⟨['\\', '\\', ' ', '\\', 'h', 'l', 'i', 'n', 'e'], '\n', rfl, by decide, rfl⟩
  | placement p => exact ⟨_, ']', rfl, by decide, rfl⟩

theorem last_of_name {cs front name : List Char} {c : Char}
    (h : cs ++ [c] = front ++ '\\' :: name) (hname : name.all Text.isAsciiLetter) :
    (c = '\\' ∧ name = [] ∧ cs = front) ∨
      ∃ name', name = name' ++ [c] ∧ cs = front ++ '\\' :: name' ∧ Text.isAsciiLetter c := by
  rcases List.eq_nil_or_concat name with rfl | ⟨name', d, rfl⟩
  · obtain ⟨hcs, hc⟩ := List.append_inj' h rfl
    exact Or.inl ⟨by simpa using hc, rfl, hcs⟩
  · have h' : cs ++ [c] = (front ++ '\\' :: name') ++ [d] := by simpa using h
    obtain ⟨hcs, hc⟩ := List.append_inj' h' rfl
    obtain rfl : c = d := by simpa using hc
    exact Or.inr ⟨name', by simp, hcs, by simpa using List.all_eq_true.mp hname c (by simp)⟩

theorem getLast?_render_word {w : String} (h : w ∈ controlWords) :
    (word w).render.getLast? ≠ some '\\' := by
  obtain ⟨hne, hletters⟩ := controlWords_letters w h
  intro hlast
  rw [render, ← List.dropLast_concat_getLast hne, ← List.cons_append, List.getLast?_concat,
    Option.some.injEq] at hlast
  have hletter := List.all_eq_true.mp hletters _ (List.getLast_mem hne)
  rw [hlast] at hletter
  exact absurd hletter (by decide)

/-- Where the text of a row ends in a backslash and letters, there is a letter, and the row ends in a
word, or a letter is glued to one already. -/
theorem word_of_name {places : String} {ts : List Token} (h : ts.all (known places))
    (hwhole : ts.all isWhole) {front name : List Char} (hs : spell ts = front ++ '\\' :: name)
    (hname : name.all Text.isAsciiLetter) : name ≠ [] ∧ (glued ts ∨ ts.getLast?.any isWord) := by
  -- The letters at the end are taken off one by one, until there is a word.
  induction ts using List.reverseRecOn generalizing name with
  | nil => simp at hs
  | append_singleton us t ih =>
    obtain ⟨hus, ht⟩ : us.all (known places) = true ∧ t.known places = true := by simpa using h
    obtain ⟨huswhole, htwhole⟩ : us.all isWhole = true ∧ t.isWhole = true := by simpa using hwhole
    rw [spell_append, spell_cons, spell_nil, List.append_nil] at hs
    cases hword : t.isWord with
    | true =>
      refine ⟨?_, Or.inr (by simpa using hword)⟩
      rintro rfl
      cases t with
      | word w =>
        refine getLast?_render_word (by simpa [known] using ht) ?_
        simpa [render, List.getLast?_cons] using congrArg List.getLast? hs
      | _ => cases hword
    | false =>
      cases hletter : t.isLetter with
      | false =>
        obtain ⟨mark, c, hr, hc, hcl⟩ := render_mark ht htwhole hword hletter
        rw [hr, ← List.append_assoc] at hs
        rcases last_of_name hs hname with ⟨he, -, -⟩ | ⟨_, -, -, hl⟩
        · exact absurd he hc
        · rw [hcl] at hl
          cases hl
      | true =>
        cases t with
        | char c =>
          rcases last_of_name hs hname with ⟨he, -, -⟩ | ⟨name', rfl, hus', -⟩
          · rw [he] at hletter
            exact absurd hletter (by decide)
          · have hname' : name'.all Text.isAsciiLetter := by
              simp only [List.all_append, Bool.and_eq_true] at hname
              exact hname.1
            obtain ⟨-, hg⟩ := ih hus huswhole hus' hname'
            refine ⟨by simp, Or.inl ?_⟩
            rw [glued_append]
            rcases hg with hg | hg
            · simp [hg]
            · simp [hg, letterFirst, hletter]
        | _ => cases hletter

theorem word_of_endsInWord {places : String} {ts : List Token} (h : ts.all (known places))
    (hwhole : ts.all isWhole) (hend : EndsInWord (spell ts)) : glued ts ∨ ts.getLast?.any isWord := by
  obtain ⟨front, name, hs, -, hname⟩ := hend
  exact (word_of_name h hwhole hs hname).2

theorem endsInWord_of_word {places : String} {ts : List Token} (h : ts.all (known places))
    (hlast : ts.getLast?.any isWord) : EndsInWord (spell ts) := by
  obtain rfl | ⟨us, t, rfl⟩ := List.eq_nil_or_concat ts
  · simp at hlast
  · cases t with
    | word w =>
      have hw : w ∈ controlWords := by
        have := List.all_eq_true.mp h (word w) (by simp)
        simpa [known] using this
      obtain ⟨hne, hletters⟩ := controlWords_letters w hw
      exact ⟨spell us, w.toList, by simp [render], hne, hletters⟩
    | _ => simp [isWord] at hlast

end MarkupTex.Latex
