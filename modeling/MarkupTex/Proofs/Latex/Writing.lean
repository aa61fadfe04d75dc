import MarkupTex.Proofs.Latex.Token
/-!
# What is written, and what is refused

A write either adds its characters at the end or fails because the buffer got no room.  `Adds` states
this once, and every operation of a buffer but the cutting of spaces is an instance of it: the
faults that a buffer can raise are those of `Buffer.reserve`, whatever is written.

Escapes are tokens.  `appendText_adds` and the two lemmas behind it give the rows that foreign text
turns into.
-/

set_option autoImplicit false

namespace MarkupTex.Latex

namespace Buffer

/-- The fault of a request for room that was not met. -/
def Refused (fault : Fault) : Prop :=
  (∃ b n, reserve b n = .error fault) ∨ ∃ n, withCapacity n = .error fault

/-- It is a matter of memory and of size, not of the document. -/
theorem Refused.kind {fault : Fault} (h : Refused fault) :
    fault.kind = .outOfMemory ∨ fault.kind = .bufferOverflow := by
  rcases h with ⟨b, n, h⟩ | ⟨n, h⟩
  · rw [reserve] at h
    split at h
    · cases h
      exact Or.inr rfl
    · split at h
      · cases h
      · dsimp only at h
        split at h
        · cases h
          exact Or.inl rfl
        · cases h
  · rw [withCapacity] at h
    split at h
    · cases h
      exact Or.inl rfl
    · split at h
      · cases h
        exact Or.inl rfl
      · cases h

/-- The characters are added at the end, or there is no room for them. -/
def Adds (b : Buffer) (cs : List Char) : Except Fault Buffer → Prop
  | .ok b' => b'.text.toList = b.text.toList ++ cs
  | .error fault => Refused fault

variable {b : Buffer}

theorem reserve_adds (b : Buffer) (n : Nat) : b.Adds [] (b.reserve n) := by
  cases h : b.reserve n with
  | error fault => exact Or.inl ⟨b, n, h⟩
  | ok b' =>
    rw [reserve] at h
    split at h
    · cases h
    · split at h
      · cases h
        simp [Adds]
      · dsimp only at h
        split at h
        · cases h
        · cases h
          simp [Adds]

theorem append_adds (b : Buffer) (s : String) : b.Adds s.toList (b.append s) := by
  have h := reserve_adds b s.utf8ByteSize
  rw [append]
  cases hr : b.reserve s.utf8ByteSize with
  | error fault =>
    rw [hr] at h
    exact h
  | ok b' =>
    rw [hr] at h
    have hb : b'.text.toList = b.text.toList := by simpa [Adds] using h
    simp [Except.map, Adds, hb]

theorem Adds.bind {cs cs' : List Char} {r : Except Fault Buffer}
    {next : Buffer → Except Fault Buffer} (h : b.Adds cs r)
    (hnext : ∀ b' : Buffer, b'.text.toList = b.text.toList ++ cs → b'.Adds cs' (next b')) :
    b.Adds (cs ++ cs') (r.bind next) := by
  cases r with
  | error fault => exact h
  | ok b' =>
    have h' := hnext b' h
    simp only [Except.bind]
    cases hr : next b' with
    | error fault =>
      rw [hr] at h'
      exact h'
    | ok b'' =>
      rw [hr] at h'
      rw [Adds] at h' ⊢
      rw [h', h, List.append_assoc]

theorem appendAll_adds (pieces : List String) (b : Buffer) :
    b.Adds (pieces.flatMap String.toList) (b.appendAll pieces) := by
  induction pieces generalizing b with
  | nil => simp [appendAll, Adds]
  | cons s pieces ih => exact (append_adds b s).bind fun b' _ => ih b'

/-- The characters that a substitution makes of one. -/
def substituted (substitute : Substitution) (c : Char) : List Char :=
  match substitute c with
  | some new => new.toList
  | none => [c]

theorem piecesFrom_toList (substitute : Substitution) (cs run : List Char) :
    (piecesFrom substitute run cs).flatMap String.toList =
      run.reverse ++ cs.flatMap (substituted substitute) := by
  induction cs generalizing run with
  | nil => simp [piecesFrom]
  | cons c cs ih =>
    rw [piecesFrom, List.flatMap_cons, substituted]
    cases substitute c with
    | some new => simp [ih]
    | none => simp [ih]

theorem appendMapped_adds (b : Buffer) (substitute : Substitution) (s : String) :
    b.Adds (s.toList.flatMap (substituted substitute)) (b.appendMapped substitute s) := by
  have h := (reserve_adds b s.utf8ByteSize).bind fun b' _ =>
    appendAll_adds (piecesFrom substitute [] s.toList) b'
  rwa [piecesFrom_toList, List.reverse_nil, List.nil_append, List.nil_append] at h

/-! ## Lines and paragraphs -/

/-- The line is ended where it is not at an end. -/
theorem newline_adds (b : Buffer) :
    b.newline = .ok b ∨ (b.text.toList.getLast? ≠ some '\n' ∧ b.Adds ['\n'] b.newline) := by
  rw [newline]
  split
  · exact Or.inl rfl
  · next h =>
    simp only [Bool.or_eq_true, not_or, Bool.not_eq_true] at h
    refine Or.inr ⟨fun hl => ?_, append_adds b "\n"⟩
    obtain ⟨front, hf⟩ := List.getLast?_eq_some_iff.mp hl
    have hend : b.endsWith "\n" := Text.endsIn_iff.mpr ⟨front, hf.symm⟩
    rw [h.2] at hend
    exact absurd hend (by decide)

/-- A paragraph ends with the spaces cut off and with a line end or two, if anything is done. -/
theorem paragraphBreak_adds (b : Buffer) :
    b.paragraphBreak = .ok b ∨ b.paragraphBreak = .ok b.trimSpaces ∨
      b.trimSpaces.Adds ['\n'] b.paragraphBreak ∨ b.trimSpaces.Adds ['\n', '\n'] b.paragraphBreak := by
  rw [paragraphBreak]
  split
  · exact Or.inl rfl
  · dsimp only
    split
    · exact Or.inr (Or.inl rfl)
    · split
      · exact Or.inr (Or.inr (Or.inl (append_adds _ "\n")))
      · exact Or.inr (Or.inr (Or.inr (append_adds _ "\n\n")))

end Buffer

/-! ## Escapes as tokens -/

open Token

/-- What is written for a character of the document. -/
def textTokens (c : Char) : List Token :=
  if c = '\\' then [word "textbackslash", opening, closing]
  else if c = '^' then [word "textasciicircum", opening, closing]
  else if c = '~' then [word "textasciitilde", opening, closing]
  else if c = '<' then [word "textless", opening, closing]
  else if c = '>' then [word "textgreater", opening, closing]
  else if escapedSymbols.contains c then [symbol c]
  else if c = '\n' || c = '\r' then [char ' ']
  else [char c]

/-- What is written for a character of a file name or a label. -/
def pathTokens (c : Char) : List Token :=
  if c = '\\' then [char '/']
  else if pathSpecials.contains c || isControl c then [char '_']
  else [char c]

/-- What is written for a character of the target of a link. -/
def urlTokens (c : Char) : List Token :=
  if c = '%' then [symbol '%']
  else if c = '#' then [symbol '#']
  else if c = '\\' then [char '/']
  else if c = '\x7b' then [char '%', char '7', char 'B']
  else if c = '\x7d' then [char '%', char '7', char 'D']
  else if isControl c then []
  else [char c]

theorem substituted_text (c : Char) :
    Buffer.substituted textSubstitution c = spell (textTokens c) := by
  rw [Buffer.substituted, textTokens]
  by_cases h : c ∈ ['\\', '^', '~', '<', '>', '\n', '\r'] ++ escapedSymbols
  · revert c
    decide
  · simp only [escapedSymbols, List.mem_append, List.mem_cons, List.not_mem_nil, or_false,
      not_or] at h
    have hnone : textSubstitution c = none := by
      rw [textSubstitution.eq_def]
      split <;> simp_all
    simp [hnone, h, escapedSymbols, render]

theorem substituted_path (c : Char) :
    Buffer.substituted pathSubstitution c = spell (pathTokens c) := by
  rw [Buffer.substituted, pathSubstitution, pathTokens]
  by_cases hb : c = '\\'
  · simp [hb, render]
  · rw [if_neg hb, if_neg hb]
    by_cases hs : pathSpecials.contains c || isControl c
    · rw [if_pos hs, if_pos hs]
      rfl
    · rw [if_neg hs, if_neg hs]
      rfl

theorem substituted_url (c : Char) :
    Buffer.substituted urlSubstitution c = spell (urlTokens c) := by
  rw [Buffer.substituted, urlTokens]
  by_cases h : c ∈ ['%', '#', '\\', '\x7b', '\x7d']
  · revert c
    decide
  · simp only [List.mem_cons, List.not_mem_nil, or_false, not_or] at h
    by_cases hc : isControl c
    · simp [urlSubstitution, h, hc]
    · simp [urlSubstitution, h, hc, render]

theorem spell_flatMap (f : Char → List Token) (cs : List Char) :
    spell (cs.flatMap f) = cs.flatMap fun c => spell (f c) := by
  induction cs with
  | nil => rfl
  | cons c cs ih => simp [ih]

namespace Buffer

theorem appendText_adds (b : Buffer) (s : String) :
    b.Adds (spell (s.toList.flatMap textTokens)) (b.appendText s) := by
  rw [spell_flatMap, ← funext substituted_text]
  exact appendMapped_adds b textSubstitution s

theorem appendPath_adds (b : Buffer) (s : String) :
    b.Adds (spell (s.toList.flatMap pathTokens)) (b.appendPath s) := by
  rw [spell_flatMap, ← funext substituted_path]
  exact appendMapped_adds b pathSubstitution s

theorem appendUrl_adds (b : Buffer) (s : String) :
    b.Adds (spell (s.toList.flatMap urlTokens)) (b.appendUrl s) := by
  rw [spell_flatMap, ← funext substituted_url]
  exact appendMapped_adds b urlSubstitution s

end Buffer

end MarkupTex.Latex
