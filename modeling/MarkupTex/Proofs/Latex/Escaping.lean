import MarkupTex.Proofs.Latex.Bytes
/-!
# What escaping guarantees

A text is escaped character by character, and what is written for a character is never looked at again.  So a
place in what was written is either a character of the text that stayed, or it lies within the sequence that
one character was exchanged for (`exists_source`).  The guarantees of a way of escaping follow from its table
alone: each sequence has to be checked, and how the sequences stand side by side does not matter.

For text every metacharacter of LaTeX comes out of a sequence, and the text can be read back: no sequence is
the beginning of another one, and all begin with the backslash, which never stays.

For file names and labels each character is exchanged for one that stays itself, so that escaping twice is
escaping once.

For the target of a link `#` is guarded by a backslash, and so is a `%` of the target.  The sequences for the
braces bring in a `%` of their own, which is not.
-/

set_option autoImplicit false

namespace MarkupTex.Latex

variable {substitute : Substitution}

theorem substituted_of_eq_none {c : Char} (h : substitute c = none) :
    Buffer.substituted substitute c = [c] := by
  rw [Buffer.substituted, h]

theorem substituted_of_eq_some {c : Char} {sequence : String} (h : substitute c = some sequence) :
    Buffer.substituted substitute c = sequence.toList := by
  rw [Buffer.substituted, h]

/-- A text with its characters exchanged one by one. -/
def Substitution.escape (substitute : Substitution) (s : String) : String :=
  String.ofList (s.toList.flatMap (Buffer.substituted substitute))

@[simp] theorem toList_escape (substitute : Substitution) (s : String) :
    (substitute.escape s).toList = s.toList.flatMap (Buffer.substituted substitute) := by
  rw [Substitution.escape, String.toList_ofList]

theorem escape_append (substitute : Substitution) (s t : String) :
    substitute.escape (s ++ t) = substitute.escape s ++ substitute.escape t := by
  rw [← String.toList_inj]
  simp

namespace Buffer

/-! ## Room -/

/-- There is memory for twice the output with the text in it, as it stands and exchanged. -/
def HasRoom (b : Buffer) (substitute : Substitution) (s : String) : Prop :=
  2 * (b.size + max s.utf8ByteSize (substitute.escape s).utf8ByteSize) < memoryLimit

instance (b : Buffer) (s : String) : Decidable (b.HasRoom substitute s) :=
  inferInstanceAs (Decidable (_ < _))

theorem reserve_of_room {b : Buffer} {n : Nat} (h : 2 * (b.size + n) < memoryLimit) :
    ∃ b', b.reserve n = .ok b' ∧ b'.text = b.text := by
  have hmemory : memoryLimit = 4611686018427387904 := rfl
  have hmax : maxCapacity = 9223372036854775807 := rfl
  rw [reserve]
  split
  · omega
  · split
    · exact ⟨b, rfl, rfl⟩
    · next hfit =>
      have htarget : ¬ memoryLimit ≤ growthTarget b.capacity (b.size + n) := by
        rw [growthTarget, initialCapacity]
        split <;> omega
      dsimp only
      rw [if_neg htarget]
      exact ⟨_, rfl, rfl⟩

theorem append_of_room {b : Buffer} {s : String} (h : 2 * (b.size + s.utf8ByteSize) < memoryLimit) :
    ∃ b', b.append s = .ok b' ∧ b'.text = b.text ++ s := by
  obtain ⟨b', hreserve, htext⟩ := reserve_of_room h
  rw [append, hreserve]
  exact ⟨_, rfl, congrArg (· ++ s) htext⟩

theorem utf8ByteSize_ofList_append (cs ds : List Char) :
    (String.ofList (cs ++ ds)).utf8ByteSize =
      (String.ofList cs).utf8ByteSize + (String.ofList ds).utf8ByteSize := by
  rw [String.ofList_append, String.utf8ByteSize_append]

theorem appendAll_of_room (pieces : List String) (b : Buffer)
    (h : 2 * (b.size + (String.ofList (pieces.flatMap String.toList)).utf8ByteSize) < memoryLimit) :
    ∃ b', b.appendAll pieces = .ok b' ∧ b'.text.toList = b.text.toList ++ pieces.flatMap String.toList := by
  induction pieces generalizing b with
  | nil => exact ⟨b, rfl, by simp⟩
  | cons s pieces ih =>
    rw [List.flatMap_cons, utf8ByteSize_ofList_append, String.ofList_toList] at h
    obtain ⟨b₁, happend, htext⟩ := append_of_room (b := b) (s := s) (by omega)
    have hsize : b₁.size = b.size + s.utf8ByteSize := by
      rw [size, htext, String.utf8ByteSize_append, size]
    obtain ⟨b₂, hrest, htext₂⟩ := ih b₁ (by omega)
    refine ⟨b₂, ?_, ?_⟩
    · rw [appendAll, happend]
      exact hrest
    · rw [htext₂, htext, String.toList_append, List.flatMap_cons, List.append_assoc]

/-- With room for it, the text is written. -/
theorem appendMapped_of_room {b : Buffer} {s : String} (h : b.HasRoom substitute s) :
    ∃ b', b.appendMapped substitute s = .ok b' ∧ b'.text = b.text ++ substitute.escape s := by
  have hpieces := piecesFrom_toList substitute s.toList []
  rw [List.reverse_nil, List.nil_append] at hpieces
  rw [HasRoom] at h
  obtain ⟨b₁, hreserve, htext⟩ := reserve_of_room (b := b) (n := s.utf8ByteSize) (by omega)
  obtain ⟨b₂, hall, htext₂⟩ := appendAll_of_room (piecesFrom substitute [] s.toList) b₁ (by
    rw [hpieces, ← Substitution.escape, size, htext, ← size]
    omega)
  refine ⟨b₂, ?_, ?_⟩
  · rw [appendMapped, hreserve]
    exact hall
  · rw [← String.toList_inj, htext₂, htext, hpieces, String.toList_append, toList_escape]

end Buffer

/-! ## Where a place in the escaped text comes from -/

/-- The place of `m` between `front` and `back` is within the sequence that the character `c` of the text
was exchanged for. -/
def ComesFrom (substitute : Substitution) (s : String) (c : Char) (front : List Char) (m : Char)
    (back : List Char) : Prop :=
  ∃ before after sequence x y, s.toList = before ++ c :: after ∧ substitute c = some sequence ∧
    sequence.toList = x ++ m :: y ∧ front = before.flatMap (Buffer.substituted substitute) ++ x ∧
    back = y ++ after.flatMap (Buffer.substituted substitute)

variable {α β : Type}

/-- A place in a row of rows is a place in one of the rows. -/
theorem exists_of_flatMap_eq (f : α → List β) (as : List α) {front back : List β} {m : β}
    (h : as.flatMap f = front ++ m :: back) :
    ∃ before a after x y, as = before ++ a :: after ∧ f a = x ++ m :: y ∧
      front = before.flatMap f ++ x ∧ back = y ++ after.flatMap f := by
  induction as generalizing front with
  | nil => simp at h
  | cons a as ih =>
    rw [List.flatMap_cons, List.append_eq_append_iff] at h
    rcases h with ⟨front', rfl, h⟩ | ⟨inside, ha, h⟩
    · obtain ⟨before, d, after, x, y, rfl, hd, rfl, rfl⟩ := ih h
      exact ⟨a :: before, d, after, x, y, rfl, hd, by simp, rfl⟩
    · cases inside with
      | nil =>
        -- The place is the first one behind what `a` gives.
        have hnext : as.flatMap f = [] ++ m :: back := h.symm
        obtain ⟨before, d, after, x, y, rfl, hd, hfront, rfl⟩ := ih hnext
        refine ⟨a :: before, d, after, x, y, rfl, hd, ?_, rfl⟩
        rw [List.flatMap_cons, List.append_assoc, ← hfront, ha, List.append_nil, List.append_nil]
      | cons e inside =>
        rw [List.cons_append, List.cons.injEq] at h
        obtain ⟨rfl, rfl⟩ := h
        exact ⟨[], a, as, front, inside, rfl, ha, by simp, rfl⟩

/-- A place of the escaped text lies in what one character of the text was written as. -/
theorem exists_source (substitute : Substitution) {s : String} {front back : List Char} {m : Char}
    (h : (substitute.escape s).toList = front ++ m :: back) :
    ∃ before c after x y, s.toList = before ++ c :: after ∧
      Buffer.substituted substitute c = x ++ m :: y ∧
      front = before.flatMap (Buffer.substituted substitute) ++ x ∧
      back = y ++ after.flatMap (Buffer.substituted substitute) := by
  rw [toList_escape] at h
  exact exists_of_flatMap_eq _ _ h

/-! ## Text of the document -/

/-- The characters that mean something to LaTeX. -/
def metacharacters : List Char :=
  ['\\', '\x7b', '\x7d', '&', '%', '$', '#', '_', '^', '~', '<', '>']

/-- A character is exchanged for a sequence if it is a metacharacter; a line end becomes a space. -/
theorem textSubstitution_isSome_iff (c : Char) :
    (textSubstitution c).isSome ↔ c ∈ metacharacters ∨ c = '\n' ∨ c = '\r' := by
  constructor
  · intro h
    rw [textSubstitution.eq_def] at h
    split at h
    all_goals first | decide | cases h
  · intro h
    have hall : ∀ d ∈ metacharacters ++ ['\n', '\r'], (textSubstitution d).isSome := by decide
    exact hall c (by simpa using h)

/-- A metacharacter in the escaped text is part of a sequence of the table. -/
theorem comesFrom_of_mem_metacharacters {s : String} {front back : List Char} {m : Char}
    (hm : m ∈ metacharacters) (h : (textSubstitution.escape s).toList = front ++ m :: back) :
    ∃ c, ComesFrom textSubstitution s c front m back := by
  obtain ⟨before, c, after, x, y, hs, hc, hfront, hback⟩ := exists_source _ h
  cases hsequence : textSubstitution c with
  | some sequence =>
    rw [substituted_of_eq_some hsequence] at hc
    exact ⟨c, before, after, sequence, x, y, hs, hsequence, hc, hfront, hback⟩
  | none =>
    -- A character that stays is the place itself, and a metacharacter does not stay.
    rw [substituted_of_eq_none hsequence] at hc
    have hmc : m ∈ [c] := hc ▸ List.mem_append_right x List.mem_cons_self
    rw [List.mem_singleton] at hmc
    have hsome := (textSubstitution_isSome_iff m).mpr (.inl hm)
    rw [hmc, hsequence] at hsome
    cases hsome

/-! ### Reading the text back -/

/-- No character of the text ends a line. -/
def NoLineEnd (cs : List Char) : Prop := ∀ c ∈ cs, c ≠ '\n' ∧ c ≠ '\r'

instance (cs : List Char) : Decidable (NoLineEnd cs) :=
  inferInstanceAs (Decidable (∀ c ∈ cs, _))

/-- No sequence for a metacharacter is the beginning of another one, and all begin with a backslash. -/
theorem metacharacters_prefixFree :
    ∀ c ∈ metacharacters,
      (Buffer.substituted textSubstitution c).head? = some '\\' ∧
        ∀ d ∈ metacharacters,
          Buffer.substituted textSubstitution c <+: Buffer.substituted textSubstitution d → c = d := by
  decide

theorem textSubstitution_stays {c : Char} (h : c ∉ metacharacters) (hend : c ≠ '\n' ∧ c ≠ '\r') :
    Buffer.substituted textSubstitution c = [c] := by
  refine substituted_of_eq_none ?_
  rw [← Option.not_isSome_iff_eq_none, textSubstitution_isSome_iff]
  simp [h, hend]

theorem backslash_mem_metacharacters : '\\' ∈ metacharacters := by decide

/-- What stays is not the beginning of a sequence. -/
theorem ne_of_sequence {c d : Char} {u v : List Char} (hc : c ∈ metacharacters)
    (hd : d ∉ metacharacters) : Buffer.substituted textSubstitution c ++ u ≠ [d] ++ v := by
  intro h
  have hhead := (metacharacters_prefixFree c hc).1
  obtain ⟨rest, hrest⟩ := List.head?_eq_some_iff.mp hhead
  rw [hrest, List.cons_append, List.singleton_append, List.cons.injEq] at h
  exact hd (h.1 ▸ backslash_mem_metacharacters)

/-- What a row of characters was written as begins with what its first character was written as, and with no
other one. -/
theorem substituted_splits {c d : Char} {u v : List Char} (hc : c ≠ '\n' ∧ c ≠ '\r')
    (hd : d ≠ '\n' ∧ d ≠ '\r')
    (h : Buffer.substituted textSubstitution c ++ u = Buffer.substituted textSubstitution d ++ v) :
    c = d ∧ u = v := by
  suffices hcd : c = d by
    subst hcd
    exact ⟨rfl, List.append_cancel_left h⟩
  by_cases hcm : c ∈ metacharacters <;> by_cases hdm : d ∈ metacharacters
  · have hboth := List.prefix_or_prefix_of_prefix (List.prefix_append _ u) ⟨v, h.symm⟩
    rcases hboth with hprefix | hprefix
    · exact (metacharacters_prefixFree c hcm).2 d hdm hprefix
    · exact ((metacharacters_prefixFree d hdm).2 c hcm hprefix).symm
  · rw [textSubstitution_stays hdm hd] at h
    exact absurd h (ne_of_sequence hcm hdm)
  · rw [textSubstitution_stays hcm hc] at h
    exact absurd h.symm (ne_of_sequence hdm hcm)
  · rw [textSubstitution_stays hcm hc, textSubstitution_stays hdm hd] at h
    exact (List.cons.inj h).1

theorem substituted_ne_nil (c : Char) : Buffer.substituted textSubstitution c ≠ [] := by
  by_cases h : (textSubstitution c).isSome
  · have hall : ∀ d ∈ metacharacters ++ ['\n', '\r'], Buffer.substituted textSubstitution d ≠ [] := by
      decide
    exact hall c (by simpa using (textSubstitution_isSome_iff c).mp h)
  · rw [substituted_of_eq_none (Option.not_isSome_iff_eq_none.mp h)]
    exact List.cons_ne_nil c []

/-- A text without line ends can be read back. -/
theorem eq_of_flatMap_eq {cs ds : List Char} (hcs : NoLineEnd cs) (hds : NoLineEnd ds)
    (h : cs.flatMap (Buffer.substituted textSubstitution) =
      ds.flatMap (Buffer.substituted textSubstitution)) : cs = ds := by
  induction cs generalizing ds with
  | nil =>
    cases ds with
    | nil => rfl
    | cons d ds =>
      rw [List.flatMap_nil, List.flatMap_cons, eq_comm, List.append_eq_nil_iff] at h
      exact absurd h.1 (substituted_ne_nil d)
  | cons c cs ih =>
    cases ds with
    | nil =>
      rw [List.flatMap_nil, List.flatMap_cons, List.append_eq_nil_iff] at h
      exact absurd h.1 (substituted_ne_nil c)
    | cons d ds =>
      rw [NoLineEnd, List.forall_mem_cons] at hcs hds
      rw [List.flatMap_cons, List.flatMap_cons] at h
      obtain ⟨rfl, hrest⟩ := substituted_splits hcs.1 hds.1 h
      rw [ih hcs.2 hds.2 hrest]

namespace Buffer

/-- Escaping text is faithful and safe.  The scan of the bytes never cuts a character, and it writes behind the
old content just the text with each character exchanged, if there is room.  A metacharacter in what is
written is part of a sequence of the table, and what was written tells the text. -/
theorem appendText_faithful (b : Buffer) (s : String) :
    (∃ pieces, scan? textSubstitution s = some pieces) ∧
      b.appendScanned textSubstitution s = b.appendText s ∧
      b.Adds (textSubstitution.escape s).toList (b.appendText s) ∧
      (b.HasRoom textSubstitution s →
        ∃ b', b.appendText s = .ok b' ∧ b'.text = b.text ++ textSubstitution.escape s) ∧
      (∀ t, textSubstitution.escape (s ++ t) = textSubstitution.escape s ++ textSubstitution.escape t) ∧
      (∀ front m back, m ∈ metacharacters →
        (textSubstitution.escape s).toList = front ++ m :: back →
          ∃ c, ComesFrom textSubstitution s c front m back) ∧
      ∀ t, NoLineEnd s.toList → NoLineEnd t.toList →
        textSubstitution.escape s = textSubstitution.escape t → s = t := by
  refine ⟨⟨_, scan?_eq textSubstitution_isAscii s⟩, appendScanned_eq textSubstitution_isAscii b s, ?_,
    appendMapped_of_room, escape_append textSubstitution s,
    fun front m back hm h => comesFrom_of_mem_metacharacters hm h, ?_⟩
  · rw [toList_escape]
    exact appendMapped_adds b textSubstitution s
  · intro t hs ht h
    rw [← String.toList_inj] at h ⊢
    rw [toList_escape, toList_escape] at h
    exact eq_of_flatMap_eq hs ht h

/-- Behind an empty output, for a text of one tilde. -/
theorem appendText_faithful_tilde :
    (∃ b', empty.appendText "~" = .ok b' ∧ b'.text = "\\textasciitilde\x7b\x7d") ∧
      (∃ c, ComesFrom textSubstitution "~" c "\\textasciitilde".toList '\x7b' ['\x7d']) ∧
      "~" = String.ofList ['~'] := by
  have hescape : textSubstitution.escape "~" = "\\textasciitilde\x7b\x7d" := by decide
  obtain ⟨-, -, -, hroom, -, hplaces, hback⟩ := appendText_faithful empty "~"
  refine ⟨?_, hplaces _ _ _ (by decide) (by decide), hback _ (by decide) (by decide) (by decide)⟩
  obtain ⟨b', happend, htext⟩ := hroom (by decide)
  refine ⟨b', happend, ?_⟩
  rw [htext, hescape]
  rfl

end Buffer

/-! ## File names and labels -/

/-- What is written for a character of a file name or a label. -/
def pathChar (c : Char) : Char :=
  if c = '\\' then '/' else if pathSpecials.contains c || isControl c then '_' else c

/-- The character may stand in a file name or a label. -/
def PathSafe (c : Char) : Prop := c ≠ '\\' ∧ c ∉ pathSpecials ∧ isControl c = false

instance (c : Char) : Decidable (PathSafe c) := inferInstanceAs (Decidable (_ ∧ _))

theorem substituted_pathChar (c : Char) : Buffer.substituted pathSubstitution c = [pathChar c] := by
  by_cases hslash : c = '\\'
  · simp [Buffer.substituted, pathSubstitution, pathChar, hslash]
  · cases hspecial : pathSpecials.contains c || isControl c <;>
      simp only [Buffer.substituted, pathSubstitution, pathChar, hslash, hspecial] <;> rfl

theorem toList_escape_path (s : String) :
    (pathSubstitution.escape s).toList = s.toList.map pathChar := by
  rw [toList_escape, funext substituted_pathChar, ← List.map_eq_flatMap]

theorem pathSubstitution_isAscii : pathSubstitution.IsAscii := by
  intro c h
  by_cases hc : c ∈ '\\' :: pathSpecials
  · have hlisted : ∀ d ∈ '\\' :: pathSpecials, d.toNat < 128 := by decide
    exact hlisted c hc
  · rw [List.mem_cons, not_or] at hc
    by_cases hcontrol : isControl c
    · exact isControl_ascii hcontrol
    · simp [pathSubstitution, hc, hcontrol] at h

theorem pathSafe_pathChar (c : Char) : PathSafe (pathChar c) := by
  rw [pathChar]
  split
  · decide
  · next hslash =>
    split
    · decide
    · next hspecial =>
      rw [Bool.not_eq_true, Bool.or_eq_false_iff, List.contains_eq_mem, decide_eq_false_iff_not] at hspecial
      exact ⟨hslash, hspecial⟩

/-- What may stand there stays. -/
theorem pathChar_of_pathSafe {c : Char} (h : PathSafe c) : pathChar c = c := by
  obtain ⟨hslash, hspecial, hcontrol⟩ := h
  simp [pathChar, hslash, hspecial, hcontrol]

theorem length_escape_path (s : String) : (pathSubstitution.escape s).length = s.length := by
  rw [← String.length_toList, toList_escape_path, List.length_map, String.length_toList]

theorem pathSafe_escape_path (s : String) : ∀ c ∈ (pathSubstitution.escape s).toList, PathSafe c := by
  rw [toList_escape_path, List.forall_mem_map]
  exact fun c _ => pathSafe_pathChar c

theorem escape_path_of_pathSafe {s : String} (h : ∀ c ∈ s.toList, PathSafe c) :
    pathSubstitution.escape s = s := by
  rw [← String.toList_inj, toList_escape_path]
  exact (List.map_congr_left fun c hc => pathChar_of_pathSafe (h c hc)).trans (List.map_id _)

theorem escape_path_escape_path (s : String) :
    pathSubstitution.escape (pathSubstitution.escape s) = pathSubstitution.escape s :=
  escape_path_of_pathSafe (pathSafe_escape_path s)

/-! ## The target of a link -/

def braces : List Char := ['\x7b', '\x7d']

/-- The characters that do not stay, beside those of control. -/
def urlSpecials : List Char := ['%', '#', '\\'] ++ braces

/-- Wherever `m` stands there is a backslash right before it. -/
def Guarded (m : Char) (cs : List Char) : Prop :=
  ∀ front back, cs = front ++ m :: back → front.getLast? = some '\\'

theorem substituted_url_cases (c : Char) :
    c ∈ urlSpecials ∨ Buffer.substituted urlSubstitution c = [] ∨
      (Buffer.substituted urlSubstitution c = [c] ∧ c ∉ urlSpecials ∧ isControl c = false) := by
  by_cases hspecial : c ∈ urlSpecials
  · exact .inl hspecial
  · refine .inr ?_
    have hne := hspecial
    simp only [urlSpecials, braces, List.mem_append, List.mem_cons, List.not_mem_nil, or_false,
      not_or] at hne
    cases hcontrol : isControl c with
    | true => exact .inl (by simp [Buffer.substituted, urlSubstitution, hne, hcontrol])
    | false => exact .inr ⟨by simp [Buffer.substituted, urlSubstitution, hne, hcontrol], hspecial, rfl⟩

/-- The places of a row, each with what is before it and behind it. -/
def places : List α → List (List α × α × List α)
  | [] => []
  | a :: as => ([], a, as) :: (places as).map fun place => (a :: place.1, place.2)

theorem mem_places (front : List α) (m : α) (back : List α) :
    (front, m, back) ∈ places (front ++ m :: back) := by
  induction front with
  | nil => exact List.mem_cons_self
  | cons a front ih => exact List.mem_cons_of_mem _ (List.mem_map_of_mem ih)

/-- What may stand where in the characters that `c` is written as. -/
def UrlPlace (c : Char) (x : List Char) (m : Char) (y : List Char) : Prop :=
  (m = '#' → x = ['\\']) ∧ (m = '%' → x = if c ∈ braces then [] else ['\\']) ∧
    (m = '\\' → y.head? = some '%' ∨ y.head? = some '#') ∧ m ∉ braces ∧ isControl m = false

instance (c : Char) (x : List Char) (m : Char) (y : List Char) : Decidable (UrlPlace c x m y) :=
  inferInstanceAs (Decidable (_ ∧ _))

theorem urlPlace_special :
    ∀ c ∈ urlSpecials, ∀ place ∈ places (Buffer.substituted urlSubstitution c),
      UrlPlace c place.1 place.2.1 place.2.2 := by
  decide

theorem urlPlace_plain {c : Char} (hplain : c ∉ urlSpecials) (hcontrol : isControl c = false) :
    UrlPlace c [] c [] := by
  simp only [urlSpecials, braces, List.mem_append, List.mem_cons, List.not_mem_nil, or_false,
    not_or] at hplain
  simp [UrlPlace, braces, hplain, hcontrol]

theorem urlPlace {c m : Char} {x y : List Char}
    (h : Buffer.substituted urlSubstitution c = x ++ m :: y) : UrlPlace c x m y := by
  rcases substituted_url_cases c with hspecial | hnone | ⟨hstays, hplain, hcontrol⟩
  · exact urlPlace_special c hspecial (x, m, y) (h ▸ mem_places x m y)
  · rw [hnone] at h
    simp at h
  · have hone := mem_places x m y
    rw [← h, hstays] at hone
    simp only [places, List.map_nil, List.mem_singleton, Prod.mk.injEq] at hone
    obtain ⟨rfl, rfl, rfl⟩ := hone
    exact urlPlace_plain hplain hcontrol

/-- Behind a backslash stands what it guards. -/
theorem head?_of_backslash {s : String} {front back : List Char}
    (h : (urlSubstitution.escape s).toList = front ++ '\\' :: back) :
    back.head? = some '%' ∨ back.head? = some '#' := by
  obtain ⟨before, c, after, x, y, hs, hc, rfl, rfl⟩ := exists_source _ h
  rcases (urlPlace hc).2.2.1 rfl with hy | hy
  · exact .inl (by rw [List.head?_append, hy]; rfl)
  · exact .inr (by rw [List.head?_append, hy]; rfl)

/-- So no text ends in a backslash that is still to guard something. -/
theorem getLast?_url_ne (cs : List Char) :
    (cs.flatMap (Buffer.substituted urlSubstitution)).getLast? ≠ some '\\' := by
  intro h
  obtain ⟨front, hfront⟩ := List.getLast?_eq_some_iff.mp h
  have hescape : (urlSubstitution.escape (String.ofList cs)).toList = front ++ '\\' :: [] := by
    rw [toList_escape, String.toList_ofList, hfront]
  simpa using head?_of_backslash hescape

theorem guarded_hash (s : String) : Guarded '#' (urlSubstitution.escape s).toList := by
  intro front back h
  obtain ⟨before, c, after, x, y, hs, hc, rfl, rfl⟩ := exists_source _ h
  rw [(urlPlace hc).1 rfl]
  simp

theorem harmless_url {s : String} {m : Char} (h : m ∈ (urlSubstitution.escape s).toList) :
    m ∉ braces ∧ isControl m = false := by
  obtain ⟨front, back, h⟩ := List.append_of_mem h
  obtain ⟨before, c, after, x, y, hs, hc, -, -⟩ := exists_source _ h
  exact (urlPlace hc).2.2.2

/-- The code of a brace begins with a `%`. -/
theorem urlSubstitution_brace {c : Char} (h : c ∈ braces) :
    ∃ code rest, urlSubstitution c = some code ∧ code.toList = '%' :: rest := by
  rw [braces, List.mem_cons, List.mem_singleton] at h
  rcases h with rfl | rfl
  · exact ⟨"%7B", ['7', 'B'], rfl, rfl⟩
  · exact ⟨"%7D", ['7', 'D'], rfl, rfl⟩

/-- A `%` has its backslash unless it was brought in for a brace. -/
theorem percent_guarded_iff {s : String} {front back : List Char}
    (h : (urlSubstitution.escape s).toList = front ++ '%' :: back) :
    front.getLast? = some '\\' ↔ ¬ ∃ c ∈ braces, ComesFrom urlSubstitution s c front '%' back := by
  constructor
  · rintro hlast ⟨c, hbrace, before, after, sequence, x, y, hs, hsequence, hc, rfl, rfl⟩
    have hx := (urlPlace ((substituted_of_eq_some hsequence).trans hc)).2.1 rfl
    rw [if_pos hbrace] at hx
    rw [hx, List.append_nil] at hlast
    exact getLast?_url_ne before hlast
  · intro hnone
    obtain ⟨before, c, after, x, y, hs, hc, hfront, hback⟩ := exists_source _ h
    have hbrace : c ∉ braces := by
      intro hbrace
      obtain ⟨code, rest, hcode, -⟩ := urlSubstitution_brace hbrace
      rw [substituted_of_eq_some hcode] at hc
      exact hnone ⟨c, hbrace, before, after, code, x, y, hs, hcode, hc, hfront, hback⟩
    have hx := (urlPlace hc).2.1 rfl
    rw [if_neg hbrace] at hx
    rw [hfront, hx]
    simp

/-- All is guarded just for a target without braces. -/
theorem guarded_percent_iff (s : String) :
    Guarded '%' (urlSubstitution.escape s).toList ↔ ∀ c ∈ braces, c ∉ s.toList := by
  constructor
  · intro hguarded c hbrace hmem
    obtain ⟨before, after, hs⟩ := List.append_of_mem hmem
    obtain ⟨code, rest, hcode, hrest⟩ := urlSubstitution_brace hbrace
    have hplace : (urlSubstitution.escape s).toList =
        before.flatMap (Buffer.substituted urlSubstitution) ++
          '%' :: (rest ++ after.flatMap (Buffer.substituted urlSubstitution)) := by
      rw [toList_escape, hs, List.flatMap_append, List.flatMap_cons, substituted_of_eq_some hcode, hrest]
      rfl
    exact getLast?_url_ne before (hguarded _ _ hplace)
  · intro hnone front back h
    refine (percent_guarded_iff h).mpr ?_
    rintro ⟨c, hbrace, before, after, -, -, -, hs, -⟩
    exact hnone c hbrace (hs ▸ List.mem_append_right before List.mem_cons_self)

namespace Buffer

/-- What is written for the target of a link has no brace and no character of control, its backslashes guard
`%` and `#`, and each `#` has one.  A `%` has one unless it is the beginning of the code for a brace of the
target, so that all of them have one just if the target has no brace. -/
theorem appendUrl_guarded_iff (b : Buffer) (s : String) :
    b.appendScanned urlSubstitution s = b.appendUrl s ∧
      b.Adds (urlSubstitution.escape s).toList (b.appendUrl s) ∧
      (b.HasRoom urlSubstitution s →
        ∃ b', b.appendUrl s = .ok b' ∧ b'.text = b.text ++ urlSubstitution.escape s) ∧
      Guarded '#' (urlSubstitution.escape s).toList ∧
      (∀ front back, (urlSubstitution.escape s).toList = front ++ '\\' :: back →
        back.head? = some '%' ∨ back.head? = some '#') ∧
      (∀ m ∈ (urlSubstitution.escape s).toList, m ∉ braces ∧ isControl m = false) ∧
      (∀ front back, (urlSubstitution.escape s).toList = front ++ '%' :: back →
        (front.getLast? = some '\\' ↔
          ¬ ∃ c ∈ braces, ComesFrom urlSubstitution s c front '%' back)) ∧
      (Guarded '%' (urlSubstitution.escape s).toList ↔ ∀ c ∈ braces, c ∉ s.toList) := by
  refine ⟨appendScanned_eq urlSubstitution_isAscii b s, ?_, appendMapped_of_room, guarded_hash s,
    fun _ _ => head?_of_backslash, fun _ => harmless_url, fun _ _ => percent_guarded_iff,
    guarded_percent_iff s⟩
  rw [toList_escape]
  exact appendMapped_adds b urlSubstitution s

/-- A target with a `%` of its own and with one that is brought in. -/
theorem appendUrl_guarded_iff_percent :
    (∃ b', empty.appendUrl "a%\x7b" = .ok b' ∧ b'.text = "a\\%%7B") ∧
      (¬ ∃ c ∈ braces, ComesFrom urlSubstitution "a%\x7b" c ['a', '\\'] '%' ['%', '7', 'B']) ∧
      '7' ∉ braces ∧ ¬ Guarded '%' "a\\%%7B".toList := by
  have hescape : urlSubstitution.escape "a%\x7b" = "a\\%%7B" := by decide
  obtain ⟨-, -, hroom, -, -, hharmless, hpercent, hall⟩ := appendUrl_guarded_iff empty "a%\x7b"
  rw [hescape] at hroom hharmless hpercent hall
  refine ⟨hroom (by decide), ?_, (hharmless '7' (by decide)).1, fun h => ?_⟩
  · exact (hpercent ['a', '\\'] ['%', '7', 'B'] (by decide)).mp (by decide)
  · exact hall.mp h '\x7b' (by decide) (by decide)

/-- The braces of a template bring in a `%` that begins a comment. -/
theorem appendUrl_template :
    (∃ b', empty.appendUrl "http://x/\x7bid\x7d" = .ok b' ∧ b'.text = "http://x/%7Bid%7D") ∧
      ¬ Guarded '%' "http://x/%7Bid%7D".toList := by
  refine ⟨⟨⟨"http://x/%7Bid%7D", 1024⟩, rfl, rfl⟩, fun h => ?_⟩
  have hlast := h "http://x/".toList "7Bid%7D".toList (by decide)
  exact absurd hlast (by decide)

end Buffer

end MarkupTex.Latex
