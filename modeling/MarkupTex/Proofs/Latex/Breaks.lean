import Mathlib.Data.List.Induction
import MarkupTex.Proofs.Latex.Escaping
import MarkupTex.Proofs.Text.Trim
/-!
# Ends of lines and of paragraphs

Every text is a front that does not end in a line end, and a run of line ends behind it.  A paragraph break
cuts the spaces off and lengthens that run to two, where it is shorter (`paragraphBreak_text`); it stays away
from a text that is empty then, and from a fresh list item.  All that the writers of blocks rely on follows
from this: a second break finds a run that is long enough, so breaks that come together are one, and a run
of three line ends is never made of a shorter one.
-/

set_option autoImplicit false

namespace MarkupTex.Latex

namespace Buffer

variable {b b' : Buffer} {front : List Char} {k : Nat} {fault : Fault}

/-- What may be cut off or added where a paragraph ends. -/
def isGap (c : Char) : Bool := c = ' ' || c = '\n'

/-- The text up to the last character that is no space and no line end. -/
def body (b : Buffer) : List Char := Text.dropEndWhile isGap b.text.toList

/-- A run of line ends. -/
def lineEnds (k : Nat) : List Char := List.replicate k '\n'

/-! ## The run at the end of a text -/

theorem lineEnds_add (m n : Nat) : lineEnds (m + n) = lineEnds m ++ lineEnds n :=
  List.replicate_append_replicate.symm

theorem exists_lineEnds (cs : List Char) : ∃ front k, front.getLast? ≠ some '\n' ∧ cs = front ++ lineEnds k := by
  induction cs using List.reverseRecOn with
  | nil => exact ⟨[], 0, by simp, rfl⟩
  | append_singleton cs c ih =>
    by_cases hc : c = '\n'
    · obtain ⟨front, k, hfront, rfl⟩ := ih
      refine ⟨front, k + 1, hfront, ?_⟩
      rw [hc, lineEnds_add, List.append_assoc]
      rfl
    · exact ⟨cs ++ [c], 0, by simpa using hc, by simp [lineEnds]⟩

/-- The text ends in as many line ends as there are in the run. -/
theorem lineEnds_suffix_iff (hfront : front.getLast? ≠ some '\n') (n : Nat) :
    lineEnds n <:+ front ++ lineEnds k ↔ n ≤ k := by
  constructor
  · intro h
    by_contra hlt
    obtain ⟨m, rfl⟩ : ∃ m, n = m + 1 + k := ⟨n - k - 1, by omega⟩
    obtain ⟨before, hbefore⟩ := h
    rw [lineEnds_add, ← List.append_assoc] at hbefore
    have hline : front = before ++ lineEnds (m + 1) := (List.append_cancel_right hbefore).symm
    rw [hline, lineEnds, List.replicate_succ', ← List.append_assoc, List.getLast?_concat] at hfront
    exact hfront rfl
  · intro h
    obtain ⟨m, rfl⟩ := Nat.exists_eq_add_of_le' h
    rw [lineEnds_add, ← List.append_assoc]
    exact List.suffix_append _ _

theorem endsWith_lineEnds (hfront : front.getLast? ≠ some '\n') (htext : b.text.toList = front ++ lineEnds k)
    {s : String} {n : Nat} (hs : s.toList = lineEnds n) : b.endsWith s = decide (n ≤ k) := by
  rw [Bool.eq_iff_iff, decide_eq_true_iff, endsWith, Text.endsIn_iff, hs, htext]
  exact lineEnds_suffix_iff hfront n

/-- A run that is longer than the one at the end of a text stands in what is before it. -/
theorem infix_of_lineEnds (hfront : front.getLast? ≠ some '\n') {n : Nat} (hlt : k < n)
    (h : lineEnds n <:+: front ++ lineEnds k) : lineEnds n <:+: front := by
  induction k with
  | zero => simpa [lineEnds] using h
  | succ k ih =>
    refine ih (by omega) ?_
    have hrow : front ++ lineEnds (k + 1) = (front ++ lineEnds k) ++ ['\n'] := by
      rw [lineEnds_add, List.append_assoc]
      rfl
    have hshort : ¬ lineEnds n <:+ front ++ lineEnds (k + 1) := by
      rw [lineEnds_suffix_iff hfront]
      omega
    rw [hrow] at h hshort
    rcases List.infix_concat_iff.mp h with hsuffix | hinfix
    · exact absurd hsuffix hshort
    · exact hinfix

theorem isEmpty_iff : b.isEmpty = true ↔ b.text.toList = [] := by
  simp [isEmpty]

/-! ## A paragraph break -/

theorem getLast?_trimSpaces (b : Buffer) : b.trimSpaces.text.toList.getLast? ≠ some ' ' := by
  have h := Text.getLast?_dropEndWhile (· = ' ') b.text.toList
  rw [← toList_trimSpaces] at h
  intro hlast
  simp [hlast] at h

/-- Without spaces at the end there is nothing to cut. -/
theorem trimSpaces_of_getLast? (h : b.text.toList.getLast? ≠ some ' ') : b.trimSpaces = b := by
  refine if_neg fun hend => h ?_
  obtain ⟨front, hfront⟩ := Text.endsIn_iff.mp hend
  rw [← hfront]
  exact List.getLast?_concat

theorem append_text {s : String} (h : b.append s = .ok b') : b'.text.toList = b.text.toList ++ s.toList := by
  have hadds := append_adds b s
  rwa [h] at hadds

/-- The run of line ends at the end is lengthened to two, unless there is nothing but spaces or a list item
has just begun. -/
theorem paragraphBreak_text (h : b.paragraphBreak = .ok b') :
    b.endsWith "\\item " = true ∧ b' = b ∨
      b.endsWith "\\item " = false ∧ (b'.isEmpty = true ∧ b' = b.trimSpaces ∨
        ∃ front k, front.getLast? ≠ some '\n' ∧ b.trimSpaces.text.toList = front ++ lineEnds k ∧
          b'.text.toList = front ++ lineEnds (max k 2)) := by
  obtain ⟨front, k, hfront, htext⟩ := exists_lineEnds b.trimSpaces.text.toList
  have hone := endsWith_lineEnds hfront htext (s := "\n") (n := 1) rfl
  have htwo := endsWith_lineEnds hfront htext (s := "\n\n") (n := 2) rfl
  rw [paragraphBreak] at h
  split at h
  case isTrue hitem => exact .inl ⟨hitem, (Except.ok.inj h).symm⟩
  case isFalse hitem =>
    refine .inr ⟨Bool.eq_false_iff.mpr hitem, ?_⟩
    dsimp only at h
    rw [hone, htwo] at h
    split at h
    case isTrue hdone =>
      obtain rfl := Except.ok.inj h
      rw [Bool.or_eq_true, decide_eq_true_iff] at hdone
      rcases hdone with hempty | hk
      · exact .inl ⟨hempty, rfl⟩
      · exact .inr ⟨front, k, hfront, htext, by rw [Nat.max_eq_left hk, htext]⟩
    case isFalse hdone =>
      rw [Bool.or_eq_true, decide_eq_true_iff, not_or] at hdone
      refine .inr ⟨front, k, hfront, htext, ?_⟩
      split at h
      case isTrue hk =>
        obtain rfl : k = 1 := by
          have := of_decide_eq_true hk
          omega
        rw [append_text h, htext, List.append_assoc]
        rfl
      case isFalse hk =>
        obtain rfl : k = 0 := by
          have : ¬ 1 ≤ k := fun hle => hk (decide_eq_true hle)
          omega
        rw [append_text h, htext, List.append_assoc]
        rfl

/-! ## What stays -/

theorem dropWhile_dropWhile_of_imp {p q : Char → Bool} (h : ∀ c, p c = true → q c = true) (cs : List Char) :
    (cs.dropWhile p).dropWhile q = cs.dropWhile q := by
  induction cs with
  | nil => rfl
  | cons c cs ih =>
    cases hp : p c with
    | true => rw [List.dropWhile_cons_of_pos hp, List.dropWhile_cons_of_pos (h c hp), ih]
    | false => rw [List.dropWhile_cons_of_neg (by simp [hp])]

/-- The spaces at the end are behind the body. -/
theorem body_trimSpaces (b : Buffer) : b.trimSpaces.body = b.body := by
  rw [body, body, toList_trimSpaces, Text.dropEndWhile, Text.dropEndWhile, Text.dropEndWhile,
    List.reverse_reverse, dropWhile_dropWhile_of_imp]
  intro c hc
  rw [isGap, hc, Bool.true_or]

theorem body_eq_of_lineEnds (htext : b.text.toList = front ++ lineEnds k) :
    b.body = Text.dropEndWhile isGap front := by
  have hrun : Text.dropEndWhile isGap (lineEnds k) = [] := by
    rw [Text.dropEndWhile, List.reverse_eq_nil_iff, List.dropWhile_eq_nil_iff]
    intro c hc
    rw [List.eq_of_mem_replicate (List.mem_reverse.mp hc)]
    rfl
  rw [body, htext, Text.dropEndWhile_append, if_pos hrun]

/-- What is in the text without its spaces is in the text. -/
theorem prefix_of_trimSpaces (b : Buffer) : b.trimSpaces.text.toList <+: b.text.toList := by
  rw [toList_trimSpaces]
  exact Text.dropEndWhile_prefix

theorem size_trimSpaces_le (b : Buffer) : b.trimSpaces.size ≤ b.size := by
  obtain ⟨rest, hrest⟩ := prefix_of_trimSpaces b
  have hsize := utf8ByteSize_ofList_append b.trimSpaces.text.toList rest
  rw [hrest, String.ofList_toList, String.ofList_toList] at hsize
  rw [size, size, hsize]
  exact Nat.le_add_right _ _

/-! ## The laws -/

theorem isFixed_of_isEmpty (h : b.isEmpty = true) : b.paragraphBreak = .ok b ∧ b.newline = .ok b := by
  have hnil := isEmpty_iff.mp h
  have htrim : b.trimSpaces = b := trimSpaces_of_getLast? (by rw [hnil]; simp)
  refine ⟨?_, by rw [newline, h, Bool.true_or, if_pos rfl]⟩
  rw [paragraphBreak]
  split
  · rfl
  · dsimp only
    rw [htrim, h, Bool.true_or, if_pos rfl]

theorem newline_of_endsWith (h : b.endsWith "\n" = true) : b.newline = .ok b := by
  rw [newline, h, Bool.or_true, if_pos rfl]

/-- At an empty line neither a paragraph nor a line can be ended. -/
theorem isFixed_of_endsWith (h : b.endsWith "\n\n" = true) :
    b.paragraphBreak = .ok b ∧ b.newline = .ok b := by
  obtain ⟨before, hbefore⟩ := Text.endsIn_iff.mp h
  have hlast : b.text.toList.getLast? = some '\n' := by
    rw [← hbefore, List.getLast?_append]
    rfl
  have htrim : b.trimSpaces = b := trimSpaces_of_getLast? (by rw [hlast]; decide)
  refine ⟨?_, newline_of_endsWith (Text.endsIn_iff.mpr ⟨before ++ ['\n'], ?_⟩)⟩
  · rw [paragraphBreak]
    split
    · rfl
    · dsimp only
      rw [htrim, h, Bool.or_true, if_pos rfl]
  · rw [← hbefore, List.append_assoc]
    rfl

/-- The last paragraph of `b` is ended in `b'`. -/
structure Ended (b b' : Buffer) : Prop where
  /-- Nothing is written yet, or there is an empty line, or a list item has just begun. -/
  settled : b'.isEmpty = true ∨ b'.endsWith "\n\n" = true ∨ b' = b ∧ b.endsWith "\\item " = true
  /-- Only spaces and line ends at the end are exchanged. -/
  kept : b'.body = b.body
  again : b'.paragraphBreak = .ok b'
  /-- Three line ends on end were there before. -/
  runs : lineEnds 3 <:+: b'.text.toList → lineEnds 3 <:+: b.text.toList
  line : b.endsWith "\\item " = false → b'.newline = .ok b'

theorem paragraphBreak_ended (h : b.paragraphBreak = .ok b') : b.Ended b' := by
  rcases paragraphBreak_text h with
    ⟨hitem, rfl⟩ | ⟨hitem, ⟨hempty, rfl⟩ | ⟨front, k, hfront, htrim, htext⟩⟩
  · exact ⟨.inr (.inr ⟨rfl, hitem⟩), rfl, h, id, fun hnot => absurd hitem (by rw [hnot]; decide)⟩
  · obtain ⟨hagain, hline⟩ := isFixed_of_isEmpty hempty
    exact ⟨.inl hempty, body_trimSpaces b, hagain,
      fun hin => hin.trans (prefix_of_trimSpaces b).isInfix, fun _ => hline⟩
  · have hend : b'.endsWith "\n\n" = true := by
      rw [endsWith_lineEnds hfront htext (n := 2) rfl, decide_eq_true_iff]
      exact Nat.le_max_right k 2
    obtain ⟨hagain, hline⟩ := isFixed_of_endsWith hend
    refine ⟨.inr (.inl hend), ?_, hagain, fun hin => ?_, fun _ => hline⟩
    · rw [body_eq_of_lineEnds htext, ← body_eq_of_lineEnds htrim, body_trimSpaces]
    · rw [htext] at hin
      refine List.IsInfix.trans ?_ (prefix_of_trimSpaces b).isInfix
      rw [htrim]
      rcases Nat.lt_or_ge k 2 with hk | hk
      · -- The run is two long now, so that three line ends on end are in front of it.
        rw [Nat.max_eq_right (Nat.le_of_lt hk)] at hin
        exact (infix_of_lineEnds hfront (by omega) hin).trans (List.prefix_append _ _).isInfix
      · rwa [Nat.max_eq_left hk] at hin

theorem newline_again (h : b.newline = .ok b') : b'.newline = .ok b' := by
  rw [newline] at h
  split at h
  case isTrue hdone =>
    obtain rfl := Except.ok.inj h
    rw [newline, if_pos hdone]
  case isFalse => exact newline_of_endsWith (Text.endsIn_iff.mpr ⟨_, (append_text h).symm⟩)

/-- Only a lack of room keeps a paragraph from being ended. -/
theorem paragraphBreak_of_room (h : 2 * (b.size + 2) < memoryLimit) : ∃ b', b.paragraphBreak = .ok b' := by
  have hsize := size_trimSpaces_le b
  have hone : "\n".utf8ByteSize = 1 := rfl
  have htwo : "\n\n".utf8ByteSize = 2 := rfl
  rw [paragraphBreak]
  split
  · exact ⟨_, rfl⟩
  · dsimp only
    split
    · exact ⟨_, rfl⟩
    · split
      · obtain ⟨b', happend, -⟩ := append_of_room (b := b.trimSpaces) (s := "\n") (by omega)
        exact ⟨b', happend⟩
      · obtain ⟨b', happend, -⟩ := append_of_room (b := b.trimSpaces) (s := "\n\n") (by omega)
        exact ⟨b', happend⟩

theorem newline_of_room (h : 2 * (b.size + 1) < memoryLimit) : ∃ b', b.newline = .ok b' := by
  rw [newline]
  split
  · exact ⟨_, rfl⟩
  · obtain ⟨b', happend, -⟩ := append_of_room (b := b) (s := "\n") h
    exact ⟨b', happend⟩

theorem Adds.refused {cs : List Char} {r : Except Fault Buffer} (h : b.Adds cs r) (herror : r = .error fault) :
    Refused fault := by
  rwa [herror] at h

theorem paragraphBreak_refused (h : b.paragraphBreak = .error fault) : Refused fault := by
  rcases paragraphBreak_adds b with hsame | htrim | hadds | hadds
  · rw [hsame] at h
    cases h
  · rw [htrim] at h
    cases h
  · exact hadds.refused h
  · exact hadds.refused h

theorem newline_refused (h : b.newline = .error fault) : Refused fault := by
  rcases newline_adds b with hsame | ⟨-, hadds⟩
  · rw [hsame] at h
    cases h
  · exact hadds.refused h

/-- Breaks that come together are one.  A paragraph that was ended is not ended again, and neither is its line,
but for that of a fresh list item; a line that was ended is not ended again.  Where there is no break for want
of room, twice the text with it is beyond the memory. -/
theorem breaks_collapse (b : Buffer) :
    (match b.paragraphBreak with
      | .ok b' => b.Ended b'
      | .error fault => Refused fault ∧ memoryLimit ≤ 2 * (b.size + 2)) ∧
    (match b.newline with
      | .ok b' => b'.newline = .ok b'
      | .error fault => Refused fault ∧ memoryLimit ≤ 2 * (b.size + 1)) := by
  constructor
  · cases h : b.paragraphBreak with
    | ok b' => exact paragraphBreak_ended h
    | error fault =>
      refine ⟨paragraphBreak_refused h, Nat.le_of_not_lt fun hroom => ?_⟩
      obtain ⟨b', hok⟩ := paragraphBreak_of_room hroom
      rw [hok] at h
      cases h
  · cases h : b.newline with
    | ok b' => exact newline_again h
    | error fault =>
      refine ⟨newline_refused h, Nat.le_of_not_lt fun hroom => ?_⟩
      obtain ⟨b', hok⟩ := newline_of_room hroom
      rw [hok] at h
      cases h

end Buffer

end MarkupTex.Latex
