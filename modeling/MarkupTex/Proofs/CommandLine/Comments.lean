import MarkupTex.CommandLine
/-!
# Warnings in comments

The warnings of a conversion can be put behind its output, each in a comment of one line.  What a line is, TeX
decides: LF ends it, and CR does, alone or with an LF behind it.  A warning may quote any text of the document,
and only its LF are exchanged, so that it stays in its comment unless there is a CR in it with something behind
that does not end the line again or begin a comment of its own (`withComments_commented_iff`).
-/

set_option autoImplicit false

namespace MarkupTex.CommandLine

variable {c : Char} {cs ds : List Char}

/-! ## Lines -/

def endsLine (c : Char) : Bool := c = '\n' || c = '\r'

/-- The lines of a text: LF, CR, and CR with LF behind it end a line. -/
def lines : List Char → List (List Char)
  | [] => [[]]
  | '\r' :: '\n' :: cs => [] :: lines cs
  | c :: cs => if endsLine c then [] :: lines cs else (lines cs).modifyHead (c :: ·)

/-- Nothing stands on the line, or a comment. -/
def IsComment (line : List Char) : Prop := line = [] ∨ line.head? = some '%'

instance (line : List Char) : Decidable (IsComment line) :=
  inferInstanceAs (Decidable (line = [] ∨ line.head? = some '%'))

/-- What is written stands in comments. -/
def Commented (cs : List Char) : Prop := ∀ line ∈ lines cs, IsComment line

instance (cs : List Char) : Decidable (Commented cs) :=
  inferInstanceAs (Decidable (∀ line ∈ lines cs, IsComment line))

/-- The first line of the text is empty or a comment. -/
def Begins (cs : List Char) : Prop := ∀ c ∈ cs.head?, c = '%' ∨ endsLine c = true

/-- All the lines behind the first one are. -/
def Behind (cs : List Char) : Prop := ∀ line ∈ (lines cs).tail, IsComment line

theorem lines_of_not_endsLine (h : endsLine c = false) (cs : List Char) :
    lines (c :: cs) = (lines cs).modifyHead (c :: ·) := by
  rw [lines, if_neg (by simp [h])]
  rintro _ rfl
  cases h

theorem exists_lines (cs : List Char) : ∃ first rest, lines cs = first :: rest := by
  fun_induction lines cs with
  | case1 => exact ⟨[], [], rfl⟩
  | case2 cs => exact ⟨[], lines cs, rfl⟩
  | case3 c cs => exact ⟨[], lines cs, rfl⟩
  | case4 c cs _ _ ih =>
    obtain ⟨first, rest, h⟩ := ih
    exact ⟨c :: first, rest, by rw [h]; rfl⟩

/-- The text goes by its first character, and then by the other lines. -/
theorem commented_iff (cs : List Char) : Commented cs ↔ Begins cs ∧ Behind cs := by
  have hempty : ∀ ds, lines cs = [] :: lines ds → Begins cs → (Commented cs ↔ Begins cs ∧ Behind cs) := by
    intro ds hlines hbegins
    rw [Commented, Behind, hlines, List.forall_mem_cons, List.tail_cons]
    simp [hbegins, IsComment]
  cases cs with
  | nil => simp [Commented, Behind, Begins, lines, IsComment]
  | cons c cs =>
    cases hc : endsLine c with
    | true =>
      have hbegins : Begins (c :: cs) := by simp [Begins, hc]
      by_cases hpair : ∃ rest, c = '\r' ∧ cs = '\n' :: rest
      · obtain ⟨rest, rfl, rfl⟩ := hpair
        exact hempty rest (by rw [lines]) hbegins
      · refine hempty cs ?_ hbegins
        rw [lines, if_pos hc]
        exact fun rest h h' => hpair ⟨rest, h, h'⟩
    | false =>
      obtain ⟨first, rest, hlines⟩ := exists_lines cs
      rw [Commented, Behind, lines_of_not_endsLine hc, hlines]
      simp [Begins, hc, IsComment]

/-- Behind the end of a line the next one is to be empty or a comment. -/
theorem behind_cons (c : Char) (cs : List Char) :
    Behind (c :: cs) ↔ (endsLine c = true → Begins cs) ∧ Behind cs := by
  cases hc : endsLine c with
  | false =>
    obtain ⟨first, rest, hlines⟩ := exists_lines cs
    rw [Behind, Behind, lines_of_not_endsLine hc, hlines]
    simp
  | true =>
    simp only [true_implies]
    by_cases hpair : ∃ rest, c = '\r' ∧ cs = '\n' :: rest
    · -- The two are one end of a line, and the second one is also an end of its own.
      obtain ⟨rest, rfl, rfl⟩ := hpair
      have hlf : lines ('\n' :: rest) = [] :: lines rest := by
        rw [lines, if_pos (by decide)]
        exact fun _ h => absurd h (by decide)
      rw [Behind, Behind, hlf, lines]
      simp [Begins, endsLine]
    · rw [← commented_iff, Behind, lines, if_pos hc]
      · rfl
      · exact fun rest h h' => hpair ⟨rest, h, h'⟩

theorem behind_nil : Behind [] := by simp [Behind, lines]

/-- One row of lines behind another. -/
theorem behind_append (cs ds : List Char) :
    Behind (cs ++ '\n' :: ds) ↔ Behind cs ∧ Begins ds ∧ Behind ds := by
  induction cs with
  | nil => simp [behind_cons, behind_nil, endsLine]
  | cons c cs ih =>
    have hbegins : Begins (cs ++ '\n' :: ds) ↔ Begins cs := by
      cases cs <;> simp [Begins, endsLine]
    rw [List.cons_append, behind_cons, behind_cons, ih, hbegins, and_assoc]

/-! ## Comments -/

/-- Every CR in the text is the last character, or there is another one behind it, or the mark of a comment. -/
def Contained (cs : List Char) : Prop :=
  ∀ before c after, cs = before ++ '\r' :: c :: after → c = '\r' ∨ c = '%'

theorem contained_cons (c : Char) (cs : List Char) :
    Contained (c :: cs) ↔ (c = '\r' → ∀ d ∈ cs.head?, d = '\r' ∨ d = '%') ∧ Contained cs := by
  constructor
  · refine fun h => ⟨?_, fun before d after hcs => h (c :: before) d after (by rw [hcs]; rfl)⟩
    rintro rfl d hd
    obtain ⟨after, rfl⟩ : ∃ after, cs = d :: after := List.head?_eq_some_iff.mp hd
    exact h [] d after rfl
  · rintro ⟨hfirst, hrest⟩ before d after hcs
    cases before with
    | nil =>
      obtain ⟨rfl, rfl⟩ := List.cons.inj hcs
      exact hfirst rfl d rfl
    | cons b before =>
      obtain ⟨-, rfl⟩ := List.cons.inj hcs
      exact hrest before d after rfl

/-- What becomes of a character in a comment. -/
def inComment (c : Char) : Char := if c = '\n' then ' ' else c

theorem replaceList_lf (cs : List Char) : Text.replaceList ['\n'] [' '] cs = cs.map inComment := by
  induction cs with
  | nil => rw [Text.replaceList]; rfl
  | cons c cs ih =>
    rw [Text.replaceList, List.map_cons, ← ih]
    by_cases hc : c = '\n'
    · subst hc
      rfl
    · rw [if_neg (by simpa using fun h => hc h.symm), inComment, if_neg hc]

theorem toList_warningComment (w : Warning) :
    (warningComment w).toList = ('%' :: ' ' :: w.display.toList.map inComment) ++ ['\n'] := by
  simp [warningComment, Text.replace, replaceList_lf]

/-- Without LF only a CR ends a line. -/
theorem behind_inComment (cs : List Char) : Behind (cs.map inComment) ↔ Contained cs := by
  induction cs with
  | nil => simp [behind_nil, Contained]
  | cons c cs ih =>
    have hends : ∀ d, endsLine (inComment d) = true ↔ d = '\r' := by
      intro d
      by_cases hd : d = '\n' <;> simp [inComment, endsLine, hd]
    have hmark : ∀ d, inComment d = '%' ↔ d = '%' := by
      intro d
      by_cases hd : d = '\n' <;> simp [inComment, hd]
    have hbegins : Begins (cs.map inComment) ↔ ∀ d ∈ cs.head?, d = '\r' ∨ d = '%' := by
      cases cs <;> simp [Begins, hends, hmark, or_comm]
    rw [List.map_cons, behind_cons, contained_cons, ih, hends, hbegins]

/-- The comments of some warnings. -/
def comments (warnings : List Warning) : List Char := warnings.flatMap fun w => (warningComment w).toList

theorem toList_join (warnings : List Warning) :
    (String.join (warnings.map warningComment)).toList = comments warnings := by
  rw [String.toList_join, List.flatMap_map, comments]

theorem begins_comments (warnings : List Warning) : Begins (comments warnings) := by
  cases warnings with
  | nil => simp [Begins, comments]
  | cons w warnings =>
    rw [comments, List.flatMap_cons, toList_warningComment]
    simp [Begins]

theorem behind_comments (warnings : List Warning) :
    Behind (comments warnings) ↔ ∀ w ∈ warnings, Contained w.display.toList := by
  induction warnings with
  | nil => simp [comments, behind_nil]
  | cons w warnings ih =>
    have hplain : ∀ d, d ≠ '\n' → d ≠ '\r' → ∀ cs, Behind (d :: cs) ↔ Behind cs := by
      intro d hlf hcr cs
      simp [behind_cons, endsLine, hlf, hcr]
    have hcons : comments (w :: warnings) =
        ('%' :: ' ' :: w.display.toList.map inComment) ++ '\n' :: comments warnings := by
      rw [comments, List.flatMap_cons, toList_warningComment, List.append_assoc]
      rfl
    rw [hcons, behind_append, hplain '%' (by decide) (by decide), hplain ' ' (by decide) (by decide),
      behind_inComment, ih, List.forall_mem_cons]
    simp [begins_comments]

/-- The lines in front of the comments. -/
def heading : String := "\n\n" ++ commentRule ++ "% Conversion Warnings\n" ++ commentRule

/-- What is put behind an output. -/
def block (warnings : List Warning) : String := heading ++ String.join (warnings.map warningComment)

theorem withComments_eq (content : String) (warnings : List Warning) :
    withComments content warnings = content ++ block warnings := by
  simp only [withComments, block, heading, String.append_assoc]

theorem commented_block_iff (warnings : List Warning) :
    Commented (block warnings).toList ↔ ∀ w ∈ warnings, Contained w.display.toList := by
  obtain ⟨front, hfront, hcommented⟩ : ∃ front, heading.toList = front ++ ['\n'] ∧ Commented front := by
    have hrule : commentRule.toList = '%' :: ' ' :: List.replicate 63 '=' ++ ['\n'] := by simp [commentRule]
    refine ⟨'\n' :: '\n' :: '%' :: ' ' :: List.replicate 63 '=' ++ '\n' :: "% Conversion Warnings".toList ++
      '\n' :: '%' :: ' ' :: List.replicate 63 '=', ?_, by decide⟩
    rw [heading, String.toList_append, String.toList_append, String.toList_append, hrule]
    simp
  have hblock : (block warnings).toList = front ++ '\n' :: comments warnings := by
    rw [block, String.toList_append, hfront, toList_join, List.append_assoc]
    rfl
  have hbegins : Begins (front ++ '\n' :: comments warnings) := by
    have hfirst := ((commented_iff front).mp hcommented).1
    cases front with
    | nil => simp [Begins, endsLine]
    | cons => simpa [Begins] using hfirst
  rw [hblock, commented_iff, behind_append, behind_comments]
  simp only [hbegins, ((commented_iff front).mp hcommented).2, begins_comments, true_and]

/-- The warnings stand behind the output in comments just if no CR in what they say has something behind it
that stands on a line of its own. -/
theorem withComments_commented_iff (content : String) (warnings : List Warning) :
    ∃ block, withComments content warnings = content ++ block ∧
      ((∀ line ∈ lines block.toList, line = [] ∨ line.head? = some '%') ↔
        ∀ w ∈ warnings, ∀ before c after, w.display.toList = before ++ '\r' :: c :: after →
          c = '\r' ∨ c = '%') :=
  ⟨block warnings, withComments_eq content warnings, commented_block_iff warnings⟩

/-- A letter in a color that there is not, with a CR in its name. -/
def coloredLetter : Document :=
  ((Document.withRoot "body").push 0 (.element (.ofName "font" [⟨"color", "a\rb"⟩]))).push 1 (.text "t")

/-- The rest of the warning stands behind its comment, on a line of its own. -/
theorem withComments_coloredLetter :
    ∃ output, coloredLetter.toLatex {} Image.Resolver.passthrough = .ok output ∧
      ∃ block, withComments output.content output.warnings = output.content ++ block ∧
        ∃ line ∈ lines block.toList, line ≠ [] ∧ line.head? ≠ some '%' := by
  have hrun : (coloredLetter.toLatex {} Image.Resolver.passthrough).toOption =
      some ⟨"t", [⟨.cssValue, "unrecognized color 'a\rb'", some "font"⟩]⟩ := by decide +kernel
  cases houtput : coloredLetter.toLatex {} Image.Resolver.passthrough with
  | error fault =>
    rw [houtput] at hrun
    cases hrun
  | ok output =>
    rw [houtput] at hrun
    obtain rfl := Option.some.inj hrun
    refine ⟨_, rfl, _, withComments_eq _ _, ?_⟩
    refine Classical.byContradiction fun hall => ?_
    have hcommented : Commented (block [⟨.cssValue, "unrecognized color 'a\rb'", some "font"⟩]).toList :=
      fun line hline => Classical.byContradiction fun hnone =>
        hall ⟨line, hline, fun h => hnone (.inl h), fun h => hnone (.inr h)⟩
    have hcontained := (commented_block_iff _).mp hcommented _ List.mem_cons_self
    -- The letter behind the CR would have to be the mark of a comment.
    have hletter := hcontained "[invalid CSS value] <font>: unrecognized color 'a".toList 'b' ['\''] (by decide)
    revert hletter
    decide

end MarkupTex.CommandLine
