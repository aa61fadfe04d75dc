import MarkupTex.Proofs.Convert.Loss
import MarkupTex.Proofs.Latex.Escaping
/-!
# Where a text is divided

The document says where one text ends and the next one begins, and often enough by accident: a comment or a
reference may divide what reads as one text.  The conversion looks at a text as a whole when it collapses blanks,
and at the output when it decides whether a blank at the beginning is dropped.  That this does not show
(`visitText_append`) has two reasons.  The collapsing depends on what is before by one bit only, whether a run of
blanks is going on (`collapseFrom_append`), and the output keeps this bit: what is written ends in a blank if and
only if the text did (`runAfter_written`).

Escaping is no matter, since it goes character by character.  The room that the output asks for does depend on
the division.  So the states are compared without it, and a request can be refused for the one division and not
for the other one, unless there is room enough for both.
-/

set_option autoImplicit false

namespace MarkupTex

open Latex

/-! ## Collapsing in parts -/

namespace Text

theorem trimStartList_collapseFrom_true (cs : List Char) :
    trimStartList (collapseFrom true cs) = collapseFrom true cs := by
  induction cs with
  | nil => rfl
  | cons c cs ih =>
    rw [collapseFrom]
    cases hc : isBlank c with
    | true => exact ih
    | false => simp [trimStartList, hc]

/-- A text without the blanks at its beginning is collapsed as in a run of blanks. -/
theorem trimStart_collapse (s : String) :
    trimStart (collapse s) = String.ofList (collapseFrom true s.toList) := by
  rw [trimStart, collapse, String.toList_ofList]
  cases s.toList with
  | nil => rfl
  | cons c cs =>
    rw [collapseFrom, collapseFrom]
    cases hc : isBlank c with
    | true =>
      have hspace : isBlank ' ' = true := rfl
      have hrest := trimStartList_collapseFrom_true cs
      rw [trimStartList] at hrest ⊢
      simp [hspace, hrest]
    | false => simp [trimStartList, hc]

end Text

/-- The bit of the output that a text is collapsed by. -/
theorem Latex.Buffer.atSpace_eq_runAfter (b : Buffer) : b.atSpace = Text.runAfter true b.text.toList := by
  rw [b.atSpace_eq]
  cases h : b.text.toList.getLast? with
  | none =>
    rw [List.getLast?_eq_none_iff.mp h]
    rfl
  | some c => rw [Text.runAfter_of_getLast? h, Option.all_some]

/-- The state with a text written behind the output. -/
def Converter.withText (c : Converter) (text : String) (capacity : Nat) : Converter :=
  { c with buffer := ⟨c.buffer.text ++ text, capacity⟩, faults := c.faults.clear }

/-- The same state, but for the room of the output. -/
def Converter.SameButRoom (c c' : Converter) : Prop :=
  ∃ capacity, c' = { c with buffer := { c.buffer with capacity } }

namespace Convert

variable {setting : Setting} {s t : String} {c c' c₁ c₂ : Converter} {flow : Flow}

/-- What is written for a character that is no blank does not end in one. -/
theorem runAfter_substituted {x : Char} (h : Text.isBlank x = false) (inRun : Bool) :
    Text.runAfter inRun (Buffer.substituted textSubstitution x) = false := by
  obtain ⟨hne, hsharp⟩ := sharp_substituted h
  obtain ⟨last, hlast⟩ := Option.isSome_iff_exists.mp (List.getLast?_isSome.mpr hne)
  have hend := hsharp.last
  rw [hlast] at hend
  rw [Text.runAfter_of_getLast? hlast]
  exact hend

/-- Behind what is written for a text a run of blanks is going on just if it is behind the text. -/
theorem runAfter_written (inRun : Bool) (cs : List Char) :
    Text.runAfter inRun ((Text.collapseFrom inRun cs).flatMap (Buffer.substituted textSubstitution)) =
      Text.runAfter inRun cs := by
  induction cs generalizing inRun with
  | nil => rfl
  | cons x cs ih =>
    have hrun : Text.runAfter inRun (x :: cs) = Text.runAfter (Text.isBlank x) cs := rfl
    rw [Text.collapseFrom, hrun]
    cases hx : Text.isBlank x with
    | false =>
      show Text.runAfter inRun ((x :: Text.collapseFrom false cs).flatMap _) = _
      rw [List.flatMap_cons, Text.runAfter_append, runAfter_substituted hx, ih]
    | true =>
      cases inRun with
      | true => exact ih true
      | false =>
        -- One space is written, and is a blank itself.
        have hspace : Text.runAfter false (Buffer.substituted textSubstitution ' ') = true := rfl
        show Text.runAfter false ((' ' :: Text.collapseFrom true cs).flatMap _) = _
        rw [List.flatMap_cons, Text.runAfter_append, hspace, ih]

/-! ## One text -/

/-- What is left to be escaped of a text, where the output ends as it does. -/
def runOf (setting : Setting) (b : Buffer) (s : String) : String :=
  if setting.options.collapseWhitespace then String.ofList (Text.collapseFrom b.atSpace s.toList) else s

/-- A text is just written here: neither in a verbatim block nor between the cells of a table, and without an
underline or a background around it. -/
structure Plain (c : Converter) : Prop where
  flat : c.preDepth = 0
  place : c.inTableSkeleton = false
  underline : c.formatting.pendingUnderline = true → c.formatting.active.contains Kinds.underline = true
  background : c.formatting.pendingBackground.isSome = true →
    c.formatting.active.contains Kinds.background = true

theorem appendRun_plain (h : Plain c) (s : String) : appendRun s c = pushEscaped s c := by
  have hbackground : (c.formatting.pendingBackground.filter fun _ =>
      !c.formatting.active.contains Kinds.background).isNone = true := by
    cases hp : c.formatting.pendingBackground with
    | none => rfl
    | some hex =>
      have hactive := h.background (by rw [hp]; rfl)
      simp [Option.filter, hactive]
  have hunderline : (c.formatting.pendingUnderline && !c.formatting.active.contains Kinds.underline) = false := by
    cases hp : c.formatting.pendingUnderline with
    | false => rfl
    | true => simp [h.underline hp]
  unfold appendRun
  show (if _ then pushEscaped s else _) c = _
  rw [if_pos (by rw [hbackground, hunderline, Bool.not_false, Bool.and_true, Bool.or_true])]

/-- What is left of a text is escaped and written.  A text that is collapsed may leave nothing. -/
theorem emitText_plain (setting : Setting) (h : Plain c) (s : String) :
    emitText setting s c = pushEscaped (runOf setting c.buffer s) c ∨
      (runOf setting c.buffer s = "" ∧ emitText setting s c = .ok () c) := by
  have hflat : ¬ 0 < c.preDepth := by
    rw [h.flat]
    exact Nat.lt_irrefl 0
  have hplace : ¬ c.inTableSkeleton = true := by
    rw [h.place]
    exact Bool.false_ne_true
  have hemit : emitText setting s c =
      (if (!setting.options.collapseWhitespace) = true then appendRun s else
        unless (if c.buffer.atSpace = true then Text.trimStart (Text.collapse s)
            else Text.collapse s).isEmpty = true do
          appendRun (if c.buffer.atSpace = true then Text.trimStart (Text.collapse s)
            else Text.collapse s)) c := by
    unfold emitText
    show (if 0 < c.preDepth then _ else if c.inTableSkeleton = true then _ else _ : Conversion Unit) c = _
    rw [if_neg hflat, if_neg hplace]
  rw [hemit, runOf]
  cases setting.options.collapseWhitespace with
  | false => exact .inl (appendRun_plain h s)
  | true =>
    have htext : (if c.buffer.atSpace = true then Text.trimStart (Text.collapse s) else Text.collapse s) =
        String.ofList (Text.collapseFrom c.buffer.atSpace s.toList) := by
      cases c.buffer.atSpace with
      | true => exact Text.trimStart_collapse s
      | false => rfl
    rw [htext, if_neg (by decide), if_pos rfl]
    by_cases hempty : String.ofList (Text.collapseFrom c.buffer.atSpace s.toList) = ""
    · rw [hempty]
      exact .inr ⟨rfl, rfl⟩
    · rw [if_neg (by simpa using hempty)]
      exact .inl (appendRun_plain h _)

/-- Nothing else is done with a text. -/
theorem visitText_adds (h : Plain c) (s : String) :
    Yields (visitText setting s) c fun flow c' => flow = .descend ∧
      ∃ capacity, c' = c.withText (textSubstitution.escape (runOf setting c.buffer s)) capacity := by
  have hclear : Plain { c with faults := c.faults.clear } := ⟨h.flat, h.place, h.underline, h.background⟩
  have hemit : Yields (emitText setting s) { c with faults := c.faults.clear } fun _ c' =>
      ∃ capacity, c' = c.withText (textSubstitution.escape (runOf setting c.buffer s)) capacity := by
    rw [Yields]
    rcases emitText_plain setting hclear s with heq | ⟨hnone, heq⟩
    · rw [heq]
      have hadds : c.buffer.Adds _ (c.buffer.appendText (runOf setting c.buffer s)) :=
        Buffer.appendMapped_adds c.buffer textSubstitution (runOf setting c.buffer s)
      refine write_adds hadds fun b hb => ⟨b.capacity, ?_⟩
      rw [← toList_escape, ← String.toList_append, String.toList_inj] at hb
      rw [Converter.withText, ← hb]
    · have hempty : runOf setting c.buffer s = "" := hnone
      have hsame : c.buffer.text ++ textSubstitution.escape "" = c.buffer.text := String.append_empty
      rw [heq, hempty]
      exact ⟨c.buffer.capacity, by rw [Converter.withText, hsame]⟩
  unfold visitText
  exact Yields.modify_bind (hemit.bind fun _ _ hadds => .pure ⟨rfl, hadds⟩)

/-! ## Room -/

/-- Escaping does not make a character shorter. -/
theorem utf8Size_le_substituted (x : Char) :
    x.utf8Size ≤ (String.ofList (Buffer.substituted textSubstitution x)).utf8ByteSize := by
  by_cases hspecial : x ∈ metacharacters ++ ['\n', '\r']
  · have hall : ∀ x ∈ metacharacters ++ ['\n', '\r'],
        x.utf8Size ≤ (String.ofList (Buffer.substituted textSubstitution x)).utf8ByteSize := by
      decide +kernel
    exact hall x hspecial
  · simp only [List.mem_append, List.mem_cons, List.not_mem_nil, or_false, not_or] at hspecial
    rw [textSubstitution_stays hspecial.1 hspecial.2]
    simp

theorem utf8ByteSize_le_escape (s : String) : s.utf8ByteSize ≤ (textSubstitution.escape s).utf8ByteSize := by
  have hlist : ∀ cs : List Char, (String.ofList cs).utf8ByteSize ≤
      (String.ofList (cs.flatMap (Buffer.substituted textSubstitution))).utf8ByteSize := by
    intro cs
    induction cs with
    | nil => exact Nat.le_refl 0
    | cons x cs ih =>
      have hx := utf8Size_le_substituted x
      have hsize := Buffer.utf8ByteSize_ofList_append [x] cs
      have hone : (String.ofList [x]).utf8ByteSize = x.utf8Size := by simp
      rw [List.singleton_append] at hsize
      rw [List.flatMap_cons, Buffer.utf8ByteSize_ofList_append]
      omega
  have h := hlist s.toList
  rwa [String.ofList_toList] at h

/-- Nor is a text longer for its blanks being collapsed. -/
theorem utf8ByteSize_collapse_le (inRun : Bool) (cs : List Char) :
    (String.ofList ((Text.collapseFrom inRun cs).flatMap
        (Buffer.substituted textSubstitution))).utf8ByteSize ≤
      (String.ofList (cs.flatMap (Buffer.substituted textSubstitution))).utf8ByteSize := by
  induction cs generalizing inRun with
  | nil => exact Nat.le_refl 0
  | cons x cs ih =>
    rw [Text.collapseFrom, List.flatMap_cons, Buffer.utf8ByteSize_ofList_append]
    split
    · have htrue := ih true
      split
      · omega
      · have hspace : (String.ofList (Buffer.substituted textSubstitution ' ')).utf8ByteSize = 1 := by decide
        have hx := utf8Size_le_substituted x
        have hpos := x.utf8Size_pos
        rw [List.flatMap_cons, Buffer.utf8ByteSize_ofList_append]
        omega
    · have hfalse := ih false
      rw [List.flatMap_cons, Buffer.utf8ByteSize_ofList_append]
      omega

theorem utf8ByteSize_runOf_le (setting : Setting) (b : Buffer) (s : String) :
    (textSubstitution.escape (runOf setting b s)).utf8ByteSize ≤
      (textSubstitution.escape s).utf8ByteSize := by
  rw [runOf]
  split
  · rw [Substitution.escape, String.toList_ofList]
    exact utf8ByteSize_collapse_le _ _
  · exact Nat.le_refl _

/-- With room for twice the output a text is not refused. -/
theorem visitText_of_room (setting : Setting) (s : String) (h : Plain c) (hroom : 2 * (c.buffer.size +
      (textSubstitution.escape (runOf setting c.buffer s)).utf8ByteSize) < Buffer.memoryLimit) :
    ∃ c', visitText setting s c = .ok .descend c' := by
  have hclear : Plain { c with faults := c.faults.clear } := ⟨h.flat, h.place, h.underline, h.background⟩
  have hemit : ∃ c', emitText setting s { c with faults := c.faults.clear } = .ok () c' := by
    rcases emitText_plain setting hclear s with heq | ⟨-, heq⟩
    · have hle := utf8ByteSize_le_escape (runOf setting c.buffer s)
      have hfits : c.buffer.HasRoom textSubstitution (runOf setting c.buffer s) := by
        rw [Buffer.HasRoom]
        omega
      obtain ⟨b, hb, -⟩ := Buffer.appendMapped_of_room hfits
      refine ⟨{ c with buffer := b, faults := c.faults.clear }, ?_⟩
      have happend : c.buffer.appendText (runOf setting c.buffer s) = .ok b := hb
      rw [heq]
      simp only [pushEscaped, write, happend]
    · exact ⟨_, heq⟩
  obtain ⟨c', hc'⟩ := hemit
  refine ⟨c', ?_⟩
  show (emitText setting s >>= fun _ => pure Flow.descend) { c with faults := c.faults.clear } = _
  simp only [Bind.bind, EStateM.bind, hc']
  rfl

/-! ## Two texts -/

/-- Of two texts, the same is left as of one. -/
theorem runOf_append (setting : Setting) (b : Buffer) (s t : String) (capacity : Nat) :
    runOf setting b (s ++ t) = runOf setting b s ++
      runOf setting ⟨b.text ++ textSubstitution.escape (runOf setting b s), capacity⟩ t := by
  rw [runOf, runOf, runOf]
  cases setting.options.collapseWhitespace with
  | false => rfl
  | true =>
    have hbehind : Buffer.atSpace ⟨b.text ++ textSubstitution.escape
          (String.ofList (Text.collapseFrom b.atSpace s.toList)), capacity⟩ =
        Text.runAfter b.atSpace s.toList := by
      rw [Buffer.atSpace_eq_runAfter, String.toList_append, Text.runAfter_append,
        ← Buffer.atSpace_eq_runAfter, toList_escape, String.toList_ofList, runAfter_written]
    simp only [if_true]
    rw [hbehind, String.toList_append, Text.collapseFrom_append, String.ofList_append]

theorem Plain.withText (h : Plain c) (text : String) (capacity : Nat) : Plain (c.withText text capacity) :=
  ⟨h.flat, h.place, h.underline, h.background⟩

theorem sameButRoom_of_text {text more : String} {n m k : Nat} (c : Converter) :
    ((c.withText text n).withText more m).SameButRoom (c.withText (text ++ more) k) :=
  ⟨k, by rw [Converter.withText, Converter.withText, ← String.append_assoc]; rfl⟩

/-- What is written for one text and then for the other one is what is written for both. -/
theorem written_append (setting : Setting) (c : Converter) (s t : String) (n : Nat) :
    textSubstitution.escape (runOf setting c.buffer (s ++ t)) =
      textSubstitution.escape (runOf setting c.buffer s) ++ textSubstitution.escape (runOf setting
        (c.withText (textSubstitution.escape (runOf setting c.buffer s)) n).buffer t) := by
  rw [runOf_append setting c.buffer s t n, escape_append]
  rfl

theorem visitText_divided (h : Plain c) (s t : String) :
    Yields (visitText setting s >>= fun _ => visitText setting t) c fun flow c₂ =>
      Yields (visitText setting (s ++ t)) c fun flow' c' => flow' = flow ∧ c₂.SameButRoom c' := by
  refine (visitText_adds h s).bind ?_
  rintro _ _ ⟨-, n, rfl⟩
  refine (visitText_adds (h.withText _ n) t).mono ?_
  rintro _ _ ⟨rfl, m, rfl⟩
  refine (visitText_adds h (s ++ t)).mono ?_
  rintro _ _ ⟨rfl, k, rfl⟩
  refine ⟨rfl, ?_⟩
  rw [written_append setting c s t n]
  exact sameButRoom_of_text c

/-- Neither of two texts is longer, as it is written, than the whole text is when it is escaped. -/
theorem divided_of_room (setting : Setting) (h : Plain c) (hroom : c.buffer.HasRoom textSubstitution (s ++ t)) :
    ∃ c₂, (visitText setting s >>= fun _ => visitText setting t) c = .ok .descend c₂ := by
  rw [Buffer.HasRoom, escape_append, String.utf8ByteSize_append, String.utf8ByteSize_append] at hroom
  have hs := utf8ByteSize_runOf_le setting c.buffer s
  obtain ⟨c₁, h₁⟩ := visitText_of_room setting s h (by omega)
  obtain ⟨-, n, rfl⟩ := (visitText_adds h s).of_ok h₁
  have hplain := h.withText (textSubstitution.escape (runOf setting c.buffer s)) n
  have ht := utf8ByteSize_runOf_le setting
    (c.withText (textSubstitution.escape (runOf setting c.buffer s)) n).buffer t
  have hsize : (c.withText (textSubstitution.escape (runOf setting c.buffer s)) n).buffer.size =
      c.buffer.size + (textSubstitution.escape (runOf setting c.buffer s)).utf8ByteSize :=
    String.utf8ByteSize_append
  obtain ⟨c₂, h₂⟩ := visitText_of_room setting t hplain (by omega)
  exact ⟨c₂, by simp only [Bind.bind, EStateM.bind, h₁, h₂]⟩

/-- Two texts one after the other are written as the one text that they are divided from, if a text is just
written here, whatever is collapsed.  Only the room of the output may be another one; and where there is memory
for twice the output, no request for room is refused, be the text divided or not. -/
theorem visitText_append (setting : Setting) (h : Plain c) (s t : String) :
    Yields (visitText setting s >>= fun _ => visitText setting t) c (fun flow c₂ =>
        Yields (visitText setting (s ++ t)) c fun flow' c' => flow' = flow ∧ c₂.SameButRoom c') ∧
      (c.buffer.HasRoom textSubstitution (s ++ t) → ∃ flow c₂ c',
        (visitText setting s >>= fun _ => visitText setting t) c = .ok flow c₂ ∧
          visitText setting (s ++ t) c = .ok flow c' ∧ c₂.SameButRoom c') := by
  refine ⟨visitText_divided h s t, fun hroom => ?_⟩
  obtain ⟨c₂, hboth⟩ := divided_of_room setting h hroom
  have hwhole := utf8ByteSize_runOf_le setting c.buffer (s ++ t)
  rw [Buffer.HasRoom] at hroom
  obtain ⟨c', h'⟩ := visitText_of_room setting (s ++ t) h (by omega)
  exact ⟨.descend, c₂, c', hboth, h', (((visitText_divided h s t).of_ok hboth).of_ok h').2⟩

/-- A run of blanks that is divided, behind a blank and with an underline that is in effect already. -/
theorem visitText_append_dividedBlanks :
    ∃ c : Converter, c.buffer.text = "x " ∧ c.formatting.pendingUnderline = true ∧ Plain c ∧
      c.buffer.HasRoom textSubstitution ("\t&\n" ++ " b") ∧
      ∃ flow c₂ c', (visitText ⟨{}, Image.Resolver.passthrough⟩ "\t&\n" >>= fun _ =>
          visitText ⟨{}, Image.Resolver.passthrough⟩ " b") c = .ok flow c₂ ∧
        visitText ⟨{}, Image.Resolver.passthrough⟩ ("\t&\n" ++ " b") c = .ok flow c' ∧
        c₂.SameButRoom c' := by
  let c : Converter :=
    { buffer := ⟨"x ", 1024⟩, formatting := { active := Kinds.underline, pendingUnderline := true } }
  have hplain : Plain c := ⟨rfl, rfl, fun _ => by decide, fun h => by cases h⟩
  have hroom : c.buffer.HasRoom textSubstitution ("\t&\n" ++ " b") := by decide
  exact ⟨c, rfl, rfl, hplain, hroom, (visitText_append _ hplain "\t&\n" " b").2 hroom⟩

end Convert

end MarkupTex
