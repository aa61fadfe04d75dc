import MarkupTex.Proofs.Convert.Lasting
import MarkupTex.Proofs.Convert.Lines
/-!
# The ends of tables and figures

What is written where a table begins and where it ends, and what comes behind the caption of a figure, as
texts.  `newTable` is the state that a table begins with: a table at the outermost has a float and the next
number, any other one is the grid alone and has none.
-/

set_option autoImplicit false

namespace MarkupTex

open Latex MarkupTex.Convert

namespace Convert

variable {blocks grids : Prop} {doc : Document} {setting : Setting} {id : Nat} {e : Element} {style : Style}
  {c c' c₁ c₂ c₃ : Converter} {flow : Flow} {bare : Bool} {f : Frame} {fs : List Frame} {cs ds : List Char}

/-! ## Texts that are added -/

/-- A text was added to the output, and nothing else is different. -/
def AddsText (cs : List Char) (c c' : Converter) : Prop :=
  ∃ b : Buffer, c' = { c with buffer := b } ∧ b.text.toList = c.output ++ cs

namespace AddsText

theorem output (h : AddsText cs c c') : c'.output = c.output ++ cs := by
  obtain ⟨b, rfl, hb⟩ := h
  exact hb

theorem nil : AddsText [] c c := ⟨c.buffer, rfl, (List.append_nil _).symm⟩

theorem trans (h : AddsText cs c c₁) (h' : AddsText ds c₁ c₂) : AddsText (cs ++ ds) c c₂ := by
  obtain ⟨b, rfl, hb⟩ := h
  obtain ⟨b', rfl, hb'⟩ := h'
  refine ⟨b', rfl, ?_⟩
  rw [hb', ← List.append_assoc, ← hb]
  rfl

theorem congr (h : AddsText cs c c') (hcs : cs = ds) : AddsText ds c c' := hcs ▸ h

end AddsText

/-- The action adds a text, wherever it succeeds. -/
def AddingText (cs : List Char) (m : Conversion Unit) : Prop :=
  ∀ c, Ensures m c fun _ c' => AddsText cs c c'

theorem AddingText.bind {m : Conversion Unit} {next : Unit → Conversion Unit} (h : AddingText cs m)
    (hnext : AddingText ds (next ())) : AddingText (cs ++ ds) (m >>= next) := fun c =>
  (h c).bind fun _ c₁ h₁ => (hnext c₁).mono fun _ _ h₂ => h₁.trans h₂

theorem write_addsText {act : Buffer → Except Fault Buffer} (h : c.buffer.Adds cs (act c.buffer)) :
    Ensures (write act) c fun _ c' => AddsText cs c c' := by
  intro a c' hm
  rw [write] at hm
  split at hm
  · next b hb =>
    cases hm
    rw [hb] at h
    exact ⟨b, rfl, h⟩
  · cases hm

theorem push_addsText (s : String) : AddingText s.toList (push s) :=
  fun c => write_addsText (Buffer.append_adds c.buffer s)

theorem pushEscaped_addsText (s : String) : AddingText (writtenText s) (pushEscaped s) := by
  intro c
  have hadds := Buffer.appendText_adds c.buffer s
  rw [spell_flatMap, ← funext substituted_text] at hadds
  exact write_addsText hadds

/-- What is written for a path or a name. -/
def writtenPath (s : String) : List Char := s.toList.flatMap (Buffer.substituted pathSubstitution)

theorem pushPath_addsText (s : String) : AddingText (writtenPath s) (pushPath s) := by
  intro c
  have hadds := Buffer.appendPath_adds c.buffer s
  rw [spell_flatMap, ← funext substituted_path] at hadds
  exact write_addsText hadds

theorem spaceApart_addsText (c : Converter) :
    Ensures spaceApart c fun _ c' => AddsText [] c c' ∨ AddsText [' '] c c' :=
  Ensures.get_bind (Ensures.unless (fun _ => (push_addsText " " c).mono fun _ _ h => .inr h)
    fun _ => .inl .nil)

/-- Where a line was ended: spaces at the end have gone, and a line end was written unless there is one. -/
def LineEnded (cs front : List Char) : Prop :=
  front = Text.dropEndWhile (· = ' ') cs ∨
    (Text.dropEndWhile (· = ' ') cs).getLast? ≠ some '\n' ∧
      front = Text.dropEndWhile (· = ' ') cs ++ ['\n']

namespace LineEnded

theorem continues (h : LineEnded cs ds) : Continues cs ds := by
  have hgoes : ContinuesIn True cs ds := by
    refine (ContinuesIn.trim cs).trans ?_
    rcases h with rfl | ⟨hlast, rfl⟩
    · exact .refl _
    · have hrow : fitsLine [.char '\n'] := rfl
      exact .write hrow (fun _ => rfl) fun _ => hlast
  exact hgoes.continues

theorem prolongs (h : LineEnded cs ds) : Prolongs cs ds := by
  refine (Prolongs.trim cs).trans ?_
  rcases h with rfl | ⟨-, rfl⟩
  · exact .refl _
  · exact .append _ _

end LineEnded

/-- A line end is written, unless the output is at the end of a line. -/
theorem newline_ends (c : Converter) :
    Ensures newline c fun _ c' => AddsText [] c c' ∨ c.output.getLast? ≠ some '\n' ∧ AddsText ['\n'] c c' := by
  rcases Buffer.newline_adds c.buffer with hsame | ⟨hlast, hadds⟩
  · have hnothing : c.buffer.Adds [] c.buffer.newline := by
      rw [hsame]
      exact (List.append_nil _).symm
    exact (write_addsText hnothing).mono fun _ _ h => .inl h
  · exact (write_addsText hadds).mono fun _ _ h => .inr ⟨hlast, h⟩

theorem newline_trimmed (c : Converter) :
    Ensures newline { c with buffer := c.buffer.trimSpaces } fun _ c' =>
      ∃ b : Buffer, c' = { c with buffer := b } ∧ LineEnded c.output b.text.toList := by
  have htrimmed : ({ c with buffer := c.buffer.trimSpaces } : Converter).output =
      Text.dropEndWhile (· = ' ') c.output := Buffer.toList_trimSpaces c.buffer
  refine (newline_ends _).mono ?_
  rw [htrimmed]
  rintro _ _ (⟨b, rfl, hb⟩ | ⟨hlast, b, rfl, hb⟩)
  · refine ⟨b, rfl, .inl ?_⟩
    rw [hb, htrimmed, List.append_nil]
  · refine ⟨b, rfl, .inr ⟨hlast, ?_⟩⟩
    rw [hb, htrimmed]

theorem endsWith_false {b : Buffer} {s : String} {last : Char} (hlast : b.text.toList.getLast? = some last)
    (hs : s.toList ≠ []) (hne : s.toList.getLast? ≠ some last) : b.endsWith s = false := by
  refine Bool.eq_false_iff.mpr fun h => hne ?_
  obtain ⟨front, hfront⟩ := Text.endsIn_iff.mp h
  rw [← hfront, List.getLast?_append_of_ne_nil _ hs] at hlast
  exact hlast

/-- Behind a brace a paragraph break is an empty line. -/
theorem paragraphBreak_addsText (h : c.output.getLast? = some '\x7d') :
    Ensures paragraphBreak c fun _ c' => AddsText ['\n', '\n'] c c' := by
  refine write_addsText ?_
  have hlast : c.buffer.text.toList.getLast? = some '\x7d' := h
  have hnot : ∀ s : String, s.toList ≠ [] → s.toList.getLast? ≠ some '\x7d' → c.buffer.endsWith s = false :=
    fun s => endsWith_false hlast
  have hspaces : c.buffer.trimSpaces = c.buffer := by
    rw [Buffer.trimSpaces, hnot " " (by decide) (by decide)]
    rfl
  have hsome : c.buffer.isEmpty = false := by
    refine Bool.eq_false_iff.mpr fun hempty => ?_
    have htext : c.buffer.text = "" := by simpa [Buffer.isEmpty] using hempty
    rw [htext] at hlast
    cases hlast
  have hbreak : c.buffer.paragraphBreak = c.buffer.append "\n\n" := by
    unfold Buffer.paragraphBreak
    simp only [hspaces, hsome, hnot "\\item " (by decide) (by decide), hnot "\n\n" (by decide) (by decide),
      hnot "\n" (by decide) (by decide), Bool.or_self, Bool.false_eq_true, if_false]
  rw [hbreak]
  exact Buffer.append_adds c.buffer "\n\n"

/-! ## Captions and labels -/

/-- The name in the label of a float: the one that was given, or else the one that was made for it. -/
def writtenLabel (given : Option String) (made : String) : List Char :=
  match given with
  | some name => writtenPath name
  | none => made.toList

/-- What comes behind the caption of a float. -/
def floatClosing (environment : String) (label : List Char) : List Char :=
  "\x7d\n\\label\x7b".toList ++ label ++ ("\x7d\n" ++ endEnvironment environment ++ "\n\n").toList

/-- The end of a float, from its caption on. -/
def floatEnding (environment : String) (caption label : List Char) : List Char :=
  "\n\\caption\x7b".toList ++ caption ++ floatClosing environment label

theorem pushFloatLabel_addsText (given : Option String) (made : String) :
    AddingText ("\x7d\n\\label\x7b".toList ++ writtenLabel given made) (pushFloatLabel given made) := by
  refine (push_addsText _).bind ?_
  cases given with
  | some name => exact pushPath_addsText name
  | none => exact push_addsText made

theorem endEnvironment_getLast? (environment : String) :
    ("\x7d\n" ++ endEnvironment environment).toList.getLast? = some '\x7d' := by
  simp only [endEnvironment, braced, String.toList_append, List.getLast?_append]
  rfl

theorem floatClosing_append (environment : String) (label : List Char) :
    floatClosing environment label = "\x7d\n\\label\x7b".toList ++ label ++
      (("\x7d\n" ++ endEnvironment environment).toList ++ ['\n', '\n']) := by
  have hbreak : "\n\n".toList = ['\n', '\n'] := by decide
  rw [← hbreak, ← String.toList_append]
  rfl

theorem floatClosing_addsText (environment : String) (given : Option String) (made : String) :
    AddingText (floatClosing environment (writtenLabel given made)) (do
      pushFloatLabel given made
      push ("\x7d\n" ++ endEnvironment environment)
      paragraphBreak) := by
  intro c
  rw [floatClosing_append]
  refine (pushFloatLabel_addsText given made c).bind fun _ c₁ h₁ => ?_
  refine (push_addsText _ c₁).bind fun _ c₂ h₂ => ?_
  have hbrace : c₂.output.getLast? = some '\x7d' := by
    rw [h₂.output, List.getLast?_append, endEnvironment_getLast?, Option.some_or]
  exact (paragraphBreak_addsText hbrace).mono fun _ _ h₃ => h₁.trans (h₂.trans h₃)

theorem floatEnding_addsText {m : Conversion Unit} (hm : AddingText cs m) (environment : String)
    (given : Option String) (made : String) :
    AddingText (floatEnding environment cs (writtenLabel given made)) (do
      push "\n\\caption\x7b"
      m
      pushFloatLabel given made
      push ("\x7d\n" ++ endEnvironment environment)
      paragraphBreak) := by
  intro c
  refine (push_addsText "\n\\caption\x7b" c).bind fun _ c₁ h₁ => ?_
  refine (hm c₁).bind fun _ c₂ h₂ => ?_
  refine (floatClosing_addsText environment given made c₂).mono fun _ _ h₃ => ?_
  have hall := h₁.trans (h₂.trans h₃)
  exact hall.congr (List.append_assoc _ _ _).symm

/-- The caption of a table: the one that it was given, or else one made from its number. -/
def tableCaption (t : TableState) : List Char :=
  match t.caption.filter fun caption => !caption.isEmpty with
  | some caption => writtenText caption
  | none => ("Table " ++ toString t.number).toList

def tableName (number : Nat) : String := "table_" ++ toString number

theorem pushTableCaption_addsText (t : TableState) :
    AddingText (tableCaption t) (pushTableCaption t) := by
  unfold pushTableCaption tableCaption
  cases t.caption.filter fun caption => !caption.isEmpty with
  | some caption => exact pushEscaped_addsText caption
  | none => exact push_addsText _

theorem endFloat_addsText (t : TableState) :
    AddingText (floatEnding "table" (tableCaption t) (writtenLabel t.label (tableName t.number)))
      (endFloat t) :=
  floatEnding_addsText (pushTableCaption_addsText t) "table" t.label (tableName t.number)

/-! ## Tables -/

/-- The table is begun: it is not left out, and it does not become a figure. -/
def startsTable (doc : Document) (id : Nat) (e : Element) (c : Converter) : Bool :=
  c.preDepth = 0 && e.tag = .table && !c.inTableSkeleton && !(isOutermost c && doc.isImageOnly id)

/-- The state that a table begins with. -/
def newTable (doc : Document) (id : Nat) (e : Element) (c : Converter) : TableState where
  node := id
  number := if isOutermost c then c.tables + 1 else 0
  columns := doc.columnCount id
  nested := !isOutermost c
  label := e.nonBlankAttribute? "id"

/-- What is written behind the beginning of a grid: how its columns are set, and the line above it. -/
def gridColumns (doc : Document) (options : Options) (id : Nat) : List Char :=
  (braced (columnSpec (doc.columnCount id) options.tableBorders) ++ "\n").toList ++
    if options.tableBorders then "\\hline\n".toList else []

def gridBegin : List Char := (beginEnvironment "tabular").toList

def gridEnd : List Char := (endEnvironment "tabular").toList

/-- The grid of a table is started, and the table is the current one. -/
theorem beginGrid_begins (hc : Framed c) (t : TableState) (n : Nat) (front : Buffer) :
    Ensures (do
        push (beginEnvironment "tabular" ++
          braced (columnSpec (doc.columnCount id) setting.options.tableBorders) ++ "\n")
        if setting.options.tableBorders then push "\\hline\n"
        installTable t) { c with tables := n, buffer := front } fun _ c' =>
      ∃ b : Buffer,
        b.text.toList = front.text.toList ++ gridBegin ++ gridColumns doc setting.options id ∧
        c' = ({ c with tables := n, buffer := b } : Converter).install t := by
  have hinstall : ∀ {cs : List Char} {c₁ : Converter},
      AddsText cs { c with tables := n, buffer := front } c₁ →
      cs = gridBegin ++ gridColumns doc setting.options id →
      Ensures (installTable t) c₁ fun _ c' => ∃ b : Buffer,
        b.text.toList = front.text.toList ++ gridBegin ++ gridColumns doc setting.options id ∧
        c' = ({ c with tables := n, buffer := b } : Converter).install t := by
    rintro _ _ ⟨b, rfl, hb⟩ rfl
    refine (installTable_yields (by exact hc) t).ensures.mono ?_
    rintro _ _ rfl
    exact ⟨b, by rw [List.append_assoc]; exact hb, rfl⟩
  refine (push_addsText _ _).bind fun _ c₁ h₁ => ?_
  refine Ensures.ite (fun hborders => ?_) fun hborders => ?_
  · refine (push_addsText _ c₁).bind fun _ c₂ h₂ => hinstall (h₁.trans h₂) ?_
    simp [gridBegin, gridColumns, hborders]
  · exact hinstall h₁ (by simp [gridBegin, gridColumns, hborders])

/-- A table was begun: its grid was started, behind nothing but a space if it is the grid alone. -/
def GridBegun (doc : Document) (options : Options) (id : Nat) (t : TableState) (c c' : Converter) : Prop :=
  ∃ front b : Buffer, (t.nested → front.text.toList = c.output ∨ front.text.toList = c.output ++ [' ']) ∧
    b.text.toList = front.text.toList ++ gridBegin ++ gridColumns doc options id ∧
    c' = ({ c with tables := c.tables + (!t.nested).toNat, buffer := b } : Converter).install t

namespace GridBegun

variable {options : Options} {t : TableState} {b : Bool}

theorem table (h : GridBegun doc options id t c c') : c'.table = some t := by
  obtain ⟨_, _, -, -, rfl⟩ := h
  rfl

theorem tables (h : GridBegun doc options id t c c') : c'.tables = c.tables + (!t.nested).toNat := by
  obtain ⟨_, _, -, -, rfl⟩ := h
  rfl

theorem figures (h : GridBegun doc options id t c c') : c'.figures = c.figures := by
  obtain ⟨_, _, -, -, rfl⟩ := h
  rfl

/-- The table around is in the frame of the element. -/
theorem frames (h : GridBegun doc options id t (c.opened b) c') :
    c'.frames = { saved := some c.formatting, outerTable := some c.table } :: c.frames := by
  obtain ⟨_, _, -, -, rfl⟩ := h
  rfl

end GridBegun

theorem write_buffer (act : Buffer → Except Fault Buffer) :
    Ensures (write act) c fun _ c' => ∃ b : Buffer, c' = { c with buffer := b } := by
  intro a c' hm
  rw [write] at hm
  split at hm
  · next b _ =>
    cases hm
    exact ⟨b, rfl⟩
  · cases hm

theorem beginTable_begins (hc : Framed c) (hbare : bare = !isOutermost c) :
    Ensures (beginTable doc setting id e bare) c fun _ c' =>
      GridBegun doc setting.options id (newTable doc id e c) c c' := by
  have ht : newTable doc id e c =
      { node := id
        number := if bare then 0 else c.tables + 1
        columns := doc.columnCount id
        nested := bare
        label := e.nonBlankAttribute? "id" } := by
    cases houter : isOutermost c <;> simp [newTable, hbare, houter]
  have hgrid : ∀ front : Buffer, (bare → front.text.toList = c.output ∨ front.text.toList = c.output ++ [' ']) →
      Ensures (do
        push (beginEnvironment "tabular" ++
          braced (columnSpec (doc.columnCount id) setting.options.tableBorders) ++ "\n")
        if setting.options.tableBorders then push "\\hline\n"
        installTable (newTable doc id e c))
          { c with tables := c.tables + (!bare).toNat, buffer := front } fun _ c' =>
        GridBegun doc setting.options id (newTable doc id e c) c c' := by
    intro front hfront
    refine (beginGrid_begins hc _ _ front).mono fun _ c' ⟨b, hb, hc'⟩ => ⟨front, b, ?_, hb, ?_⟩
    · rwa [ht]
    · rwa [ht] at hc' ⊢
  rw [ht] at hgrid ⊢
  unfold beginTable
  cases bare with
  | true =>
    refine Ensures.bind (Ensures.pure (Q := fun a c' => a = 0 ∧ c' = c) ⟨rfl, rfl⟩) ?_
    rintro _ _ ⟨rfl, rfl⟩
    refine (spaceApart_addsText _).bind ?_
    rintro _ _ (⟨b, rfl, hb⟩ | ⟨b, rfl, hb⟩)
    · exact hgrid b fun _ => .inl (hb.trans (List.append_nil _))
    · exact hgrid b fun _ => .inr hb
  | false =>
    have hnumber : Ensures nextTable c fun number c' =>
        number = c.tables + 1 ∧ c' = { c with tables := c.tables + 1 } :=
      Ensures.modify_bind (Ensures.get_bind (Ensures.pure ⟨rfl, rfl⟩))
    refine hnumber.bind ?_
    rintro _ _ ⟨rfl, rfl⟩
    refine (write_buffer _).bind ?_
    rintro _ _ ⟨b, rfl⟩
    refine (write_buffer _).bind ?_
    rintro _ _ ⟨b', rfl⟩
    exact hgrid b' fun h => by cases h

/-- Entering such a table puts on a frame and begins the table. -/
theorem enter_begins (h : startsTable doc id e c) :
    Ensures (enter doc setting id e style) c fun flow c' => flow = .descend ∧
      ∃ b, GridBegun doc setting.options id (newTable doc id e c) (c.opened b) c' := by
  simp only [startsTable, Bool.and_eq_true, decide_eq_true_eq, Bool.not_eq_true'] at h
  obtain ⟨⟨⟨hpre, htag⟩, hskeleton⟩, himages⟩ := h
  refine .enter hpre ?_
  unfold openElement
  rw [htag]
  unfold openTable
  refine Ensures.get_bind (Ensures.ite (fun hin => ?_) fun _ => ?_)
  · exact absurd (hskeleton.symm.trans hin) (by decide)
  · extract_lets bare
    have hbare : bare = !isOutermost c := (not_isOutermost c).symm
    refine Ensures.ite (fun hgrid => ?_) fun _ => ?_
    · rw [hbare, Bool.not_not, himages] at hgrid
      cases hgrid
    · have hframed : Framed (c.opened (mayFormat e style && doc.hasBlockContent id)) := List.cons_ne_nil _ _
      exact (beginTable_begins hframed hbare).bind fun _ _ h => Ensures.pure ⟨rfl, _, h⟩

/-- Any other table leaves no mark in its frame. -/
theorem enter_unbegun (htag : e.tag = .table) (h : startsTable doc id e c = false) :
    Ensures (enter doc setting id e style) c fun _ c' =>
      ∃ g, c'.frames = g :: c.frames ∧ g.outerTable = none := by
  have hopened : ∀ (b : Bool) {c' : Converter}, c'.frames = (c.opened b).frames →
      ∃ g, c'.frames = g :: c.frames ∧ g.outerTable = none := fun b c' hf => ⟨_, hf, rfl⟩
  rcases Nat.eq_zero_or_pos c.preDepth with hpre | hpre
  · refine .enter hpre ?_
    unfold openElement
    rw [htag]
    unfold openTable
    refine Ensures.get_bind (Ensures.ite (fun _ => ?_) fun hskeleton => ?_)
    · exact (warn_wrote _ _).ensures.bind fun _ _ hw => Ensures.pure (hopened _ hw.unmoved.frames)
    · extract_lets bare
      refine Ensures.ite (fun _ => ?_) fun hgrid => ?_
      · exact (pushImageGrid_unmoving id _).bind fun _ _ h => Ensures.pure (hopened _ h.frames)
      · -- Then the table is begun after all.
        have hnotskeleton : c.inTableSkeleton = false := Bool.eq_false_iff.mpr hskeleton
        have hbare : bare = !isOutermost c := (not_isOutermost c).symm
        rw [hbare, Bool.not_not] at hgrid
        simp [startsTable, hpre, htag, hnotskeleton, hgrid] at h
  · refine (enter_verbatim hpre).ensures.mono ?_
    rintro _ c' ⟨-, b, hw⟩
    exact hopened b hw.unmoved.frames

/-! ## The end of a table -/

/-- What is written at the end of a table, behind the last line of its grid. -/
def tableEnding (t : TableState) : List Char :=
  gridEnd ++
    if t.nested then [] else floatEnding "table" (tableCaption t) (writtenLabel t.label (tableName t.number))

theorem closeTable_ends {outer : Option TableState} {t : TableState} (hclosers : f.closers = [])
    (houter : f.outerTable = some outer) (ht : c.table = some t) :
    Ensures (closeTable f) c fun _ c' => ∃ front, LineEnded c.output front ∧
      c'.output = front ++ tableEnding t := by
  unfold closeTable closeFrame
  rw [hclosers, houter]
  refine Ensures.bind (Ensures.pure (Q := fun _ c' => c' = c) rfl) fun _ c₁ hc₁ => ?_
  rw [hc₁]
  refine Ensures.get_bind ?_
  rw [ht]
  refine Ensures.modify_bind (Ensures.modify_bind ((newline_trimmed { c with table := none }).bind ?_))
  rintro _ _ ⟨b, rfl, hline⟩
  refine (push_addsText _ _).bind fun _ c₂ h₂ => ?_
  extract_lets outwards
  have houtwards : ∀ {cs : List Char} {c₃ : Converter}, c₃.output = b.text.toList ++ cs →
      cs = tableEnding t → Ensures (outwards ()) c₃ fun _ c' =>
        ∃ front, LineEnded c.output front ∧ c'.output = front ++ tableEnding t := by
    rintro _ c₃ hout rfl
    exact Ensures.modifies ⟨_, hline, hout⟩
  refine Ensures.ite (fun hnested => ?_) fun hfloat => ?_
  · refine houtwards h₂.output ?_
    rw [tableEnding, if_pos hnested, List.append_nil]
    rfl
  · refine (endFloat_addsText t c₂).bind fun _ c₃ h₃ => ?_
    have hboth := h₂.trans h₃
    refine houtwards hboth.output ?_
    rw [tableEnding, if_neg hfloat]
    rfl

/-- Leaving a table that was begun writes the end of it. -/
theorem leave_ends {outer : Option TableState} {t : TableState} (htag : e.tag = .table)
    (hf : c.frames = f :: fs) (hclosers : f.closers = []) (houter : f.outerTable = some outer)
    (ht : c.table = some t) :
    Ensures (leave e) c fun _ c' => ∃ front, LineEnded c.output front ∧
      c'.output = front ++ tableEnding t := by
  refine Ensures.leave hf ?_
  unfold closeElement
  rw [htag]
  exact closeTable_ends (c := c.popped fs) hclosers houter ht

/-! ## From the beginning to the end

What is below an element gives back what it takes, so that the element finds its own frame and its own table
at the end. -/

theorem isOutermost_eq_false : isOutermost c = false ↔ c.table.isSome ∨ 0 < c.argumentDepth := by
  cases htable : c.table <;> simp [isOutermost, htable, Nat.pos_iff_ne_zero]

/-- Nothing at the outermost comes of something that is not. -/
theorem isOutermost_entered (hv : enter doc setting id e style c = .ok flow c₁)
    (h : isOutermost c = false) : isOutermost c₁ = false := by
  obtain ⟨-, b, scope, hentered⟩ := (enter_yields doc setting id e style c).of_ok hv
  obtain ⟨f, howed⟩ := hentered.owed
  rw [isOutermost_eq_false] at h ⊢
  refine h.imp howed.table_isSome fun hpos => ?_
  rw [howed.argumentDepth]
  exact Nat.lt_of_lt_of_le hpos (Nat.le_add_right _ _)

theorem Restored.isOutermost (h : Restored c c') : isOutermost c' = isOutermost c := by
  have htable : c'.table.isNone = c.table.isNone := by
    rw [← Option.isNone_map (f := TableState.core), h.table, Option.isNone_map]
  rw [Convert.isOutermost, Convert.isOutermost, htable, h.argumentDepth]

theorem tag_of_startsTable (h : startsTable doc id e c) : e.tag = .table := by
  simp only [startsTable, Bool.and_eq_true, decide_eq_true_eq] at h
  exact h.1.1.2

theorem element_restores (hv : enter doc setting id e style c = .ok flow c₁) (hr : Restored c₁ c₂)
    (hl : leave e c₂ = .ok () c₃) : Restored c c₃ := by
  obtain ⟨-, b, scope, hentered⟩ := (enter_yields doc setting id e style c).of_ok hv
  obtain ⟨f, howed⟩ := hentered.owed
  obtain ⟨c', hleft, rfl⟩ := (leave_yields (o := setting.options) howed hr).of_ok hl
  exact howed.restored hr hleft

/-- The table that ends when the element is left. -/
def endedTable? (e : Element) (c : Converter) : Option TableState :=
  if e.tag = .table && c.frames.head?.any fun f => f.outerTable.isSome then c.table else none

/-- Where no table was begun there is none to end. -/
theorem ended_of_unbegun (h : startsTable doc id e c = false)
    (hv : enter doc setting id e style c = .ok flow c₁) (hr : Restored c₁ c₂) :
    endedTable? e c₂ = none := by
  by_cases htag : e.tag = .table
  · obtain ⟨g, hframes, houter⟩ := enter_unbegun htag h flow c₁ hv
    simp [endedTable?, hr.frames.trans hframes, houter]
  · simp [endedTable?, htag]

theorem ended_of_begun (h : startsTable doc id e c)
    (hv : enter doc setting id e style c = .ok flow c₁) (hr : Restored c₁ c₂) :
    ∃ t, endedTable? e c₂ = some t := by
  obtain ⟨-, b, hbegun⟩ := enter_begins h flow c₁ hv
  obtain ⟨t, ht, -⟩ : ∃ t, c₂.table = some t ∧ t.core = (newTable doc id e c).core := by
    simpa [hbegun.table] using hr.table
  exact ⟨t, by simp [endedTable?, tag_of_startsTable h, hr.frames.trans hbegun.frames, ht]⟩

/-- The table that ends is the one that was begun, and its end is written. -/
theorem ended_spec (hv : enter doc setting id e style c = .ok flow c₁) (hr : Restored c₁ c₂)
    {t : TableState} (ht : endedTable? e c₂ = some t) :
    startsTable doc id e c ∧ t.core = (newTable doc id e c).core ∧
      Ensures (leave e) c₂ fun _ c' => ∃ front, LineEnded c₂.output front ∧
        c'.output = front ++ tableEnding t := by
  cases hbegins : startsTable doc id e c with
  | false =>
    rw [ended_of_unbegun hbegins hv hr] at ht
    cases ht
  | true =>
    obtain ⟨-, b, hbegun⟩ := enter_begins hbegins flow c₁ hv
    have htag := tag_of_startsTable hbegins
    have hframes := hr.frames.trans hbegun.frames
    have htable : c₂.table = some t := by simpa [endedTable?, htag, hframes] using ht
    have hcore : some t.core = some (newTable doc id e c).core := by
      simpa [htable, hbegun.table] using hr.table
    exact ⟨rfl, Option.some.inj hcore, leave_ends htag hframes rfl rfl htable⟩

/-! ## Figures -/

section Grids

variable {options : String} (h : Spells options [.char ']'])

include h

theorem pushGridImages_inlines :
    ∀ (first : Bool) (images : List Nat), Inlining blocks grids (pushGridImages doc setting options first images)
  | _, [] => .pure ()
  | first, image :: images => by
    have hrest := fun first => pushGridImages_inlines first images
    unfold pushGridImages
    cases doc.element? image with
    | none => exact hrest first
    | some e =>
      dsimp only
      cases e.nonBlankAttribute? "src" with
      | none => exact (warn_inlines _ _).bind fun _ => hrest first
      | some src =>
        refine .modify_bind (fun _ => .of_eq rfl rfl rfl rfl rfl rfl) ?_
        cases setting.resolve src with
        | error fault => exact (warn_inlines _ _).bind fun _ => hrest first
        | ok path =>
          have hnext : Inlining blocks grids (do
              includeImage path options
              pushGridImages doc setting options false images) :=
            (includeImage_inlines path h).bind fun _ => hrest false
          exact .ite (fun _ => hnext) fun _ => (push_row [.char ' '] rfl rfl).bind fun _ => hnext

theorem pushGridCells_inlines :
    ∀ (column : Nat) (cells : List (Nat × Nat)),
      Inlining blocks grids (pushGridCells doc setting options column cells)
  | _, [] => .pure ()
  | column, (cell, colspan) :: cells => by
    have hcell : Inlining blocks grids (do
        pushGridImages doc setting options true (doc.cellImages cell)
        pushTimes " &" (colspan - 1)
        pushGridCells doc setting options (column + colspan) cells) :=
      (pushGridImages_inlines h true _).bind fun _ =>
        (pushTimes_inlines [.char ' ', .char '&'] rfl rfl _).bind fun _ => pushGridCells_inlines _ cells
    unfold pushGridCells
    refine .ite (fun _ => ?_) fun _ => hcell
    exact (push_row [.char ' ', .char '&', .char ' '] rfl rfl).bind fun _ => hcell

theorem pushGridRows_inlines :
    ∀ rows : List Nat, Inlining blocks grids (pushGridRows doc setting options rows)
  | [] => .pure ()
  | row :: rows => by
    unfold pushGridRows
    refine (pushGridCells_inlines h 0 _).bind fun _ => Relates.bind ?_ fun _ => pushGridRows_inlines rows
    exact push_row [.char ' ', .lineEnd] rfl rfl

end Grids

/-- The caption of a figure: the one that is asked for, or else one made from its number. -/
def figureCaption (doc : Document) (id : Nat) (e : Element) (number : Nat) : List Char :=
  match if e.tag = .image then imageCaption? e else doc.tableCaption? id with
  | some caption => writtenText caption
  | none => ("Figure " ++ toString number).toList

/-- A figure with this caption was written behind the output, and it was counted. -/
def FigureWritten (e : Element) (caption : List Char) (c c' : Converter) : Prop :=
  c'.tables = c.tables ∧ c'.figures = c.figures + 1 ∧
    ∃ front, Prolongs c.output front ∧ c'.output = front ++
      floatEnding "figure" caption
        (writtenLabel (e.nonBlankAttribute? "id") (figureName (c.figures + 1)))

theorem Emits.extending {m : Conversion Unit} (h : Emits m) : Extending m := fun c =>
  (h c).ensures.mono fun _ _ ⟨_, _, hw⟩ => hw.extends

theorem nextFigure_counts (c : Converter) : Ensures nextFigure c fun number c' =>
    number = c.figures + 1 ∧ c' = { c with figures := c.figures + 1 } :=
  Ensures.modify_bind (Ensures.get_bind (Ensures.pure ⟨rfl, rfl⟩))

/-- A figure is written in two parts, the second one from the caption on. -/
theorem FigureWritten.of_parts {caption : List Char} (front : List Char)
    (hfront : Inlines True True { c with figures := c.figures + 1 } c₁) (hextends : Extends c c₁)
    (hend : AddsText (front ++ floatEnding "figure" caption
      (writtenLabel (e.nonBlankAttribute? "id") (figureName (c.figures + 1)))) c₁ c') :
    FigureWritten e caption c c' := by
  obtain ⟨b, rfl, hb⟩ := hend
  refine ⟨hfront.tables, hfront.figures, c₁.output ++ front, Prolongs.trans hextends (.append _ _), ?_⟩
  rw [List.append_assoc]
  exact hb

/-- An action that goes on with the output and counts no float, as its result and two facts about it. -/
theorem Extending.counts {m : Conversion Unit} (hextends : Extending m) (hcounts : Inlining True True m)
    (c : Converter) : Ensures m c fun _ c' => Inlines True True c c' ∧ Extends c c' :=
  (hcounts c).and (hextends c)

theorem pushFigure_writes {options : String} (h : Spells options [.char ']']) (path caption : String) :
    Ensures (pushFigure setting e path options caption) c fun _ c' =>
      FigureWritten e (writtenText caption) c c' := by
  unfold pushFigure
  refine (nextFigure_counts c).bind ?_
  rintro _ c₀ ⟨rfl, hc₀⟩
  refine (paragraphBreak_extending.counts (write_block trivial _) c₀).bind fun _ c₁ ⟨h₁, hx₁⟩ => ?_
  refine ((push_extending _).counts (write_block trivial _) c₁).bind fun _ c₂ ⟨h₂, hx₂⟩ => ?_
  have himage := (includeImage_emits path h).extending.counts (includeImage_inlines path h)
  refine (himage c₂).bind fun _ c₃ ⟨h₃, hx₃⟩ => ?_
  have hfront := h₁.trans (h₂.trans h₃)
  have hextends := hx₁.trans (hx₂.trans hx₃)
  rw [hc₀] at hfront hextends
  have hend := floatEnding_addsText (pushEscaped_addsText caption) "figure" (e.nonBlankAttribute? "id")
    (figureName (c.figures + 1)) c₃
  exact hend.mono fun _ _ h => .of_parts [] hfront hextends (h.congr (List.nil_append _).symm)

/-- Behind a grid of images its caption is begun at once. -/
theorem gridEnd_caption (caption label : List Char) :
    (endEnvironment "tabular" ++ "\n\\caption\x7b").toList ++ (caption ++ floatClosing "figure" label) =
      gridEnd ++ floatEnding "figure" caption label := by
  rw [String.toList_append, List.append_assoc, ← List.append_assoc _ caption]
  rfl

/-- The caption of a grid is the one of its table, or else a name made from its number; what comes behind it is
the same for either one. -/
theorem gridCaption_bind {finish : Conversion Unit} {Q : Unit → Converter → Prop} {number : Nat}
    (htag : e.tag ≠ .image)
    (h : ∀ c', AddsText (figureCaption doc id e number) c c' → Ensures finish c' Q) :
    Ensures (match doc.tableCaption? id with
      | some caption => do pushEscaped caption; finish
      | none => do push ("Figure " ++ toString number); finish) c Q := by
  rw [figureCaption, if_neg htag] at h
  cases hcaption : doc.tableCaption? id with
  | some caption => exact (pushEscaped_addsText caption c).bind fun _ c' h' => h c' (by rwa [hcaption])
  | none => exact (push_addsText _ c).bind fun _ c' h' => h c' (by rwa [hcaption])

theorem pushImageGrid_writes (htag : e.tag ≠ .image) :
    Ensures (pushImageGrid doc setting id e) c fun _ c' =>
      FigureWritten e (figureCaption doc id e (c.figures + 1)) c c' := by
  unfold pushImageGrid
  refine (nextFigure_counts c).bind ?_
  rintro _ c₀ ⟨rfl, hc₀⟩
  extract_lets columns options finish
  refine (paragraphBreak_extending.counts (write_block trivial _) c₀).bind fun _ c₁ ⟨h₁, hx₁⟩ => ?_
  refine ((push_extending _).counts (write_block trivial _) c₁).bind fun _ c₂ ⟨h₂, hx₂⟩ => ?_
  have hspells : Spells options [.char ']'] := imageOptions_spells _
  have hrows := (pushGridRows_emits doc setting hspells (doc.tableRows id)).extending.counts
    (pushGridRows_inlines hspells (doc.tableRows id))
  refine (hrows c₂).bind fun _ c₃ ⟨h₃, hx₃⟩ => ?_
  have hfront := h₁.trans (h₂.trans h₃)
  have hextends := hx₁.trans (hx₂.trans hx₃)
  rw [hc₀] at hfront hextends
  refine (push_addsText _ c₃).bind fun _ c₄ h₄ => ?_
  refine gridCaption_bind htag fun c₅ h₅ => (floatClosing_addsText "figure" _ _ c₅).mono fun _ _ h₆ => ?_
  have hall := h₄.trans (h₅.trans h₆)
  rw [gridEnd_caption] at hall
  exact .of_parts gridEnd hfront hextends hall

theorem openImage_writes_figure (htag : e.tag = .image) (h : becomesFigure doc setting id e c = true) :
    Ensures (openImage doc setting id e style) c fun _ c' =>
      FigureWritten e (figureCaption doc id e (c.figures + 1)) c c' := by
  simp only [becomesFigure, Bool.and_eq_true, Option.any_eq_true, Option.isSome_iff_exists] at h
  obtain ⟨⟨⟨⟨src, hsrc, path, hpath⟩, caption, hcaption⟩, hallowed⟩, hblock⟩ := h
  have hresolve : setting.resolve src = .ok path := by
    cases hr : setting.resolve src with
    | ok path' => rw [hr] at hpath; cases hpath; rfl
    | error fault => rw [hr] at hpath; cases hpath
  unfold openImage
  rw [hsrc]
  refine Ensures.modify_bind ?_
  rw [hresolve]
  have hcount : Inlines True True c { c with images := c.images + 1 } := .of_eq rfl rfl rfl rfl rfl rfl
  have hlength : ∀ name, Inlining True True (imageLength e style name) := imageLength_inlines
  refine ((hlength "width" _).and (imageLength_reads "width")).bind fun width c₁ hwidth => ?_
  obtain ⟨h₁, -, hw₁⟩ := hwidth
  refine ((hlength "height" c₁).and (imageLength_reads "height")).bind fun height c₂ hheight => ?_
  obtain ⟨h₂, -, hw₂⟩ := hheight
  have hbefore : Inlines True True c c₂ := hcount.trans (h₁.trans h₂)
  have hsame : allowsFigure c₂ = allowsFigure c := allowsFigure_congr (hw₁.trans hw₂)
  rw [hcaption]
  refine Ensures.get_bind (Ensures.ite (fun _ => ?_) fun hnot => ?_)
  · refine (pushFigure_writes (imageOptions_spells _) path caption).mono fun _ c' hwritten => ?_
    obtain ⟨htables, hfigures, front, hfront, hout⟩ := hwritten
    have hnumber : c₂.figures = c.figures := hbefore.figures
    rw [hnumber] at hfigures hout
    have hextends : Extends c c₂ := .trans (.of_eq rfl) (hw₁.trans hw₂).extends
    refine ⟨htables.trans hbefore.tables, hfigures, front, Prolongs.trans hextends hfront, ?_⟩
    rwa [figureCaption, if_pos htag, hcaption]
  · rw [hsame, hallowed, hblock] at hnot
    exact absurd rfl hnot

/-- A table of nothing but images is a grid of them where it is at the outermost. -/
theorem openTable_imageGrid {Q : Flow → Converter → Prop} (houter : isOutermost c = true)
    (himages : doc.isImageOnly id = true)
    (h : Ensures (pushImageGrid doc setting id e) c fun _ c' => Q .skipChildren c') :
    Ensures (openTable doc setting id e) c Q := by
  unfold openTable
  refine Ensures.get_bind (Ensures.ite (fun hskeleton => ?_) fun _ => ?_)
  · -- Between the cells of a table it is not at the outermost.
    cases htable : c.table with
    | none => simp [Converter.inTableSkeleton, htable] at hskeleton
    | some t => simp [isOutermost, htable] at houter
  · extract_lets bare
    have hbare : bare = !isOutermost c := (not_isOutermost c).symm
    refine Ensures.ite (fun _ => h.bind fun _ _ hQ => Ensures.pure hQ) fun hnot => ?_
    rw [hbare, Bool.not_not, houter, himages] at hnot
    exact absurd rfl hnot

/-- Entering an element that makes a figure. -/
theorem enter_figure (h : makesFigure doc setting id e c) :
    Ensures (enter doc setting id e style) c fun _ c' =>
      FigureWritten e (figureCaption doc id e (c.figures + 1)) c c' := by
  simp only [makesFigure, Bool.and_eq_true, decide_eq_true_eq] at h
  obtain ⟨hpre, hkind⟩ := h
  refine .enter hpre ?_
  have hopened : ∀ b c', FigureWritten e (figureCaption doc id e (c.figures + 1)) (c.opened b) c' →
      FigureWritten e (figureCaption doc id e (c.figures + 1)) c c' := fun _ _ h => h
  unfold openElement
  cases htag : e.tag <;> rw [htag] at hkind <;> try cases hkind
  case image =>
    exact (openImage_writes_figure (c := c.opened _) htag hkind).bind fun _ _ h => Ensures.pure (hopened _ _ h)
  case table =>
    simp only [Bool.and_eq_true] at hkind
    have hnoimage : e.tag ≠ .image := by rw [htag]; decide
    refine openTable_imageGrid (c := c.opened _) hkind.1 hkind.2 ?_
    exact (pushImageGrid_writes hnoimage).mono fun _ => hopened _

end Convert

end MarkupTex
