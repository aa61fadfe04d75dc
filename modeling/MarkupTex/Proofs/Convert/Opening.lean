import MarkupTex.Proofs.Convert.Yields
/-!
# What is opened and what is closed

While an element is open its frame holds closers, and the counters of the state say what they will
give back.  An `Opening` is one construct with all that belongs to it: what it brings to the counters,
its closers, and the tokens that end it.

Between two openings there are edits, which change nothing that has to be given back.  `Opens ops c c'`
says that `c'` came from `c` by edits and the openings `ops`, the last one in front, and `Closes ops c
c'` that the closers of `ops` were carried out in this order.  All that the conversion does between
entering an element and leaving it is one of these two, so what is to be shown of a conversion is shown
of an edit, of an opening and of a closing.
-/

set_option autoImplicit false

namespace MarkupTex

open Latex

namespace Convert

/-- A background that is put off is made of plain characters, as the digits of a color are. -/
def Formatting.Tame (f : Formatting) : Prop :=
  ∀ hex, f.pendingBackground = some hex → hex.toList.all isPlain

/-- What a table has to be given back as. -/
def TableState.core (t : TableState) : TableState :=
  { t with inRow := false, column := 0, caption := none }

end Convert

/-- Nothing but tokens is written in such a state: it is not in a verbatim block. -/
structure Converter.Tame (c : Converter) : Prop where
  pre : c.preDepth = 0
  formatting : c.formatting.Tame

namespace Convert

/-- A construct that was opened and has to be closed. -/
inductive Opening where
  | group
  | argument
  | term
  | aligned (alignment : Latex.Alignment)
  | block (environment : BlockEnvironment)
  | verbatim
  | list (kind : ListKind)
  | paragraph
  | label (name : String)
  | space
  | row (setting : Setting)

namespace Opening

def closers : Opening → List Closer
  | group => [.brace "\x7d"]
  | argument => [.endArgument, .brace "\x7d"]
  | term => [.endArgument, .text "] "]
  | aligned a => [.newline, .text (endEnvironment a.environment ++ "\n"), .newline]
  | block env => [.newline, .text (endEnvironment env.name), .paragraphBreak]
  | verbatim => [.newline, .text (endEnvironment "verbatim"), .paragraphBreak]
  | list kind => [.newline, .text (endEnvironment kind.environment), .newline]
  | paragraph => [.paragraphBreak]
  | label name => [.label name]
  | space => [.text " "]
  | row setting => [.text (rowEnd setting)]

/-- What stays open of the output. -/
def brackets : Opening → List Bracket
  | group | argument => [.brace]
  | aligned a => [.environment a.environment.toList]
  | block env => [.environment env.name.toList]
  | verbatim => [.environment "verbatim".toList]
  | list kind => [.environment kind.environment.toList]
  | term | paragraph | label _ | space | row _ => []

/-- The tokens that end it, but for the ends of lines and paragraphs around them. -/
def ending : Opening → List Token
  | group | argument => [.closing]
  | term => [.char ']', .char ' ']
  | aligned a => [.endEnv a.environment, .char '\n']
  | block env => [.endEnv env.name]
  | verbatim => [.endEnv "verbatim"]
  | list kind => [.endEnv kind.environment]
  | paragraph => []
  | label name => [.word "label", .opening] ++ name.toList.flatMap pathTokens ++ [.closing]
  | space => [.char ' ']
  | row setting => if setting.options.tableBorders then [.char ' ', .ruleEnd] else [.char ' ', .lineEnd]

def braces : Opening → Nat
  | group | argument => 1
  | _ => 0

def isArgument : Opening → Bool
  | argument | term => true
  | _ => false

def isVerbatim : Opening → Bool
  | verbatim => true
  | _ => false

def isList : Opening → Bool
  | list _ => true
  | _ => false

/-- It cannot be opened in the argument of a command. -/
def isBlock : Opening → Bool
  | aligned _ | block _ | verbatim | list _ | paragraph | label _ => true
  | _ => false

/-- What the frame of the element keeps of it. -/
def mark (op : Opening) (f : Frame) : Frame :=
  { f with
    closers := op.closers ++ f.closers
    pre := op.isVerbatim || f.pre
    list := op.isList || f.list }

/-- The frames with the mark on the innermost. -/
def markFirst (op : Opening) : List Frame → List Frame
  | [] => []
  | f :: fs => op.mark f :: fs

/-- The counters and the frame with this opened. -/
def owe (op : Opening) (c : Converter) : Converter :=
  { c with
    openBraces := c.openBraces + op.braces
    argumentDepth := c.argumentDepth + op.isArgument.toNat
    arguments := if op.isArgument then { start := c.output.length } :: c.arguments else c.arguments
    preDepth := c.preDepth + op.isVerbatim.toNat
    listDepth := c.listDepth + op.isList.toNat
    frames := op.markFirst c.frames }

/-- The counters with this given back; what a frame keeps for the end of the element comes later. -/
def settle (op : Opening) (c : Converter) : Converter :=
  { c with
    openBraces := c.openBraces - op.braces
    argumentDepth := c.argumentDepth - op.isArgument.toNat
    arguments :=
      if op.isArgument then endInnermost c.output.length c.arguments else c.arguments }

end Opening

/-- The row may be written in a state, and turns the brackets `old` that were opened last into
`new`. -/
structure Turns (o : Options) (old new : List Bracket) (c : Converter) (ts : List Token) : Prop where
  nests : ∀ stack, nest (old ++ stack) ts = some (new ++ stack)
  guarded : guarded ts
  known : c.Tame → ts.all (Token.known o.figurePlacement)
  fits : c.Tame → 0 < c.argumentDepth → fitsLine ts
  single : c.Tame → 0 < c.argumentDepth → lineEndFirst ts → c.output.getLast? ≠ some '\n'

/-- The row may be written in a state, and changes nothing that is open. -/
abbrev Piece (o : Options) (c : Converter) (ts : List Token) : Prop := Turns o [] [] c ts

/-- A change that does not have to be given back. -/
inductive Edit (o : Options) : Converter → Converter → Prop where
  | note {c : Converter} (tables figures images : Nat) (blockContent : Bool)
      (warnings : List Warning) (faults : FaultSlot) (reported : List String) :
      Edit o c { c with tables, figures, images, blockContent, warnings, faults, reported }
  | format {c : Converter} (f : Formatting) (tame : c.formatting.Tame → f.Tame) :
      Edit o c { c with formatting := f }
  | table {c : Converter} (t : Option TableState)
      (core : t.map TableState.core = c.table.map TableState.core) : Edit o c { c with table := t }
  | trim {c : Converter} : Edit o c { c with buffer := c.buffer.trimSpaces }
  | write {c c' : Converter} {ts : List Token} (wrote : Wrote ts c c') (piece : Piece o c ts)
      (head : letterFirst ts = false) : Edit o c c'

/-- The row may begin a construct in a state. -/
structure Begins (o : Options) (op : Opening) (c : Converter) (ts : List Token) : Prop where
  turns : Turns o [] op.brackets c ts
  head : letterFirst ts = false
  block : op.isBlock → c.argumentDepth = 0
  /-- An argument begins behind a mark, so that no space before it can be cut off. -/
  last : op.isArgument → ∃ front, ts = front ++ [.opening] ∨ ts = front ++ [.char '[']
  /-- An element begins one verbatim block or one list at most. -/
  once : ∀ f ∈ c.frames.head?, (op.isVerbatim → f.pre = false) ∧ (op.isList → f.list = false)

/-- A construct is opened. -/
def Open (o : Options) (op : Opening) (c c' : Converter) : Prop :=
  ∃ ts c₁, Begins o op c ts ∧ Wrote ts c c₁ ∧ c' = op.owe c₁

/-- `c'` comes from `c` by edits and by opening the constructs `ops`, the last one in front. -/
inductive Opens (o : Options) : List Opening → Converter → Converter → Prop where
  | refl (c : Converter) : Opens o [] c c
  | edit {ops : List Opening} {c c₁ c₂ : Converter} (h : Opens o ops c c₁) (e : Edit o c₁ c₂) :
      Opens o ops c c₂
  | «open» {op : Opening} {ops : List Opening} {c c₁ c₂ : Converter} (h : Opens o ops c c₁)
      (e : Open o op c₁ c₂) : Opens o (op :: ops) c c₂

/-- A construct is closed, perhaps with the ends of lines and paragraphs around it. -/
def Close (o : Options) (op : Opening) (c c' : Converter) : Prop :=
  ∃ c₁ c₂, (op.isBlock → c.argumentDepth = 0) ∧ Opens o [] c c₁ ∧
    Wrote op.ending (op.settle c₁) c₂ ∧ Opens o [] c₂ c'

/-- The constructs `ops` are closed from the front. -/
inductive Closes (o : Options) : List Opening → Converter → Converter → Prop where
  | nil (c : Converter) : Closes o [] c c
  | cons {op : Opening} {ops : List Opening} {c c₁ c₂ : Converter} (h : Close o op c c₁)
      (rest : Closes o ops c₁ c₂) : Closes o (op :: ops) c c₂

namespace Opens

variable {o : Options} {ops ops' : List Opening} {c c₁ c₂ : Converter}

theorem of_edit (h : Edit o c c₁) : Opens o [] c c₁ := (refl c).edit h

theorem trans (h : Opens o ops c c₁) (h' : Opens o ops' c₁ c₂) : Opens o (ops' ++ ops) c c₂ := by
  induction h' with
  | refl => exact h
  | edit _ e ih => exact (ih h).edit e
  | «open» _ e ih => exact (ih h).open e

end Opens

/-! ## What the counters say -/

/-- Braces that are owed for constructs. -/
def bracesOf (ops : List Opening) : Nat := total (ops.map Opening.braces)

/-- Arguments that are open with constructs. -/
def argumentsOf (ops : List Opening) : Nat := total (ops.map fun op => op.isArgument.toNat)

/-- Every block among the constructs was opened where no argument was open. -/
def Ordered (depth : Nat) : List Opening → Prop
  | [] => True
  | op :: ops => (op.isBlock → depth + argumentsOf ops = 0) ∧ Ordered depth ops

/-- What is different after edits and openings, as far as it has to be given back. -/
structure Tally (ops : List Opening) (f : Frame) (fs : List Frame) (c c' : Converter) : Prop where
  frames : ∃ f', c'.frames = f' :: fs ∧ f'.closers = ops.flatMap Opening.closers ++ f.closers ∧
    f'.saved = f.saved ∧ f'.outerTable = f.outerTable ∧ f'.cellBraces = f.cellBraces ∧
    f'.padding = f.padding ∧ c'.preDepth + f.pre.toNat = c.preDepth + f'.pre.toNat ∧
    c'.listDepth + f.list.toNat = c.listDepth + f'.list.toNat
  openBraces : c'.openBraces = c.openBraces + bracesOf ops
  argumentDepth : c'.argumentDepth = c.argumentDepth + argumentsOf ops
  ordered : Ordered c.argumentDepth ops
  table : c'.table.map TableState.core = c.table.map TableState.core

/-- All that has to be given back is the same. -/
structure Keeps (c c' : Converter) : Prop where
  frames : c'.frames = c.frames
  openBraces : c'.openBraces = c.openBraces
  argumentDepth : c'.argumentDepth = c.argumentDepth
  arguments : c'.arguments = c.arguments
  preDepth : c'.preDepth = c.preDepth
  listDepth : c'.listDepth = c.listDepth
  table : c'.table.map TableState.core = c.table.map TableState.core

namespace Keeps

variable {c c' c'' : Converter}

theorem refl (c : Converter) : Keeps c c := ⟨rfl, rfl, rfl, rfl, rfl, rfl, rfl⟩

theorem trans (h : Keeps c c') (h' : Keeps c' c'') : Keeps c c'' :=
  ⟨h'.frames.trans h.frames, h'.openBraces.trans h.openBraces,
    h'.argumentDepth.trans h.argumentDepth, h'.arguments.trans h.arguments,
    h'.preDepth.trans h.preDepth, h'.listDepth.trans h.listDepth, h'.table.trans h.table⟩

end Keeps

theorem Wrote.keeps {ts : List Token} {c c' : Converter} (h : Wrote ts c c') : Keeps c c' := by
  obtain ⟨b, _, _, _, _, rfl, -⟩ := h
  exact ⟨rfl, rfl, rfl, rfl, rfl, rfl, rfl⟩

theorem Edit.keeps {o : Options} {c c' : Converter} (h : Edit o c c') : Keeps c c' := by
  cases h with
  | note | format | trim => exact ⟨rfl, rfl, rfl, rfl, rfl, rfl, rfl⟩
  | table t core => exact ⟨rfl, rfl, rfl, rfl, rfl, rfl, core⟩
  | write wrote => exact wrote.keeps

theorem Opens.keeps {o : Options} {c c' : Converter} (h : Opens o [] c c') : Keeps c c' := by
  generalize hops : ([] : List Opening) = ops at h
  induction h with
  | refl => exact .refl _
  | edit _ e ih => exact (ih hops).trans e.keeps
  | «open» => cases hops

theorem Opens.tally {o : Options} {ops : List Opening} {c c' : Converter} {f : Frame}
    {fs : List Frame} (h : Opens o ops c c') (hf : c.frames = f :: fs) : Tally ops f fs c c' := by
  induction h with
  | refl =>
    exact ⟨⟨f, hf, rfl, rfl, rfl, rfl, rfl, rfl, rfl⟩, rfl, rfl, trivial, rfl⟩
  | edit _ e ih =>
    have he := e.keeps
    obtain ⟨⟨f', hf', hrest⟩, hb, ha, ho, ht⟩ := ih hf
    refine ⟨⟨f', he.frames.trans hf', ?_⟩, he.openBraces.trans hb, he.argumentDepth.trans ha, ho,
      he.table.trans ht⟩
    rw [he.preDepth, he.listDepth]
    exact hrest
  | @«open» op ops c c₁ c₂ _ e ih =>
    obtain ⟨ts, c', hbegins, ⟨b, _, _, _, _, rfl, -⟩, rfl⟩ := e
    obtain ⟨⟨f', hf', hclosers, hsaved, houter, hcell, hpad, hpre, hlist⟩, hb, ha, ho, ht⟩ := ih hf
    -- A frame holds one mark for a verbatim block and one for a list, so each is made only once.
    obtain ⟨honcePre, honceList⟩ := hbegins.once f' (by rw [hf']; rfl)
    refine ⟨⟨op.mark f', by rw [Opening.owe, ← Opening.markFirst, ← hf'], ?_, hsaved, houter, hcell,
      hpad, ?_, ?_⟩, ?_, ?_, ⟨fun hblock => ?_, ho⟩, ht⟩
    · simp [Opening.mark, hclosers]
    · cases hv : op.isVerbatim with
      | false => simpa [Opening.mark, Opening.owe, hv] using hpre
      | true =>
        rw [honcePre hv] at hpre
        simp [Opening.mark, Opening.owe, hv, honcePre hv] at hpre ⊢
        omega
    · cases hl : op.isList with
      | false => simpa [Opening.mark, Opening.owe, hl] using hlist
      | true =>
        rw [honceList hl] at hlist
        simp [Opening.mark, Opening.owe, hl, honceList hl] at hlist ⊢
        omega
    · simp [Opening.owe, hb, bracesOf]
      omega
    · simp [Opening.owe, ha, argumentsOf]
      omega
    · rw [← ha]
      exact hbegins.block hblock

end Convert

end MarkupTex
