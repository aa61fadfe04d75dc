/-!
# Faults and warnings

Whatever goes wrong is a `Fault`: a kind from a closed list and a message.  Faults of five kinds
make the result worthless and end a conversion; the others only make it leave a construct out, and
then they come back to the caller as a `Warning`.

`FaultSlot` is the place where the last such skipped construct is kept.
-/

set_option autoImplicit false

namespace MarkupTex

/-- What sort of thing went wrong. -/
inductive FaultKind where
  | outOfMemory
  | bufferOverflow
  | invalidArgument
  | nullArgument
  | io
  | parse
  | malformedDocument
  | unsupported
  | cssValue
  | tableStructure
  | image
  | internalInvariant
  deriving DecidableEq, Repr, Inhabited

namespace FaultKind

/-- The words for a kind in a message to the user. -/
def label : FaultKind → String
  | outOfMemory => "out of memory"
  | bufferOverflow => "buffer overflow"
  | invalidArgument => "invalid argument"
  | nullArgument => "null argument"
  | io => "I/O error"
  | parse => "parse error"
  | malformedDocument => "malformed document"
  | unsupported => "unsupported feature"
  | cssValue => "invalid CSS value"
  | tableStructure => "table structure error"
  | image => "image error"
  | internalInvariant => "internal invariant violated"

/-- A fatal fault ends the conversion; any other only drops one construct. -/
def isFatal : FaultKind → Bool
  | outOfMemory | bufferOverflow | nullArgument | malformedDocument | internalInvariant => true
  | _ => false

end FaultKind

/-- One fault: its kind and what it says. -/
structure Fault where
  kind : FaultKind
  message : String
  deriving DecidableEq, Repr, Inhabited

namespace Fault

def isFatal (fault : Fault) : Bool := fault.kind.isFatal

/-- The kind in words, then the message. -/
def display (fault : Fault) : String := fault.kind.label ++ ": " ++ fault.message

end Fault

/-- A fault that did not stop the conversion, with the element it happened at. -/
structure Warning where
  kind : FaultKind
  message : String
  element : Option String
  deriving DecidableEq, Repr, Inhabited

namespace Warning

def ofFault (fault : Fault) (element : Option String) : Warning :=
  ⟨fault.kind, fault.message, element⟩

/-- `[kind] <element>: message`; without an element just `[kind] message`. -/
def display (w : Warning) : String :=
  match w.element with
  | some name => "[" ++ w.kind.label ++ "] <" ++ name ++ ">: " ++ w.message
  | none => "[" ++ w.kind.label ++ "] " ++ w.message

end Warning

/-- Room for at most one fault.

A slot is an ordinary value, so keeping a copy and putting it back later is all that it takes to
try something without disturbing the fault that an outer caller has reported. -/
structure FaultSlot where
  current : Option Fault := none
  deriving DecidableEq, Repr, Inhabited

namespace FaultSlot

def empty : FaultSlot := {}

def isSet (slot : FaultSlot) : Bool := slot.current.isSome

/-- A new fault takes the place of the one before. -/
def record (_slot : FaultSlot) (fault : Fault) : FaultSlot := ⟨some fault⟩

def clear (_slot : FaultSlot) : FaultSlot := ⟨none⟩

/-- The fault that was there, and the slot without it. -/
def take (slot : FaultSlot) : Option Fault × FaultSlot := (slot.current, ⟨none⟩)

end FaultSlot

/-- Two steps that may fail come to a result if both of them do. -/
theorem bind_eq_ok {α β : Type} {r : Except Fault α} {next : α → Except Fault β} {b : β} :
    r >>= next = .ok b ↔ ∃ a, r = .ok a ∧ next a = .ok b := by
  cases r with
  | ok a => simp [bind, Except.bind]
  | error fault => simp [bind, Except.bind]

theorem map_eq_ok {α β : Type} {r : Except Fault α} {f : α → β} {b : β} :
    r.map f = .ok b ↔ ∃ a, r = .ok a ∧ f a = b := by
  cases r with
  | ok a => simp [Except.map]
  | error fault => simp [Except.map]

/-- A result: the text that was produced and what had to be left out of it. -/
structure Output where
  content : String
  warnings : List Warning := []
  deriving DecidableEq, Repr, Inhabited

end MarkupTex
