import MarkupTex.Fault
import MarkupTex.Text.Blank
import MarkupTex.Text.Search
import MarkupTex.Latex.Escape
/-!
# The output buffer

A `Buffer` is the text written so far and the room, in bytes, that was asked for.  Before anything
is written the room is made sure of: it doubles, or it grows to just what is needed where twice as
much would be over the limit.  A request that cannot be met is a fault, and the buffer stays as it
was.

Room is counted in bytes of UTF-8, and cutting text off does not give room back.
-/

set_option autoImplicit false

namespace MarkupTex.Latex

/-- Text with the room that it was given. -/
structure Buffer where
  text : String := ""
  capacity : Nat := 0
  deriving DecidableEq, Repr, Inhabited

namespace Buffer

/-- The room a buffer gets at the first growth. -/
def initialCapacity : Nat := 1024

/-- The largest room that can be asked for. -/
def maxCapacity : Nat := Nat.pow 2 63 - 1

/-- From this size on there is not enough memory for a request. -/
def memoryLimit : Nat := Nat.pow 2 62

def empty : Buffer := {}

def size (b : Buffer) : Nat := b.text.utf8ByteSize

def isEmpty (b : Buffer) : Bool := b.text.isEmpty

def refusedByMemory : String :=
  "memory allocation failed because the memory allocator returned an error"

def refusedByLimit : String :=
  "memory allocation failed because the computed capacity exceeded the collection's maximum"

/-- An empty buffer with room for `capacity` bytes. -/
def withCapacity (capacity : Nat) : Except Fault Buffer :=
  if maxCapacity < capacity then .error ⟨.outOfMemory, refusedByLimit⟩
  else if memoryLimit ≤ capacity then .error ⟨.outOfMemory, refusedByMemory⟩
  else .ok ⟨"", capacity⟩

/-- The room to ask for when `required` bytes do not fit: twice the old room if that is within the
limit and enough, otherwise what is required, and never less than the initial room. -/
def growthTarget (capacity required : Nat) : Nat :=
  max (if 2 * capacity ≤ maxCapacity then max (2 * capacity) required else required)
    initialCapacity

def tooLong (size additional : Nat) : Fault :=
  ⟨.bufferOverflow, s!"output of {size} bytes cannot grow by {additional}"⟩

def noMemory (target : Nat) : Fault :=
  ⟨.outOfMemory, s!"growing output to {target} bytes: " ++ refusedByMemory⟩

/-- Makes sure that `additional` more bytes fit. -/
def reserve (b : Buffer) (additional : Nat) : Except Fault Buffer :=
  let required := b.size + additional
  if maxCapacity < required then .error (tooLong b.size additional)
  else if required ≤ b.capacity then .ok b
  else
    let target := growthTarget b.capacity required
    if memoryLimit ≤ target then .error (noMemory target) else .ok { b with capacity := target }

/-- Writes a piece of text at the end. -/
def append (b : Buffer) (s : String) : Except Fault Buffer :=
  (b.reserve s.utf8ByteSize).map fun b => { b with text := b.text ++ s }

def hexByte (n : Nat) : String :=
  String.ofList [Nat.digitChar (n / 16 % 16), Nat.digitChar (n % 16)]

/-- Writes one ASCII character, given by its code. -/
def appendByte (b : Buffer) (byte : UInt8) : Except Fault Buffer :=
  if byte < 128 then
    (b.reserve 1).map fun b => { b with text := b.text.push (Char.ofNat byte.toNat) }
  else .error ⟨.invalidArgument, "byte 0x" ++ hexByte byte.toNat ++ " is not ASCII"⟩

/-- A text cut at the characters that are exchanged: runs that stay, and replacements. -/
def piecesFrom (substitute : Substitution) (run : List Char) : List Char → List String
  | [] => [String.ofList run.reverse]
  | c :: cs =>
    match substitute c with
    | some new => String.ofList run.reverse :: new :: piecesFrom substitute [] cs
    | none => piecesFrom substitute (c :: run) cs

def appendAll (b : Buffer) : List String → Except Fault Buffer
  | [] => .ok b
  | s :: rest => (b.append s).bind fun b => appendAll b rest

/-- Writes a text with its characters exchanged.  Room for the text as it stands is made first, so
that only the replacements can make the buffer grow on the way. -/
def appendMapped (b : Buffer) (substitute : Substitution) (s : String) : Except Fault Buffer :=
  (b.reserve s.utf8ByteSize).bind fun b => appendAll b (piecesFrom substitute [] s.toList)

def appendText (b : Buffer) (s : String) : Except Fault Buffer := b.appendMapped textSubstitution s

def appendPath (b : Buffer) (s : String) : Except Fault Buffer := b.appendMapped pathSubstitution s

def appendUrl (b : Buffer) (s : String) : Except Fault Buffer := b.appendMapped urlSubstitution s

def endsWith (b : Buffer) (s : String) : Bool := Text.endsIn b.text s

/-- At the start of the output, or behind a blank. -/
def atSpace (b : Buffer) : Bool := b.isEmpty || b.text.endsWith Text.isBlank

/-- Only the last character counts. -/
theorem atSpace_eq (b : Buffer) : b.atSpace = b.text.toList.getLast?.all Text.isBlank := by
  rw [atSpace, isEmpty, String.endsWith_bool_eq_getLast?]
  cases h : b.text.toList.getLast? with
  | none =>
    have : b.text = "" := by simpa using h
    simp [this]
  | some c =>
    have : b.text ≠ "" := by
      intro he
      simp [he] at h
    simp [this]

/-- Cuts off the spaces at the end, and nothing but spaces. -/
def trimSpaces (b : Buffer) : Buffer :=
  if b.endsWith " " then
    { b with text := String.ofList (Text.dropEndWhile (· = ' ') b.text.toList) }
  else b

/-- All the spaces at the end go, and nothing else. -/
theorem toList_trimSpaces (b : Buffer) :
    b.trimSpaces.text.toList = Text.dropEndWhile (· = ' ') b.text.toList := by
  rw [trimSpaces]
  split
  case isTrue => simp
  case isFalse h =>
    refine (Text.dropEndWhile_eq_self ?_).symm
    cases hl : b.text.toList.getLast? with
    | none => rfl
    | some c =>
      refine decide_eq_false fun hc => h (Text.endsIn_iff.mpr ?_)
      obtain ⟨front, hf⟩ := List.getLast?_eq_some_iff.mp hl
      exact ⟨front, by rw [hf, hc]; rfl⟩

/-- Ends the line, unless it is at an end already. -/
def newline (b : Buffer) : Except Fault Buffer :=
  if b.isEmpty || b.endsWith "\n" then .ok b else b.append "\n"

/-- Ends the paragraph with an empty line, unless it is at an end already.  A fresh list item begins
a paragraph of its own and stays as it is. -/
def paragraphBreak (b : Buffer) : Except Fault Buffer :=
  if b.endsWith "\\item " then .ok b
  else
    let b := b.trimSpaces
    if b.isEmpty || b.endsWith "\n\n" then .ok b
    else if b.endsWith "\n" then b.append "\n"
    else b.append "\n\n"

end Buffer

end MarkupTex.Latex
