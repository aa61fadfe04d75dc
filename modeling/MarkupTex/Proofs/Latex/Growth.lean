import Mathlib.Data.UInt
import MarkupTex.Latex.Buffer
/-!
# The growth of the output

The room that a buffer needs is computed in words of 64 bits, where a sum or a doubling can be too large and a
difference below zero.  Here it is computed that way (`need`), with the sums checked that have to be, and it comes
to the same as in numbers that know no limit (`need_eq`): no word runs over, as long as the buffer fits its room.

The memory is asked for more room, and may refuse.  All that is known of it is that it gives what was asked for or
leaves the buffer as it was (`Memory.Exact`).  Whether it has enough may change from one request to the next.
Then every operation either does all that it should or nothing (`Request.perform_answers`), and so does a row of them,
with refusals among them (`history_sound`).
-/

set_option autoImplicit false

namespace MarkupTex.Latex

/-! ## Words -/

def checkedAdd (m n : UInt64) : Option UInt64 :=
  if m.toNat + n.toNat < UInt64.size then some (m + n) else none

def checkedDouble (n : UInt64) : Option UInt64 :=
  if 2 * n.toNat < UInt64.size then some (2 * n) else none

def maxWord : UInt64 := UInt64.ofNat Buffer.maxCapacity

def initialWord : UInt64 := UInt64.ofNat Buffer.initialCapacity

theorem toNat_maxWord : maxWord.toNat = Buffer.maxCapacity := rfl

theorem toNat_ofNat_of_le {n : Nat} (h : n ≤ Buffer.maxCapacity) : (UInt64.ofNat n).toNat = n := by
  have hmax : Buffer.maxCapacity = 9223372036854775807 := rfl
  rw [UInt64.toNat_ofNat']
  omega

/-! ## The room to ask for -/

/-- What it takes to have room for more bytes. -/
inductive Need where
  /-- There would be more bytes than there can be. -/
  | beyond
  | nothing
  /-- The memory has to be asked for `extra` bytes behind the text, which makes `target` bytes in all. -/
  | room (target extra : UInt64)
  deriving DecidableEq, Repr

/-- Twice the old room, if that is within the limit and enough. -/
def doubledOr (capacity required : UInt64) : UInt64 :=
  match checkedDouble capacity with
  | some doubled => if doubled ≤ maxWord then max doubled required else required
  | none => required

def need (length capacity additional : UInt64) : Need :=
  match (checkedAdd length additional).filter (· ≤ maxWord) with
  | none => .beyond
  | some required =>
    if required ≤ capacity then .nothing
    else
      let target := max (doubledOr capacity required) (min initialWord maxWord)
      .room target (target - length)

namespace Buffer

theorem le_growthTarget (capacity required : Nat) : required ≤ growthTarget capacity required := by
  rw [growthTarget]
  split <;> omega

theorem growthTarget_le (capacity : Nat) {required : Nat} (h : required ≤ maxCapacity) :
    growthTarget capacity required ≤ maxCapacity := by
  have hmax : maxCapacity = 9223372036854775807 := rfl
  rw [growthTarget, initialCapacity]
  split <;> omega

theorem double_le_growthTarget {capacity : Nat} (required : Nat) (h : 2 * capacity ≤ maxCapacity) :
    2 * capacity ≤ growthTarget capacity required := by
  rw [growthTarget, if_pos h]
  omega

end Buffer

open Buffer

theorem toNat_doubledOr {capacity required : UInt64} (hcapacity : capacity.toNat ≤ maxCapacity) :
    (doubledOr capacity required).toNat =
      if 2 * capacity.toNat ≤ maxCapacity then max (2 * capacity.toNat) required.toNat else required.toNat := by
  have hmax : maxCapacity = 9223372036854775807 := rfl
  have hsize : UInt64.size = 18446744073709551616 := rfl
  have hdouble : (2 * capacity).toNat = 2 * capacity.toNat := by
    have htwo : (2 : UInt64).toNat = 2 := rfl
    rw [UInt64.toNat_mul, htwo]
    omega
  rw [doubledOr, checkedDouble, if_pos (by omega)]
  simp only [UInt64.le_iff_toNat_le, hdouble, toNat_maxWord]
  split
  · rw [UInt64.toNat_max, hdouble]
  · rfl

/-- In words the room comes to the same as in numbers without a limit: no word runs over. -/
theorem need_eq {length capacity additional : UInt64} (hlength : length.toNat ≤ capacity.toNat)
    (hcapacity : capacity.toNat ≤ maxCapacity) :
    need length capacity additional =
      if maxCapacity < length.toNat + additional.toNat then .beyond
      else if length.toNat + additional.toNat ≤ capacity.toNat then .nothing
      else
        let target := growthTarget capacity.toNat (length.toNat + additional.toNat)
        .room (UInt64.ofNat target) (UInt64.ofNat (target - length.toNat)) := by
  have hmax : maxCapacity = 9223372036854775807 := rfl
  have hsize : UInt64.size = 18446744073709551616 := rfl
  rw [need, checkedAdd]
  by_cases hword : length.toNat + additional.toNat < UInt64.size
  case neg =>
    -- A sum that is too large for a word is beyond the limit as well.
    rw [if_neg hword, if_pos (by omega)]
    rfl
  case pos =>
    have hsum : (length + additional).toNat = length.toNat + additional.toNat := by
      rw [UInt64.toNat_add]
      omega
    rw [if_pos hword]
    rw [Option.filter_some]
    simp only [UInt64.le_iff_toNat_le, hsum, toNat_maxWord, decide_eq_true_eq]
    by_cases hlimit : maxCapacity < length.toNat + additional.toNat
    · rw [if_pos hlimit, if_neg (Nat.not_le.mpr hlimit)]
    · rw [if_neg hlimit, if_pos (Nat.not_lt.mp hlimit)]
      simp only [hsum]
      by_cases hfits : length.toNat + additional.toNat ≤ capacity.toNat
      · rw [if_pos hfits, if_pos hfits]
      · rw [if_neg hfits, if_neg hfits]
        have htarget : (max (doubledOr capacity (length + additional)) (min initialWord maxWord)).toNat =
            growthTarget capacity.toNat (length.toNat + additional.toNat) := by
          rw [UInt64.toNat_max, toNat_doubledOr hcapacity, hsum]
          rfl
        have hbound := growthTarget_le capacity.toNat (Nat.not_lt.mp hlimit)
        have henough := le_growthTarget capacity.toNat (length.toNat + additional.toNat)
        have hdifference : (max (doubledOr capacity (length + additional)) (min initialWord maxWord) - length).toNat =
            growthTarget capacity.toNat (length.toNat + additional.toNat) - length.toNat := by
          rw [UInt64.toNat_sub_of_le _ _ (UInt64.le_iff_toNat_le.mpr (by omega)), htarget]
        simp only [Need.room.injEq]
        constructor
        · rw [← UInt64.toNat_inj, htarget, toNat_ofNat_of_le hbound]
        · rw [← UInt64.toNat_inj, hdifference, toNat_ofNat_of_le (by omega)]

/-! ## Buffers in memory -/

namespace Buffer

/-- The text is within its room, and the room within the limit. -/
structure Fits (b : Buffer) : Prop where
  size_le : b.size ≤ b.capacity
  capacity_le : b.capacity ≤ maxCapacity

instance (b : Buffer) : Decidable b.Fits :=
  decidable_of_iff (b.size ≤ b.capacity ∧ b.capacity ≤ maxCapacity)
    ⟨fun h => ⟨h.1, h.2⟩, fun h => ⟨h.size_le, h.capacity_le⟩⟩

/-- What a buffer needs for more bytes, by its words. -/
def needs (b : Buffer) (additional : UInt64) : Need :=
  need (UInt64.ofNat b.size) (UInt64.ofNat b.capacity) additional

variable {b : Buffer} {additional : UInt64}

theorem Fits.needs_eq (h : b.Fits) (additional : UInt64) :
    b.needs additional =
      if maxCapacity < b.size + additional.toNat then .beyond
      else if b.size + additional.toNat ≤ b.capacity then .nothing
      else
        let target := growthTarget b.capacity (b.size + additional.toNat)
        .room (UInt64.ofNat target) (UInt64.ofNat (target - b.size)) := by
  have hsize := toNat_ofNat_of_le (Nat.le_trans h.size_le h.capacity_le)
  have hcapacity := toNat_ofNat_of_le h.capacity_le
  rw [needs, need_eq (by rw [hsize, hcapacity]; exact h.size_le) (by rw [hcapacity]; exact h.capacity_le),
    hsize, hcapacity]

theorem Fits.needs_beyond_iff (h : b.Fits) :
    b.needs additional = .beyond ↔ maxCapacity < b.size + additional.toNat := by
  rw [h.needs_eq]
  constructor
  · intro hneed
    split at hneed
    · assumption
    · split at hneed <;> cases hneed
  · intro hlimit
    rw [if_pos hlimit]

/-- The room that is asked for is enough and within the limit, it is what is there with the bytes behind the text,
and at least twice the old room where there can be as much. -/
structure Target (b : Buffer) (additional target extra : UInt64) : Prop where
  short : b.capacity < b.size + additional.toNat
  enough : b.size + additional.toNat ≤ target.toNat
  within : target.toNat ≤ maxCapacity
  extra_eq : b.size ≤ target.toNat ∧ extra.toNat = target.toNat - b.size
  doubles : 2 * b.capacity ≤ maxCapacity → 2 * b.capacity ≤ target.toNat
  target_eq : target.toNat = growthTarget b.capacity (b.size + additional.toNat)

theorem Fits.target {target extra : UInt64} (h : b.Fits) (hneed : b.needs additional = .room target extra) :
    b.Target additional target extra := by
  rw [h.needs_eq] at hneed
  split at hneed
  · cases hneed
  · next hlimit =>
    split at hneed
    · cases hneed
    · next hshort =>
      have hbound := growthTarget_le b.capacity (Nat.not_lt.mp hlimit)
      have henough := le_growthTarget b.capacity (b.size + additional.toNat)
      obtain ⟨rfl, rfl⟩ := Need.room.inj hneed
      constructor
      case short => exact Nat.not_le.mp hshort
      case enough => rwa [toNat_ofNat_of_le hbound]
      case within => rwa [toNat_ofNat_of_le hbound]
      case extra_eq =>
        rw [toNat_ofNat_of_le hbound, toNat_ofNat_of_le (by omega)]
        exact ⟨by omega, rfl⟩
      case doubles =>
        rw [toNat_ofNat_of_le hbound]
        exact double_le_growthTarget _
      case target_eq => exact toNat_ofNat_of_le hbound

end Buffer

/-- An action on a buffer; a fault leaves behind the buffer as it is then. -/
abbrev Writing := EStateM Fault Buffer

/-- The buffer that there is when an action has ended, one way or the other. -/
def Writing.after : EStateM.Result Fault Buffer Unit → Buffer
  | .ok () b => b
  | .error _ b => b

/-- How a memory answers the wish for more bytes behind the text of a buffer: whether it grants them, and what has
become of the buffer. -/
abbrev Memory := Buffer → UInt64 → Bool × Buffer

namespace Memory

/-- The memory gives just the room that it is asked for, or nothing happens. -/
structure Exact (memory : Memory) : Prop where
  granted : ∀ b extra, (memory b extra).1 = true →
    (memory b extra).2 = { b with capacity := max b.capacity (b.size + extra.toNat) }
  refused : ∀ b extra, (memory b extra).1 = false → (memory b extra).2 = b

variable {memory : Memory}

def grow (memory : Memory) (extra : UInt64) (fault : Fault) : Writing Unit := fun b =>
  match memory b extra with
  | (true, b') => .ok () b'
  | (false, b') => .error fault b'

def reserve (memory : Memory) (additional : UInt64) : Writing Unit := fun b =>
  match b.needs additional with
  | .beyond => .error (tooLong b.size additional.toNat) b
  | .nothing => .ok () b
  | .room target extra => memory.grow extra (noMemory target.toNat) b

end Memory

/-- Something to be done with a buffer. -/
inductive Request where
  | reserve (additional : UInt64)
  | append (s : String)
  | appendByte (byte : UInt8)
  deriving DecidableEq, Repr

namespace Request

def notAscii (byte : UInt8) : Fault :=
  ⟨.invalidArgument, "byte 0x" ++ hexByte byte.toNat ++ " is not ASCII"⟩

/-- The text that it writes. -/
def text : Request → String
  | reserve _ => ""
  | append s => s
  | appendByte byte => String.singleton (Char.ofNat byte.toNat)

/-- The bytes that it makes room for. -/
def additional : Request → UInt64
  | reserve n => n
  | append s => UInt64.ofNat s.utf8ByteSize
  | appendByte _ => 1

/-- The text is one that can be in memory. -/
def IsPossible (request : Request) : Prop := request.text.utf8ByteSize ≤ maxCapacity

instance (request : Request) : Decidable request.IsPossible := inferInstanceAs (Decidable (_ ≤ _))

/-- The byte is none of ASCII. -/
def IsInvalid : Request → Prop
  | appendByte byte => 128 ≤ byte.toNat
  | _ => False

/-- Makes room and then writes the text, with a memory that may refuse. -/
def perform (memory : Memory) (request : Request) : Writing Unit :=
  match request with
  | reserve n => memory.reserve n
  | append s => do
    memory.reserve (UInt64.ofNat s.utf8ByteSize)
    modify fun b => { b with text := b.text ++ s }
  | appendByte byte => do
    if byte < 128 then
      memory.reserve 1
      modify fun b => { b with text := b.text.push (Char.ofNat byte.toNat) }
    else throw (notAscii byte)

/-- The same as the functions on buffers have it. -/
def run (b : Buffer) : Request → Except Fault Buffer
  | reserve n => b.reserve n.toNat
  | append s => b.append s
  | appendByte byte => b.appendByte byte

end Request

namespace Buffer

/-- The room that there is with more bytes behind the text. -/
def roomFor (b : Buffer) (additional : Nat) : Nat :=
  if b.size + additional ≤ b.capacity then b.capacity
  else growthTarget b.capacity (b.size + additional)

variable {b : Buffer}

theorem Fits.roomFor_fits (h : b.Fits) {additional : Nat} (hlimit : b.size + additional ≤ maxCapacity) :
    b.size + additional ≤ b.roomFor additional ∧ b.roomFor additional ≤ maxCapacity := by
  rw [roomFor]
  split
  · next hfits => exact ⟨hfits, h.capacity_le⟩
  · exact ⟨le_growthTarget _ _, growthTarget_le _ hlimit⟩

end Buffer

/-! ## One operation -/

namespace Request

variable {memory : Memory} {request : Request} {b : Buffer}

/-- How an operation may end.  It is done, and the room is what the rule says; or nothing has been done, and it is
told why. -/
inductive Answers (memory : Memory) (request : Request) (b : Buffer) : EStateM.Result Fault Buffer Unit → Prop
  | done (valid : ¬ request.IsInvalid) (limit : b.size + request.additional.toNat ≤ maxCapacity) :
      Answers memory request b
        (.ok () ⟨b.text ++ request.text, b.roomFor request.additional.toNat⟩)
  | beyond (valid : ¬ request.IsInvalid) (limit : maxCapacity < b.size + request.additional.toNat) :
      Answers memory request b (.error (tooLong b.size request.additional.toNat) b)
  | refused (valid : ¬ request.IsInvalid) (target extra : UInt64)
      (short : b.needs request.additional = .room target extra) (refusal : (memory b extra).1 = false) :
      Answers memory request b (.error (noMemory target.toNat) b)
  | invalid (byte : UInt8) (hrequest : request = appendByte byte) (hbyte : 128 ≤ byte.toNat) :
      Answers memory request b (.error (notAscii byte) b)

/-- What is not done has changed nothing. -/
theorem Answers.unchanged {result : EStateM.Result Fault Buffer Unit} {fault : Fault} {after : Buffer}
    (h : request.Answers memory b result) (hresult : result = .error fault after) : after = b := by
  cases h <;> cases hresult <;> rfl

theorem reserve_answers (hexact : memory.Exact) (hb : b.Fits) (n : UInt64) :
    (reserve n).Answers memory b (memory.reserve n b) := by
  have hvalid : ¬ (reserve n).IsInvalid := id
  have htext : b.text ++ (reserve n).text = b.text := String.append_empty
  have hgranted : b.size + (reserve n).additional.toNat ≤ maxCapacity → (reserve n).Answers memory b
      (.ok () ⟨b.text ++ (reserve n).text, b.roomFor (reserve n).additional.toNat⟩) := .done hvalid
  rw [Memory.reserve]
  cases hneed : b.needs n with
  | beyond => exact .beyond hvalid (hb.needs_beyond_iff.mp hneed)
  | nothing =>
    rw [hb.needs_eq] at hneed
    split at hneed
    · cases hneed
    · next hlimit =>
      split at hneed
      · next hfits =>
        have hdone := hgranted (Nat.not_lt.mp hlimit)
        rwa [htext, additional, roomFor, if_pos hfits] at hdone
      · cases hneed
  | room target extra =>
    have htarget := hb.target hneed
    dsimp only
    rw [Memory.grow]
    split
    · next b' hgrant =>
      have hgrown := hexact.granted b extra (by rw [hgrant])
      rw [hgrant] at hgrown
      dsimp only at hgrown
      have hroom : max b.capacity (b.size + extra.toNat) = b.roomFor n.toNat := by
        obtain ⟨hle, hextra⟩ := htarget.extra_eq
        have hshort := htarget.short
        have henough := htarget.enough
        rw [roomFor, if_neg (Nat.not_le.mpr hshort), ← htarget.target_eq]
        omega
      have hdone := hgranted (Nat.le_trans htarget.enough htarget.within)
      rw [htext] at hdone
      rwa [hgrown, hroom]
    · next b' hrefuse =>
      have hrefused : (memory b extra).1 = false := by rw [hrefuse]
      have hsame := hexact.refused b extra hrefused
      rw [hrefuse] at hsame
      dsimp only at hsame
      rw [hsame]
      exact .refused hvalid target extra hneed hrefused

/-- Making room first, an operation that writes answers as the making of room does. -/
theorem Answers.write (request : Request)
    (h : (reserve request.additional).Answers memory b (memory.reserve request.additional b))
    (hvalid : ¬ request.IsInvalid) {write : Buffer → Buffer}
    (hwrite : ∀ b, write b = { b with text := b.text ++ request.text }) :
    request.Answers memory b ((do memory.reserve request.additional; modify write : Writing Unit) b) := by
  have hbind : (do memory.reserve request.additional; modify write : Writing Unit) b =
      match memory.reserve request.additional b with
      | .ok () b' => .ok () (write b')
      | .error fault b' => .error fault b' := by
    simp only [bind, EStateM.bind]
    cases memory.reserve request.additional b <;> rfl
  rw [hbind]
  generalize memory.reserve request.additional b = result at h ⊢
  cases h with
  | done _ limit =>
    dsimp only
    rw [hwrite, text, String.append_empty]
    exact .done hvalid limit
  | beyond _ limit => exact .beyond hvalid limit
  | refused _ target extra short refusal => exact .refused hvalid target extra short refusal
  | invalid byte hrequest => cases hrequest

theorem perform_answers (hexact : memory.Exact) (hb : b.Fits) (request : Request) :
    request.Answers memory b (request.perform memory b) := by
  cases request with
  | reserve n => exact reserve_answers hexact hb n
  | append s =>
    exact (reserve_answers hexact hb _).write (append s) id fun _ => rfl
  | appendByte byte =>
    rw [perform]
    by_cases hbyte : byte < 128
    · rw [if_pos hbyte]
      have hvalid : ¬ (appendByte byte).IsInvalid := Nat.not_le.mpr (UInt8.lt_iff_toNat_lt.mp hbyte)
      refine (reserve_answers hexact hb _).write (appendByte byte) hvalid fun b => ?_
      rw [text, String.append_singleton]
    · rw [if_neg hbyte]
      exact .invalid byte rfl (Nat.not_lt.mp fun h => hbyte (UInt8.lt_iff_toNat_lt.mpr h))

theorem utf8Size_ascii : ∀ n < 128, (Char.ofNat n).utf8Size = 1 := by
  decide

/-- There is room for the text that is written. -/
theorem size_text_le (hpossible : request.IsPossible) (hvalid : ¬ request.IsInvalid) :
    request.text.utf8ByteSize ≤ request.additional.toNat := by
  cases request with
  | reserve n => exact Nat.zero_le _
  | append s =>
    rw [additional, toNat_ofNat_of_le (n := s.utf8ByteSize) hpossible]
    exact Nat.le_refl _
  | appendByte byte =>
    have hascii : byte.toNat < 128 := Nat.not_le.mp hvalid
    rw [text, String.utf8ByteSize_singleton, utf8Size_ascii _ hascii]
    exact Nat.le_refl _

theorem Answers.fits {result : EStateM.Result Fault Buffer Unit} (h : request.Answers memory b result)
    (hb : b.Fits) (hpossible : request.IsPossible) : (Writing.after result).Fits := by
  cases h with
  | done valid limit =>
    obtain ⟨henough, hwithin⟩ := hb.roomFor_fits limit
    have htext := size_text_le hpossible valid
    constructor
    · rw [Writing.after, size, String.utf8ByteSize_append]
      rw [size] at henough
      exact Nat.le_trans (Nat.add_le_add_left htext _) henough
    · exact hwithin
  | beyond => exact hb
  | refused => exact hb
  | invalid => exact hb

end Request

/-! ## The functions on buffers -/

/-- There is memory for less than the limit of it. -/
def Memory.limited : Memory := fun b extra =>
  if memoryLimit ≤ b.size + extra.toNat then (false, b)
  else (true, { b with capacity := max b.capacity (b.size + extra.toNat) })

theorem Memory.limited_exact : Memory.limited.Exact := by
  constructor
  · intro b extra hgranted
    rw [limited] at hgranted ⊢
    split at hgranted
    · cases hgranted
    · next hlimit => rw [if_neg hlimit]
  · intro b extra hrefused
    rw [limited] at hrefused ⊢
    split at hrefused
    · next hlimit => rw [if_pos hlimit]
    · cases hrefused

/-- What a function on buffers answers, with the buffer that there is then. -/
def answered (b : Buffer) : Except Fault Buffer → EStateM.Result Fault Buffer Unit
  | .ok b' => .ok () b'
  | .error fault => .error fault b

theorem reserve_limited {b : Buffer} (hb : b.Fits) (n : UInt64) :
    Memory.limited.reserve n b = answered b (b.reserve n.toNat) := by
  rw [Memory.reserve, hb.needs_eq, Buffer.reserve]
  by_cases hlimit : maxCapacity < b.size + n.toNat
  · rw [if_pos hlimit, if_pos hlimit]
    rfl
  · rw [if_neg hlimit, if_neg hlimit]
    by_cases hfits : b.size + n.toNat ≤ b.capacity
    · rw [if_pos hfits, if_pos hfits]
      rfl
    · rw [if_neg hfits, if_neg hfits]
      have hbound := growthTarget_le b.capacity (Nat.not_lt.mp hlimit)
      have henough := le_growthTarget b.capacity (b.size + n.toNat)
      have hsum : b.size + (growthTarget b.capacity (b.size + n.toNat) - b.size) =
          growthTarget b.capacity (b.size + n.toNat) := by omega
      have hmore : max b.capacity (growthTarget b.capacity (b.size + n.toNat)) =
          growthTarget b.capacity (b.size + n.toNat) := by omega
      simp only [Memory.grow, Memory.limited, toNat_ofNat_of_le hbound,
        toNat_ofNat_of_le (Nat.le_trans (Nat.sub_le _ _) hbound), hsum, hmore]
      split
      · next hgranted =>
        split at hgranted <;> cases hgranted
        next hmemory => rw [if_neg hmemory]; rfl
      · next hrefused =>
        split at hrefused <;> cases hrefused
        next hmemory => rw [if_pos hmemory]; rfl

/-- With such a memory the operations are the functions on buffers. -/
theorem perform_limited {b : Buffer} (hb : b.Fits) {request : Request} (hpossible : request.IsPossible) :
    request.perform Memory.limited b = answered b (request.run b) := by
  have hwrite : ∀ (n : UInt64) (write : Buffer → Buffer),
      (do Memory.limited.reserve n; modify write : Writing Unit) b =
        answered b ((b.reserve n.toNat).map write) := by
    intro n write
    have hreserve := reserve_limited hb n
    simp only [bind, EStateM.bind, hreserve]
    cases b.reserve n.toNat <;> rfl
  cases request with
  | reserve n => exact reserve_limited hb n
  | append s =>
    have hsize : (UInt64.ofNat s.utf8ByteSize).toNat = s.utf8ByteSize := toNat_ofNat_of_le hpossible
    rw [Request.run, Buffer.append, Request.perform, hwrite, hsize]
  | appendByte byte =>
    rw [Request.run, Buffer.appendByte, Request.perform]
    split
    · exact hwrite 1 _
    · rfl

/-! ## One operation after the other -/

/-- An operation that was asked for, with the memory there was then. -/
structure Entry where
  memory : Memory
  request : Request
  before : Buffer
  result : EStateM.Result Fault Buffer Unit

/-- Whatever an operation answers, the next one goes on with the buffer as it is then. -/
def history (b : Buffer) : List (Memory × Request) → List Entry
  | [] => []
  | (memory, request) :: steps =>
    let result := request.perform memory b
    ⟨memory, request, b, result⟩ :: history (Writing.after result) steps

/-- The buffer fits its room, and the operation has done all that it should, or nothing. -/
structure Entry.Sound (entry : Entry) : Prop where
  fits : entry.before.Fits
  answers : entry.request.Answers entry.memory entry.before entry.result
  unchanged : ∀ fault after, entry.result = .error fault after → after = entry.before

theorem history_sound {steps : List (Memory × Request)}
    (hsteps : ∀ step ∈ steps, step.1.Exact ∧ step.2.IsPossible) {b : Buffer} (hb : b.Fits) :
    ∀ entry ∈ history b steps, entry.Sound := by
  induction steps generalizing b with
  | nil => simp [history]
  | cons step steps ih =>
    obtain ⟨memory, request⟩ := step
    obtain ⟨⟨hexact, hpossible⟩, hrest⟩ := List.forall_mem_cons.mp hsteps
    have hanswers := request.perform_answers hexact hb
    refine List.forall_mem_cons.mpr ⟨?_, ih hrest (hanswers.fits hb hpossible)⟩
    exact ⟨hb, hanswers, fun _ _ hresult => hanswers.unchanged hresult⟩

namespace Buffer

/-- A wish is refused for its size just if there would be more bytes than there can be. -/
theorem Fits.overflow_iff {b : Buffer} (hb : b.Fits) {memory : Memory} (hexact : memory.Exact) (n : UInt64) :
    (∃ fault after, memory.reserve n b = .error fault after ∧ fault.kind = .bufferOverflow) ↔
      maxCapacity < b.size + n.toNat := by
  have hanswers := Request.reserve_answers hexact hb n
  constructor
  · rintro ⟨fault, after, hresult, hkind⟩
    rw [hresult] at hanswers
    cases hanswers with
    | beyond _ limit => exact limit
    | refused => cases hkind
    | invalid => cases hkind
  · intro hlimit
    have hneed := hb.needs_beyond_iff.mpr hlimit
    refine ⟨tooLong b.size n.toNat, b, ?_, rfl⟩
    rw [Memory.reserve, hneed]

/-- The arithmetic of growth never runs over.  More bytes are refused for their size just if they are beyond the
limit.  Where the room is too small otherwise, what the memory is asked for is enough, within the limit and
twice the old room if that can be, and no difference is below zero.  Whatever is asked for, one thing after the
other and with a memory that refuses at will, every operation is done or has changed nothing.  With a memory that
has its limit, these are the functions on buffers. -/
theorem growth_safe {b : Buffer} (hb : b.Fits) (additional : UInt64) {steps : List (Memory × Request)}
    (hsteps : ∀ step ∈ steps, step.1.Exact ∧ step.2.IsPossible) :
    (∀ memory : Memory, memory.Exact →
      ((∃ fault after, memory.reserve additional b = .error fault after ∧ fault.kind = .bufferOverflow) ↔
        maxCapacity < b.size + additional.toNat)) ∧
      (∀ target extra, b.needs additional = .room target extra → b.Target additional target extra) ∧
      (∀ entry ∈ history b steps, entry.Sound) ∧
      ∀ request : Request, request.IsPossible →
        request.perform Memory.limited b = answered b (request.run b) :=
  ⟨fun _ hexact => hb.overflow_iff hexact additional, fun _ _ hneed => hb.target hneed,
    history_sound hsteps hb, fun _ hpossible => perform_limited hb hpossible⟩

end Buffer

/-- A memory that has nothing left. -/
def Memory.exhausted : Memory := fun b _ => (false, b)

theorem Memory.exhausted_exact : Memory.exhausted.Exact :=
  ⟨fun _ _ hgranted => absurd hgranted Bool.false_ne_true, fun _ _ _ => rfl⟩

namespace Buffer

/-- A full buffer, which is refused room at first, gets it then, and may not have more than there can be. -/
theorem growth_safe_full :
    (∃ fault after, Memory.limited.reserve 18446744073709551615 ⟨"abc", 3⟩ = .error fault after ∧
        fault.kind = .bufferOverflow) ∧
      (∀ entry ∈ history ⟨"abc", 3⟩ [(Memory.exhausted, .append "d"), (Memory.limited, .append "d")],
        entry.Sound) ∧
      (history ⟨"abc", 3⟩ [(Memory.exhausted, .append "d"), (Memory.limited, .append "d")]).map
          (fun entry => Writing.after entry.result) = [⟨"abc", 3⟩, ⟨"abcd", 1024⟩] := by
  have hsteps : ∀ step ∈ [(Memory.exhausted, Request.append "d"), (Memory.limited, .append "d")],
      step.1.Exact ∧ step.2.IsPossible := by
    simp only [List.forall_mem_cons, List.not_mem_nil, false_implies, implies_true, and_true]
    exact ⟨⟨Memory.exhausted_exact, by decide⟩, Memory.limited_exact, by decide⟩
  obtain ⟨hover, -, hsound, -⟩ := growth_safe (b := ⟨"abc", 3⟩) (by decide) 18446744073709551615 hsteps
  exact ⟨(hover _ Memory.limited_exact).mpr (by decide), hsound, by decide⟩

end Buffer

end MarkupTex.Latex
