import MarkupTex.Proofs.Latex.Writing
import MarkupTex.Proofs.Text.Bytes
/-!
# Escaping by bytes

A text can be escaped without a look at its characters.  A scan goes from one byte that is exchanged to the
next, copies the run in between in one piece and writes what the byte is exchanged for.  The runs are cut out of
the text at places that are counted in bytes, and a cut within a character would not give a text at all, for
which `slice?` has no answer.

No cut is of this kind (`scan?_eq`): only bytes of ASCII are exchanged, a character of ASCII is one byte, and
the bytes of other characters are all above.  So the scan writes just the pieces that `Buffer.piecesFrom` cuts
by characters.
-/

set_option autoImplicit false

namespace MarkupTex

namespace Text

/-! ## Places in a text -/

/-- The text from one place up to another one; nothing if one of them is within a character. -/
def slice? (s : String) (first last : Nat) : Option String :=
  if h : (⟨first⟩ : String.Pos.Raw).IsValid s ∧ (⟨last⟩ : String.Pos.Raw).IsValid s ∧ first ≤ last then
    some (String.extract (⟨⟨first⟩, h.1⟩ : s.Pos) ⟨⟨last⟩, h.2.1⟩)
  else none

theorem slice?_append (front inside back : String) :
    slice? (front ++ inside ++ back) front.utf8ByteSize (front ++ inside).utf8ByteSize = some inside := by
  have hsize : (front ++ inside).utf8ByteSize = front.utf8ByteSize + inside.utf8ByteSize :=
    String.utf8ByteSize_append
  have hfirst : (⟨front.utf8ByteSize⟩ : String.Pos.Raw).IsValid (front ++ inside ++ back) :=
    String.Pos.Raw.isValid_iff_exists_append.mpr ⟨front, inside ++ back, String.append_assoc, rfl⟩
  have hlast : (⟨(front ++ inside).utf8ByteSize⟩ : String.Pos.Raw).IsValid (front ++ inside ++ back) :=
    String.Pos.Raw.isValid_iff_exists_append.mpr ⟨front ++ inside, back, rfl, rfl⟩
  rw [slice?, dif_pos ⟨hfirst, hlast, by omega⟩, Option.some.injEq, ← String.toByteArray_inj,
    String.toByteArray_extract, String.toByteArray_append]
  -- What is behind the second place does not matter, nor what is before the first one.
  have hback : back.toByteArray.extract (front.utf8ByteSize - (front ++ inside).toByteArray.size)
      ((front ++ inside).utf8ByteSize - (front ++ inside).toByteArray.size) = ByteArray.empty := by
    rw [String.size_toByteArray, Nat.sub_self, ByteArray.extract_eq_empty_iff]
    omega
  rw [ByteArray.extract_append, hback, ByteArray.append_empty, String.toByteArray_append]
  exact ByteArray.extract_append_eq_right rfl hsize

end Text

namespace Latex

/-- What a byte is exchanged for: what the character is, where it is one of ASCII. -/
def Substitution.ofByte (substitute : Substitution) (byte : UInt8) : Option String :=
  if byte.toNat < 128 then substitute (Char.ofNat byte.toNat) else none

/-- Only characters of ASCII are exchanged. -/
def Substitution.IsAscii (substitute : Substitution) : Prop :=
  ∀ c, (substitute c).isSome → c.toNat < 128

namespace Buffer

/-- The place of the first byte from `place` on that is exchanged. -/
def nextExchanged? (substitute : Substitution) (bytes : List UInt8) (place : Nat) : Option Nat :=
  ((bytes.drop place).findIdx? fun byte => (substitute.ofByte byte).isSome).map (place + ·)

theorem lt_of_nextExchanged? {substitute : Substitution} {bytes : List UInt8} {place found : Nat}
    (h : nextExchanged? substitute bytes place = some found) : place ≤ found ∧ found < bytes.length := by
  obtain ⟨offset, hoffset, rfl⟩ := Option.map_eq_some_iff.mp h
  have hlt := (List.findIdx?_eq_some_iff_getElem.mp hoffset).1
  rw [List.length_drop] at hlt
  omega

/-- The pieces that a scan of the bytes writes from a place on. -/
def scanFrom? (substitute : Substitution) (s : String) (place : Nat) : Option (List String) :=
  match h : nextExchanged? substitute (Text.bytes s) place with
  | none => do return [← Text.slice? s place s.utf8ByteSize]
  | some found => do
    let run ← Text.slice? s place found
    let new ← (Text.bytes s)[found]?.bind substitute.ofByte
    return run :: new :: (← scanFrom? substitute s (found + 1))
termination_by s.utf8ByteSize - place
decreasing_by
  have := lt_of_nextExchanged? h
  rw [Text.length_bytes] at this
  omega

def scan? (substitute : Substitution) (s : String) : Option (List String) := scanFrom? substitute s 0

variable {substitute : Substitution} {c : Char} {cs plain run : List Char} {new : String}

/-! ## Bytes and characters that are exchanged -/

theorem ofByte_of_ascii (h : c.toNat < 128) (substitute : Substitution) :
    substitute.ofByte (UInt8.ofNat c.toNat) = substitute c := by
  have hbyte : (UInt8.ofNat c.toNat).toNat = c.toNat := by
    rw [UInt8.toNat_ofNat']
    omega
  rw [Substitution.ofByte, hbyte, if_pos h, Char.ofNat_toNat]

/-- A character that stays has no byte that is exchanged. -/
theorem ofByte_eq_none (h : substitute c = none) :
    ∀ byte ∈ String.utf8EncodeChar c, substitute.ofByte byte = none := by
  intro byte hbyte
  by_cases hc : c.toNat < 128
  · rw [Text.utf8EncodeChar_of_ascii hc, List.mem_singleton] at hbyte
    rw [hbyte, ofByte_of_ascii hc, h]
  · have hbig := Text.le_of_mem_utf8EncodeChar (Nat.le_of_not_lt hc) byte hbyte
    rw [Substitution.ofByte, if_neg (Nat.not_lt.mpr hbig)]

theorem bytes_stay (h : ∀ c ∈ plain, substitute c = none) :
    ∀ byte ∈ plain.flatMap String.utf8EncodeChar, (substitute.ofByte byte).isSome = false := by
  intro byte hbyte
  obtain ⟨c, hc, hbyte⟩ := List.mem_flatMap.mp hbyte
  rw [ofByte_eq_none (h c hc) byte hbyte]
  rfl

/-! ## The pieces of a text -/

theorem piecesFrom_plain (h : ∀ c ∈ plain, substitute c = none) (run : List Char) :
    piecesFrom substitute run plain = [String.ofList (run.reverse ++ plain)] := by
  induction plain generalizing run with
  | nil => rw [piecesFrom, List.append_nil]
  | cons c plain ih =>
    rw [piecesFrom, h c List.mem_cons_self]
    simp only
    rw [ih fun d hd => h d (List.mem_cons_of_mem c hd), List.reverse_cons, List.append_assoc]
    rfl

theorem piecesFrom_exchanged (h : ∀ c ∈ plain, substitute c = none) (hc : substitute c = some new)
    (run cs : List Char) :
    piecesFrom substitute run (plain ++ c :: cs) =
      String.ofList (run.reverse ++ plain) :: new :: piecesFrom substitute [] cs := by
  induction plain generalizing run with
  | nil =>
    rw [List.nil_append, piecesFrom, hc, List.append_nil]
  | cons d plain ih =>
    rw [List.cons_append, piecesFrom, h d List.mem_cons_self]
    simp only
    rw [ih fun e he => h e (List.mem_cons_of_mem d he), List.reverse_cons, List.append_assoc]
    rfl

/-- A text begins with a run that stays, and is over then or goes on with a character that is exchanged. -/
theorem exists_run (substitute : Substitution) (cs : List Char) :
    (∀ c ∈ cs, substitute c = none) ∨
      ∃ plain c new rest, cs = plain ++ c :: rest ∧ (∀ d ∈ plain, substitute d = none) ∧
        substitute c = some new := by
  induction cs with
  | nil => exact .inl (by simp)
  | cons c cs ih =>
    cases hc : substitute c with
    | some new => exact .inr ⟨[], c, new, cs, rfl, by simp, hc⟩
    | none =>
      rcases ih with hall | ⟨plain, d, new, rest, rfl, hplain, hd⟩
      · exact .inl (List.forall_mem_cons.mpr ⟨hc, hall⟩)
      · exact .inr ⟨c :: plain, d, new, rest, rfl, List.forall_mem_cons.mpr ⟨hc, hplain⟩, hd⟩

/-! ## The scan -/

theorem bytes_append (s t : String) : Text.bytes (s ++ t) = Text.bytes s ++ Text.bytes t := by
  rw [Text.bytes_eq, Text.bytes_eq, Text.bytes_eq, String.toList_append, List.flatMap_append]

theorem bytes_ofList (cs : List Char) :
    Text.bytes (String.ofList cs) = cs.flatMap String.utf8EncodeChar := by
  rw [Text.bytes_eq, String.toList_ofList]

theorem bytes_ofList_cons (h : c.toNat < 128) (cs : List Char) :
    Text.bytes (String.ofList (c :: cs)) = UInt8.ofNat c.toNat :: Text.bytes (String.ofList cs) := by
  rw [bytes_ofList, List.flatMap_cons, Text.utf8EncodeChar_of_ascii h, bytes_ofList]
  rfl

theorem nextExchanged?_plain (front : String) (h : ∀ c ∈ plain, substitute c = none) :
    nextExchanged? substitute (Text.bytes (front ++ String.ofList plain)) front.utf8ByteSize = none := by
  rw [nextExchanged?, bytes_append, bytes_ofList, ← Text.length_bytes, List.drop_left,
    List.findIdx?_eq_none_iff.mpr (bytes_stay h)]
  rfl

/-- The scan finds the first character that is exchanged, since no byte of those before it is. -/
theorem nextExchanged?_exchanged (front : String) (h : ∀ c ∈ plain, substitute c = none)
    (hc : substitute c = some new) (hascii : c.toNat < 128) (cs : List Char) :
    nextExchanged? substitute (Text.bytes (front ++ String.ofList plain ++ String.ofList (c :: cs)))
        front.utf8ByteSize = some (front ++ String.ofList plain).utf8ByteSize := by
  have hplain := List.findIdx?_eq_none_iff.mpr (bytes_stay h)
  have hbyte : (substitute.ofByte (UInt8.ofNat c.toNat)).isSome := by
    rw [ofByte_of_ascii hascii, hc]
    rfl
  rw [nextExchanged?, bytes_append, bytes_append, bytes_ofList_cons hascii, List.append_assoc,
    ← Text.length_bytes, List.drop_left, List.findIdx?_append, bytes_ofList, hplain, Option.none_or,
    List.findIdx?_cons, if_pos hbyte, String.utf8ByteSize_append, ← Text.length_bytes,
    ← Text.length_bytes, bytes_ofList]
  simp

/-- Where nothing is exchanged any more, the scan copies the rest. -/
theorem scanFrom?_plain (front : String) (h : ∀ c ∈ plain, substitute c = none) :
    scanFrom? substitute (front ++ String.ofList plain) front.utf8ByteSize = some [String.ofList plain] := by
  have hslice := Text.slice?_append front (String.ofList plain) ""
  rw [String.append_empty] at hslice
  rw [scanFrom?]
  split
  · rw [hslice]
    rfl
  · next found hfound =>
    rw [nextExchanged?_plain front h] at hfound
    cases hfound

/-- The scan copies the run up to a character that is exchanged, and goes on behind it. -/
theorem scanFrom?_exchanged (front : String) (h : ∀ c ∈ plain, substitute c = none)
    (hc : substitute c = some new) (hascii : c.toNat < 128) (cs : List Char) :
    scanFrom? substitute (front ++ String.ofList (plain ++ c :: cs)) front.utf8ByteSize =
      (scanFrom? substitute (front ++ String.ofList (plain ++ [c]) ++ String.ofList cs)
        (front ++ String.ofList (plain ++ [c])).utf8ByteSize).map
          fun pieces => String.ofList plain :: new :: pieces := by
  have hwhole : front ++ String.ofList (plain ++ c :: cs) =
      front ++ String.ofList plain ++ String.ofList (c :: cs) := by
    rw [String.ofList_append, String.append_assoc]
  have hbehind : front ++ String.ofList (plain ++ [c]) ++ String.ofList cs =
      front ++ String.ofList plain ++ String.ofList (c :: cs) := by
    rw [String.append_assoc, ← String.ofList_append, ← hwhole, List.append_assoc]
    rfl
  have hplace : (front ++ String.ofList (plain ++ [c])).utf8ByteSize =
      (front ++ String.ofList plain).utf8ByteSize + 1 := by
    rw [String.ofList_append, ← String.append_assoc, String.utf8ByteSize_append,
      ← Text.length_bytes (String.ofList [c]), bytes_ofList_cons hascii]
    rfl
  have hbyte : (Text.bytes (front ++ String.ofList plain ++ String.ofList (c :: cs)))[
      (front ++ String.ofList plain).utf8ByteSize]? = some (UInt8.ofNat c.toNat) := by
    rw [bytes_append, bytes_ofList_cons hascii, ← Text.length_bytes]
    simp
  rw [hwhole, hbehind, hplace, scanFrom?]
  split
  · next hnone =>
    rw [nextExchanged?_exchanged front h hc hascii cs] at hnone
    cases hnone
  · next found hfound =>
    rw [nextExchanged?_exchanged front h hc hascii cs, Option.some.injEq] at hfound
    subst hfound
    rw [Text.slice?_append, hbyte, Option.bind_some, ofByte_of_ascii hascii, hc]
    cases scanFrom? substitute (front ++ String.ofList plain ++ String.ofList (c :: cs))
      ((front ++ String.ofList plain).utf8ByteSize + 1) <;> rfl

/-- From any place between two characters on, the scan of the bytes writes the pieces of the characters. -/
theorem scanFrom?_eq (hascii : substitute.IsAscii) (cs : List Char) (front : String) :
    scanFrom? substitute (front ++ String.ofList cs) front.utf8ByteSize =
      some (piecesFrom substitute [] cs) := by
  induction hn : cs.length using Nat.strongRecOn generalizing cs front with
  | ind n ih =>
    rcases exists_run substitute cs with hall | ⟨plain, c, new, rest, rfl, hplain, hc⟩
    · rw [scanFrom?_plain front hall, piecesFrom_plain hall]
      rfl
    · have hlt : rest.length < n := by
        rw [← hn, List.length_append, List.length_cons]
        omega
      rw [scanFrom?_exchanged front hplain hc (hascii c (by rw [hc]; rfl)), ih _ hlt rest _ rfl,
        piecesFrom_exchanged hplain hc]
      rfl

theorem scan?_eq (hascii : substitute.IsAscii) (s : String) :
    scan? substitute s = some (piecesFrom substitute [] s.toList) := by
  have h := scanFrom?_eq hascii s.toList ""
  rwa [String.ofList_toList, String.empty_append] at h

/-- A cut within a character. -/
def dividedCharacter : Fault := ⟨.internalInvariant, "cut within a character"⟩

/-- Writes a text with its characters exchanged, as the scan of its bytes cuts it. -/
def appendScanned (b : Buffer) (substitute : Substitution) (s : String) : Except Fault Buffer :=
  (b.reserve s.utf8ByteSize).bind fun b =>
    match scan? substitute s with
    | some pieces => b.appendAll pieces
    | none => .error dividedCharacter

/-- Nothing is different if the bytes are scanned. -/
theorem appendScanned_eq (hascii : substitute.IsAscii) (b : Buffer) (s : String) :
    b.appendScanned substitute s = b.appendMapped substitute s := by
  rw [appendScanned, appendMapped, scan?_eq hascii]

end Buffer

/-! ## The three ways of escaping -/

theorem textSubstitution_isAscii : textSubstitution.IsAscii := by
  intro c h
  rw [textSubstitution.eq_def] at h
  split at h
  all_goals first | decide | cases h

theorem isControl_ascii {c : Char} (h : isControl c) : c.toNat < 128 := by
  simp only [isControl, Bool.or_eq_true, decide_eq_true_eq] at h
  omega

theorem urlSubstitution_isAscii : urlSubstitution.IsAscii := by
  intro c h
  by_cases hc : c ∈ ['%', '#', '\\', '\x7b', '\x7d']
  · have hlisted : ∀ d ∈ ['%', '#', '\\', '\x7b', '\x7d'], d.toNat < 128 := by decide
    exact hlisted c hc
  · simp only [List.mem_cons, List.not_mem_nil, or_false, not_or] at hc
    by_cases hcontrol : isControl c
    · exact isControl_ascii hcontrol
    · simp [urlSubstitution, hc, hcontrol] at h

end Latex

end MarkupTex
