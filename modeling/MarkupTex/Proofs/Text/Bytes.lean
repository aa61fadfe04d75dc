import MarkupTex.Text.Blank
/-!
# Texts by their bytes

In UTF-8 a character of ASCII is one byte, and the bytes of any other character are all above.  So a text of which
all bytes are small can be read byte by byte.  The words of a table are looked through that way
(`of_byteChars`), without decoding any of them.
-/

set_option autoImplicit false

namespace MarkupTex.Text

/-- The bytes of a text in UTF-8. -/
def bytes (s : String) : List UInt8 := s.toByteArray.data.toList

theorem bytes_eq (s : String) : bytes s = s.toList.flatMap String.utf8EncodeChar := by
  rw [bytes, ← String.utf8Encode_toList]
  simp [List.utf8Encode]

theorem length_bytes (s : String) : (bytes s).length = s.utf8ByteSize := by
  rw [bytes, Array.length_toList, ← String.size_toByteArray]
  rfl

/-! ## Bytes of a character -/

theorem utf8EncodeChar_of_ascii {c : Char} (h : c.toNat < 128) :
    String.utf8EncodeChar c = [UInt8.ofNat c.toNat] :=
  if_pos (Nat.le_of_lt_succ h)

theorem le_toNat_ofNat {n : Nat} (h : 128 ≤ n) (hlt : n < 256) : 128 ≤ (UInt8.ofNat n).toNat := by
  rw [UInt8.toNat_ofNat']
  omega

/-- All the bytes of a character beyond ASCII are beyond ASCII. -/
theorem le_of_mem_utf8EncodeChar {c : Char} (h : 128 ≤ c.toNat) :
    ∀ byte ∈ String.utf8EncodeChar c, 128 ≤ byte.toNat := by
  have hbig : ¬ c.val.toNat ≤ 127 := Nat.not_le.mpr h
  intro byte hbyte
  simp only [String.utf8EncodeChar, hbig, if_false] at hbyte
  split at hbyte
  · simp only [List.mem_cons, List.not_mem_nil, or_false] at hbyte
    rcases hbyte with rfl | rfl
    all_goals exact le_toNat_ofNat (by omega) (by omega)
  · split at hbyte
    · simp only [List.mem_cons, List.not_mem_nil, or_false] at hbyte
      rcases hbyte with rfl | rfl | rfl
      all_goals exact le_toNat_ofNat (by omega) (by omega)
    · simp only [List.mem_cons, List.not_mem_nil, or_false] at hbyte
      rcases hbyte with rfl | rfl | rfl | rfl
      all_goals exact le_toNat_ofNat (by omega) (by omega)

/-- A character with a byte of ASCII is one of ASCII. -/
theorem lt_of_all_utf8EncodeChar {c : Char} (h : (String.utf8EncodeChar c).all fun byte => byte < 128) :
    c.toNat < 128 := by
  refine Nat.lt_of_not_le fun hlarge => ?_
  obtain ⟨byte, hbyte⟩ := List.exists_mem_of_ne_nil _ String.utf8EncodeChar_ne_nil
  have hsmall : byte < 128 := of_decide_eq_true (List.all_eq_true.mp h byte hbyte)
  exact Nat.not_lt.mpr (le_of_mem_utf8EncodeChar hlarge byte hbyte) hsmall

/-! ## Texts of ASCII -/

/-- All bytes of the text are characters of ASCII. -/
def isAscii (s : String) : Bool := (bytes s).all fun byte => byte < 128

/-- Each byte of the text taken for a character. -/
def byteChars (s : String) : List Char := (bytes s).map fun byte => Char.ofNat byte.toNat

theorem map_flatMap_utf8EncodeChar {cs : List Char}
    (h : (cs.flatMap String.utf8EncodeChar).all fun byte => byte < 128) :
    (cs.flatMap String.utf8EncodeChar).map (fun byte => Char.ofNat byte.toNat) = cs := by
  induction cs with
  | nil => rfl
  | cons c cs ih =>
    rw [List.flatMap_cons, List.all_append, Bool.and_eq_true] at h
    have hc := lt_of_all_utf8EncodeChar h.1
    have hback : (UInt8.ofNat c.toNat).toNat = c.toNat := UInt8.toNat_ofNat_of_lt' (Nat.lt_trans hc (by decide))
    rw [List.flatMap_cons, List.map_append, ih h.2, utf8EncodeChar_of_ascii hc, List.map_singleton, hback,
      Char.ofNat_toNat, List.singleton_append]

theorem toList_of_isAscii {s : String} (h : isAscii s) : s.toList = byteChars s := by
  rw [isAscii, bytes_eq] at h
  rw [byteChars, bytes_eq, map_flatMap_utf8EncodeChar h]

/-- What holds of each text of a row by its bytes holds of it by its characters. -/
theorem of_byteChars {α : Type} {P : α → List Char → Prop} {name : α → String} {rows : List α}
    (h : ∀ row ∈ rows, isAscii (name row) ∧ P row (byteChars (name row))) :
    ∀ row ∈ rows, P row (name row).toList := by
  intro row hrow
  obtain ⟨hascii, hrow⟩ := h row hrow
  rwa [toList_of_isAscii hascii]

end MarkupTex.Text
