import MarkupTex.Proofs.Document.Cells
import MarkupTex.Proofs.Text.Numeral
/-!
# The columns that are asked for

A `colspan` that writes a positive number is that number, but for two bounds of a different kind.  Up to the
largest number of 64 bits what is too large is cut down to `maxColspan`; beyond it the numeral is not read, and
the cell has one column, as if nothing had been asked for.  So the columns of a cell do not always grow with
the number (`parseColspan_beyond`).
-/

set_option autoImplicit false

namespace MarkupTex

open Text

variable {v : String} {n : Nat}

/-- A number of 64 bits is cut down to what a cell can span. -/
theorem parseColspan_of_writes (h : Writes v n) (hn : 1 ≤ n) (hbound : n ≤ 9223372036854775807) :
    parseColspan (some v) = min n maxColspan := by
  have hread := (int64?_trim_eq_some_iff hn).mpr ⟨h, hbound⟩
  have hpos : (1 : Int) ≤ n := by exact_mod_cast hn
  rw [parseColspan, Option.bind_some, hread]
  simp only [if_pos hpos, Int.toNat_natCast]

/-- What is not read as a positive number is one column. -/
theorem parseColspan_of_not_read (h : ∀ m : Nat, 1 ≤ m → int64? (trim v) ≠ some (m : Int)) :
    parseColspan (some v) = 1 := by
  rw [parseColspan, Option.bind_some]
  cases hread : int64? (trim v) with
  | none => rfl
  | some m =>
    refine if_neg fun hm => h m.toNat (by omega) ?_
    rw [hread, Int.toNat_of_nonneg (by omega)]

/-- A numeral beyond 64 bits is not read. -/
theorem parseColspan_of_large (h : Writes v n) (hbound : 9223372036854775807 < n) :
    parseColspan (some v) = 1 := by
  refine parseColspan_of_not_read fun m hm hread => ?_
  obtain ⟨hwrites, hle⟩ := (int64?_trim_eq_some_iff hm).mp hread
  have := hwrites.unique h hm (by omega)
  omega

/-- How many columns a value asks for: a positive number, however it is written, is that many columns up to
`maxColspan`, unless it takes more than 64 bits, which makes it one column; and one column is what comes of every
other value, and of none.  In every case a cell has between one and `maxColspan` columns. -/
theorem parseColspan_settles (value : Option String) :
    (∀ v n, value = some v → Writes v n → 1 ≤ n →
      parseColspan value = if n ≤ 9223372036854775807 then min n maxColspan else 1) ∧
    ((∀ v n, value = some v → Writes v n → n = 0) → parseColspan value = 1) ∧
    ∀ name attributes header colspan, Tag.resolve name attributes = .tableCell header colspan →
      1 ≤ colspan ∧ colspan ≤ maxColspan := by
  refine ⟨?_, ?_, ?_⟩
  · rintro v n rfl hwrites hn
    split
    · next hbound => exact parseColspan_of_writes hwrites hn hbound
    · next hbound => exact parseColspan_of_large hwrites (Nat.lt_of_not_le hbound)
  · intro hnone
    cases value with
    | none => rfl
    | some v =>
      refine parseColspan_of_not_read fun m hm hread => ?_
      have := hnone v m rfl ((int64?_trim_eq_some_iff hm).mp hread).1
      omega
  · intro name attributes header colspan htag
    obtain ⟨value, rfl⟩ := Document.exists_parseColspan (e := ⟨name, attributes⟩) htag
    exact ⟨Document.parseColspan_pos value, Document.parseColspan_le value⟩

/-- Three columns with a plus sign, zeros and blanks around. -/
theorem parseColspan_settles_padded :
    Writes " +003\t" 3 ∧ parseColspan (some " +003\t") = 3 := by
  have hwrites : Writes " +003\t" 3 :=
    ⟨[' '], ['+'], ['0', '0', '3'], ['\t'], by decide, by decide, by decide, .inr rfl, by decide,
      by decide, by decide⟩
  exact ⟨hwrites, (parseColspan_settles (some " +003\t")).1 _ 3 rfl hwrites (by decide)⟩

/-- The first number beyond 64 bits is less than the one before it. -/
theorem parseColspan_beyond :
    Writes "9223372036854775808" 9223372036854775808 ∧
      parseColspan (some "9223372036854775808") = 1 ∧
      parseColspan (some "9223372036854775807") = maxColspan := by
  have hwrites : ∀ s n, s.toList ≠ [] → (∀ c ∈ s.toList, c.isDigit = true) →
      Nat.ofDigits 10 (s.toList.reverse.map digitValue) = n → Writes s n := fun s n hne hdigits hvalue =>
    ⟨[], [], s.toList, [], by simp, rfl, rfl, .inl rfl, hne, hdigits, hvalue⟩
  have hlarge := hwrites "9223372036854775808" 9223372036854775808 (by decide) (by decide) (by decide)
  have hsmall := hwrites "9223372036854775807" 9223372036854775807 (by decide) (by decide) (by decide)
  exact ⟨hlarge, parseColspan_of_large hlarge (by decide),
    parseColspan_of_writes hsmall (by decide) (by decide)⟩

end MarkupTex
