import Mathlib.Data.List.Induction
import MarkupTex.Proofs.Style.Cascade
/-!
# Kinds in sets

What the tests `contains` and `intersects` say of a union, and what kinds a proper style has: those of each
property that it declares.
-/

set_option autoImplicit false

namespace MarkupTex

namespace Kinds

variable {a b k : Kinds}

theorem union_bits (a b : Kinds) : (a ∪ b).bits = a.bits ||| b.bits := rfl

/-- Bits of a set with some of these bits over again. -/
theorem or_and_self (x y : BitVec 16) : x ||| (y &&& x) = x := by
  ext i hi
  simp

/-- What is in a set stays in it. -/
theorem contains_union_left (h : a.contains k = true) (b : Kinds) : (a ∪ b).contains k = true := by
  simp only [contains, Bool.and_eq_true, beq_iff_eq] at h ⊢
  exact ⟨by rw [union_bits, BitVec.and_or_distrib_right, h.1, or_and_self], h.2⟩

theorem contains_union_self (a : Kinds) (h : (k.bits != 0) = true) : (a ∪ k).contains k = true := by
  simp only [contains, Bool.and_eq_true, beq_iff_eq]
  refine ⟨?_, h⟩
  rw [union_bits, BitVec.and_or_distrib_right, BitVec.and_self, BitVec.or_comm, or_and_self]

/-- What has nothing to do with a kind does not bring it in. -/
theorem contains_union_of_disjoint (h : b.intersects k = false) (a : Kinds) :
    (a ∪ b).contains k = a.contains k := by
  have hnone : b.bits &&& k.bits = 0 := by simpa [intersects] using h
  rw [contains, contains, union_bits, BitVec.and_or_distrib_right, hnone]
  simp

theorem intersects_union (a b k : Kinds) :
    (a ∪ b).intersects k = (a.intersects k || b.intersects k) := by
  rw [Bool.eq_iff_iff, Bool.or_eq_true]
  simp only [intersects, bne_iff_ne, ne_eq, union_bits, BitVec.and_or_distrib_right]
  rw [show (0 : BitVec 16) = 0#16 from rfl, BitVec.or_eq_zero_iff, Classical.not_and_iff_not_or_not]

/-- What has to do with some kinds has to do with more of them. -/
theorem intersects_mono {k' : Kinds} (hk : k ∪ k' = k') (h : a.intersects k = true) :
    a.intersects k' = true := by
  rw [← hk]
  simp only [intersects, bne_iff_ne, ne_eq, union_bits, BitVec.and_or_distrib_left] at h ⊢
  rw [show (0 : BitVec 16) = 0#16 from rfl, BitVec.or_eq_zero_iff]
  exact fun hnone => h hnone.1

end Kinds

namespace Style

variable {style : Style} {d : Declaration} {ds : List Declaration} {name value : String} {k : Kinds}

/-- Declarations have to do with some kinds if one of them has. -/
theorem kindsOf_intersects_iff (ds : List Declaration) (k : Kinds) :
    (kindsOf ds).intersects k = true ↔ ∃ d ∈ ds, (Kinds.ofProperty d.name).intersects k = true := by
  induction ds using List.reverseRecOn with
  | nil => simp [kindsOf, Kinds.none, Kinds.intersects]
  | append_singleton ds d ih =>
    rw [kindsOf_concat, Kinds.intersects_union, Bool.or_eq_true, ih]
    simp only [List.mem_append, List.mem_singleton, or_and_right, exists_or, exists_eq_left]

/-- A property that is declared has an effect on its kinds. -/
theorem Proper.has_of_get? (hs : style.Proper) (h : style.get? name = some value)
    (hlower : Text.lower name = name) (hk : (Kinds.ofProperty name).intersects k = true) :
    style.has k = true := by
  rw [get?, declaration?_of_lower style hlower] at h
  obtain ⟨d, hd, -⟩ := Option.map_eq_some_iff.mp h
  rw [has, hs.kinds]
  exact (kindsOf_intersects_iff _ _).mpr ⟨d, mem_of_find? hd, name_of_find? hd ▸ hk⟩

end Style

end MarkupTex
