/-
NativeBindings/Proofs/Batch/ArraySizes.lean

What a collection of array lengths holds.  Every way to add lengths is an insertion, so each member
law is the one before it, one level up: a length, a list of lengths, a struct or another collection,
a list of structs (`mem_ofStructs`).  A collection is its members (`ext_mem`), so the order in which
structs come does not count, and merging is the union of sets.
-/
import NativeBindings.Batch.ArraySizes
import Mathlib.Data.List.Sort

namespace NativeBindings.ArraySizes

@[simp] theorem mem_empty (n : UInt32) : n ∈ empty.sorted ↔ False := by
  simp [empty]

theorem mem_insert {sizes : ArraySizes} {m n : UInt32} :
    n ∈ (sizes.insert m).sorted ↔ n ∈ sizes.sorted ∨ 0 < n ∧ n = m := by
  rw [insert]
  split
  · rename_i hpos
    rw [mem_insertLength, or_comm]
    constructor
    · rintro (h | rfl)
      · exact .inl h
      · exact .inr ⟨hpos, rfl⟩
    · rintro (h | ⟨-, rfl⟩)
      · exact .inl h
      · exact .inr rfl
  · rename_i hzero
    constructor
    · exact .inl
    · rintro (h | ⟨hpos, rfl⟩)
      · exact h
      · exact (hzero hpos).elim

theorem mem_insertAll {sizes : ArraySizes} {lengths : List UInt32} {n : UInt32} :
    n ∈ (sizes.insertAll lengths).sorted ↔ n ∈ sizes.sorted ∨ 0 < n ∧ n ∈ lengths := by
  induction lengths generalizing sizes with
  | nil => simp [insertAll]
  | cons m lengths ih =>
    show n ∈ ((sizes.insert m).insertAll lengths).sorted ↔ _
    rw [ih, mem_insert, or_assoc, ← and_or_left, List.mem_cons]

theorem mem_record {sizes : ArraySizes} {struct : NativeStruct} {n : UInt32} :
    n ∈ (sizes.record struct).sorted ↔
      n ∈ sizes.sorted ∨ 0 < n ∧ ∃ array ∈ struct.fixedArrays, array.length = n := by
  rw [record, mem_insertAll, List.mem_map]

theorem mem_merge {sizes other : ArraySizes} {n : UInt32} :
    n ∈ (sizes.merge other).sorted ↔ n ∈ sizes.sorted ∨ n ∈ other.sorted := by
  rw [merge, mem_insertAll]
  exact or_congr_right ⟨And.right, fun h => ⟨other.positive n h, h⟩⟩

/-- The lengths of a batch are those of its arrays that are not empty. -/
theorem mem_ofStructs {structs : List NativeStruct} {n : UInt32} :
    n ∈ (ofStructs structs).sorted ↔
      0 < n ∧ ∃ struct ∈ structs, ∃ array ∈ struct.fixedArrays, array.length = n := by
  -- the collection at hand is general, so that the step can move a struct into it
  have hfold : ∀ sizes : ArraySizes, n ∈ (structs.foldl record sizes).sorted ↔
      n ∈ sizes.sorted ∨
        0 < n ∧ ∃ struct ∈ structs, ∃ array ∈ struct.fixedArrays, array.length = n := by
    induction structs with
    | nil => simp
    | cons struct structs ih =>
      intro sizes
      rw [List.foldl_cons, ih, mem_record, or_assoc, ← and_or_left]
      simp only [List.mem_cons, exists_eq_or_imp]
  rw [ofStructs, hfold, mem_empty, false_or]

/-- Collections with the same members are the same. -/
theorem ext_mem {sizes other : ArraySizes} (h : ∀ n, n ∈ sizes.sorted ↔ n ∈ other.sorted) :
    sizes = other := by
  obtain ⟨lengths, hlengths, hpositive⟩ := sizes
  obtain ⟨lengths', hlengths', hpositive'⟩ := other
  have : lengths = lengths' := hlengths.eq_of_mem_iff hlengths' h
  subst this
  rfl

theorem merge_comm (sizes other : ArraySizes) : sizes.merge other = other.merge sizes := by
  refine ext_mem fun n => ?_
  rw [mem_merge, mem_merge, or_comm]

theorem merge_assoc (sizes other third : ArraySizes) :
    (sizes.merge other).merge third = sizes.merge (other.merge third) := by
  refine ext_mem fun n => ?_
  rw [mem_merge, mem_merge, mem_merge, mem_merge, or_assoc]

theorem merge_self (sizes : ArraySizes) : sizes.merge sizes = sizes := by
  refine ext_mem fun n => ?_
  rw [mem_merge, or_self]

theorem ofStructs_perm {structs other : List NativeStruct} (h : structs.Perm other) :
    ofStructs structs = ofStructs other := by
  refine ext_mem fun n => ?_
  rw [mem_ofStructs, mem_ofStructs]
  simp only [h.mem_iff]

end NativeBindings.ArraySizes
