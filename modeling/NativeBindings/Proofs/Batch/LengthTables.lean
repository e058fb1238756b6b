/-
NativeBindings/Proofs/Batch/LengthTables.lean

Two collections of array lengths, filled step by step.  A step records a struct in one of them, or
merges into one of them what the other one, or itself, holds at that moment.  So a length arrives in
a collection with a struct or from a collection where it has arrived before (`Arrives`), and stays:

    n ∈ ((run steps).get side).sorted  ↔  0 < n ∧ Arrives n steps side.

The lengths can be kept in hash tables as well (`LengthTable`).  A table goes through its lengths in
an order that comes from the hash function and from all that was done to it.  No such order shows:
for every hash function the tables hold after each step what the collections hold
(`LengthTable.holds_run`), and a table is asked for its lengths by sorting them, which leaves one
list only.
-/
import Mathlib.Data.List.Induction
import Mathlib.Data.List.Perm.Subperm
import Mathlib.Logic.Function.Basic
import NativeBindings.Proofs.Batch.ArraySizes
import NativeBindings.Proofs.Batch.ArrayTypes

namespace NativeBindings

namespace ArraySizes

/-! ### Steps on two collections -/

/-- Both collections after some steps; they are empty at first. -/
def run (steps : List Step) : Two := steps.foldl Two.step {}

/-- A length arrives in a collection, with a struct that is recorded or with all that the source of
a merger holds by then; and what has arrived stays. -/
inductive Arrives (n : UInt32) : List Step → Side → Prop where
  | record {steps : List Step} {target : Side} {struct : NativeStruct} {array : FixedArray}
      (harray : array ∈ struct.fixedArrays) (hlength : array.length = n) :
      Arrives n (steps ++ [.record target struct]) target
  | merge {steps : List Step} {source : Side} (target : Side) (h : Arrives n steps source) :
      Arrives n (steps ++ [.merge target source]) target
  | stay {steps : List Step} {side : Side} (step : Step) (h : Arrives n steps side) :
      Arrives n (steps ++ [step]) side

/-- A step brings a length to a collection; the others are those that a merger can bring. -/
def Step.Brings (n : UInt32) (holds : Side → Prop) (side : Side) : Step → Prop
  | record target struct => target = side ∧ ∃ array ∈ struct.fixedArrays, array.length = n
  | merge target source => target = side ∧ holds source

variable {n : UInt32} {steps : List Step} {step : Step} {side : Side} {two : Two}

theorem run_concat (steps : List Step) (step : Step) :
    run (steps ++ [step]) = (run steps).step step :=
  List.foldl_append

theorem get_set (two : Two) (target side : Side) (sizes : ArraySizes) :
    (two.set target sizes).get side = if target = side then sizes else two.get side := by
  cases target <;> cases side <;> rfl

/-- **One step** adds what it brings and takes nothing away. -/
theorem mem_get_step :
    n ∈ ((two.step step).get side).sorted ↔
      n ∈ (two.get side).sorted ∨
        0 < n ∧ step.Brings n (fun source => n ∈ (two.get source).sorted) side := by
  cases step with
  | record target struct =>
    rw [Two.step, get_set, Step.Brings]
    rcases Decidable.em (target = side) with rfl | hside
    · simp [mem_record]
    · simp [hside]
  | merge target source =>
    rw [Two.step, get_set, Step.Brings]
    rcases Decidable.em (target = side) with rfl | hside
    · have hpositive : n ∈ (two.get source).sorted → 0 < n := (two.get source).positive n
      simp [mem_merge, and_iff_right_of_imp hpositive]
    · simp [hside]

theorem arrives_concat :
    Arrives n (steps ++ [step]) side ↔
      Arrives n steps side ∨ step.Brings n (Arrives n steps) side := by
  constructor
  · intro h
    generalize hsteps : steps ++ [step] = all at h
    cases h with
    | record harray hlength =>
      obtain ⟨rfl, rfl⟩ := List.append_singleton_inj.mp hsteps
      exact .inr ⟨rfl, _, harray, hlength⟩
    | merge target h =>
      obtain ⟨rfl, rfl⟩ := List.append_singleton_inj.mp hsteps
      exact .inr ⟨rfl, h⟩
    | stay step h =>
      obtain ⟨rfl, rfl⟩ := List.append_singleton_inj.mp hsteps
      exact .inl h
  · rintro (h | h)
    · exact h.stay step
    · cases step with
      | record target struct =>
        obtain ⟨rfl, array, harray, hlength⟩ := h
        exact .record harray hlength
      | merge target source =>
        obtain ⟨rfl, h⟩ := h
        exact h.merge target

theorem not_arrives_nil : ¬ Arrives n [] side := by
  intro h
  generalize hsteps : ([] : List Step) = all at h
  cases h <;> simp at hsteps

/-- **A collection holds the positive lengths that have arrived in it.** -/
theorem mem_get_run : n ∈ ((run steps).get side).sorted ↔ 0 < n ∧ Arrives n steps side := by
  -- the side is general, since a merger looks at the other one
  induction steps using List.reverseRecOn generalizing side with
  | nil =>
    have hempty : (run []).get side = empty := by cases side <;> rfl
    rw [hempty, mem_empty, false_iff]
    exact fun h => not_arrives_nil h.2
  | append_singleton steps step ih =>
    rw [run_concat, mem_get_step, arrives_concat, ih, ← and_or_left]
    refine and_congr_right fun hn => or_congr_right ?_
    cases step with
    | record target struct => exact Iff.rfl
    | merge target source => exact and_congr_right fun _ => ih.trans (and_iff_right hn)

end ArraySizes

/-! ### Hash tables -/

section Tables

-- the hash function is arbitrary, and with it the order in which a table is gone through
variable [Hashable UInt32]

/-- Lengths in a hash table. -/
structure LengthTable where
  lengths : Std.HashSet UInt32 := {}

namespace LengthTable

open ArraySizes (Side Step)

/-- The table with the positive array lengths of a struct. -/
def record (table : LengthTable) (struct : NativeStruct) : LengthTable where
  lengths := table.lengths.insertMany
    ((struct.fixedArrays.map FixedArray.length).filter (0 < ·))

/-- The table with the lengths of another one, which is gone through in its order. -/
def merge (table other : LengthTable) : LengthTable where
  lengths := table.lengths.insertMany other.lengths.toList

/-- The number of lengths. -/
def size (table : LengthTable) : Nat := table.lengths.size

/-- Whether there is no length. -/
def isEmpty (table : LengthTable) : Bool := table.lengths.isEmpty

/-- Tables are equal if they are of one size and one of them has all lengths of the other. -/
def equals (table other : LengthTable) : Bool :=
  table.lengths.size == other.lengths.size && table.lengths.all other.lengths.contains

/-- The lengths as the table is gone through, sorted. -/
def sorted (table : LengthTable) : List UInt32 := table.lengths.toList.mergeSort

/-- The source of the inline array types, one for each length. -/
def render (table : LengthTable) (config : Configuration) : String :=
  Source.Layout.render (Source.Layout.fileHeader config.generatedNamespace ++
    table.sorted.flatMap ArraySizes.arrayType)

/-- Take a step on two tables. -/
def step (tables : Side → LengthTable) : Step → Side → LengthTable
  | .record target struct => Function.update tables target ((tables target).record struct)
  | .merge target source => Function.update tables target ((tables target).merge (tables source))

/-- Both tables after some steps; they are empty at first. -/
def run (steps : List Step) : Side → LengthTable := steps.foldl step fun _ => {}

variable {table other : LengthTable} {sizes : ArraySizes} {n : UInt32}

/-! ### What a table holds -/

/-- A table and a collection of the same lengths. -/
def Holds (table : LengthTable) (sizes : ArraySizes) : Prop :=
  ∀ n, n ∈ table.lengths ↔ n ∈ sizes.sorted

theorem mem_record {struct : NativeStruct} :
    n ∈ (table.record struct).lengths ↔
      n ∈ table.lengths ∨ 0 < n ∧ ∃ array ∈ struct.fixedArrays, array.length = n := by
  rw [record, Std.HashSet.mem_insertMany_list, List.contains_iff_mem, List.mem_filter, List.mem_map,
    decide_eq_true_iff, and_comm]

theorem mem_merge :
    n ∈ (table.merge other).lengths ↔ n ∈ table.lengths ∨ n ∈ other.lengths := by
  rw [merge, Std.HashSet.mem_insertMany_list, List.contains_iff_mem, Std.HashSet.mem_toList]

theorem mem_sorted : n ∈ table.sorted ↔ n ∈ table.lengths :=
  (List.mergeSort_perm _ _).mem_iff.trans Std.HashSet.mem_toList

theorem nodup_toList (table : LengthTable) : table.lengths.toList.Nodup :=
  Std.HashSet.distinct_toList.imp ne_of_beq_false

/-- Sorting leaves no trace of the order in which a table is gone through. -/
theorem pairwise_sorted (table : LengthTable) : table.sorted.Pairwise (· < ·) := by
  have hle : table.sorted.Pairwise fun m n => decide (m ≤ n) = true :=
    @List.pairwise_mergeSort _ (fun m n => decide (m ≤ n))
      (fun _ _ _ h h' => decide_eq_true
        (UInt32.le_trans (of_decide_eq_true h) (of_decide_eq_true h')))
      (fun m n => by simp [UInt32.le_total]) _
  have hne : table.sorted.Nodup := (List.mergeSort_perm _ _).nodup_iff.mpr table.nodup_toList
  refine (hle.and hne).imp ?_
  rintro m n ⟨hmn, hdistinct⟩
  exact UInt32.lt_of_le_of_ne (of_decide_eq_true hmn) hdistinct

theorem length_sorted (table : LengthTable) : table.sorted.length = table.size :=
  (List.mergeSort_perm _ _).length_eq.trans Std.HashSet.length_toList

theorem sorted_inj : table.sorted = other.sorted ↔ ∀ n, n ∈ table.lengths ↔ n ∈ other.lengths := by
  constructor
  · intro h n
    rw [← mem_sorted, h, mem_sorted]
  · intro h
    refine table.pairwise_sorted.eq_of_mem_iff other.pairwise_sorted fun n => ?_
    rw [mem_sorted, mem_sorted, h]

/-- Equality does not look at the order either. -/
theorem equals_iff : table.equals other = true ↔ table.sorted = other.sorted := by
  rw [equals, Bool.and_eq_true_iff, beq_iff_eq, Std.HashSet.all_eq_true_iff_forall_mem, sorted_inj]
  constructor
  · rintro ⟨hsize, hall⟩
    -- one list of distinct lengths inside another one that is no longer
    have hsubset : table.lengths.toList ⊆ other.lengths.toList := fun n hn =>
      Std.HashSet.mem_toList.mpr (hall n (Std.HashSet.mem_toList.mp hn))
    have hperm := (List.subperm_of_subset table.nodup_toList hsubset).perm_of_length_le
      (by rw [Std.HashSet.length_toList, Std.HashSet.length_toList, hsize])
    intro n
    rw [← Std.HashSet.mem_toList, hperm.mem_iff, Std.HashSet.mem_toList]
  · intro h
    refine ⟨?_, fun n hn => (h n).mp hn⟩
    have hsorted := congrArg List.length (sorted_inj.mpr h)
    rwa [length_sorted, length_sorted] at hsorted

theorem render_eq (table : LengthTable) (config : Configuration) :
    table.render config = bannerText config.generatedNamespace ++ arrayTypesText table.sorted :=
  render_arrayTypes _ _

/-- A source tells which lengths the table holds, and nothing else about it. -/
theorem render_inj {config : Configuration} :
    table.render config = other.render config ↔ table.sorted = other.sorted := by
  rw [render_eq, render_eq, String.append_right_inj, arrayTypesText_inj]

theorem Holds.sorted_eq (h : table.Holds sizes) : table.sorted = sizes.sorted :=
  table.pairwise_sorted.eq_of_mem_iff sizes.ascending fun n => mem_sorted.trans (h n)

/-! ### Runs -/

theorem Holds.record (h : table.Holds sizes) (struct : NativeStruct) :
    (table.record struct).Holds (sizes.record struct) := by
  intro n
  rw [mem_record, ArraySizes.mem_record, h n]

theorem Holds.merge {others : ArraySizes} (h : table.Holds sizes) (hother : other.Holds others) :
    (table.merge other).Holds (sizes.merge others) := by
  intro n
  rw [mem_merge, ArraySizes.mem_merge, h n, hother n]

/-- What is put in the place of one table and one collection. -/
theorem holds_update {tables : Side → LengthTable} {two : ArraySizes.Two} {target : Side}
    (h : ∀ side, (tables side).Holds (two.get side)) (htarget : table.Holds sizes) (side : Side) :
    (Function.update tables target table side).Holds ((two.set target sizes).get side) := by
  rw [ArraySizes.get_set]
  rcases Decidable.em (target = side) with rfl | hside
  · rw [Function.update_self, if_pos rfl]
    exact htarget
  · rw [Function.update_of_ne (Ne.symm hside), if_neg hside]
    exact h side

/-- **Tables and collections hold the same lengths at every point of a run.** -/
theorem holds_run (steps : List Step) (side : Side) :
    (run steps side).Holds ((ArraySizes.run steps).get side) := by
  induction steps using List.reverseRecOn generalizing side with
  | nil =>
    intro n
    have hempty : (ArraySizes.run []).get side = ArraySizes.empty := by cases side <;> rfl
    rw [hempty, ArraySizes.mem_empty, iff_false]
    exact Std.HashSet.not_mem_empty
  | append_singleton steps step ih =>
    rw [run, List.foldl_append, ArraySizes.run_concat]
    cases step with
    | record target struct => exact holds_update ih ((ih target).record struct) side
    | merge target source => exact holds_update ih ((ih target).merge (ih source)) side

/-- A table that shows what a collection shows. -/
structure ShowsAs (table : LengthTable) (sizes : ArraySizes) : Prop where
  sorted_eq : table.sorted = sizes.sorted
  size_eq : table.size = sizes.size
  isEmpty_eq : table.isEmpty = sizes.isEmpty
  render_eq : ∀ config, table.render config = sizes.render config

theorem Holds.showsAs (h : table.Holds sizes) : table.ShowsAs sizes where
  sorted_eq := h.sorted_eq
  size_eq := by
    rw [← length_sorted, h.sorted_eq]
    rfl
  isEmpty_eq := by
    rw [Bool.eq_iff_iff, isEmpty, Std.HashSet.isEmpty_eq_size_eq_zero, beq_iff_eq,
      ArraySizes.isEmpty, List.isEmpty_iff_length_eq_zero, ← h.sorted_eq, length_sorted]
    rfl
  render_eq := fun config => by
    rw [render, h.sorted_eq]
    rfl

end LengthTable

end Tables

/-! ### Collections as sets -/

namespace ArraySizes

/-- A collection that shows the positive ones of some lengths. -/
structure Shows (sizes : ArraySizes) (lengths : UInt32 → Prop) : Prop where
  ascending : sizes.sorted.Pairwise (· < ·)
  zero_not_mem : 0 ∉ sizes.sorted
  mem_iff : ∀ n, n ∈ sizes.sorted ↔ 0 < n ∧ lengths n
  size_eq : sizes.size = sizes.sorted.length
  isEmpty_iff : sizes.isEmpty = true ↔ sizes.size = 0

/-- Merging in which neither the order nor the grouping counts, and no repetition either. -/
def MergesAsSets {α : Type} (merge : α → α → α) (sorted : α → List UInt32) : Prop :=
  ∀ a b c, sorted (merge a b) = sorted (merge b a) ∧
    sorted (merge (merge a b) c) = sorted (merge a (merge b c)) ∧
    sorted (merge a a) = sorted a

theorem shows_get_run (steps : List Step) (side : Side) :
    ((run steps).get side).Shows fun n => Arrives n steps side where
  ascending := ((run steps).get side).ascending
  zero_not_mem := fun h => absurd (((run steps).get side).positive 0 h) (UInt32.lt_irrefl 0)
  mem_iff := fun _ => mem_get_run
  size_eq := rfl
  isEmpty_iff := List.isEmpty_iff_length_eq_zero

theorem eq_iff_sorted {sizes other : ArraySizes} : sizes = other ↔ sizes.sorted = other.sorted :=
  ⟨congrArg sorted, fun h => ext_mem fun _ => by rw [h]⟩

/-- **Collections of lengths are sets.**  At every point of a run, each of the two collections shows
the positive lengths that have arrived in it; a hash table that is filled in the same way shows the
same, for every hash function.  Collections and tables are equal if they show the same lengths, and
merging them is commutative, associative and idempotent.  Their source has one type for each length
in ascending order, so those that are equal, and no others, have the same source. -/
theorem run_shows_arrivals [Hashable UInt32] :
    (∀ steps side,
      ((run steps).get side).Shows (fun n => Arrives n steps side) ∧
        (LengthTable.run steps side).ShowsAs ((run steps).get side)) ∧
    (∀ sizes other : ArraySizes, sizes = other ↔ sizes.sorted = other.sorted) ∧
    (∀ table other : LengthTable, table.equals other = true ↔ table.sorted = other.sorted) ∧
    MergesAsSets merge sorted ∧ MergesAsSets LengthTable.merge LengthTable.sorted ∧
    (∀ (sizes : ArraySizes) (config : Configuration),
      sizes.render config = bannerText config.generatedNamespace ++ arrayTypesText sizes.sorted) ∧
    ∀ (table other : LengthTable) (config : Configuration),
      table.render config = bannerText config.generatedNamespace ++ arrayTypesText table.sorted ∧
        (table.equals other = true ↔ table.render config = other.render config) := by
  refine ⟨fun steps side => ⟨shows_get_run steps side, (LengthTable.holds_run steps side).showsAs⟩,
    fun _ _ => eq_iff_sorted, fun _ _ => LengthTable.equals_iff, ?_, ?_,
    fun sizes config => render_arrayTypes _ _,
    fun table other config => ⟨table.render_eq config, ?_⟩⟩
  · intro a b c
    exact ⟨congrArg sorted (merge_comm a b), congrArg sorted (merge_assoc a b c),
      congrArg sorted (merge_self a)⟩
  · intro a b c
    refine ⟨LengthTable.sorted_inj.mpr fun n => ?_, LengthTable.sorted_inj.mpr fun n => ?_,
      LengthTable.sorted_inj.mpr fun n => ?_⟩
    · rw [LengthTable.mem_merge, LengthTable.mem_merge, or_comm]
    · simp only [LengthTable.mem_merge, or_assoc]
    · rw [LengthTable.mem_merge, or_self]
  · rw [LengthTable.equals_iff, LengthTable.render_inj]

end ArraySizes

end NativeBindings
