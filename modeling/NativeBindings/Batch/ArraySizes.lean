/-
NativeBindings/Batch/ArraySizes.lean

The distinct positive array lengths of a batch.  They are kept in ascending order without
repetition, so two collections of the same lengths are equal.
-/
import NativeBindings.Binding.CallShape
import NativeBindings.Configuration.Basic
import NativeBindings.Source.Layout

namespace NativeBindings

open Source

/-- Insert a length into an ascending list, unless it is there already. -/
def insertLength (n : UInt32) : List UInt32 → List UInt32
  | [] => [n]
  | m :: rest =>
      if n < m then n :: m :: rest
      else if n = m then m :: rest
      else m :: insertLength n rest

theorem mem_insertLength {n k : UInt32} {lengths : List UInt32} :
    k ∈ insertLength n lengths ↔ k = n ∨ k ∈ lengths := by
  induction lengths with
  | nil => simp [insertLength]
  | cons m rest ih =>
    unfold insertLength
    split
    · simp
    · split
      · rename_i h
        subst h
        simp
      · simp [ih, or_left_comm]

theorem pairwise_insertLength {n : UInt32} {lengths : List UInt32}
    (h : lengths.Pairwise (· < ·)) : (insertLength n lengths).Pairwise (· < ·) := by
  induction lengths with
  | nil => simp [insertLength]
  | cons m rest ih =>
    obtain ⟨hm, hrest⟩ := List.pairwise_cons.mp h
    unfold insertLength
    split
    · rename_i hnm
      refine List.pairwise_cons.mpr ⟨fun k hk => ?_, h⟩
      rcases List.mem_cons.mp hk with rfl | hk
      · exact hnm
      · exact UInt32.lt_trans hnm (hm k hk)
    · split
      · exact h
      · rename_i hnm hne
        refine List.pairwise_cons.mpr ⟨fun k hk => ?_, ih hrest⟩
        rcases mem_insertLength.mp hk with rfl | hk
        · exact UInt32.lt_of_le_of_ne (UInt32.not_lt.mp hnm) (Ne.symm hne)
        · exact hm k hk

/-- A set of positive array lengths. -/
structure ArraySizes where
  /-- The lengths in ascending order. -/
  sorted : List UInt32
  ascending : sorted.Pairwise (· < ·)
  positive : ∀ n ∈ sorted, 0 < n
deriving DecidableEq

namespace ArraySizes

/-- No lengths. -/
def empty : ArraySizes where
  sorted := []
  ascending := List.Pairwise.nil
  positive := by simp

/-- The set with one length more; zero is no length. -/
def insert (sizes : ArraySizes) (n : UInt32) : ArraySizes :=
  if h : 0 < n then
    { sorted := insertLength n sizes.sorted
      ascending := pairwise_insertLength sizes.ascending
      positive := fun k hk => by
        rcases mem_insertLength.mp hk with rfl | hk
        · exact h
        · exact sizes.positive k hk }
  else sizes

/-- The set with more lengths. -/
def insertAll (sizes : ArraySizes) (lengths : List UInt32) : ArraySizes :=
  lengths.foldl insert sizes

/-- The set with the array lengths of a struct. -/
def record (sizes : ArraySizes) (struct : NativeStruct) : ArraySizes :=
  sizes.insertAll (struct.fixedArrays.map FixedArray.length)

/-- The union of two sets. -/
def merge (sizes other : ArraySizes) : ArraySizes :=
  sizes.insertAll other.sorted

/-- The number of lengths. -/
def size (sizes : ArraySizes) : Nat := sizes.sorted.length

/-- Whether there is no length. -/
def isEmpty (sizes : ArraySizes) : Bool := sizes.sorted.isEmpty

/-- The lengths of all arrays of a list of structs. -/
def ofStructs (structs : List NativeStruct) : ArraySizes :=
  structs.foldl record empty

/-- The inline array type of a length. -/
def arrayType (length : UInt32) : Layout :=
  Layout.item <|
    .line ("[" ++ compilerServices ++ ".InlineArrayAttribute(" ++ toString length.toNat ++ ")]") ::
      Layout.scope
        ("public struct FixedSizeArray" ++ toString length.toNat ++ "<T> where T : unmanaged")
        [.line "private T _element0;"]

/-- The source of the inline array types, one for each length. -/
def render (sizes : ArraySizes) (config : Configuration) : String :=
  Layout.render (Layout.fileHeader config.generatedNamespace ++ sizes.sorted.flatMap arrayType)

end ArraySizes

/-! ### Two collections side by side -/

/-- One of two collections. -/
inductive ArraySizes.Side where
  | left
  | right
deriving DecidableEq

/-- A step on two collections. -/
inductive ArraySizes.Step where
  /-- Record a struct in one collection. -/
  | record (target : Side) (struct : NativeStruct)
  /-- Add all lengths of the second collection to the first one named. -/
  | merge (target source : Side)
deriving DecidableEq

/-- Two collections. -/
structure ArraySizes.Two where
  left : ArraySizes := ArraySizes.empty
  right : ArraySizes := ArraySizes.empty
deriving DecidableEq

namespace ArraySizes.Two

/-- One of the collections. -/
def get (two : Two) : Side → ArraySizes
  | .left => two.left
  | .right => two.right

/-- Replace one of the collections. -/
def set (two : Two) (side : Side) (sizes : ArraySizes) : Two :=
  match side with
  | .left => { two with left := sizes }
  | .right => { two with right := sizes }

/-- Take a step. -/
def step (two : Two) : Step → Two
  | .record target struct => two.set target ((two.get target).record struct)
  | .merge target source => two.set target ((two.get target).merge (two.get source))

end ArraySizes.Two

end NativeBindings
