/-
NativeBindings/Configuration/Basic.lean

What all sources of a run share: the width of a pointer of the target, and the namespaces of the
resolver that the sources call and of the sources that cover a whole batch.
-/

namespace NativeBindings

/-- The shared settings. -/
structure Configuration where
  /-- The width of a pointer in bytes. -/
  pointerSize : UInt32 := 8
  /-- The namespace of the types that the sources call. -/
  runtimeNamespace : String := "Interop.Runtime"
  /-- The namespace of the sources that cover a whole batch. -/
  generatedNamespace : String := "Interop.Generated"
  /-- Whether structs may be compiled side by side; the sources do not depend on it. -/
  parallel : Bool := true
deriving DecidableEq

namespace Configuration

/-- The defaults for a target with another pointer width. -/
def ofPointerSize (pointerSize : UInt32) : Configuration := { pointerSize }

/-- The full name of a type that the sources call. -/
def runtimeType (config : Configuration) (name : String) : String :=
  "global::" ++ config.runtimeNamespace ++ "." ++ name

/-- The byte offset of a slot of a virtual table. -/
def slotOffset (config : Configuration) (index : UInt32) : UInt64 :=
  index.toUInt64 * config.pointerSize.toUInt64

/-- A product of two numbers of 32 bits fits into 64 bits. -/
theorem toNat_slotOffset (config : Configuration) (index : UInt32) :
    (config.slotOffset index).toNat = index.toNat * config.pointerSize.toNat := by
  have hi := index.toNat_lt
  have hp := config.pointerSize.toNat_lt
  have : index.toNat * config.pointerSize.toNat ≤ (2 ^ 32 - 1) * (2 ^ 32 - 1) :=
    Nat.mul_le_mul (by omega) (by omega)
  simp only [slotOffset, UInt64.toNat_mul, UInt32.toNat_toUInt64]
  exact Nat.mod_eq_of_lt (by omega)

end Configuration

end NativeBindings
