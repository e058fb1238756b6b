/-
NativeBindings/Signature/Word.lean

Words of eight bytes, the first byte being the least significant.
-/

namespace NativeBindings.Signature

/-- Bytes per word. -/
def bytesPerWord : Nat := 8

/-- The number with the given bytes, the least significant first. -/
def littleEndian : List UInt8 → Nat
  | [] => 0
  | b :: bs => b.toNat + 256 * littleEndian bs

/-- The `count` least significant bytes of a number, the least significant first. -/
def bytesOf : (count : Nat) → Nat → List UInt8
  | 0, _ => []
  | count + 1, n => UInt8.ofNat (n % 256) :: bytesOf count (n / 256)

/-- The word with the given bytes. -/
def wordOfBytes (bytes : List UInt8) : UInt64 :=
  UInt64.ofNat (littleEndian bytes)

/-- The eight bytes of a word. -/
def wordBytes (word : UInt64) : List UInt8 :=
  bytesOf bytesPerWord word.toNat

/-- The whole groups of eight, in order; an incomplete group at the end is dropped. -/
def groups {α : Type} : List α → List (List α)
  | a :: b :: c :: d :: e :: f :: g :: h :: rest => [a, b, c, d, e, f, g, h] :: groups rest
  | _ => []

end NativeBindings.Signature
