/-
NativeBindings/Signature/Basic.lean

Byte signatures as they are authored: a pattern of tokens separated by white space, and the byte
positions at which a four-byte displacement starts.
-/

namespace NativeBindings

/-- A byte pattern that locates a function or a data reference in a loaded image.  The offsets are
carried along unchecked: a displacement is read from the image, which may be longer than the
pattern. -/
structure Signature where
  pattern : String
  relocationOffsets : List UInt8 := []
deriving DecidableEq

end NativeBindings
