/-
NativeBindings/CommandLine/Encode.lean

The command that shows the packed form of a signature.
-/
import NativeBindings.CommandLine.Options
import NativeBindings.Signature.Packed
import NativeBindings.Source.Literal

namespace NativeBindings

open Source

/-- Words in hexadecimal, one blank between two of them. -/
def wordList (words : List UInt64) : String := " ".intercalate (words.map hexWord)

/-- The packed form of a signature, one line for each part. -/
def PackedSignature.describe (packed : PackedSignature) : String :=
  "pattern:     " ++ packed.padded ++ "\n" ++
  "signature:   " ++ wordList packed.signatureWords ++ "\n" ++
  "mask:        " ++ wordList packed.maskWords ++ "\n" ++
  "relocations: " ++
    " ".intercalate (packed.relocationOffsets.map fun offset => toString offset.toNat) ++ "\n"

/-- The description of the signature that the options of `encode` name. -/
def EncodeOptions.describe (options : EncodeOptions) : Except Failure String :=
  let signature : Signature :=
    { pattern := options.pattern, relocationOffsets := options.relocationOffsets }
  match signature.encode with
  | .ok packed => .ok packed.describe
  | .error cause => .error (.signature cause)

end NativeBindings
