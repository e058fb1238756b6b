/-
NativeBindings/Signature/Packed.lean

The packed form that a scanner compares with an image: the tokens, padded with wildcards to whole
words, as signature words and mask words of equal number.  `PackedSignature.tokens` unpacks the
words again.
-/
import NativeBindings.Signature.Basic
import NativeBindings.Signature.Pattern
import NativeBindings.Signature.Word

namespace NativeBindings.Signature

/-- The number of tokens after padding `count` of them to whole words. -/
def paddedLength (count : Nat) : Nat :=
  (count + (bytesPerWord - 1)) / bytesPerWord * bytesPerWord

/-- The tokens followed by as many wildcards as complete the last word. -/
def pad (tokens : List Token) : List Token :=
  tokens ++ List.replicate (paddedLength tokens.length - tokens.length) Token.wildcard

/-- One word for each whole group of tokens, made of the bytes that `byte` takes from them. -/
def pack (byte : Token → UInt8) (tokens : List Token) : List UInt64 :=
  (groups tokens).map fun group => wordOfBytes (group.map byte)

/-- The eight tokens of a signature word under its mask word. -/
def unpackWord (signature mask : UInt64) : List Token :=
  List.zipWith Token.ofBytes (wordBytes signature) (wordBytes mask)

/-- The tokens of signature words under their mask words. -/
def unpack (signatures masks : List UInt64) : List Token :=
  (List.zipWith unpackWord signatures masks).flatten

/-- Whether the bytes of an image, read as little-endian words, agree with the signature words
wherever the mask words have ones. -/
def MasksMatch : (signatures masks : List UInt64) → (image : List UInt8) → Prop
  | signature :: signatures, mask :: masks, image =>
      wordOfBytes (image.take bytesPerWord) &&& mask = signature ∧
        MasksMatch signatures masks (image.drop bytesPerWord)
  | _, _, _ => True

end NativeBindings.Signature

namespace NativeBindings

open Signature

/-- A signature ready for the scanner. -/
structure PackedSignature where
  /-- The pattern in normal form, for diagnostics. -/
  pattern : String
  /-- The pattern in normal form, padded with wildcards to whole words. -/
  padded : String
  relocationOffsets : List UInt8
  signatureWords : List UInt64
  maskWords : List UInt64
deriving DecidableEq

/-- The tokens that the words stand for, padding included. -/
def PackedSignature.tokens (packed : PackedSignature) : List Token :=
  unpack packed.signatureWords packed.maskWords

/-- Pack tokens and carry the relocation offsets along. -/
def PackedSignature.ofTokens (tokens : List Token) (relocationOffsets : List UInt8) :
    PackedSignature where
  pattern := join tokens
  padded := join (pad tokens)
  relocationOffsets
  signatureWords := pack Token.signatureByte (pad tokens)
  maskWords := pack Token.maskByte (pad tokens)

/-- Pack a signature, or report the first word of its pattern that is no token. -/
def Signature.encode (signature : Signature) : Except InvalidToken PackedSignature := do
  let tokens ← tokenize signature.pattern
  return PackedSignature.ofTokens tokens signature.relocationOffsets

end NativeBindings
