/-
NativeBindings/Signature/Token.lean

One position of a byte pattern: two hexadecimal digits or the wildcard `??`.
-/
import NativeBindings.Text.Hex

namespace NativeBindings.Signature

open Text

/-- What a pattern asks of one byte of the image. -/
inductive Token where
  | byte (value : UInt8)
  | wildcard
deriving DecidableEq

namespace Token

/-- Read a token: `??`, or exactly two hexadecimal digits of either case. -/
def parse? (word : String) : Option Token :=
  match word.toList with
  | ['?', '?'] => some wildcard
  | [high, low] => do
      let high ← hexValue? high
      let low ← hexValue? low
      return byte (UInt8.ofNat (16 * high + low))
  | _ => none

/-- The characters of a token in normal form, with upper-case digits. -/
def chars : Token → List Char
  | byte value => hexDigits 2 value.toNat
  | wildcard => ['?', '?']

/-- A token in normal form. -/
def text (token : Token) : String :=
  String.ofList token.chars

/-- The byte that a token contributes to a signature word; a wildcard contributes zero. -/
def signatureByte : Token → UInt8
  | byte value => value
  | wildcard => 0x00

/-- The byte that a token contributes to a mask word: all ones exactly where the image counts. -/
def maskByte : Token → UInt8
  | byte _ => 0xFF
  | wildcard => 0x00

/-- The token that a signature byte stands for under its mask byte. -/
def ofBytes (signature mask : UInt8) : Token :=
  if mask = 0 then wildcard else byte signature

/-- Whether a byte of the image is one that the token allows. -/
def Allows : Token → UInt8 → Prop
  | byte value, b => b = value
  | wildcard, _ => True

@[simp] theorem ofBytes_signatureByte_maskByte (token : Token) :
    ofBytes token.signatureByte token.maskByte = token := by
  cases token <;> simp [ofBytes, signatureByte, maskByte]

end Token

end NativeBindings.Signature
