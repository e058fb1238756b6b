/-
NativeBindings/Json/Numeral.lean

Numbers as they are spelled, and what they denote.  A numeral without fraction and exponent denotes
an integer if it lies between `-2 ^ 63` and `2 ^ 64 - 1` and is not `-0`.  Every other numeral
denotes a binary floating-point number, which is computed from at most the leading digits that fit
into a word of 64 bits, scaled once by a power of ten.
-/
import NativeBindings.Number.Shortest

namespace NativeBindings.Json

open Number

/-- A well-formed number, as the digits it is spelled with. -/
structure Numeral where
  negative : Bool
  whole : List Char
  fraction : List Char := []
  /-- Whether the exponent is negative, and its digits. -/
  exponent : Option (Bool × List Char) := none
deriving DecidableEq

/-- What a numeral denotes. -/
inductive Quantity where
  | integer (value : Int)
  | floating (negative : Bool) (magnitude : Binary64)
deriving DecidableEq

/-- The value of decimal digits. -/
def digitsValue (digits : List Char) : Nat := Nat.ofDigitChars 10 digits 0

/-- One more than the greatest word. -/
def wordBound : Nat := Nat.pow 2 64

/-- Append digits to a significand for as long as it stays a word, and count those that are left. -/
def appendDigits (significand : Nat) : List Char → Nat × Nat
  | [] => (significand, 0)
  | c :: rest =>
      let longer := 10 * significand + (c.toNat - '0'.toNat)
      if longer < wordBound then appendDigits longer rest else (significand, rest.length + 1)

/-- The binary value of `10 ^ n`. -/
def powerOfTen? (n : Nat) : Option Binary64 := Binary64.ofNat? (Nat.pow 10 n)

/-- The greatest power of ten that has a binary value. -/
def greatestPower : Nat := 308

/-- A value divided by a power of ten. -/
def divideByPower (x : Binary64) (n : Nat) : Option Binary64 := do
  x.div? (← powerOfTen? n)

/-- A significand scaled by a power of ten, in binary; none if it is too large.  A power with no
binary value is split off once; what is still too small then is zero. -/
def scaleByPower (significand : Nat) (exponent : Int) : Option Binary64 := do
  let x ← Binary64.ofNat? significand
  if 0 ≤ exponent then
    if exponent ≤ greatestPower then x.mul? (← powerOfTen? exponent.toNat)
    else if x.mantissa = 0 then return Binary64.zero
    else none
  else if -exponent ≤ greatestPower then divideByPower x (-exponent).toNat
  else
    let rest := -exponent - greatestPower
    if rest ≤ greatestPower then divideByPower (← divideByPower x greatestPower) rest.toNat
    else return Binary64.zero

namespace Numeral

/-- The exponent that is spelled out; zero if there is none. -/
def writtenExponent (numeral : Numeral) : Int :=
  match numeral.exponent with
  | none => 0
  | some (true, digits) => -(digitsValue digits : Int)
  | some (false, digits) => digitsValue digits

/-- The magnitude of a numeral that is no integer; none if it is too large. -/
def magnitude? (numeral : Numeral) : Option Binary64 :=
  let (significand, dropped) := appendDigits 0 numeral.whole
  let (significand, ignored) := appendDigits significand numeral.fraction
  let taken : Int := numeral.fraction.length - ignored
  scaleByPower significand (dropped - taken + numeral.writtenExponent)

/-- What a numeral denotes; none if it is too large for a floating-point number. -/
def quantity? (numeral : Numeral) : Option Quantity :=
  let value := digitsValue numeral.whole
  let isInteger := numeral.fraction.isEmpty && numeral.exponent.isNone
  if isInteger && !numeral.negative && value < wordBound then some (.integer value)
  else if isInteger && numeral.negative && 0 < value && value ≤ wordBound / 2 then
    some (.integer (-value))
  else numeral.magnitude?.map (.floating numeral.negative)

end Numeral

/-- Numbers in reports are written positionally if their first digit stands between the fifth place
after the point and the sixteenth before it, and with an exponent otherwise. -/
def reportFormat : DecimalFormat := { leastPlace := -5, greatestPlace := 15 }

end NativeBindings.Json
