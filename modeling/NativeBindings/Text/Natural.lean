/-
NativeBindings/Text/Natural.lean

Natural numbers in arguments: decimal digits behind an optional plus sign.
-/

namespace NativeBindings.Text

/-- The characters behind an optional plus sign. -/
def withoutPlus : List Char → List Char
  | '+' :: rest => rest
  | cs => cs

/-- Read a natural number below a bound; at least one digit is needed. -/
def naturalBelow? (bound : Nat) (s : String) : Option Nat :=
  match withoutPlus s.toList with
  | [] => none
  | digits =>
      if digits.all Char.isDigit then (some (Nat.ofDigitChars 10 digits 0)).filter (· < bound)
      else none

end NativeBindings.Text
