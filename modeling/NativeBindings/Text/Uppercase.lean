/-
NativeBindings/Text/Uppercase.lean

The upper case of one character.  It may be several characters, as in `ß`, whose upper case is `SS`.
-/
import NativeBindings.Text.Uppercase.Table

namespace NativeBindings.Text

/-- The code points of the upper case of a code point. -/
def uppercaseCodes (n : Nat) : List Nat :=
  match uppercaseExpansions.lookup n with
  | some codes => codes
  | none =>
      match uppercaseRuns.find? fun (first, last, step, _) =>
          first ≤ n && n ≤ last && (n - first) % step == 0 with
      | some (first, _, _, target) => [target + (n - first)]
      | none => [n]

/-- The upper case of a character. -/
def uppercase (c : Char) : List Char :=
  (uppercaseCodes c.toNat).map Char.ofNat

end NativeBindings.Text
