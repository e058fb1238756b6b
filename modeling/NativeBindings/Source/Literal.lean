/-
NativeBindings/Source/Literal.lean

Literals of the generated language.
-/
import NativeBindings.Text.Hex

namespace NativeBindings.Source

open Text

/-- The spelling of a character inside a string literal. -/
def literalChar (c : Char) : List Char :=
  match c with
  | '"' => ['\\', '"']
  | '\\' => ['\\', '\\']
  | '\n' => ['\\', 'n']
  | '\r' => ['\\', 'r']
  | '\t' => ['\\', 't']
  | '\x00' => ['\\', '0']
  | c => [c]

/-- The string literal of a text. -/
def stringLiteral (value : String) : String :=
  "\"" ++ String.ofList (value.toList.flatMap literalChar) ++ "\""

/-- An array literal of items that are spelled already; an empty one gives its length. -/
def arrayLiteral (element : String) (items : List String) : String :=
  match items with
  | [] => "new " ++ element ++ "[0]"
  | items => "new " ++ element ++ "[] \x7b " ++ ", ".intercalate items ++ " \x7d"

/-- A word in hexadecimal, with all its digits. -/
def hexWord (word : UInt64) : String :=
  "0x" ++ String.ofList (hexDigits 16 word.toNat)

/-- The literal of a list of bytes. -/
def byteArrayLiteral (bytes : List UInt8) : String :=
  arrayLiteral "byte" (bytes.map fun b => toString b.toNat)

/-- The literal of a list of words. -/
def wordArrayLiteral (words : List UInt64) : String :=
  arrayLiteral "ulong" (words.map hexWord)

end NativeBindings.Source
