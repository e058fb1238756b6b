/-
NativeBindings/Text/Quoted.lean

Text quoted for a report: between double quotes, with the usual short escapes and with every
character that would not show as itself written by its number.
-/
import NativeBindings.Text.Quoted.Table

namespace NativeBindings.Text

/-- A character that a quoted text shows by number. -/
def isNumbered (c : Char) : Bool :=
  numberedRanges.any fun range => range.1 ≤ c.toNat && c.toNat ≤ range.2

/-- The spelling of a character between the quotes. -/
def quotedChar (c : Char) : String :=
  match c with
  | '\x00' => "\\0"
  | '\t' => "\\t"
  | '\n' => "\\n"
  | '\r' => "\\r"
  | '"' => "\\\""
  | '\\' => "\\\\"
  | c =>
      if isNumbered c then "\\u\x7b" ++ String.ofList (Nat.toDigits 16 c.toNat) ++ "\x7d"
      else c.toString

/-- A text between double quotes. -/
def quoted (s : String) : String :=
  "\"" ++ String.join (s.toList.map quotedChar) ++ "\""

end NativeBindings.Text
