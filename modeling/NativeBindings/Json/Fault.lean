/-
NativeBindings/Json/Fault.lean

Why a document is refused.  Either the text breaks, because it is malformed or ends too early, or a
value has not the shape that its place asks for.
-/
import NativeBindings.Json.Numeral
import NativeBindings.Text.Quoted

namespace NativeBindings.Json

open Text

/-- How a text stops being JSON. -/
inductive Break where
  /-- A character stands where it cannot. -/
  | malformed
  /-- The text ends before the value does. -/
  | truncated
deriving DecidableEq

/-- A value as it is named in a report. -/
inductive Kind where
  | null
  | boolean (value : Bool)
  | quantity (value : Quantity)
  | text (value : String)
  | sequence
  | map

/-- A value whose shape is not the one that its place asks for. -/
inductive ShapeFault where
  | wrongKind (found : Kind) (expected : String)
  | outOfRange (value : Int) (expected : String)
  | wrongLength (found : Nat) (record : String) (fields : Nat)
  | missingField (name : String)
  | duplicateField (name : String)
  | unknownField (name : String) (known : List String)

/-- The first problem of a document in the order of its text. -/
inductive Fault where
  | broken (cause : Break)
  | shape (cause : ShapeFault)

/-- A name or value between back quotes. -/
def backquoted (s : String) : String := "`" ++ s ++ "`"

/-- How a report names a value. -/
def Kind.describe : Kind → String
  | null => "null"
  | boolean true => "boolean " ++ backquoted "true"
  | boolean false => "boolean " ++ backquoted "false"
  | quantity (.integer n) => "integer " ++ backquoted (toString n)
  | quantity (.floating negative magnitude) =>
      "floating point " ++
        backquoted ((if negative then "-" else "") ++ reportFormat.write magnitude)
  | text s => "string " ++ quoted s
  | sequence => "sequence"
  | map => "map"

/-- The report of a value with the wrong shape. -/
def ShapeFault.message : ShapeFault → String
  | wrongKind found expected => "invalid type: " ++ found.describe ++ ", expected " ++ expected
  | outOfRange value expected =>
      "invalid value: integer " ++ backquoted (toString value) ++ ", expected " ++ expected
  | wrongLength found record fields =>
      "invalid length " ++ toString found ++ ", expected struct " ++ record ++ " with "
        ++ toString fields ++ (if fields = 1 then " element" else " elements")
  | missingField name => "missing field " ++ backquoted name
  | duplicateField name => "duplicate field " ++ backquoted name
  | unknownField name known =>
      "unknown field " ++ backquoted name ++ ", expected "
        ++ ", ".intercalate (known.map backquoted)

end NativeBindings.Json
