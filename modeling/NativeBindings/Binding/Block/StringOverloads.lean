/-
NativeBindings/Binding/Block/StringOverloads.lean

The string overload block.  For a method that takes C strings there are two overloads: one takes
strings and encodes them, the other takes bytes and copies them.  Each builds a buffer with a
terminator for every converted parameter, pins all buffers in one statement, and forwards the call.
-/
import NativeBindings.Binding.CallShape
import NativeBindings.Source.Layout

namespace NativeBindings.Block

open Source

/-- What an overload takes in place of a C string. -/
inductive ArgumentForm where
  | text
  | bytes
deriving DecidableEq

namespace ArgumentForm

/-- The type of a converted parameter. -/
def parameterType : ArgumentForm → String
  | text => "string"
  | bytes => "global::System.ReadOnlySpan<byte>"

/-- The length in bytes of a converted parameter. -/
def lengthExpr (source : ArgumentForm) (name : String) : String :=
  match source with
  | text => "global::System.Text.Encoding.UTF8.GetByteCount(" ++ name ++ ")"
  | bytes => name ++ ".Length"

/-- The statement that fills the buffer of a converted parameter. -/
def copyStatement (source : ArgumentForm) (name : String) : String :=
  match source with
  | text =>
      "global::System.Text.Encoding.UTF8.GetBytes(" ++ name ++ ", " ++ name ++ "Bytes);"
  | bytes => name ++ ".CopyTo(" ++ name ++ "Bytes);"

end ArgumentForm

/-- The longest encoded string, in bytes, whose buffer lies on the stack. -/
def stackLimit : Nat := 512

/-- The declared parameters of an overload. -/
def overloadParameters (overload : StringOverload) (source : ArgumentForm) : List String :=
  overload.method.parameters.map fun parameter =>
    if overload.converts parameter then source.parameterType ++ " " ++ parameter.name
    else parameter.declaration

/-- The arguments that an overload passes on. -/
def overloadArguments (overload : StringOverload) : List String :=
  overload.method.parameters.map fun parameter =>
    if overload.converts parameter then parameter.name ++ "Ptr" else parameter.name

/-- The header of an overload. -/
def overloadHeader (overload : StringOverload) (source : ArgumentForm) : String :=
  let modifiers := overload.method.modifiersWithoutPartial
  (if modifiers = "" then "" else modifiers ++ " ") ++
    overload.method.returnType ++ " " ++ overload.method.name ++ "(" ++
    ", ".intercalate (overloadParameters overload source) ++ ")"

/-- The statements that build the buffer of a converted parameter. -/
def bufferLines (source : ArgumentForm) (name : String) : List String :=
  let length := name ++ "Length"
  ["int " ++ length ++ " = " ++ source.lengthExpr name ++ ";",
    "global::System.Span<byte> " ++ name ++ "Bytes = " ++ length ++ " <= " ++ toString stackLimit ++
      " ? stackalloc byte[" ++ length ++ " + 1] : new byte[" ++ length ++ " + 1];",
    source.copyStatement name,
    name ++ "Bytes[" ++ length ++ "] = 0;"]

/-- The declaration that pins the buffer of a converted parameter. -/
def pin (name : String) : String := name ++ "Ptr = " ++ name ++ "Bytes"

/-- One overload. -/
def overloadMethod (overload : StringOverload) (source : ArgumentForm) : Layout :=
  Layout.item <| Layout.scope (overloadHeader overload source) <|
    ((overload.stringParameters.flatMap (bufferLines source)).map Step.line) ++
      Layout.scope ("fixed (byte* " ++ ", ".intercalate (overload.stringParameters.map pin) ++ ")")
        [.line (overload.method.returnKeyword ++ overload.method.name ++ "(" ++
          ", ".intercalate (overloadArguments overload) ++ ");")]

/-- Both overloads of each method that has a parameter to convert; the others would be declared
twice. -/
def stringOverloadBlock (struct : NativeStruct) : Layout :=
  struct.stringOverloads.flatMap fun overload =>
    if overload.stringParameters.isEmpty then []
    else overloadMethod overload .text ++ overloadMethod overload .bytes

end NativeBindings.Block
