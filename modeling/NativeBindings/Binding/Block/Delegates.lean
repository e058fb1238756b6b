/-
NativeBindings/Binding/Block/Delegates.lean

The delegate block: one delegate type for each member function and each virtual function.
-/
import NativeBindings.Binding.CallShape
import NativeBindings.Source.Layout

namespace NativeBindings.Block

open Source

/-- The parameters of a delegate. -/
def delegateParameters (struct : NativeStruct) (method : Method) (isInstance : Bool) :
    List String :=
  (if isInstance then [struct.thisPointerType ++ " " ++ thisParameter] else []) ++
    method.declarations

/-- The declaration of a delegate.  A native truth value is one byte wide, which has to be said. -/
def delegate (struct : NativeStruct) (method : Method) (isInstance : Bool) : Layout :=
  (if method.returnsBool then
    [.line ("[return: " ++ interopServices ++ ".MarshalAsAttribute(" ++ interopServices ++
      ".UnmanagedType.U1)]")]
  else []) ++
  [.line ("public delegate " ++ method.returnType ++ " " ++ method.name ++ "(" ++
    ", ".intercalate (delegateParameters struct method isInstance) ++ ");")]

/-- The class of all delegates, if there are any. -/
def delegateBlock (struct : NativeStruct) : Layout :=
  if struct.memberFunctions.isEmpty && struct.virtualFunctions.isEmpty then []
  else
    Layout.item <| Layout.scope "public static class Delegates" <|
      (struct.memberFunctions.flatMap fun f => delegate struct f.method (!f.method.isStatic)) ++
        struct.virtualFunctions.flatMap fun f => delegate struct f.method true

end NativeBindings.Block
