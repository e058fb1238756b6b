/-
NativeBindings/Binding/CallShape.lean

The types, parameters and arguments of a native call.  An instance function takes a pointer to the
struct first; type, declaration and call list it together or not at all.
-/
import NativeBindings.NativeStruct.Basic

namespace NativeBindings

/-- The namespace of the marshalling attributes. -/
def interopServices : String := "global::System.Runtime.InteropServices"

/-- The namespace of the compiler attributes. -/
def compilerServices : String := "global::System.Runtime.CompilerServices"

/-- The name of the first parameter of an instance delegate. -/
def thisParameter : String := "thisPtr"

namespace NativeStruct

/-- The struct's type from the global namespace on. -/
def globalTypePath (struct : NativeStruct) : String := "global::" ++ struct.qualifiedName

/-- A pointer to the struct, seen from inside its own scope. -/
def thisPointerType (struct : NativeStruct) : String := struct.name ++ "*"

/-- The type of the struct's virtual table. -/
def virtualTableType (struct : NativeStruct) : String := struct.name ++ "VirtualTable"

/-- The struct's own address, inside an instance member. -/
def thisPointer (struct : NativeStruct) : String :=
  "(" ++ struct.thisPointerType ++ ")" ++ compilerServices ++ ".Unsafe.AsPointer(ref this)"

/-- The parameter types and the return type of a native function. -/
def pointerTypes (struct : NativeStruct) (method : Method) (isInstance : Bool) : List String :=
  (if isInstance then [struct.thisPointerType] else []) ++
    method.parameters.map Parameter.type ++ [method.returnType]

/-- The type of a pointer to a native function. -/
def functionPointerType (struct : NativeStruct) (method : Method) (isInstance : Bool) : String :=
  "delegate* unmanaged<" ++ ", ".intercalate (struct.pointerTypes method isInstance) ++ ">"

/-- The arguments of a native call. -/
def callArguments (struct : NativeStruct) (method : Method) (isInstance : Bool) : List String :=
  (if isInstance then [struct.thisPointer] else []) ++ method.parameters.map Parameter.name

/-- The arguments of a native call, as they are written. -/
def callArgumentList (struct : NativeStruct) (method : Method) (isInstance : Bool) : String :=
  ", ".intercalate (struct.callArguments method isInstance)

end NativeStruct

/-- A parameter as it is declared. -/
def Parameter.declaration (parameter : Parameter) : String :=
  parameter.type ++ " " ++ parameter.name

namespace Method

/-- The declared parameters. -/
def declarations (method : Method) : List String := method.parameters.map Parameter.declaration

/-- The declared parameters, as they are written. -/
def parameterList (method : Method) : String := ", ".intercalate method.declarations

/-- The header of a method. -/
def header (method : Method) : String :=
  method.modifiers ++ " " ++ method.returnType ++ " " ++ method.name ++
    "(" ++ method.parameterList ++ ")"

/-- The keyword in front of a call whose value is returned. -/
def returnKeyword (method : Method) : String :=
  if method.returnsVoid then "" else "return "

end Method

end NativeBindings
