/-
NativeBindings/NativeStruct/Basic.lean

Descriptions of native structs: where a struct is declared, the functions and addresses found by
scanning, the virtual functions, the methods that want overloads taking strings, and the inline
arrays.
-/
import NativeBindings.Signature.Basic
import NativeBindings.Text.Blank
import NativeBindings.Text.Uppercase

namespace NativeBindings

/-! ### Methods -/

/-- A declared parameter. -/
structure Parameter where
  name : String
  type : String
deriving DecidableEq

/-- The declared shape of a method.  The modifiers are reproduced verbatim. -/
structure Method where
  name : String
  modifiers : String
  returnType : String
  parameters : List Parameter := []
  isStatic : Bool := false
deriving DecidableEq

namespace Method

/-- An instance method without parameters whose body is generated. -/
def ofInstance (name returnType : String) : Method :=
  { name, modifiers := "public partial", returnType }

/-- A static method without parameters whose body is generated. -/
def ofStatic (name returnType : String) : Method :=
  { name, modifiers := "public static partial", returnType, isStatic := true }

/-- Append a parameter. -/
def withParameter (method : Method) (name type : String) : Method :=
  { method with parameters := method.parameters ++ [{ name, type }] }

/-- Replace the modifiers. -/
def withModifiers (method : Method) (modifiers : String) : Method :=
  { method with modifiers }

/-- Whether a call has no value. -/
def returnsVoid (method : Method) : Bool := method.returnType = "void"

/-- Whether a call returns a native truth value, which is one byte wide. -/
def returnsBool (method : Method) : Bool := method.returnType = "bool"

/-- The modifiers of an overload that is written out: all words but `partial`. -/
def modifiersWithoutPartial (method : Method) : String :=
  " ".intercalate ((Text.words method.modifiers).filter (· ≠ "partial"))

end Method

/-! ### Members of a struct -/

/-- A function that is found by scanning for its signature. -/
structure MemberFunction where
  method : Method
  signature : Signature
deriving DecidableEq

/-- A function that is called through a slot of the virtual table.  It is an instance function
whatever its method says. -/
structure VirtualFunction where
  method : Method
  index : UInt32
deriving DecidableEq

/-- A static value whose address is found by scanning.  If `isPointer` is set, a pointer to the
value lies at that address. -/
structure StaticAddress where
  method : Method
  signature : Signature
  isPointer : Bool := false
deriving DecidableEq

/-- A method that gets overloads whose C strings are taken as strings. -/
structure StringOverload where
  method : Method
  ignoredParameters : List String := []
deriving DecidableEq

namespace StringOverload

/-- The parameter type that counts as a C string. -/
def cStringType : String := "byte*"

/-- Take a parameter as it is declared. -/
def ignoring (overload : StringOverload) (parameter : String) : StringOverload :=
  { overload with ignoredParameters := overload.ignoredParameters ++ [parameter] }

/-- Whether the overloads take a parameter as a string. -/
def converts (overload : StringOverload) (parameter : Parameter) : Bool :=
  parameter.type = cStringType && !overload.ignoredParameters.contains parameter.name

/-- The names of the parameters taken as strings, in the order of their declaration. -/
def stringParameters (overload : StringOverload) : List String :=
  (overload.method.parameters.filter overload.converts).map Parameter.name

end StringOverload

/-- The text encoding of an array of character units. -/
inductive CharacterKind where
  | utf8
  | utf16
deriving DecidableEq

/-- An array that lies inside the struct. -/
structure FixedArray where
  /-- The backing field. -/
  field : String
  elementType : String
  length : UInt32
  isString : Bool := false
deriving DecidableEq

namespace FixedArray

/-- The name of the accessor: the field without its leading underscores, and with its first
character in upper case.  A field of underscores only keeps its name. -/
def publicName (array : FixedArray) : String :=
  match array.field.toList.dropWhile (· == '_') with
  | [] => array.field
  | first :: rest => String.ofList (Text.uppercase first ++ rest)

/-- The encoding of the elements, if they are character units. -/
def characterKind (array : FixedArray) : Option CharacterKind :=
  if array.elementType = "byte" then some .utf8
  else if array.elementType = "char" then some .utf16
  else none

/-- The encoding of the string accessor, if the array wants one and can have one. -/
def stringKind (array : FixedArray) : Option CharacterKind :=
  if array.isString then array.characterKind else none

end FixedArray

/-! ### Structs -/

/-- Everything known about one native struct. -/
structure NativeStruct where
  name : String := ""
  /-- The dotted namespace; empty for the global one. -/
  nameSpace : String := ""
  /-- The enclosing types, the innermost first. -/
  containingTypes : List String := []
  memberFunctions : List MemberFunction := []
  virtualFunctions : List VirtualFunction := []
  staticAddresses : List StaticAddress := []
  stringOverloads : List StringOverload := []
  fixedArrays : List FixedArray := []
  staticVirtualTable : Option Signature := none
deriving DecidableEq

namespace NativeStruct

/-- The struct and its enclosing types, the innermost first. -/
def hierarchy (struct : NativeStruct) : List String :=
  struct.name :: struct.containingTypes

/-- The enclosing types and the struct, the outermost first. -/
def typePath (struct : NativeStruct) : List String :=
  struct.hierarchy.reverse

/-- The names from the namespace down to the struct; the global namespace has none. -/
def qualifiedParts (struct : NativeStruct) : List String :=
  (if struct.nameSpace = "" then [] else [struct.nameSpace]) ++ struct.typePath

/-- The dotted name of the struct. -/
def qualifiedName (struct : NativeStruct) : String :=
  ".".intercalate struct.qualifiedParts

/-- Whether there is anything to scan for. -/
def hasSignatures (struct : NativeStruct) : Bool :=
  !struct.memberFunctions.isEmpty || !struct.staticAddresses.isEmpty
    || struct.staticVirtualTable.isSome

/-- Whether the struct needs a virtual table type. -/
def hasVirtualTable (struct : NativeStruct) : Bool :=
  !struct.virtualFunctions.isEmpty || struct.staticVirtualTable.isSome

end NativeStruct

end NativeBindings
