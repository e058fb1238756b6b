/-
NativeBindings/Binding/Block/ResolvedPointers.lean

The blocks that use resolved addresses.  For the member functions, and for the static addresses,
there is a class that holds the pointers, and for each pointer a method that checks it before it is
used.  A method calls the function behind its pointer, or returns the value; where a pointer to the
value was found, the holder has one level of indirection more.
-/
import NativeBindings.Binding.Address
import NativeBindings.Binding.CallShape
import NativeBindings.Configuration.Basic
import NativeBindings.Source.Layout
import NativeBindings.Source.Literal

namespace NativeBindings.Block

open Source

/-- The row that declares the holder of an address. -/
def holderLine (type holder address : String) : String :=
  "public static " ++ type ++ " " ++ holder ++ " => (" ++ type ++ ")Addresses." ++ address ++
    ".Value;"

/-- Throw, with the identifier and the pattern of the address, if a holder is null. -/
def nullGuard (config : Configuration) (holder id pattern : String) : Layout :=
  Layout.scope ("if (" ++ holder ++ " is null)")
    [.line (config.runtimeType "ThrowHelper" ++ ".ThrowNullAddress(" ++ stringLiteral id ++ ", " ++
      stringLiteral pattern ++ ");")]

/-- A method that checks its holder before its one statement. -/
def guardedMethod (config : Configuration) (table : AddressTable) (struct : NativeStruct)
    (method : Method) (holder statement : String) : Layout :=
  Layout.item <| Layout.scope method.header <|
    nullGuard config holder (struct.addressId method.name) (table.pattern method.name) ++
      [.line statement]

/-! ### Member functions -/

/-- The row that declares the pointer to a function. -/
def pointerLine (struct : NativeStruct) (method : Method) : String :=
  holderLine (struct.functionPointerType method (!method.isStatic)) method.name method.name

/-- The method that forwards to a function. -/
def forwarder (config : Configuration) (table : AddressTable) (struct : NativeStruct)
    (method : Method) : Layout :=
  let holder := "MemberFunctionPointers." ++ method.name
  guardedMethod config table struct method holder
    (method.returnKeyword ++ holder ++ "(" ++ struct.callArgumentList method (!method.isStatic) ++
      ");")

/-- The pointers and the forwarding methods, if there are any member functions. -/
def memberFunctionBlock (config : Configuration) (table : AddressTable) (struct : NativeStruct) :
    Layout :=
  if struct.memberFunctions.isEmpty then []
  else
    Layout.item (Layout.scope "public unsafe static class MemberFunctionPointers"
        (struct.memberFunctions.map fun f => .line (pointerLine struct f.method))) ++
      struct.memberFunctions.flatMap fun f => forwarder config table struct f.method

/-! ### Static addresses -/

/-- The name of the holder of a static address. -/
def holderName (address : StaticAddress) : String :=
  (if address.isPointer then "pp" else "p") ++ address.method.name

/-- The type of the holder of a static address. -/
def holderType (address : StaticAddress) : String :=
  address.method.returnType ++ (if address.isPointer then "*" else "")

/-- The method that returns the value at a static address. -/
def accessor (config : Configuration) (table : AddressTable) (struct : NativeStruct)
    (address : StaticAddress) : Layout :=
  let holder := "StaticAddressPointers." ++ holderName address
  guardedMethod config table struct address.method holder
    ("return " ++ (if address.isPointer then "*" else "") ++ holder ++ ";")

/-- The holders and the accessors, if there are any static addresses. -/
def staticAddressBlock (config : Configuration) (table : AddressTable) (struct : NativeStruct) :
    Layout :=
  if struct.staticAddresses.isEmpty then []
  else
    Layout.item (Layout.scope "public unsafe static class StaticAddressPointers"
        (struct.staticAddresses.map fun address =>
          .line (holderLine (holderType address) (holderName address) address.method.name))) ++
      struct.staticAddresses.flatMap fun address => accessor config table struct address

end NativeBindings.Block
