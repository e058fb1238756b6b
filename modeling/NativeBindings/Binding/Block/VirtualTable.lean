/-
NativeBindings/Binding/Block/VirtualTable.lean

The blocks for virtual functions.  The first is a type with a function pointer at the offset of each
slot, the pointer to the table at the start of the struct and, if its address is known, the struct's
own static table.  The second holds the methods that call through the table pointer; an object with
a live table pointer is assumed, so they do not check it.
-/
import NativeBindings.Binding.Address
import NativeBindings.Binding.CallShape
import NativeBindings.Configuration.Basic
import NativeBindings.Source.Layout

namespace NativeBindings.Block

open Source

/-! ### The table -/

/-- The attribute that places a field at an offset. -/
def fieldOffset (offset : Nat) : String :=
  "[" ++ interopServices ++ ".FieldOffsetAttribute(" ++ toString offset ++ ")]"

/-- The row that declares a slot. -/
def slotLine (config : Configuration) (struct : NativeStruct) (function : VirtualFunction) :
    String :=
  fieldOffset (config.slotOffset function.index).toNat ++ " public " ++
    struct.functionPointerType function.method true ++ " " ++ function.method.name ++ ";"

/-- The table type, the pointer to it and the static table. -/
def virtualTableBlock (config : Configuration) (struct : NativeStruct) : Layout :=
  if struct.hasVirtualTable then
    let type := struct.virtualTableType
    Layout.item
        (.line ("[" ++ interopServices ++ ".StructLayoutAttribute(" ++ interopServices ++
            ".LayoutKind.Explicit)]") ::
          Layout.scope ("public unsafe partial struct " ++ type)
            (struct.virtualFunctions.map fun function =>
              .line (slotLine config struct function))) ++
      Layout.item [.line (fieldOffset 0 ++ " public " ++ type ++ "* VirtualTable;")] ++
      (if struct.staticVirtualTable.isSome then
        Layout.item
          [.line ("public static " ++ type ++ "* StaticVirtualTablePointer => (" ++ type ++
            "*)Addresses." ++ staticVirtualTableName ++ ".Value;")]
      else [])
  else []

/-! ### The calls -/

/-- The method that calls a virtual function. -/
def dispatcher (struct : NativeStruct) (method : Method) : Layout :=
  Layout.item
    [.line ("[" ++ compilerServices ++ ".MethodImplAttribute(" ++ compilerServices ++
        ".MethodImplOptions.AggressiveInlining)]"),
      .line (method.header ++ " => VirtualTable->" ++ method.name ++ "(" ++
        struct.callArgumentList method true ++ ");")]

/-- One method for each virtual function. -/
def virtualDispatchBlock (struct : NativeStruct) : Layout :=
  struct.virtualFunctions.flatMap fun f => dispatcher struct f.method

end NativeBindings.Block
