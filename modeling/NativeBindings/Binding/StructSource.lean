/-
NativeBindings/Binding/StructSource.lean

The source of one struct: a file header, the enclosing types from the outside in, and inside the
struct its eight blocks in a fixed order.  All signatures are encoded before anything is laid out,
so a malformed one leaves no source.
-/
import NativeBindings.Binding.Block.Addresses
import NativeBindings.Binding.Block.Delegates
import NativeBindings.Binding.Block.FixedArrays
import NativeBindings.Binding.Block.ResolvedPointers
import NativeBindings.Binding.Block.StringOverloads
import NativeBindings.Binding.Block.VirtualTable

namespace NativeBindings

open Source

/-- The kinds of code inside a struct. -/
inductive Block where
  | addresses
  | virtualTable
  | delegates
  | memberFunctions
  | virtualDispatch
  | staticAddresses
  | stringOverloads
  | fixedArrays
deriving DecidableEq

namespace Block

/-- All blocks in the order in which they stand in a source. -/
def all : List Block :=
  [.addresses, .virtualTable, .delegates, .memberFunctions, .virtualDispatch, .staticAddresses,
    .stringOverloads, .fixedArrays]

/-- The layout of a block. -/
def layout (config : Configuration) (table : AddressTable) (struct : NativeStruct) :
    Block → Layout
  | .addresses => addressBlock config table struct
  | .virtualTable => virtualTableBlock config struct
  | .delegates => delegateBlock struct
  | .memberFunctions => memberFunctionBlock config table struct
  | .virtualDispatch => virtualDispatchBlock struct
  | .staticAddresses => staticAddressBlock config table struct
  | .stringOverloads => stringOverloadBlock struct
  | .fixedArrays => fixedArrayBlock config struct

end Block

namespace NativeStruct

/-- The scopes that lead to the inside of a struct. -/
def openings (struct : NativeStruct) : Layout :=
  struct.typePath.flatMap fun name =>
    Layout.item [.openScope ("unsafe partial struct " ++ name)]

/-- The ends of these scopes. -/
def closings (struct : NativeStruct) : Layout :=
  struct.hierarchy.map fun _ => .closeScope

/-- All blocks of a struct. -/
def blocks (config : Configuration) (table : AddressTable) (struct : NativeStruct) : Layout :=
  Block.all.flatMap (Block.layout config table struct)

/-- The layout of the source of a struct. -/
def sourceLayout (config : Configuration) (table : AddressTable) (struct : NativeStruct) :
    Layout :=
  Layout.fileHeader struct.nameSpace ++ struct.openings ++ struct.blocks config table ++
    struct.closings

/-- The source of a struct, or the first malformed signature. -/
def compile (config : Configuration) (struct : NativeStruct) :
    Except GenerationError String := do
  let table ← AddressTable.encode struct
  return (struct.sourceLayout config table).render

end NativeStruct

end NativeBindings
