/-
NativeBindings/Binding/Block/Addresses.lean

The address block: one record for each signature.  The resolved value starts at zero and is filled
in by the resolver.
-/
import NativeBindings.Binding.Address
import NativeBindings.Configuration.Basic
import NativeBindings.Source.Layout
import NativeBindings.Source.Literal

namespace NativeBindings.Block

open Source

/-- The row that declares a record. -/
def addressLine (config : Configuration) (record : AddressRecord) : String :=
  let type := config.runtimeType "Address"
  "public static readonly " ++ type ++ " " ++ record.name ++ " = new " ++ type ++ "(" ++
    ", ".intercalate
      [stringLiteral record.id, stringLiteral record.encoded.padded,
        byteArrayLiteral record.encoded.relocationOffsets,
        wordArrayLiteral record.encoded.signatureWords,
        wordArrayLiteral record.encoded.maskWords, "0"] ++ ");"

/-- The class of all records, if the struct has any. -/
def addressBlock (config : Configuration) (table : AddressTable) (struct : NativeStruct) :
    Layout :=
  if struct.hasSignatures then
    Layout.item <| Layout.scope "public static class Addresses" <|
      table.records.map fun record => .line (addressLine config record)
  else []

end NativeBindings.Block
