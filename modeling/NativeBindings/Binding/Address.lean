/-
NativeBindings/Binding/Address.lean

The addresses of a struct that are found by scanning: their order, their identifiers, and the table
of their packed signatures.  Every source that names an address takes it from `namedSignatures`.
-/
import NativeBindings.NativeStruct.Basic
import NativeBindings.Error
import NativeBindings.Signature.Packed

namespace NativeBindings

/-- The name of the address of the static virtual table. -/
def staticVirtualTableName : String := "StaticVirtualTable"

/-- A named signature of a struct. -/
structure NamedSignature where
  name : String
  signature : Signature
deriving DecidableEq

/-- A named signature in packed form, with its identifier. -/
structure AddressRecord where
  name : String
  id : String
  encoded : PackedSignature
deriving DecidableEq

namespace NativeStruct

/-- What a struct has to scan for: its member functions, then its static addresses, then its static
virtual table. -/
def namedSignatures (struct : NativeStruct) : List NamedSignature :=
  (struct.memberFunctions.map fun f => { name := f.method.name, signature := f.signature }) ++
    (struct.staticAddresses.map fun a => { name := a.method.name, signature := a.signature }) ++
    (struct.staticVirtualTable.toList.map fun s =>
      { name := staticVirtualTableName, signature := s })

/-- The identifier of an address: the dotted name of the struct and the name of the member. -/
def addressId (struct : NativeStruct) (member : String) : String :=
  struct.qualifiedName ++ "." ++ member

/-- Encode one signature. -/
def encodeNamed (struct : NativeStruct) (named : NamedSignature) :
    Except GenerationError AddressRecord :=
  match named.signature.encode with
  | .ok encoded => .ok { name := named.name, id := struct.addressId named.name, encoded }
  | .error cause => .error (.malformedSignature (struct.addressId named.name) cause)

/-- Encode signatures in order; the first malformed one is reported. -/
def encodeAll (struct : NativeStruct) :
    List NamedSignature → Except GenerationError (List AddressRecord)
  | [] => .ok []
  | named :: rest => do
      let record ← struct.encodeNamed named
      return record :: (← struct.encodeAll rest)

end NativeStruct

/-- The address records of a struct, in the order of its named signatures. -/
structure AddressTable where
  records : List AddressRecord := []
deriving DecidableEq

namespace AddressTable

/-- The table of a struct. -/
def encode (struct : NativeStruct) : Except GenerationError AddressTable := do
  return { records := ← struct.encodeAll struct.namedSignatures }

/-- The last record with a name. -/
def get? (table : AddressTable) (name : String) : Option AddressRecord :=
  table.records.reverse.find? (·.name = name)

/-- The pattern of the last record with a name, in normal form; empty if there is none. -/
def pattern (table : AddressTable) (name : String) : String :=
  match table.get? name with
  | some record => record.encoded.pattern
  | none => ""

/-- The number of records. -/
def size (table : AddressTable) : Nat := table.records.length

/-- Whether there is no record. -/
def isEmpty (table : AddressTable) : Bool := table.records.isEmpty

end AddressTable

end NativeBindings
