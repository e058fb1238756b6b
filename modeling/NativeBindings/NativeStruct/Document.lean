/-
NativeBindings/NativeStruct/Document.lean

Descriptor documents: the formats of all records, and the document itself, which is a record of one
field and the only one that refuses keys it does not know.
-/
import NativeBindings.NativeStruct.Basic
import NativeBindings.Json.Field

namespace NativeBindings

open Json

namespace Signature

/-- How a signature stands in a document. -/
def format : Format Signature where
  name := "SignatureDescriptor"
  types := [String, List UInt8]
  fields :=
    .cons (.string "pattern") <|
    .cons (.list "relocation_offsets" readUInt8 fun n => .number n.toNat) .nil
  ofValues := fun (pattern, relocationOffsets, ()) => { pattern, relocationOffsets }
  toValues := fun s => (s.pattern, s.relocationOffsets, ())

end Signature

namespace Parameter

/-- How a parameter stands in a document. -/
def format : Format Parameter where
  name := "Parameter"
  types := [String, String]
  fields := .cons (.string "name") <| .cons (.string "type") .nil
  ofValues := fun (name, type, ()) => { name, type }
  toValues := fun p => (p.name, p.type, ())

end Parameter

namespace Method

/-- How a method stands in a document. -/
def format : Format Method where
  name := "MethodInfo"
  types := [String, String, String, List Parameter, Bool]
  fields :=
    .cons (.string "name") <|
    .cons (.string "modifiers") <|
    .cons (.string "return_type") <|
    .cons (.records "parameters" Parameter.format) <|
    .cons (.bool "is_static" false) .nil
  ofValues := fun (name, modifiers, returnType, parameters, isStatic, ()) =>
    { name, modifiers, returnType, parameters, isStatic }
  toValues := fun m => (m.name, m.modifiers, m.returnType, m.parameters, m.isStatic, ())

end Method

namespace MemberFunction

/-- How a member function stands in a document. -/
def format : Format MemberFunction where
  name := "MemberFunction"
  types := [Method, Signature]
  fields :=
    .cons (.record "method" Method.format) <|
    .cons (.record "signature" Signature.format) .nil
  ofValues := fun (method, signature, ()) => { method, signature }
  toValues := fun f => (f.method, f.signature, ())

end MemberFunction

namespace VirtualFunction

/-- How a virtual function stands in a document. -/
def format : Format VirtualFunction where
  name := "VirtualFunction"
  types := [Method, UInt32]
  fields :=
    .cons (.record "method" Method.format) <|
    .cons (.uint32 "index") .nil
  ofValues := fun (method, index, ()) => { method, index }
  toValues := fun f => (f.method, f.index, ())

end VirtualFunction

namespace StaticAddress

/-- How a static address stands in a document. -/
def format : Format StaticAddress where
  name := "StaticAddress"
  types := [Method, Signature, Bool]
  fields :=
    .cons (.record "method" Method.format) <|
    .cons (.record "signature" Signature.format) <|
    .cons (.bool "is_pointer" false) .nil
  ofValues := fun (method, signature, isPointer, ()) => { method, signature, isPointer }
  toValues := fun a => (a.method, a.signature, a.isPointer, ())

end StaticAddress

namespace StringOverload

/-- How a string overload stands in a document. -/
def format : Format StringOverload where
  name := "StringOverload"
  types := [Method, List String]
  fields :=
    .cons (.record "method" Method.format) <|
    .cons (.list "ignored_parameters" readString .string) .nil
  ofValues := fun (method, ignoredParameters, ()) => { method, ignoredParameters }
  toValues := fun o => (o.method, o.ignoredParameters, ())

end StringOverload

namespace FixedArray

/-- How a fixed array stands in a document. -/
def format : Format FixedArray where
  name := "FixedArray"
  types := [String, String, UInt32, Bool]
  fields :=
    .cons (.string "field") <|
    .cons (.string "element_type") <|
    .cons (.uint32 "length") <|
    .cons (.bool "is_string" false) .nil
  ofValues := fun (field, elementType, length, isString, ()) =>
    { field, elementType, length, isString }
  toValues := fun a => (a.field, a.elementType, a.length, a.isString, ())

end FixedArray

namespace NativeStruct

/-- The field of the static virtual table, which alone may be null. -/
def staticVirtualTableField : FieldFormat (Option Signature) where
  name := "static_virtual_table"
  read := readOption Signature.format.read
  write := fun
    | none => .null
    | some signature => Signature.format.write signature
  default := some none

/-- How a struct stands in a document. -/
def format : Format NativeStruct where
  name := "StructDescriptor"
  types := [String, String, List String, List MemberFunction, List VirtualFunction,
    List StaticAddress, List StringOverload, List FixedArray, Option Signature]
  fields :=
    .cons (.string "name" (some "")) <|
    .cons (.string "namespace" (some "")) <|
    .cons (.list "containing_types" readString .string) <|
    .cons (.records "member_functions" MemberFunction.format) <|
    .cons (.records "virtual_functions" VirtualFunction.format) <|
    .cons (.records "static_addresses" StaticAddress.format) <|
    .cons (.records "string_overloads" StringOverload.format) <|
    .cons (.records "fixed_arrays" FixedArray.format) <|
    .cons staticVirtualTableField .nil
  ofValues := fun (name, nameSpace, containingTypes, memberFunctions, virtualFunctions,
      staticAddresses, stringOverloads, fixedArrays, staticVirtualTable, ()) =>
    { name, nameSpace, containingTypes, memberFunctions, virtualFunctions, staticAddresses,
      stringOverloads, fixedArrays, staticVirtualTable }
  toValues := fun s => (s.name, s.nameSpace, s.containingTypes, s.memberFunctions,
    s.virtualFunctions, s.staticAddresses, s.stringOverloads, s.fixedArrays, s.staticVirtualTable,
    ())

/-- How the list of all structs stands in a document. -/
def documentFormat : Format (List NativeStruct) where
  name := "DescriptorDocument"
  types := [List NativeStruct]
  fields := .cons (.records "structs" format) .nil
  ofValues := fun (structs, ()) => structs
  toValues := fun structs => (structs, ())
  closed := true

/-- Read a descriptor document. -/
def readDocument (text : String) : Except Fault (List NativeStruct) :=
  documentFormat.readDocument text

/-- Write a descriptor document, with every field of every record. -/
def writeDocument (structs : List NativeStruct) : String :=
  (documentFormat.write structs).render

end NativeStruct

end NativeBindings
