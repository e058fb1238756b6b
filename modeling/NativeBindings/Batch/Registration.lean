/-
NativeBindings/Batch/Registration.lean

The registration source, which makes every address of a batch known to the resolver and unknown
again.
-/
import NativeBindings.Binding.Address
import NativeBindings.Binding.CallShape
import NativeBindings.Configuration.Basic
import NativeBindings.Source.Layout

namespace NativeBindings

open Source

/-- The paths of the address records of a struct. -/
def NativeStruct.recordPaths (struct : NativeStruct) : List String :=
  struct.namedSignatures.map fun named =>
    struct.globalTypePath ++ ".Addresses." ++ named.name

/-- The record paths of structs, in the order of the structs. -/
def recordPaths (structs : List NativeStruct) : List String :=
  structs.flatMap NativeStruct.recordPaths

/-- A method that makes the same call of the resolver for every record. -/
def resolverMethod (config : Configuration) (name call : String) (paths : List String) : Layout :=
  Layout.item <| Layout.scope ("public static void " ++ name ++ "()") <|
    paths.map fun path =>
      .line (config.runtimeType "Resolver" ++ ".GetInstance." ++ call ++ "(" ++ path ++ ");")

/-- The source that registers the addresses of structs. -/
def registrationSource (structs : List NativeStruct) (config : Configuration) : String :=
  let paths := recordPaths structs
  Layout.render <|
    Layout.fileHeader config.generatedNamespace ++
      Layout.item (Layout.scope "public static class Addresses"
        (resolverMethod config "Register" "RegisterAddress" paths ++
          resolverMethod config "Unregister" "UnregisterAddress" paths))

end NativeBindings
