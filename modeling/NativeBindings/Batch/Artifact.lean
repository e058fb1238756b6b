/-
NativeBindings/Batch/Artifact.lean

Generated sources with the names of their files.
-/
import NativeBindings.Configuration.Basic
import NativeBindings.NativeStruct.Basic

namespace NativeBindings

/-- A generated source. -/
structure Artifact where
  /-- The name that its file should have. -/
  hintName : String
  source : String
deriving DecidableEq

/-- The ending of the names of generated files. -/
def generatedSuffix : String := ".g.cs"

/-- The name of the file of a struct. -/
def NativeStruct.hintName (struct : NativeStruct) : String :=
  struct.qualifiedName ++ generatedSuffix

/-- The name of a file that covers a batch: it stands in the generated namespace. -/
def Configuration.batchHint (config : Configuration) (name : String) : String :=
  (if config.generatedNamespace = "" then "" else config.generatedNamespace ++ ".") ++ name ++
    generatedSuffix

/-- The name of the registration source. -/
def registrationName : String := "Addresses"

/-- The name of the source of the inline array types. -/
def arrayTypesName : String := "FixedSizeArrays"

end NativeBindings
