/-
NativeBindings/Configuration/Document.lean

Configuration documents.  Every field may be left out, and keys that are no fields are passed over.
-/
import NativeBindings.Configuration.Basic
import NativeBindings.Json.Field

namespace NativeBindings.Configuration

open Json

/-- How a configuration stands in a document. -/
def format : Format Configuration where
  name := "CodegenConfig"
  types := [UInt32, String, String, Bool]
  fields :=
    .cons (.uint32 "pointer_size" (some ({} : Configuration).pointerSize)) <|
    .cons (.string "runtime_namespace" (some ({} : Configuration).runtimeNamespace)) <|
    .cons (.string "generated_namespace" (some ({} : Configuration).generatedNamespace)) <|
    .cons (.bool "parallel" ({} : Configuration).parallel) .nil
  ofValues := fun (pointerSize, runtimeNamespace, generatedNamespace, parallel, ()) =>
    { pointerSize, runtimeNamespace, generatedNamespace, parallel }
  toValues := fun c => (c.pointerSize, c.runtimeNamespace, c.generatedNamespace, c.parallel, ())

/-- Read a configuration document. -/
def readDocument (text : String) : Except Fault Configuration :=
  format.readDocument text

end NativeBindings.Configuration
