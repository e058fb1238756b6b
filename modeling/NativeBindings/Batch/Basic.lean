/-
NativeBindings/Batch/Basic.lean

Batches.  Structs are taken in order: one whose signatures are well formed is kept, unless its file
name is taken already, by a source of the whole batch or by a struct kept before it.  The sources
that cover the batch are made from the kept structs.
-/
import NativeBindings.Batch.Artifact
import NativeBindings.Batch.ArraySizes
import NativeBindings.Batch.Registration
import NativeBindings.Binding.StructSource

namespace NativeBindings

/-- The result of a batch. -/
structure Batch where
  /-- One source for each struct that was kept. -/
  structs : List Artifact
  registration : Artifact
  arrayTypes : Artifact
  /-- One error for each struct that was not kept. -/
  errors : List GenerationError
deriving DecidableEq

/-- The file names of the sources that cover a batch. -/
def Configuration.batchHints (config : Configuration) : List String :=
  [config.batchHint registrationName, config.batchHint arrayTypesName]

namespace Batch

/-- The structs of a batch that are kept, with their sources, and the errors of the others, both in
the order of the batch. -/
structure Selection where
  kept : List (NativeStruct × String) := []
  errors : List GenerationError := []
deriving DecidableEq

/-- Keep a struct in front of a selection. -/
def Selection.keep (struct : NativeStruct) (source : String) (selection : Selection) : Selection :=
  { selection with kept := (struct, source) :: selection.kept }

/-- Leave a struct out, in front of a selection. -/
def Selection.leaveOut (error : GenerationError) (selection : Selection) : Selection :=
  { selection with errors := error :: selection.errors }

/-- Keep what can be kept, given the file names that are taken. -/
def select (config : Configuration) : (taken : List String) → List NativeStruct → Selection
  | _, [] => {}
  | taken, struct :: rest =>
      match struct.compile config with
      | .error error => (select config taken rest).leaveOut error
      | .ok source =>
          if struct.hintName ∈ taken then
            (select config taken rest).leaveOut (.duplicateArtifact struct.hintName)
          else (select config (struct.hintName :: taken) rest).keep struct source

/-- Compile structs that belong together. -/
def compile (config : Configuration) (structs : List NativeStruct) : Batch :=
  let selection := select config config.batchHints structs
  let kept := selection.kept.map Prod.fst
  { structs := selection.kept.map fun (struct, source) => { hintName := struct.hintName, source }
    registration :=
      { hintName := config.batchHint registrationName, source := registrationSource kept config }
    arrayTypes :=
      { hintName := config.batchHint arrayTypesName
        source := (ArraySizes.ofStructs kept).render config }
    errors := selection.errors }

/-- All sources: those of structs first, then the registration and the inline array types. -/
def artifacts (batch : Batch) : List Artifact :=
  batch.structs ++ [batch.registration, batch.arrayTypes]

/-- Whether a struct was not kept. -/
def hasErrors (batch : Batch) : Bool := !batch.errors.isEmpty

end Batch

end NativeBindings
