/-
NativeBindings/CommandLine/Generate.lean

The command that generates the sources of a descriptor document.  Both documents are read and the
batch is compiled before the output directory is made and the first file is written, so a run that
fails earlier leaves the file system as it was.
-/
import NativeBindings.Cancellation
import NativeBindings.CommandLine.Options
import NativeBindings.Configuration.Document
import NativeBindings.NativeStruct.Document
import NativeBindings.Files.Disk

namespace NativeBindings

open Files

/-- What a run wrote, and the structs that it left out. -/
structure Summary where
  /-- The paths of the files, in the order in which they were written. -/
  written : List String
  errors : List GenerationError
deriving DecidableEq

/-- Whether no struct was left out. -/
def Summary.isSuccess (summary : Summary) : Bool := summary.errors.isEmpty

variable {m : Type → Type} [Monad m] (disk : Disk m)

/-- Fail with a cause. -/
def orFail {ε α : Type} (failure : ε → Failure) (result : Except ε α) : ExceptT Failure m α :=
  match result with
  | .ok a => pure a
  | .error cause => throw (failure cause)

/-- Read a text file. -/
def readFile (path : String) : ExceptT Failure m String := do
  orFail (.read path) (← disk.read path)

/-- The configuration of a run: the document that the options name, or the defaults, with the
settings of the options in their place. -/
def configurationOf (options : GenerateOptions) : ExceptT Failure m Configuration :=
  match options.config with
  | none => return options.override {}
  | some path => do
      let text ← readFile disk path
      return options.override (← orFail (.configuration path) (Configuration.readDocument text))

/-- The structs of a descriptor document. -/
def readStructs (path : String) : ExceptT Failure m (List NativeStruct) := do
  let text ← readFile disk path
  orFail (.descriptors path) (NativeStruct.readDocument text)

/-- Write sources into a directory; the paths are returned. -/
def writeArtifacts (directory : String) : List Artifact → ExceptT Failure m (List String)
  | [] => return []
  | artifact :: rest => do
      let path := join directory artifact.hintName
      orFail (.write path) (← disk.write path artifact.source)
      return path :: (← writeArtifacts directory rest)

/-- Generate the sources of a descriptor document. -/
def generate (cancelled : Bool) (options : GenerateOptions) : ExceptT Failure m Summary := do
  let config ← configurationOf disk options
  let structs ← readStructs disk options.input
  let batch ← orFail .generation (Batch.compileUnless cancelled config structs)
  orFail (.write options.output) (← disk.makeDirectories options.output)
  let written ← writeArtifacts disk options.output batch.artifacts
  return { written, errors := batch.errors }

/-- Generate as the arguments say. -/
def generateFrom (cancelled : Bool) (arguments : List String) : ExceptT Failure m Summary := do
  generate disk cancelled (← orFail .usage (GenerateOptions.ofArguments arguments))

end NativeBindings
