/-
NativeBindings/Error.lean

Why a struct has no source.
-/
import NativeBindings.Signature.Pattern

namespace NativeBindings

open Signature

/-- The causes for which a struct, or a whole batch, is not generated. -/
inductive GenerationError where
  /-- A signature holds a word that is no token. -/
  | malformedSignature (symbol : String) (cause : InvalidToken)
  /-- Another source has the same file name already. -/
  | duplicateArtifact (hintName : String)
  /-- The run was cancelled. -/
  | cancelled
deriving DecidableEq

namespace GenerationError

/-- The report of an error. -/
def message : GenerationError → String
  | malformedSignature symbol cause =>
      "malformed signature for `" ++ symbol ++ "`: " ++ cause.message
  | duplicateArtifact hintName => "artifact `" ++ hintName ++ "` is generated more than once"
  | cancelled => "code generation was cancelled"

/-- Whether the error stops a whole batch. -/
def isCancellation : GenerationError → Bool
  | cancelled => true
  | _ => false

end GenerationError

end NativeBindings
