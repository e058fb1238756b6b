/-
NativeBindings/CommandLine/Failure.lean

What ends a run.
-/
import NativeBindings.Error
import NativeBindings.Files.FileSystem
import NativeBindings.Json.Fault

namespace NativeBindings

open Files Json Signature

/-- Arguments that make no command. -/
inductive UsageError where
  | missingValue (flag : String)
  | invalidPointerSize (value : String)
  | invalidRelocationOffset (value : String)
  | unknownOption (flag : String)
  | unexpectedArgument (argument : String)
  | missingInput
  | missingPattern
deriving DecidableEq

/-- The report of arguments that make no command. -/
def UsageError.message : UsageError → String
  | missingValue flag => "`" ++ flag ++ "` expects a value"
  | invalidPointerSize value => "invalid pointer size `" ++ value ++ "`: expected 4 or 8"
  | invalidRelocationOffset value => "invalid relocation offset `" ++ value ++ "`"
  | unknownOption flag => "unknown option `" ++ flag ++ "`"
  | unexpectedArgument argument => "unexpected argument `" ++ argument ++ "`"
  | missingInput => "missing descriptor file"
  | missingPattern => "missing signature pattern"

/-- The causes that end a run. -/
inductive Failure where
  | usage (cause : UsageError)
  | read (path : String) (cause : FileError)
  | write (path : String) (cause : FileError)
  | descriptors (path : String) (cause : Fault)
  | configuration (path : String) (cause : Fault)
  | signature (cause : InvalidToken)
  | generation (cause : GenerationError)

/-- The report of a document that was refused. -/
def documentReport : Fault → String
  | .broken .malformed => "malformed text"
  | .broken .truncated => "unexpected end of text"
  | .shape cause => cause.message

namespace Failure

/-- The report of a failure. -/
def message : Failure → String
  | usage cause => cause.message
  | read path cause => "failed to read `" ++ path ++ "`: " ++ cause.message
  | write path cause => "failed to write `" ++ path ++ "`: " ++ cause.message
  | descriptors path cause =>
      "invalid descriptor document `" ++ path ++ "`: " ++ documentReport cause
  | configuration path cause =>
      "invalid configuration `" ++ path ++ "`: " ++ documentReport cause
  | signature cause => cause.message
  | generation cause => cause.message

/-- Whether the arguments are to blame. -/
def isUsage : Failure → Bool
  | usage _ => true
  | _ => false

end Failure

end NativeBindings
