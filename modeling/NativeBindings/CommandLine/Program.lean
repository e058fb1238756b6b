/-
NativeBindings/CommandLine/Program.lean

The program: what it prints and how it exits, for all arguments behind its name.
-/
import NativeBindings.CommandLine.Encode
import NativeBindings.CommandLine.Generate

namespace NativeBindings

open Files

/-- What a run of the program shows. -/
structure Report where
  standardOutput : String := ""
  standardError : String := ""
  exitCode : UInt32 := 0
deriving DecidableEq

/-- Lines with their line feeds. -/
def unlines (lines : List String) : String := String.join (lines.map (· ++ "\n"))

/-- How the program is used. -/
def usageText : String :=
  unlines
    ["Interop binding compiler",
      "",
      "Usage: interopc <command> [options]",
      "",
      "Commands:",
      "  generate <structs.json> [options]   Generate bindings for a descriptor document",
      "  encode <pattern> [--reloc N]...     Show the packed form of a signature",
      "  help                                Show this help message",
      "  version                             Show version information",
      "",
      "Generate options:",
      "  -o, --output <dir>                  Output directory (default: .)",
      "  --config <file>                     Configuration document (JSON)",
      "  --pointer-size <4|8>                Target pointer width in bytes",
      "  --runtime-namespace <ns>            Namespace of the runtime resolver",
      "  --generated-namespace <ns>          Namespace of batch-level artifacts",
      "  --no-parallel                       Compile structs on one thread",
      "",
      "Set RUST_LOG=interop_codegen=debug for diagnostic output."]

/-- The name and version of the program. -/
def versionText : String := "interopc 0.1.0\n"

/-- The report of a run that failed.  The usage follows if the arguments are to blame. -/
def Failure.report (failure : Failure) : Report where
  standardOutput := if failure.isUsage then usageText else ""
  standardError := "error: " ++ failure.message ++ "\n" ++ (if failure.isUsage then "\n" else "")
  exitCode := 1

/-- The report of a run that generated sources. -/
def Summary.report (summary : Summary) : Report where
  standardOutput := "wrote " ++ toString summary.written.length ++ " file(s)\n"
  standardError :=
    unlines (summary.errors.map fun error => "error: " ++ error.message) ++
      (if summary.isSuccess then ""
      else toString summary.errors.length ++ " struct(s) skipped\n")
  exitCode := if summary.isSuccess then 0 else 1

/-- The report of `encode`. -/
def encodeReport (arguments : List String) : Report :=
  match EncodeOptions.ofArguments arguments with
  | .error cause => (Failure.usage cause).report
  | .ok options =>
      match options.describe with
      | .ok description => { standardOutput := description }
      | .error failure => failure.report

/-- The report of a word that is no command. -/
def unknownCommandReport (command : String) : Report where
  standardOutput := usageText
  standardError := "Unknown command: " ++ command ++ "\n\n"
  exitCode := 1

variable {m : Type → Type} [Monad m] (disk : Disk m)

/-- The report of `generate`. -/
def generateReport (arguments : List String) : m Report := do
  match ← (generateFrom disk false arguments).run with
  | .ok summary => return summary.report
  | .error failure => return failure.report

/-- Run the program. -/
def runProgram : List String → m Report
  | [] => return { standardOutput := usageText }
  | command :: arguments =>
      if command = "generate" then generateReport disk arguments
      else if command = "encode" then return encodeReport arguments
      else if command ∈ ["help", "--help", "-h"] then return { standardOutput := usageText }
      else if command ∈ ["version", "--version", "-V"] then
        return { standardOutput := versionText }
      else return unknownCommandReport command

end NativeBindings
