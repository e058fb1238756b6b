/-
NativeBindings/Main.lean

The command line: the program on the files of the operating system.
-/
import NativeBindings.CommandLine.Program

namespace NativeBindings

open Files

/-- The error with a code of the operating system, which may be given with the opposite sign. -/
def fileErrorOfCode (code : UInt32) (details : String) : FileError :=
  let code := if code < 0x80000000 then code else 0 - code
  match code with
  | 2 => .notFound
  | 17 => .alreadyExists
  | 20 => .notDirectory
  | 21 => .isDirectory
  | 36 => .nameTooLong
  | _ => .other (details ++ " (os error " ++ toString code.toNat ++ ")")

/-- The cause of an error of the operating system. -/
def fileErrorOf : IO.Error → FileError
  | .noFileOrDirectory _ code details => fileErrorOfCode code details
  | .alreadyExists _ code details => fileErrorOfCode code details
  | .inappropriateType _ code details => fileErrorOfCode code details
  | .invalidArgument _ code details => fileErrorOfCode code details
  | .permissionDenied _ code details => fileErrorOfCode code details
  | .resourceExhausted _ code details => fileErrorOfCode code details
  | .resourceBusy code details => fileErrorOfCode code details
  | .unsupportedOperation code details => fileErrorOfCode code details
  | .otherError code details => fileErrorOfCode code details
  | error => .other (toString error)

/-- The outcome of an operation at a path. -/
def outcome {α : Type} (path : String) (action : IO α) : IO (Except FileError α) := do
  if path.toList.contains '\x00' then return .error .nulByte
  match ← action.toBaseIO with
  | .ok a => return .ok a
  | .error error => return .error (fileErrorOf error)

/-- Make a directory; an error counts for nothing if the directory is there. -/
def ensureDirectory (path : String) : IO (Except FileError Unit) := do
  match ← outcome path (IO.FS.createDir path) with
  | .error error =>
      if error = .notFound then return .error error
      else return (← outcome path (IO.FS.createDirAll path)).mapError fun _ => error
  | made => return made

/-- Make the first of some directories, each of which lies below the next one.  Those further up are
made only where they are missing. -/
def ensureDirectories : List String → IO (Except FileError Unit)
  | [] => return .ok ()
  | path :: above => do
      match ← ensureDirectory path with
      | .error .notFound =>
          match ← ensureDirectories above with
          | .ok () => ensureDirectory path
          | .error error => return .error error
      | result => return result

/-- The files of the operating system. -/
def systemDisk : Disk IO where
  read := fun path => do
    match ← outcome path (IO.FS.readBinFile path) with
    | .error error => return .error error
    | .ok bytes =>
        match String.fromUTF8? bytes with
        | some text => return .ok text
        | none => return .error .notText
  makeDirectories := fun path =>
    if path = "" then return .ok () else ensureDirectories (path :: parents path)
  write := fun path content => outcome path (IO.FS.writeFile path content)

end NativeBindings

/-- Run the program and show its report. -/
def main (arguments : List String) : IO UInt32 := do
  let report ← NativeBindings.runProgram NativeBindings.systemDisk arguments
  IO.print report.standardOutput
  IO.eprint report.standardError
  return report.exitCode
