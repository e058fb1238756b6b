/-
NativeBindings/Files/Disk.lean

The operations on files that a run needs, in any monad, and those of a file system held in memory.
-/
import NativeBindings.Files.FileSystem

namespace NativeBindings.Files

/-- Operations on files. -/
structure Disk (m : Type → Type) where
  /-- Read the text of a file. -/
  read : (path : String) → m (Except FileError String)
  /-- Make a directory and those above it, where they are missing. -/
  makeDirectories : (path : String) → m (Except FileError Unit)
  /-- Make a file, or replace the content of one. -/
  write : (path content : String) → m (Except FileError Unit)

/-- The operations on a file system held in memory. -/
def memoryDisk : Disk (StateM FileSystem) where
  read := fun path files => (files.read path, files)
  makeDirectories := fun path files => FileSystem.makeDirectories path files
  write := fun path content files =>
    match files.write path content with
    | .ok files => (.ok (), files)
    | .error error => (.error error, files)

end NativeBindings.Files
