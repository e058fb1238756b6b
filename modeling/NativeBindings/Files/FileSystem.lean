/-
NativeBindings/Files/FileSystem.lean

A file system without links: every location is free, a directory or a file with bytes, and the root
is a directory.  A path is followed name by name, each of them in a directory that must exist; the
first name that fails decides the error.  An operation that fails changes nothing, except that the
directories made on the way to a deeper one stay.
-/
import NativeBindings.Files.Path

namespace NativeBindings.Files

/-- Why an operation on a file failed. -/
inductive FileError where
  | notFound
  | alreadyExists
  | notDirectory
  | isDirectory
  | nameTooLong
  /-- A path holds the character with code zero. -/
  | nulByte
  /-- The bytes of a file are no text. -/
  | notText
  /-- An error with a report of its own. -/
  | other (report : String)
deriving DecidableEq

/-- The report of an error. -/
def FileError.message : FileError → String
  | notFound => "No such file or directory (os error 2)"
  | alreadyExists => "File exists (os error 17)"
  | notDirectory => "Not a directory (os error 20)"
  | isDirectory => "Is a directory (os error 21)"
  | nameTooLong => "File name too long (os error 36)"
  | nulByte => "file name contained an unexpected NUL byte"
  | notText => "stream did not contain valid UTF-8"
  | other report => report

/-- The names from the root down to a file or directory. -/
abbrev Location := List String

/-- What lies at a location. -/
inductive Entry where
  | directory
  | file (content : ByteArray)

/-- A file system, and the directory from which relative paths start. -/
structure FileSystem where
  entries : List (Location × Entry) := []
  workingDirectory : Location := []

/-- The longest name, in bytes. -/
def longestName : Nat := 255

/-- The longest path, in bytes. -/
def longestPath : Nat := 4095

namespace FileSystem

/-- What lies at a location. -/
def find? (files : FileSystem) (location : Location) : Option Entry :=
  if location = [] then some .directory else files.entries.lookup location

/-- Put an entry at a location, in place of what lies there. -/
def put (files : FileSystem) (location : Location) (entry : Entry) : FileSystem :=
  if files.entries.any (·.1 = location) then
    { files with
      entries := files.entries.map fun old => if old.1 = location then (location, entry) else old }
  else { files with entries := files.entries ++ [(location, entry)] }

/-- Follow names from a directory to a directory. -/
def walk (files : FileSystem) : Location → List String → Except FileError Location
  | location, [] => .ok location
  | location, name :: rest =>
      if name = "" ∨ name = "." then files.walk location rest
      else if name = ".." then files.walk location.dropLast rest
      else if longestName < name.utf8ByteSize then .error .nameTooLong
      else
        match files.find? (location ++ [name]) with
        | none => .error .notFound
        | some (.file _) => .error .notDirectory
        | some .directory => files.walk (location ++ [name]) rest

/-- Where a path leads: to an existing directory that it does not name, or to a name in an existing
directory. -/
inductive Target where
  | directory (location : Location)
  | named (parent : Location) (name : String)
deriving DecidableEq

/-- Follow the parts of a path. -/
def resolveParts (files : FileSystem) (start : Location) (parts : List String) :
    Except FileError Target :=
  match parts.getLast? with
  | none => .ok (.directory start)
  | some last =>
      if last = "" ∨ last = "." ∨ last = ".." then .directory <$> files.walk start parts
      else do
        let parent ← files.walk start parts.dropLast
        if longestName < last.utf8ByteSize then throw .nameTooLong
        return .named parent last

/-- Refuse a text that cannot be a path. -/
def checkPath (path : String) : Except FileError Unit :=
  if path.toList.contains '\x00' then .error .nulByte
  else if path = "" then .error .notFound
  else if longestPath < path.utf8ByteSize then .error .nameTooLong
  else .ok ()

/-- The directory from which a path starts. -/
def start (files : FileSystem) (path : String) : Location :=
  if isAbsolute path then [] else files.workingDirectory

/-- Follow a path. -/
def resolve (files : FileSystem) (path : String) : Except FileError Target := do
  checkPath path
  files.resolveParts (files.start path) (parts path)

/-- Whether a path leads to a directory. -/
def isDirectoryAt (files : FileSystem) (path : String) : Bool :=
  match files.resolve path with
  | .ok (.directory _) => true
  | .ok (.named parent name) =>
      match files.find? (parent ++ [name]) with
      | some .directory => true
      | _ => false
  | .error _ => false

/-- The bytes of a file. -/
def readBytes (files : FileSystem) (path : String) : Except FileError ByteArray := do
  match ← files.resolve path with
  | .directory _ => throw .isDirectory
  | .named parent name =>
      match files.find? (parent ++ [name]) with
      | none => throw .notFound
      | some .directory => throw .isDirectory
      | some (.file content) => return content

/-- The text of a file. -/
def read (files : FileSystem) (path : String) : Except FileError String := do
  match String.fromUTF8? (← files.readBytes path) with
  | some text => return text
  | none => throw .notText

/-- Make a file, or replace the content of one. -/
def write (files : FileSystem) (path content : String) : Except FileError FileSystem := do
  match ← files.resolve path with
  | .directory _ => throw .isDirectory
  | .named parent name =>
      match files.find? (parent ++ [name]) with
      | some .directory => throw .isDirectory
      | _ => return files.put (parent ++ [name]) (.file content.toUTF8)

/-- The parts of a path without the empty ones at its end. -/
def partsOfDirectory (path : String) : List String :=
  ((parts path).reverse.dropWhile (· = "")).reverse

/-- Make a directory; its parent must exist. -/
def makeDirectory (files : FileSystem) (path : String) : Except FileError FileSystem := do
  checkPath path
  match ← files.resolveParts (files.start path) (partsOfDirectory path) with
  | .directory _ => throw .alreadyExists
  | .named parent name =>
      match files.find? (parent ++ [name]) with
      | some _ => throw .alreadyExists
      | none => return files.put (parent ++ [name]) .directory

/-- Whether an error only says that a directory is there already. -/
def isThere (files : FileSystem) (path : String) (error : FileError) : Bool :=
  error = .alreadyExists && files.isDirectoryAt path

/-- Make the first of some directories, each of which lies below the next one.  Those further up are
made only where they are missing. -/
def makeChain : List String → FileSystem → Except FileError Unit × FileSystem
  | [], files => (.ok (), files)
  | path :: above, files =>
      match files.makeDirectory path with
      | .ok files => (.ok (), files)
      | .error .notFound =>
          match makeChain above files with
          | (.error error, files) => (.error error, files)
          | (.ok (), files) =>
              match files.makeDirectory path with
              | .ok files => (.ok (), files)
              | .error error =>
                  (if files.isThere path error then .ok () else .error error, files)
      | .error error => (if files.isThere path error then .ok () else .error error, files)

/-- Make a directory and the missing ones above it.  The working directory and the root are
there. -/
def makeDirectories (path : String) (files : FileSystem) : Except FileError Unit × FileSystem :=
  if path = "" ∨ (isAbsolute path ∧ names path = []) then (.ok (), files)
  else makeChain (path :: parents path) files

/-- Whether a location lies below another one. -/
def liesBelow (directory location : Location) : Bool :=
  directory.isPrefixOf location && directory.length < location.length

/-- The entries below the working directory, each with its path from there. -/
def entriesBelow (files : FileSystem) : List (String × Entry) :=
  (files.entries.filter fun entry => liesBelow files.workingDirectory entry.1).map
    fun (location, entry) =>
      ("/".intercalate (location.drop files.workingDirectory.length), entry)

end FileSystem

end NativeBindings.Files
