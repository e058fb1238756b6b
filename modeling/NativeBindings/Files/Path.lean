/-
NativeBindings/Files/Path.lean

Paths as texts.  A slash separates names; a path that begins with one starts at the root.
-/

namespace NativeBindings.Files

/-- Whether a path starts at the root. -/
def isAbsolute (path : String) : Bool := path.toList.head? = some '/'

/-- The parts of a path between its slashes, empty ones included. -/
def parts (path : String) : List String :=
  (path.toList.splitOn '/').map String.ofList

/-- A path below a directory.  An absolute path stays as it is, and a slash is written only where
the directory has a text that does not end in one. -/
def join (directory path : String) : String :=
  if isAbsolute path then path
  else if directory = "" ∨ directory.toList.getLast? = some '/' then directory ++ path
  else directory ++ "/" ++ path

/-- The names of a path.  Empty parts and dots say nothing, other than a dot at the start of a
relative path. -/
def names (path : String) : List String :=
  match parts path with
  | "." :: rest => "." :: rest.filter fun part => part ≠ "" && part ≠ "."
  | all => all.filter fun part => part ≠ "" && part ≠ "."

/-- A path with the given names, absolute or relative as another one. -/
def ofNames (like : String) (names : List String) : String :=
  (if isAbsolute like then "/" else "") ++ "/".intercalate names

/-- The directories above a path, the nearest one first, without the root and the working
directory. -/
def parents (path : String) : List String :=
  let all := names path
  ((List.range all.length).drop 1).reverse.map fun count => ofNames path (all.take count)

end NativeBindings.Files
