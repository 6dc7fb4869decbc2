import Hotload.Bytes

/-!
# The file tree

A file tree maps locations to files, directories and symbolic links. A location is the list of names
from the root down, free of dots and links; paths are turned into locations in
`Hotload.Files.Walk`.
-/

namespace Hotload

/-- Why the file system refuses an operation. -/
inductive FileError where
  | notFound
  | alreadyExists
  | notADirectory
  | isADirectory
  | directoryNotEmpty
  | permissionDenied
  /-- A name of more than 255 bytes, or a path of more than 4095. -/
  | invalidFilename
  /-- More than forty links on the way. -/
  | filesystemLoop
  | invalidInput
  /-- The file system is not at fault: a path holds a null character, or what was read is
  malformed. -/
  | unusableData
  deriving DecidableEq, Repr

/-- What stands at a location. -/
inductive Node where
  /-- A file, its content and the time it was last modified, in milliseconds since 1970. -/
  | file (content : Bytes) (modified : Int)
  | directory
  | link (target : String)
  deriving DecidableEq, Repr

/-- The names from the root of the tree down. -/
abbrev Location := List String

/-- A file tree, with the time that newly written files get. -/
structure Files where
  entries : List (Location × Node)
  clock : Int

namespace Files

/-- What stands at a location; the root is always a directory. -/
def node? (files : Files) (location : Location) : Option Node :=
  if location = [] then some .directory else files.entries.lookup location

/-- Puts a node at a location, in place of what stood there. -/
def put (files : Files) (location : Location) (node : Node) : Files :=
  if files.entries.any (·.1 = location) then
    { files with
      entries := files.entries.map fun entry =>
        if entry.1 = location then (location, node) else entry }
  else { files with entries := files.entries ++ [(location, node)] }

/-- Takes away the node at a location. -/
def erase (files : Files) (location : Location) : Files :=
  { files with entries := files.entries.filter fun entry => entry.1 ≠ location }

/-- Takes away the node at a location and everything below it. -/
def eraseTree (files : Files) (location : Location) : Files :=
  { files with entries := files.entries.filter fun entry => !location.isPrefixOf entry.1 }

/-- The names in the directory at a location. -/
def childNames (files : Files) (location : Location) : List String :=
  files.entries.filterMap fun entry =>
    if entry.1 ≠ [] ∧ entry.1.dropLast = location then entry.1.getLast? else none

end Files

end Hotload
