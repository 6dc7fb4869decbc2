import Hotload.Files.Basic
import Hotload.Path

/-!
# From paths to locations

A path is walked name by name from the working directory or from the root. Links are followed on the
way, at most forty of them, and a path may end at something that exists or at a free name in a
directory that exists. Which name is refused first decides which error the caller sees.
-/

namespace Hotload

namespace Files

/-- Where a walk ends. -/
inductive Spot where
  /-- At something that exists. -/
  | taken (location : Location) (node : Node)
  /-- At a name that nothing has yet, in a directory that exists. -/
  | free (directory : Location) (name : String)
  deriving DecidableEq, Repr

/-- Whether a name is too long to be stored. -/
def isOverlong (name : String) : Bool :=
  name.utf8ByteSize > 255

/-- Walks the names of a path from a directory, up to a link that has to be followed; `leap` goes on
from there, given the directory of the link, its target and the names that are left. `follow` says
whether a link at the very end has to be followed. -/
def walkTo (files : Files) (follow : Bool)
    (leap : Location → String → List String → Except FileError Spot) (current : Location) :
    List String → Except FileError Spot
  | [] => .ok (.taken current .directory)
  | "." :: rest => walkTo files follow leap current rest
  | ".." :: rest => walkTo files follow leap current.dropLast rest
  | name :: rest =>
    if isOverlong name then .error .invalidFilename
    else
      match files.node? (current ++ [name]) with
      | none => if rest.isEmpty then .ok (.free current name) else .error .notFound
      | some .directory => walkTo files follow leap (current ++ [name]) rest
      | some (.file content modified) =>
        if rest.isEmpty then .ok (.taken (current ++ [name]) (.file content modified))
        else .error .notADirectory
      | some (.link target) =>
        if rest.isEmpty && !follow then .ok (.taken (current ++ [name]) (.link target))
        else leap current target rest

/-- Walks the names of a path from a directory, following at most as many links as the budget
allows. -/
def walk (files : Files) (follow : Bool) : Nat → Location → List String → Except FileError Spot
  | 0 => walkTo files follow fun _ _ _ => .error .filesystemLoop
  | fewer + 1 =>
    walkTo files follow fun current target rest =>
      if target = "" then .error .notFound
      else
        walk files follow fewer (if Path.isAbsolute target then [] else current)
          (Path.parts target ++ rest)

/-- The directory in which relative paths start. -/
def workingDirectory : Location :=
  ["tmp", "work"]

/-- Walks a path. An empty path leads nowhere, and neither does one with a null character in it. -/
def locate (files : Files) (follow : Bool) (path : String) : Except FileError Spot :=
  if '\x00' ∈ Text.chars path then .error .unusableData
  else if path = "" then .error .notFound
  else if path.utf8ByteSize > 4095 then .error .invalidFilename
  else
    let start := if Path.isAbsolute path then [] else workingDirectory
    walk files follow 40 start (Path.parts path)

/-- What a path leads to, through links. A separator at the end asks for a directory. -/
def status (files : Files) (path : String) : Except FileError (Location × Node) :=
  match files.locate true path with
  | .error error => .error error
  | .ok (.free _ _) => .error .notFound
  | .ok (.taken location .directory) => .ok (location, .directory)
  | .ok (.taken location node) =>
    if Path.endsInSeparator path then .error .notADirectory else .ok (location, node)

/-- Whether a path leads to anything. -/
def exists_ (files : Files) (path : String) : Bool :=
  (files.status path).isOk

/-- Whether a path leads to a file. -/
def isFile (files : Files) (path : String) : Bool :=
  match files.status path with
  | .ok (_, .file _ _) => true
  | _ => false

/-- Whether a path leads to a directory. -/
def isDirectory (files : Files) (path : String) : Bool :=
  match files.status path with
  | .ok (_, .directory) => true
  | _ => false

/-- The length of what a path leads to. A directory has a length of its own, which is not zero. -/
def size (files : Files) (path : String) : Except FileError Nat :=
  match files.status path with
  | .error error => .error error
  | .ok (_, .file content _) => .ok content.length
  | .ok _ => .ok 4096

/-- When what a path leads to was last modified. -/
def modified (files : Files) (path : String) : Except FileError Int :=
  match files.status path with
  | .error error => .error error
  | .ok (_, .file _ time) => .ok time
  | .ok _ => .ok files.clock

/-- The content of the file that a path leads to. -/
def read (files : Files) (path : String) : Except FileError Bytes :=
  match files.status path with
  | .error error => .error error
  | .ok (_, .file content _) => .ok content
  | .ok _ => .error .isADirectory

/-- The names in the directory that a path leads to. -/
def list (files : Files) (path : String) : Except FileError (List String) :=
  match files.status path with
  | .error error => .error error
  | .ok (location, .directory) => .ok (files.childNames location)
  | .ok _ => .error .notADirectory

end Files

end Hotload
