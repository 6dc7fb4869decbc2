import Hotload.Files.Walk

/-!
# Changing the file tree

Every change either happens or is refused with the reason that the file system gives. A refused
single change leaves the tree as it was; `makeDirectories` may stop half-way, so it returns the tree
in either case.
-/

namespace Hotload

namespace Files

/-- Opens a file for writing from the start and writes a content to it. A missing file is created,
also at the end of a link that leads nowhere yet. -/
def write (files : Files) (path : String) (content : Bytes) : Except FileError Files :=
  match files.locate true path with
  | .error error => .error error
  | .ok (.taken _ .directory) => .error .isADirectory
  | .ok (.taken location _) =>
    if Path.endsInSeparator path then .error .isADirectory
    else .ok (files.put location (.file content files.clock))
  | .ok (.free directory name) =>
    if Path.endsInSeparator path then .error .isADirectory
    else .ok (files.put (directory ++ [name]) (.file content files.clock))

/-- Creates an empty file at a path where nothing is, not even a link. -/
def createNew (files : Files) (path : String) : Except FileError Files :=
  match files.locate false path with
  | .error error => .error error
  | .ok (.taken _ _) =>
    if Path.endsInSeparator path && (Path.fileName? path).isSome then .error .isADirectory
    else .error .alreadyExists
  | .ok (.free directory name) =>
    if Path.endsInSeparator path then .error .isADirectory
    else .ok (files.put (directory ++ [name]) (.file [] files.clock))

/-- Removes the file or the link that a path names; a link is not followed. -/
def unlink (files : Files) (path : String) : Except FileError Files :=
  match files.locate false path with
  | .error error => .error error
  | .ok (.free _ _) => .error .notFound
  | .ok (.taken _ .directory) => .error .isADirectory
  | .ok (.taken location _) =>
    if Path.endsInSeparator path then .error .notADirectory else .ok (files.erase location)

/-- Removes a file. The result tells whether there was one; that it was gone already is no error. -/
def removeIfExists (files : Files) (path : String) : Files × Except FileError Bool :=
  match files.unlink path with
  | .ok after => (after, .ok true)
  | .error .notFound => (files, .ok false)
  | .error error => (files, .error error)

/-- Creates a directory in one that exists. -/
def makeDirectory (files : Files) (path : String) : Except FileError Files :=
  match files.locate false path with
  | .error error => .error error
  | .ok (.taken _ _) => .error .alreadyExists
  | .ok (.free directory name) => .ok (files.put (directory ++ [name]) .directory)

/-- Creates the directories of a chain of paths, from the last to the first; one that is there
already is passed over. -/
def makeEach (files : Files) : List String → Files × Except FileError Unit
  | [] => (files, .ok ())
  | path :: rest =>
    match files.makeDirectory path with
    | .ok after => makeEach after rest
    | .error error =>
      if error = .alreadyExists && files.isDirectory path then makeEach files rest
      else (files, .error error)

/-- Goes up from a path to the nearest directory that exists or can be created, and then creates the
directories below it. `pending` holds the paths already passed, the highest first. The fuel bounds
the number of components. -/
def makeUpwards (files : Files) : Nat → List String → String → Files × Except FileError Unit
  | 0, _, _ => (files, .error .notFound)
  | fuel + 1, pending, path =>
    if path = "" then makeEach files pending
    else
      match files.makeDirectory path with
      | .ok after => makeEach after pending
      | .error .notFound =>
        match Path.parent? path with
        | some parent => makeUpwards files fuel (path :: pending) parent
        | none => makeEach files (path :: pending)
      | .error error =>
        if error = .alreadyExists && files.isDirectory path then makeEach files pending
        else (files, .error error)

/-- Creates a directory together with the directories above it. The empty path is the working
directory, which is there. -/
def makeDirectories (files : Files) (path : String) : Files × Except FileError Unit :=
  makeUpwards files ((Path.components path).length + 2) [] path

/-- Removes a directory with everything in it. A link is removed itself and what it leads to is left
alone; a file is refused. -/
def removeTree (files : Files) (path : String) : Except FileError Files :=
  match files.locate (Path.endsInSeparator path) path with
  | .error error => .error error
  | .ok (.free _ _) => .error .notFound
  | .ok (.taken location .directory) =>
    if location = [] then .error .permissionDenied
    else if (Path.fileName? path).isNone then .error .invalidInput
    else .ok (files.eraseTree location)
  | .ok (.taken location (.link _)) => .ok (files.erase location)
  | .ok (.taken _ (.file _ _)) => .error .notADirectory

/-- Creates a link. -/
def symlink (files : Files) (target path : String) : Except FileError Files :=
  if target = "" then .error .notFound
  else
    match files.locate false path with
    | .error error => .error error
    | .ok (.taken _ _) => .error .alreadyExists
    | .ok (.free directory name) =>
      if Path.endsInSeparator path then .error .notFound
      else .ok (files.put (directory ++ [name]) (.link target))

/-- Sets the time at which a file was last modified. -/
def touch (files : Files) (path : String) (time : Int) : Except FileError Files :=
  match files.status path with
  | .error error => .error error
  | .ok (location, .file content _) => .ok (files.put location (.file content time))
  | .ok _ => .error .isADirectory

/-- Moves every entry at or below a location to another location. -/
def moveTree (files : Files) (source target : Location) : Files :=
  { files with
    entries := files.entries.map fun entry =>
      if source.isPrefixOf entry.1 then (target ++ entry.1.drop source.length, entry.2) else entry }

/-- Gives a file, link or directory another name. A file may take the place of a file, and a
directory that of an empty directory. -/
def rename (files : Files) (path target : String) : Except FileError Files :=
  match files.locate false path, files.locate false target with
  | .error error, _ => .error error
  | _, .error error => .error error
  | .ok (.free _ _), _ => .error .notFound
  | .ok (.taken source node), .ok (.free directory name) =>
    if node ≠ .directory && (Path.endsInSeparator path || Path.endsInSeparator target) then
      .error .notADirectory
    else if source.isPrefixOf directory then .error .invalidInput
    else .ok (files.moveTree source (directory ++ [name]))
  | .ok (.taken source node), .ok (.taken place old) =>
    if source = place then .ok files
    else
      match node, old with
      | .directory, .directory =>
        if source.isPrefixOf place then .error .invalidInput
        else if (files.childNames place).isEmpty then
          .ok ((files.erase place).moveTree source place)
        else .error .directoryNotEmpty
      | .directory, _ => .error .notADirectory
      | _, .directory => .error .isADirectory
      | _, _ => .ok ((files.erase place).moveTree source place)

/-- Copies a file. The target is opened, and thereby emptied, before anything is read, so a file
copied onto itself is lost. The result is the number of bytes copied. -/
def copy (files : Files) (source target : String) : Files × Except FileError Nat :=
  match files.status source with
  | .error error => (files, .error error)
  | .ok (_, .file _ _) =>
    match files.write target [] with
    | .error error => (files, .error error)
    | .ok opened =>
      match opened.read source with
      | .error error => (opened, .error error)
      | .ok content =>
        match opened.write target content with
        | .error error => (opened, .error error)
        | .ok after => (after, .ok content.length)
  | .ok _ => (files, .error .unusableData)

end Files

end Hotload
