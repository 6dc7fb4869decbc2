import Hotload.Config.Basic
import Hotload.Files.Change

/-!
# The cache directory

A resolver owns one directory with two subdirectories: one for files of passing use and one for
native libraries. Compiled artifacts that last stand in the directory itself. `purgeWith` empties
the directory by a given way of removing entries and then makes the subdirectories again; entries
that cannot be removed do not stop it.
-/

namespace Hotload

/-- The paths of one cache directory. -/
structure Layout where
  root : String
  staging : String
  libraries : String
  deriving DecidableEq, Repr

/-- Removes what a path names, or says why it cannot. -/
abbrev Remover := String → Files → Files × Except FileError Unit

namespace Layout

/-- The layout that a configuration asks for. -/
def ofConfig (config : Config) : Layout :=
  ⟨config.cacheDirectory, Path.join config.cacheDirectory config.stagingDirectory,
    Path.join config.cacheDirectory config.librariesDirectory⟩

/-- Makes the given directories in their order, up to the first that cannot be made. -/
def makeAll : List String → Files → Files × Except FileError Unit
  | [], files => (files, .ok ())
  | path :: rest, files =>
    match files.makeDirectories path with
    | (after, .ok ()) => makeAll rest after
    | (after, .error error) => (after, .error error)

/-- Makes the directories that are missing. -/
def create (layout : Layout) : Files → Files × Except FileError Unit :=
  makeAll [layout.root, layout.staging, layout.libraries]

/-- Removes the given paths one after the other. The result holds the reason of every refusal. -/
def removeAll (remove : Remover) : List String → Files → Files × List FileError
  | [], files => (files, [])
  | path :: rest, files =>
    match remove path files with
    | (after, .ok ()) => removeAll remove rest after
    | (after, .error error) =>
      let (last, errors) := removeAll remove rest after
      (last, error :: errors)

/-- What emptying a directory leads to. -/
structure Purged where
  files : Files
  /-- The reasons why single entries could not be removed, in the order of the entries. -/
  refusals : List FileError
  result : Except FileError Unit

/-- Empties the directory and makes the subdirectories again. The first failure is reported, where
failures of entries come before that of the subdirectories. A missing directory is an empty one. -/
def purgeWith (remove : Remover) (layout : Layout) (files : Files) : Purged :=
  match files.list layout.root with
  | .ok names =>
    let (removed, refusals) := removeAll remove (names.map (Path.join layout.root)) files
    let (after, created) := layout.create removed
    ⟨after, refusals, match refusals with | [] => created | first :: _ => .error first⟩
  | .error error =>
    let (after, created) := layout.create files
    ⟨after, [], if error = .notFound then created else .error error⟩

/-- Removes a directory with everything in it, or a single file or link. -/
def removeEntry : Remover :=
  fun path files =>
    if files.isDirectory path then
      match files.removeTree path with
      | .ok after => (after, .ok ())
      | .error error => (files, .error error)
    else
      match files.removeIfExists path with
      | (after, .ok _) => (after, .ok ())
      | (after, .error error) => (after, .error error)

/-- Empties the directory. -/
def purge : Layout → Files → Purged :=
  purgeWith removeEntry

end Layout

end Hotload
