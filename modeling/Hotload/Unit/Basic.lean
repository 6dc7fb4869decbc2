import Hotload.Symbol.Basic
import Hotload.Unit.Error

/-!
# Loaded units

A unit is one compiled artifact that is bound: its symbols are known, and their bodies are read when
they are first asked for. A unit whose artifact is of passing use keeps that file alive.
-/

namespace Hotload

/-- Something that answers look-ups. -/
inductive Loader where
  /-- Symbols that the host provides. -/
  | system (id : Nat)
  | unit (id : Nat)
  | resolver (id : Nat)
  /-- A loader that always fails. -/
  | failing
  deriving DecidableEq, Repr

/-- How artifacts are bound. -/
inductive Platform where
  | archive
  | native
  deriving DecidableEq, Repr

/-- What a bound artifact offers. -/
inductive UnitContent where
  /-- The symbols of an archive, each with the entry that holds its body. -/
  | archive (index : List (String × String))
  /-- The names that a native library exports. -/
  | native (exports : List String)
  deriving DecidableEq, Repr

/-- A bound artifact. -/
structure LoadedUnit where
  name : String
  artifact : String
  /-- The directory where native libraries are looked for. -/
  libraries : String
  /-- Who is asked for symbols that the unit does not have. -/
  parent : Option Loader
  content : UnitContent
  /-- The symbols made so far, by name. -/
  resolved : List (String × Symbol) := []
  /-- The file of passing use that the unit keeps alive. -/
  temporary : Option Nat
  deriving Repr

namespace LoadedUnit

/-- A text for diagnosis. -/
def debugText (unit : LoadedUnit) : String :=
  "LoadedUnit \x7b name: " ++ Text.quoted unit.name ++ ", artifact: " ++ Text.quoted unit.artifact
    ++ ", temporary: " ++ (if unit.temporary.isSome then "true" else "false") ++ " \x7d"

/-- The symbols that the unit itself has, in order. A native library does not list its symbols. -/
def symbolNames (unit : LoadedUnit) : List String :=
  match unit.content with
  | .archive index => (index.map (·.1)).mergeSort (fun left right => decide (left ≤ right))
  | .native _ => []

end LoadedUnit

/-- The file name of a native library. -/
def libraryFileName (name : String) : String :=
  "lib" ++ name ++ ".so"

/-- The path of a native library in a directory, if it is there. -/
def findLibraryIn (directory name : String) (files : Files) : Option String :=
  let path := Path.join directory (libraryFileName name)
  if files.isFile path then some path else none

end Hotload
