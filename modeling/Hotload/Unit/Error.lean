import Hotload.Cache.Staging
import Hotload.Compiler.Basic
import Hotload.Packaging

/-!
# Loading errors

A unit can fail to be bound or to answer (`UnitError`), and the way from bytecode to a registered
unit can fail at every step (`LoadError`). A look-up may also have no answer at all: then the
program comes to an end (`Crash`).
-/

namespace Hotload

/-- Why an artifact that exists cannot be used. -/
inductive Malformation where
  | empty
  /-- It is no container, or an entry of it cannot be read. -/
  | container
  deriving DecidableEq, Repr

/-- Why a unit cannot be bound, or does not answer. -/
inductive UnitError where
  | notFound (artifact : String)
  | malformed (artifact : String) (reason : Malformation)
  /-- The system's loader for native libraries refuses. -/
  | platform
  | file (error : FileError)
  deriving DecidableEq, Repr

/-- The text of a malformation. -/
def Malformation.message (wording : Wording) : Malformation → String
  | .empty => "artifact is empty"
  | .container => wording .container

/-- The text of a unit error. -/
def UnitError.message (wording : Wording) : UnitError → String
  | .notFound artifact => "Artifact not found: " ++ artifact
  | .malformed artifact reason =>
    "Malformed artifact " ++ artifact ++ ": " ++ reason.message wording
  | .platform => "Platform error: " ++ wording .platform
  | .file error => "I/O error: " ++ wording (.file error)

/-- How a look-up can end the whole program. -/
inductive Crash where
  /-- Loaders ask each other in a circle. -/
  | endless
  /-- An entry promises more bytes than any memory has room for. -/
  | exhausted
  deriving DecidableEq, Repr

/-- The text of a crash. -/
def Crash.message : Crash → String
  | .endless => "look-up without end"
  | .exhausted => "out of memory"

/-- Why bytecode could not be turned into a registered unit. -/
inductive LoadError where
  | staging (cause : StagingError)
  | packaging (path : String) (cause : PackagingError)
  | compiler (cause : CompilerError)
  /-- The compiler left nothing behind. -/
  | emptyOutput (input : String)
  /-- There is no container to read. -/
  | sourceUnavailable (path : String)
  | unit (name : String) (cause : UnitError)
  /-- The new unit does not have the symbol it was made for. -/
  | symbolMissing (name : String)
  | crash (cause : Crash)
  deriving DecidableEq, Repr

/-- The text of a load error. -/
def LoadError.message (wording : Wording) : LoadError → String
  | .staging cause => "Failed to stage " ++ cause.path ++ ": " ++ wording (.file cause.error)
  | .packaging path cause => "Failed to package " ++ path ++ ": " ++ cause.message wording
  | .compiler cause => "Compiler invocation failed: " ++ cause.message wording
  | .emptyOutput input => "Compiler produced an empty artifact for " ++ input
  | .sourceUnavailable path => "File does not exist or is not readable: " ++ path
  | .unit name cause => "Failed to load unit " ++ name ++ ": " ++ cause.message wording
  | .symbolMissing name => "Symbol " ++ name ++ " not found in freshly defined unit"
  | .crash cause => cause.message

end Hotload
