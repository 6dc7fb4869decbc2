import Hotload.Cause

/-!
# Compilers

A compiler reads one archive and writes one artifact. It is a black box: any function that changes
the file tree and reports an outcome or an error. What it made is judged by the file it left behind,
and the exit code and the log are for information only.
-/

namespace Hotload

/-- What a compiler is asked to do. -/
structure CompileRequest where
  /-- The archive that holds the bytecode. -/
  input : String
  /-- The artifact to write. -/
  output : String
  /-- Whether the artifact is to be a container. -/
  isPackaged : Bool := true
  deriving DecidableEq, Repr

/-- What a compiler reports. -/
structure CompileOutcome where
  /-- A compiler that was killed has no exit code. -/
  exitCode : Option Int
  log : String
  deriving DecidableEq, Repr

/-- The two outputs of a program. -/
inductive OutputStream where
  | standard
  | diagnostic
  deriving DecidableEq, Repr

/-- The name of an output. -/
def OutputStream.name : OutputStream → String
  | .standard => "stdout"
  | .diagnostic => "stderr"

/-- Why a compiler failed. -/
inductive CompilerError where
  /-- The program could not be started. -/
  | notStarted (program : String) (error : FileError)
  | file (error : FileError)
  /-- An output is not UTF-8. -/
  | undecodable (stream : OutputStream)
  deriving DecidableEq, Repr

/-- The text of a compiler error. -/
def CompilerError.message (wording : Wording) : CompilerError → String
  | .notStarted program error =>
    "Failed to spawn compiler " ++ program ++ ": " ++ wording (.file error)
  | .file error => "Compiler I/O error: " ++ wording (.file error)
  | .undecodable stream => "Compiler produced undecodable output on " ++ stream.name

/-- A compiler, by what it does to the file tree. -/
abbrev Compiler := CompileRequest → Files → Files × Except CompilerError CompileOutcome

end Hotload
