import Hotload.Compiler.External

/-!
# The state of a running script

A script has variables and arguments, reads one input and writes two outputs. It ends when its
commands do, when it asks for it, or when it is killed.
-/

namespace Hotload.Shell

/-- How a script was ended before its last command. -/
inductive Ending where
  | exited (code : Nat)
  | killed
  deriving DecidableEq, Repr

/-- Everything that commands read and change. -/
structure State where
  files : Files
  /-- What the script is called; it starts the shell's own messages. -/
  name : String
  arguments : List String
  /-- The letters of the options that are set. -/
  options : String := ""
  bindings : List (String × String) := []
  input : Bytes := []
  /-- The parts of the outputs, newest first. -/
  standard : List Bytes := []
  diagnostic : List Bytes := []
  /-- The status of the last command. -/
  status : Nat := 0
  ending : Option Ending := none

namespace State

/-- What was written so far. -/
def joined (parts : List Bytes) : Bytes :=
  parts.reverse.flatten

/-- Writes to the standard output. -/
def write (state : State) (content : Bytes) : State :=
  { state with standard := content :: state.standard }

/-- Writes to the diagnostic output. -/
def complain (state : State) (text : String) : State :=
  { state with diagnostic := Text.utf8 text :: state.diagnostic }

/-- Sets the status. -/
def withStatus (state : State) (status : Nat) : State :=
  { state with status }

/-- Fails with a message. -/
def fail (state : State) (status : Nat) (text : String) : State :=
  (state.complain (text ++ "\n")).withStatus status

/-- Sets a variable. -/
def assign (state : State) (name value : String) : State :=
  { state with bindings := (name, value) :: state.bindings.filter (·.1 ≠ name) }

/-- The number that stands for the running process. -/
def processNumber : String := "4242"

/-- The value of a variable or special parameter. -/
def value? (state : State) (name : String) : Option String :=
  if name = "@" || name = "*" then some (" ".intercalate state.arguments)
  else if name = "#" then some (toString state.arguments.length)
  else if name = "?" then some (toString state.status)
  else if name = "$" then some processNumber
  else if name = "-" then some state.options
  else if name = "0" then some state.name
  else
    match name.toNat? with
    | some position => state.arguments[position - 1]?
    | none => state.bindings.lookup name

end State

/-- The system's words for a refusal. -/
def reason : FileError → String
  | .notFound => "No such file or directory"
  | .alreadyExists => "File exists"
  | .notADirectory => "Not a directory"
  | .isADirectory => "Is a directory"
  | .directoryNotEmpty => "Directory not empty"
  | .permissionDenied => "Permission denied"
  | .invalidFilename => "File name too long"
  | .filesystemLoop => "Too many levels of symbolic links"
  | .invalidInput | .unusableData => "Invalid argument"

end Hotload.Shell
