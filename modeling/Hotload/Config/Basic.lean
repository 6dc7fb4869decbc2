import Hotload.Cause
import Hotload.Duration
import Hotload.Text.Quoted

/-!
# Configuration

A configuration says where a resolver keeps its files, which compiler it runs and how long it waits
for a busy thread. Every setting has a default. `Config.flaw?` finds the first reason why a
configuration cannot be used, and `Patience.budget?` is the longest wait that it allows.
-/

namespace Hotload

/-- How long to wait for a thread to leave loaded code. -/
structure Patience where
  /-- The pause between two looks, in milliseconds. -/
  interval : UInt64 := 100
  /-- How many pauses are made at most. -/
  attempts : UInt32 := 50
  deriving DecidableEq, Repr

/-- The longest time a wait can take: all its pauses. There may be no duration as long as that. -/
def Patience.longest? (patience : Patience) : Option Duration :=
  (Duration.ofMilliseconds patience.interval).times? patience.attempts

/-- The longest time a wait can take, in milliseconds. -/
def Patience.budget? (patience : Patience) : Option Nat :=
  patience.longest?.map Duration.toMilliseconds

/-- How an external compiler is called. -/
structure CompilerSettings where
  program : String
  /-- Templates of the arguments. -/
  arguments : List String := ["--output=\x7boutput\x7d", "\x7binput\x7d"]
  /-- An argument put in front when packaged output is asked for. -/
  packagedFlag : Option String := none
  deriving DecidableEq, Repr

/-- The settings of a resolver. -/
structure Config where
  /-- The directory that the resolver owns. -/
  cacheDirectory : String := "/tmp/kiln-cache"
  /-- The name of the subdirectory for files of passing use. -/
  stagingDirectory : String := "staging"
  /-- The name of the subdirectory for native libraries. -/
  librariesDirectory : String := "libs"
  archiveExtension : String := "zip"
  artifactExtension : Option String := none
  /-- Whether the input of a compile without result is logged. -/
  dumpsFailedInput : Bool := true
  patience : Patience := {}
  /-- Without a compiler of its own, a resolver passes archives on unchanged. -/
  compiler : Option CompilerSettings := none
  deriving DecidableEq, Repr

/-- A reason why a configuration cannot be used. -/
inductive ConfigFlaw where
  | noInterval
  | notOneName (setting value : String)
  | sharedDirectory
  | noProgram
  deriving DecidableEq, Repr

/-- The text of a flaw. -/
def ConfigFlaw.message : ConfigFlaw → String
  | .noInterval => "quiescence.poll_interval_ms must be greater than zero"
  | .notOneName setting value =>
    setting ++ " must be a single directory name, got " ++ Text.quoted value
  | .sharedDirectory => "staging_dir and libs_dir must differ"
  | .noProgram => "compiler.program is empty"

/-- Why a configuration could not be had. -/
inductive ConfigError where
  | unreadable (error : FileError)
  | malformed
  | invalid (flaw : ConfigFlaw)
  deriving DecidableEq, Repr

/-- The text of a configuration error. -/
def ConfigError.message (wording : Wording) : ConfigError → String
  | .unreadable error => "Failed to read config file: " ++ wording (.file error)
  | .malformed => "Failed to parse config: " ++ wording .document
  | .invalid flaw => "Invalid config: " ++ flaw.message

namespace Config

/-- Whether a text names one entry of a directory, and neither the directory itself nor the one
above it. -/
def isOneName (name : String) : Bool :=
  name ≠ "" ∧ '/' ∉ name.toList ∧ '\\' ∉ name.toList ∧ name ≠ "." ∧ name ≠ ".."

/-- The first reason why a configuration cannot be used. -/
def flaw? (config : Config) : Option ConfigFlaw :=
  if config.patience.interval = 0 then some .noInterval
  else if !isOneName config.stagingDirectory then
    some (.notOneName "staging_dir" config.stagingDirectory)
  else if !isOneName config.librariesDirectory then
    some (.notOneName "libs_dir" config.librariesDirectory)
  else if config.stagingDirectory = config.librariesDirectory then some .sharedDirectory
  else if config.compiler.any (·.program = "") then some .noProgram
  else none

/-- Accepts a configuration that can be used. -/
def validate (config : Config) : Except ConfigError Config :=
  match config.flaw? with
  | some flaw => .error (.invalid flaw)
  | none => .ok config

end Config

end Hotload
