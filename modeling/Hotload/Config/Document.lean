import Hotload.Config.Basic
import Hotload.Files.Walk
import Hotload.Text.Utf8
import Hotload.Toml.Parser
import Hotload.Toml.Printer

/-!
# Configurations as documents

A configuration is written as a TOML document and read from one. A missing key means the default and
an unknown key means nothing. A group of settings is a table, or a list of its settings in their
order, from which the last ones may be missing.
-/

namespace Hotload

namespace Config

/-- A setting of a kind: missing settings have the default, those of another kind are refused. -/
def setting {α : Type} (read : Toml.Value → Option α) (default : α) : Option Toml.Value → Option α
  | none => some default
  | some value => read value

/-- A text. -/
def text? : Toml.Value → Option String
  | .text content => some content
  | _ => none

/-- A text in a place that may be empty. -/
def optionalText? (value : Toml.Value) : Option (Option String) :=
  (text? value).map some

/-- A list of texts. -/
def texts? : Toml.Value → Option (List String)
  | .array elements => elements.mapM text?
  | _ => none

/-- A truth value. -/
def truth? : Toml.Value → Option Bool
  | .boolean truth => some truth
  | _ => none

/-- An integer from zero up to a bound. -/
def natural? (bound : Nat) : Toml.Value → Option Nat
  | .integer number => if 0 ≤ number ∧ number < bound then some number.toNat else none
  | _ => none

/-- The settings of a group: from a table by their keys, from a list by their order. A date holds no
settings at all. -/
def settings? (keys : List String) : Toml.Value → Option (List (String × Toml.Value))
  | .table entries => some entries
  | .array elements => some (keys.zip elements)
  | .moment _ => some []
  | _ => none

/-- Reads the group of settings for waiting. -/
def patience? (value : Toml.Value) : Option Patience := do
  let entries ← settings? ["poll_interval_ms", "max_attempts"] value
  let usual : Patience := {}
  let interval ←
    setting (natural? UInt64.size) usual.interval.toNat (entries.lookup "poll_interval_ms")
  let attempts ← setting (natural? UInt32.size) usual.attempts.toNat (entries.lookup "max_attempts")
  some ⟨UInt64.ofNat interval, UInt32.ofNat attempts⟩

/-- Reads the group of settings for the compiler. Its program has to be given. -/
def compiler? (value : Toml.Value) : Option CompilerSettings := do
  let entries ← settings? ["program", "args", "packaged_flag"] value
  let program ← (entries.lookup "program").bind text?
  let usual : CompilerSettings := ⟨program, ["--output=\x7boutput\x7d", "\x7binput\x7d"], none⟩
  let arguments ← setting texts? usual.arguments (entries.lookup "args")
  let packagedFlag ← setting optionalText? none (entries.lookup "packaged_flag")
  some ⟨program, arguments, packagedFlag⟩

/-- Reads the settings from the entries of a document. -/
def ofEntries? (entries : List (String × Toml.Value)) : Option Config := do
  let usual : Config := {}
  let cacheDirectory ← setting text? usual.cacheDirectory (entries.lookup "cache_dir")
  let stagingDirectory ← setting text? usual.stagingDirectory (entries.lookup "staging_dir")
  let librariesDirectory ← setting text? usual.librariesDirectory (entries.lookup "libs_dir")
  let archiveExtension ← setting text? usual.archiveExtension (entries.lookup "archive_extension")
  let artifactExtension ← setting optionalText? none (entries.lookup "artifact_extension")
  let dumps ← setting truth? usual.dumpsFailedInput (entries.lookup "dump_failed_input")
  let patience ← setting patience? usual.patience (entries.lookup "quiescence")
  let compiler ← setting (fun value => (compiler? value).map some) none (entries.lookup "compiler")
  some ⟨cacheDirectory, stagingDirectory, librariesDirectory, archiveExtension, artifactExtension,
    dumps, patience, compiler⟩

/-- Reads a document and accepts the configuration if it can be used. -/
def ofDocument (document : String) : Except ConfigError Config :=
  match (Toml.parse? document).bind ofEntries? with
  | none => .error .malformed
  | some config => config.validate

/-- Reads a file that holds a document. -/
def ofFile (files : Files) (path : String) : Except ConfigError Config :=
  match files.read path with
  | .error error => .error (.unreadable error)
  | .ok content =>
    match Text.ofUtf8? content with
    | none => .error (.unreadable .unusableData)
    | some document => ofDocument document

/-- The line of a setting that may be absent. -/
def optionalLine (key : String) : Option String → String
  | none => ""
  | some text => Toml.printLine key (Toml.printText text)

/-- The lines of the compiler's settings, under a header of their own. -/
def compilerLines : Option CompilerSettings → String
  | none => ""
  | some compiler =>
    Toml.printHeader "compiler"
      ++ Toml.printLine "program" (Toml.printText compiler.program)
      ++ Toml.printLine "args" (Toml.printTexts compiler.arguments)
      ++ optionalLine "packaged_flag" compiler.packagedFlag

/-- Writes a configuration as a document. TOML has signed numbers of 64 bits, so a longer pause
cannot be written. -/
def toDocument? (config : Config) : Option String :=
  if config.patience.interval.toNat < Toml.integerBound then
    some
      (Toml.printLine "cache_dir" (Toml.printText config.cacheDirectory)
        ++ Toml.printLine "staging_dir" (Toml.printText config.stagingDirectory)
        ++ Toml.printLine "libs_dir" (Toml.printText config.librariesDirectory)
        ++ Toml.printLine "archive_extension" (Toml.printText config.archiveExtension)
        ++ optionalLine "artifact_extension" config.artifactExtension
        ++ Toml.printLine "dump_failed_input" (if config.dumpsFailedInput then "true" else "false")
        ++ Toml.printHeader "quiescence"
        ++ Toml.printLine "poll_interval_ms" (toString config.patience.interval.toNat)
        ++ Toml.printLine "max_attempts" (toString config.patience.attempts.toNat)
        ++ compilerLines config.compiler)
  else none

end Config

end Hotload
