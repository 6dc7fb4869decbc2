import Hotload.Compiler.Basic
import Hotload.Config.Basic
import Hotload.Files.Change
import Hotload.Text.Utf8

/-!
# Configured compilers

An external compiler is a program that is called with arguments made from templates. `arguments`
fills in first the input and then the output, so a placeholder inside the input's path is filled in
as well. Without a program, the archive is passed on unchanged.
-/

namespace Hotload.Compiler

/-- Replaces every occurrence of a pattern, from left to right and without overlap. The number
counts the characters of an occurrence that are still to be passed over. -/
def replaceFrom (pattern replacement : List Char) : Nat → List Char → List Char
  | _, [] => []
  | skipped + 1, _ :: rest => replaceFrom pattern replacement skipped rest
  | 0, char :: rest =>
    if pattern.isPrefixOf (char :: rest) then
      replacement ++ replaceFrom pattern replacement (pattern.length - 1) rest
    else char :: replaceFrom pattern replacement 0 rest

/-- Replaces every occurrence of a pattern. -/
def replace (pattern replacement text : String) : String :=
  String.ofList (replaceFrom pattern.toList replacement.toList 0 text.toList)

/-- One argument, made from its template. -/
def fill (request : CompileRequest) (template : String) : String :=
  replace "\x7boutput\x7d" request.output (replace "\x7binput\x7d" request.input template)

/-- The arguments of a call: the flag for packaged output where it is asked for, then the templates
in their order. -/
def arguments (settings : CompilerSettings) (request : CompileRequest) : List String :=
  (if request.isPackaged then settings.packagedFlag.toList else [])
    ++ settings.arguments.map (fill request)

/-- What a program leaves behind when it ends. -/
structure ProgramResult where
  exitCode : Option Int
  standard : Bytes
  diagnostic : Bytes
  deriving DecidableEq, Repr

/-- Runs a program by its name and arguments. -/
abbrev ProgramRunner :=
  String → List String → Files → Files × Except FileError ProgramResult

/-- One log from two outputs; the second starts on a line of its own. -/
def joinOutputs (standard diagnostic : String) : String :=
  if diagnostic = "" then standard
  else if standard = "" ∨ standard.toList.getLast? = some '\n' then standard ++ diagnostic
  else standard ++ "\n" ++ diagnostic

/-- What a finished program reports. -/
def outcome (result : ProgramResult) : Except CompilerError CompileOutcome :=
  match Text.ofUtf8? result.standard, Text.ofUtf8? result.diagnostic with
  | none, _ => .error (.undecodable .standard)
  | _, none => .error (.undecodable .diagnostic)
  | some standard, some diagnostic => .ok ⟨result.exitCode, joinOutputs standard diagnostic⟩

/-- The compiler that runs a program. -/
def external (run : ProgramRunner) (settings : CompilerSettings) : Compiler :=
  fun request files =>
    match run settings.program (arguments settings request) files with
    | (after, .error error) => (after, .error (.notStarted settings.program error))
    | (after, .ok result) => (after, outcome result)

/-- The compiler that passes the archive on unchanged. -/
def passthrough : Compiler :=
  fun request files =>
    match files.copy request.input request.output with
    | (after, .error error) => (after, .error (.file error))
    | (after, .ok count) => (after, .ok ⟨some 0, "copied " ++ toString count ++ " bytes"⟩)

/-- The compiler that a configuration asks for. -/
def ofConfig (run : ProgramRunner) (config : Config) : Compiler :=
  match config.compiler with
  | some settings => external run settings
  | none => passthrough

end Hotload.Compiler
