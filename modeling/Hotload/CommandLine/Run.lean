import Hotload.CommandLine.Arguments
import Hotload.Session.Resolver
import Hotload.Shell.Run

/-!
# The command line

A call opens a resolver without a parent, does what its command asks for and lets go of the
resolver. What it prints, its exit code and the file tree it leaves make up its report.
-/

namespace Hotload.CommandLine

/-- What a call comes to. -/
structure Report where
  files : Files
  exitCode : Nat
  output : String
  diagnostics : String

/-- How far a command got: the session, what it printed on the way, and the reason if it failed. -/
structure Progress where
  session : Session
  output : String := ""
  diagnostics : String := ""
  failure : Option String := none

/-- The name under which a call holds its resolver. -/
def holder : String := "call"

/-- The thread that runs a call. -/
def callThread : Thread := "main"

/-- Loads containers up to the first that fails. -/
def loadAll (id : Nat) : List String → Progress → Progress
  | [], progress => progress
  | container :: rest, progress =>
    match progress.session.loadContainer id callThread container with
    | (session, .ok _) =>
      loadAll id rest
        { progress with session, output := progress.output ++ "Loaded " ++ container ++ "\n" }
    | (session, .error _) =>
      { progress with session, failure := some ("Failed to load " ++ container) }

/-- Looks up symbols. The result holds the names of those that were not found. -/
def findAll (id : Nat) : List String → Progress → Progress × List String
  | [], progress => (progress, [])
  | name :: rest, progress =>
    match progress.session.loadSymbol id name with
    | (session, .ok symbol) =>
      findAll id rest
        { progress with
          session, output := progress.output ++ symbol.name ++ " -> " ++ symbol.unit ++ "\n" }
    | (session, .error (.crash crash)) =>
      ({ progress with session, failure := some crash.message }, [])
    | (session, .error error) =>
      let diagnostics := progress.diagnostics ++ error.message ++ "\n"
      let next := { progress with session, diagnostics }
      let (last, missing) := findAll id rest next
      (last, name :: missing)

/-- Fails if any compile of the call left nothing behind. -/
def checkCompiles (id : Nat) (progress : Progress) : Progress :=
  if progress.failure.isNone && (progress.session.resolvers.get? id).any (·.hasFailed) then
    { progress with failure := some "Compiler produced an empty artifact during this run" }
  else progress

/-- Loads containers, then looks up symbols. -/
def runLoad (id : Nat) (containers symbols : List String) (progress : Progress) : Progress :=
  let loaded := loadAll id containers progress
  if loaded.failure.isSome then loaded
  else
    let (searched, missing) := findAll id symbols loaded
    let checked := checkCompiles id searched
    if checked.failure.isNone && !missing.isEmpty then
      { checked with failure := some ("Unresolved symbols: " ++ ", ".intercalate missing) }
    else checked

/-- Defines a symbol. -/
def runDefine (id : Nat) (name : String) (content : Bytes) (progress : Progress) : Progress :=
  match progress.session.define id callThread name content with
  | (session, .error _) => { progress with session, failure := some ("Failed to define " ++ name) }
  | (session, .ok symbol) =>
    let line :=
      "Defined " ++ symbol.name ++ " (" ++ toString content.length ++ " bytes) in "
        ++ symbol.unit ++ "\n"
    checkCompiles id { progress with session, output := progress.output ++ line }

/-- Resets the cache. -/
def runPurge (id : Nat) (progress : Progress) : Progress :=
  match progress.session.unload id with
  | (session, .error error) => { progress with session, failure := some error.description }
  | (session, .ok ()) =>
    let root := ((session.resolvers.get? id).map (·.layout.root)).getD ""
    { progress with session, output := progress.output ++ "Reset " ++ root ++ "\n" }

/-- The configuration of a call before its options: from a file, or the usual one. -/
def baseConfig (options : Options) (files : Files) : Except String Config :=
  match options.config with
  | none => .ok {}
  | some path =>
    match Config.ofFile files path with
    | .ok config => .ok config
    | .error _ => .error ("Failed to load config " ++ path)

/-- The configuration of a call, with the cache directory that the call names. -/
def configFor (options : Options) (files : Files) : Except String Config :=
  match baseConfig options files, options.cacheDirectory with
  | .ok config, some cacheDirectory => .ok { config with cacheDirectory }
  | base, _ => base

/-- Opens the resolver of a call and goes on with it. -/
def withResolver (options : Options) (session : Session) (body : Nat → Progress → Progress) :
    Progress :=
  match configFor options session.files with
  | .error failure => { session, failure := some failure }
  | .ok config =>
    let compiler := Compiler.ofConfig Shell.runProgram config
    let platform := if options.isNative then Platform.native else .archive
    match session.openResolver config compiler platform none with
    | (session, .error _) =>
      { session, failure := some ("Failed to open cache " ++ config.cacheDirectory) }
    | (session, .ok id) =>
      let progress := body id { session := session.hold holder (.loader (.resolver id)) }
      { progress with session := progress.session.letGo holder }

/-- Does what a command asks for. -/
def runCommand (options : Options) (command : Command) (session : Session) : Progress :=
  match command with
  | .load containers symbols =>
    withResolver options session fun id => runLoad id containers symbols
  | .define name bytecode =>
    match session.files.read bytecode with
    | .error _ => { session, failure := some ("Failed to read " ++ bytecode) }
    | .ok content => withResolver options session fun id => runDefine id name content
  | .purge => withResolver options session runPurge

/-- The line that shows the version. -/
def versionLine : String := "kiln 0.2.0\n"

/-- Runs a call. -/
def run (arguments : List String) (files : Files) : Report :=
  match parse arguments with
  | .version => ⟨files, 0, versionLine, ""⟩
  | .help => ⟨files, 0, "Usage: kiln [OPTIONS] <load|define|purge>\n", ""⟩
  | .misused => ⟨files, 2, "", "Usage: kiln [OPTIONS] <load|define|purge>\n"⟩
  | .run options command =>
    let progress := runCommand options command { files }
    match progress.failure with
    | none => ⟨progress.session.files, 0, progress.output, progress.diagnostics⟩
    | some failure =>
      ⟨progress.session.files, 1, progress.output,
        progress.diagnostics ++ "Error: " ++ failure ++ "\n"⟩

end Hotload.CommandLine
