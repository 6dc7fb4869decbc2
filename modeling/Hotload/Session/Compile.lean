import Hotload.Session.Register
import Hotload.Symbol.EntryPath
import Hotload.Text.Base64

/-!
# From bytecode to units

Bytecode is packaged into a staged archive, compiled and registered. The bytes of one symbol are
compiled into a file of passing use. A container is compiled into a file that lasts and is used
again as long as the container does not change. Whatever happens, the archive is deleted in the end,
and a failed compile leaves no artifact.
-/

namespace Hotload

namespace Session

/-- Deletes a staged file. That it cannot be deleted is only noted. -/
def discard (session : Session) (path : String) : Session :=
  match session.files.removeIfExists path with
  | (files, .ok _) => { session with files }
  | (files, .error _) => { session with files }.log [.stagedFileKept]

/-- How many Base64 characters one event of a dump carries. -/
def dumpWidth : Nat := 4096

/-- The events that dump a content. -/
def dumpEvents (content : Bytes) : List Event :=
  let parts := Text.Base64.chunks dumpWidth (Text.Base64.encode content)
  parts.zipIdx.map fun (part, index) =>
    .inputPart (index + 1) parts.length (String.ofList part)

/-- Dumps the archive that was compiled without result. -/
def dump (session : Session) (archive : String) : Session :=
  match session.files.read archive with
  | .ok content => session.log (dumpEvents content)
  | .error _ => session.log [.inputUnreadable]

/-- The length of what a compiler left at a path, where nothing counts as empty. -/
def outputSize (session : Session) (path : String) : Nat :=
  match session.files.size path with
  | .ok size => size
  | .error _ => 0

/-- Marks a thread busy on a resolver. -/
def markBusy (session : Session) (id : Nat) (thread : Thread) : Session :=
  session.updateResolver id fun resolver => { resolver with busy := resolver.busy.enter thread }

/-- Takes one marker of a thread away. -/
def unmarkBusy (session : Session) (id : Nat) (thread : Thread) : Session :=
  session.updateResolver id fun resolver => { resolver with busy := resolver.busy.leave thread }

/-- Records that a compiler is called. -/
def noteInvocation (session : Session) (id : Nat) (thread : Thread) (request : CompileRequest) :
    Session :=
  let busy : BusySet := ((session.resolvers.get? id).map (·.busy)).getD []
  { session with
    invocations := session.invocations ++ [⟨id, request, busy.isBusy thread, busy.count⟩] }

/-- Runs the compiler of a resolver and records the call. -/
def invoke (session : Session) (id : Nat) (resolver : Resolver) (thread : Thread)
    (request : CompileRequest) : Session × Except CompilerError CompileOutcome :=
  let (files, result) := resolver.compiler request session.files
  ({ session.noteInvocation id thread request with files }, result)

/-- What follows a compile that left nothing behind: the resolver remembers it, the archive is
dumped, and the empty artifact is deleted. -/
def rejectEmpty (session : Session) (id : Nat) (resolver : Resolver) (archive output : String)
    (temporary : Option Nat) : Session :=
  let failed :=
    (session.updateResolver id fun resolver => { resolver with hasFailed := true }).log
      [.emptyArtifact]
  let dumped := if resolver.dumpsFailedInput then failed.dump archive else failed
  match temporary with
  | some temporary => (dumped.release temporary).1
  | none => dumped.discard output

/-- Compiles an archive and registers what came out. -/
def compileMarked (session : Session) (id : Nat) (resolver : Resolver) (thread : Thread)
    (archive output name : String) (temporary : Option Nat) : Session × Except LoadError Nat :=
  match session.invoke id resolver thread ⟨archive, output, true⟩ with
  | (after, .error error) => (after, .error (.compiler error))
  | (after, .ok _) =>
    if after.outputSize output = 0 then
      (after.rejectEmpty id resolver archive output temporary, .error (.emptyOutput archive))
    else after.register id name output temporary

/-- Compiles an archive while the thread is marked busy. A file of passing use that no unit took
over is let go of. -/
def compile (session : Session) (id : Nat) (resolver : Resolver) (thread : Thread)
    (archive output name : String) (temporary : Option Nat) : Session × Except LoadError Nat :=
  let (after, result) :=
    (session.markBusy id thread).compileMarked id resolver thread archive output name temporary
  ((after.unmarkBusy id thread).settle, result)

/-- Stages a path with a token of its own. -/
def stage (session : Session) (staging : Staging) (key : String) (extension : Option String)
    (create : Bool) : Session × Except LoadError String :=
  let (session, token) := session.token
  match staging.stage key extension create token session.files with
  | (files, .ok path) => ({ session with files }, .ok path)
  | (files, .error error) => ({ session with files }, .error (.staging error))

/-- Compiles an archive into a file of passing use. -/
def compileTemporary (session : Session) (id : Nat) (resolver : Resolver) (thread : Thread)
    (archive : String) : Session × Except LoadError Nat :=
  let extension := resolver.staging.artifactExtension
  match session.stage resolver.staging ("unit-" ++ archive) extension true with
  | (after, .error error) => (after, .error error)
  | (after, .ok output) =>
    let (tracked, temporary) := after.track resolver.reaper output
    tracked.compile id resolver thread archive output (Path.unitName output) (some temporary)

/-- Packages and compiles the bytecode of one symbol. -/
def compileBytes (session : Session) (id : Nat) (resolver : Resolver) (thread : Thread)
    (name : String) (content : Bytes) : Session × Except LoadError Nat :=
  match session.stage resolver.staging name (some resolver.staging.archiveExtension) false with
  | (after, .error error) => (after, .error error)
  | (staged, .ok archive) =>
    match Packaging.packageBytes archive (Symbol.entryPath name) content staged.files with
    | (files, .error error) =>
      (discard { staged with files } archive, .error (.packaging archive error))
    | (files, .ok ()) =>
      let (after, result) :=
        compileTemporary { staged with files } id resolver thread archive
      (after.discard archive, result)

/-- Packages and compiles a container into the given artifact. -/
def compileContainer (session : Session) (id : Nat) (resolver : Resolver) (thread : Thread)
    (container output name : String) : Session × Except LoadError Nat :=
  match session.stage resolver.staging container (some resolver.staging.archiveExtension) false with
  | (after, .error error) => (after, .error error)
  | (staged, .ok archive) =>
    match Packaging.packageContainer archive container staged.files with
    | (files, .error error) =>
      (discard { staged with files } archive, .error (.packaging container error))
    | (files, .ok _) =>
      match compile { staged with files } id resolver thread archive output name none with
      | (after, .ok unit) => (after.discard archive, .ok unit)
      | (after, .error error) => ((after.discard output).discard archive, .error error)

/-- Registers the lasting artifact of a container, and compiles it first unless it is there. -/
def compileOrReuse (session : Session) (id : Nat) (resolver : Resolver) (thread : Thread)
    (container output : String) : Session × Except LoadError Nat :=
  let name := Path.unitName output
  if session.outputSize output = 0 then
    session.compileContainer id resolver thread container output name
  else session.register id name output none

end Session

end Hotload
