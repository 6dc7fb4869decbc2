import Hotload.Config.Document
import Hotload.Guard.Quiescence
import Hotload.Session.Compile
import Hotload.Session.Lookup

/-!
# Resolvers

These are the operations that callers use: open a resolver, define a symbol from bytes, load a
container or an artifact, look up a symbol, choose the local unit, wait for a thread and unload.
-/

namespace Hotload

/-- Why a resolver cannot be opened. -/
inductive OpenError where
  | config (error : ConfigError)
  | cacheDirectory (path : String) (error : FileError)
  deriving DecidableEq, Repr

/-- The text of an error on opening. -/
def OpenError.message (wording : Wording) : OpenError → String
  | .config error => error.message wording
  | .cacheDirectory path error =>
    "Failed to prepare cache directory " ++ path ++ ": " ++ wording (.file error)

/-- What an unload does when the thread does not leave in time. -/
inductive UnloadPolicy where
  /-- It goes on. -/
  | bestEffort
  /-- It leaves everything in place. -/
  | strict
  deriving DecidableEq, Repr

/-- The text of a look-up that found nothing. -/
def notFoundMessage (name : String) : String :=
  "Symbol not found: " ++ name

/-- Why a resolver has no symbol to give. -/
inductive ResolveError where
  | notFound (name : String)
  | crash (cause : Crash)
  deriving DecidableEq, Repr

/-- The text of a resolve error. -/
def ResolveError.message : ResolveError → String
  | .notFound name => notFoundMessage name
  | .crash cause => cause.message

namespace Session

/-- Whether a loader is a resolver. -/
def isResolver : Loader → Bool
  | .resolver _ => true
  | _ => false

/-- Prepares the cache directory of a new resolver. What is there is removed, unless the parent is a
resolver, which may use the same directory. -/
def prepare (session : Session) (layout : Layout) (parent : Option Loader) :
    Session × Except FileError Unit :=
  if session.files.exists_ layout.root && !parent.any isResolver then session.purge layout
  else
    let (files, result) := layout.create session.files
    ({ session with files }, result)

/-- Opens a resolver. The result is its number, which something has to refer to from then on. -/
def openResolver (session : Session) (config : Config) (compiler : Compiler) (platform : Platform)
    (parent : Option Loader) : Session × Except OpenError Nat :=
  match config.flaw? with
  | some flaw => (session, .error (.config (.invalid flaw)))
  | none =>
    let staging := Staging.ofConfig config
    match session.prepare staging.layout parent with
    | (after, .error error) => (after, .error (.cacheDirectory staging.layout.root error))
    | (after, .ok ()) =>
      let (after, reaper) := after.addReaper
      let (after, id) := after.number
      let resolver : Resolver :=
        { staging, platform, compiler, parent, reaper,
          dumpsFailedInput := config.dumpsFailedInput, patience := config.patience }
      ({ after with resolvers := after.resolvers.add id resolver }, .ok id)

/-- Looks up a symbol through everything that a resolver can ask. -/
def loadSymbol (session : Session) (id : Nat) (name : String) :
    Session × Except ResolveError Symbol :=
  match session.find (.resolver id) name with
  | (after, .found symbol) => (after, .ok symbol)
  | (after, .crashed crash) => (after, .error (.crash crash))
  | (after, _) => (after, .error (.notFound name))

/-- Looks up the symbol that a unit was just made for. -/
def readBack (session : Session) (unit : Nat) (name : String) :
    Session × Except LoadError Symbol :=
  match session.find (.unit unit) name with
  | (after, .found symbol) => (after, .ok symbol)
  | (after, .absent) => (after, .error (.symbolMissing name))
  | (after, .failed error) =>
    let unitName := ((after.units.get? unit).map (·.name)).getD ""
    (after, .error (.unit unitName error))
  | (after, .crashed crash) => (after, .error (.crash crash))

/-- Compiles the bytecode of a symbol and gives that symbol. -/
def define (session : Session) (id : Nat) (thread : Thread) (name : String) (content : Bytes) :
    Session × Except LoadError Symbol :=
  match session.resolvers.get? id with
  | none => (session, .error (.symbolMissing name))
  | some resolver =>
    match session.compileBytes id resolver thread name content with
    | (after, .error error) => (after, .error error)
    | (after, .ok unit) => after.readBack unit name

/-- Compiles a container and registers it. One that was compiled before and has not changed since is
only registered. -/
def loadContainer (session : Session) (id : Nat) (thread : Thread) (container : String) :
    Session × Except LoadError Nat :=
  match session.resolvers.get? id with
  | none => (session, .error (.sourceUnavailable container))
  | some resolver =>
    if !session.files.isFile container then (session, .error (.sourceUnavailable container))
    else
      match resolver.staging.durablePath container session.files with
      | .error _ => (session, .error (.sourceUnavailable container))
      | .ok output => session.compileOrReuse id resolver thread container output

/-- Registers a compiled artifact under its file name. -/
def loadArtifact (session : Session) (id : Nat) (artifact : String) :
    Session × Except LoadError Nat :=
  if session.files.isFile artifact then
    session.register id (Path.unitName artifact) artifact none
  else (session, .error (.sourceUnavailable artifact))

/-- Chooses the local unit and forgets the symbols that came from the one before. -/
def setLocal (session : Session) (id : Nat) (loader : Option Loader) : Session :=
  settle (session.updateResolver id fun resolver =>
    { resolver with localUnit := loader, defined := [] })

/-- Lets time pass. Threads that were to give up a marker by now have done so. -/
def pass (session : Session) (time : Nat) : Session :=
  let now := session.elapsed + time
  let due := session.departures.filter (·.due ≤ now)
  let later : Session :=
    { session with elapsed := now, departures := session.departures.filter (now < ·.due) }
  due.foldl (fun session departure => session.unmarkBusy departure.resolver departure.thread) later

/-- Has a thread give up a marker after some time. -/
def departLater (session : Session) (id : Nat) (thread : Thread) (time : Nat) : Session :=
  let departure : Departure := ⟨session.elapsed + time, id, thread⟩
  { session with departures := session.departures ++ [departure] }

/-- Whether a thread is busy on a resolver. -/
def isBusy (session : Session) (id : Nat) (thread : Thread) : Bool :=
  ((session.resolvers.get? id).map fun resolver => resolver.busy.isBusy thread).getD false

/-- Waits for a thread to leave the code of a resolver. -/
def awaitThread (session : Session) (id : Nat) (thread : Thread) (interval attempts : Nat) :
    Session × Quiescence :=
  let (outcome, after) :=
    Quiescence.await (fun session => (session.isBusy id thread, session)) (·.pass interval) attempts
      session
  match outcome with
  | .timedOut polls => (after.log [.stillBusy polls], outcome)
  | _ => (after, outcome)

/-- Waits for a thread as long as the configuration allows. Without a thread there is nothing to
wait for. -/
def wait (session : Session) (id : Nat) (thread : Option Thread) : Session × Quiescence :=
  match thread, session.resolvers.get? id with
  | some thread, some resolver =>
    session.awaitThread id thread resolver.patience.interval.toNat resolver.patience.attempts.toNat
  | _, _ => (session, .idle)

/-- Waits for a thread and unloads, unless the thread did not leave and the policy is strict. -/
def unloadAfter (session : Session) (id : Nat) (thread : Option Thread) (policy : UnloadPolicy) :
    Session × Except FileError Quiescence :=
  let (waited, outcome) := session.wait id thread
  if !outcome.isQuiescent && policy = .strict then
    (waited.log [.unloadSkipped], .ok outcome)
  else
    match waited.unload id with
    | (after, .ok ()) => (after, .ok outcome)
    | (after, .error error) => (after, .error error)

end Session

end Hotload
