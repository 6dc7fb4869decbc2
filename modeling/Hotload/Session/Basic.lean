import Hotload.Config.Basic
import Hotload.Event
import Hotload.Guard.BusySet
import Hotload.Reaper.Basic
import Hotload.Registry.Basic
import Hotload.Table
import Hotload.Unit.Basic

/-!
# Sessions

A session holds everything that loaders share and refer to: the file tree, the tables of system
loaders, units, resolvers, reapers and files of passing use, the references that the host holds, and
a record of what happened. All operations of the library are functions on sessions.
-/

namespace Hotload

/-- A loader over one cache directory. -/
structure Resolver where
  staging : Staging
  platform : Platform
  compiler : Compiler
  /-- Who is asked before the registry. -/
  parent : Option Loader
  dumpsFailedInput : Bool
  patience : Patience
  registry : Registry Nat := []
  busy : BusySet := []
  reaper : Nat
  /-- Whether any compile left nothing behind; never taken back. -/
  hasFailed : Bool := false
  /-- Who is asked last. -/
  localUnit : Option Loader := none
  /-- The symbols that came from the local unit. -/
  defined : List (String × Symbol) := []

/-- The layout of a resolver's cache directory. -/
def Resolver.layout (resolver : Resolver) : Layout :=
  resolver.staging.layout

/-- What a reference from outside refers to. -/
inductive Target where
  | loader (loader : Loader)
  | temporary (id : Nat)
  deriving DecidableEq, Repr

/-- A call of a compiler, as it began. -/
structure Invocation where
  resolver : Nat
  request : CompileRequest
  /-- Whether the calling thread was marked busy. -/
  isBusy : Bool
  busyCount : Nat
  deriving DecidableEq, Repr

/-- A marker that a thread will give up at a given time. -/
structure Departure where
  due : Nat
  resolver : Nat
  thread : Thread
  deriving DecidableEq, Repr

/-- Everything that loaders share. -/
structure Session where
  files : Files
  systems : Table (List (String × Symbol)) := []
  units : Table LoadedUnit := []
  resolvers : Table Resolver := []
  reapers : Table Reaper := []
  temporaries : Table TemporaryFile := []
  /-- The references that the host holds, by names of its own. -/
  held : List (String × Target) := []
  events : List Event := []
  invocations : List Invocation := []
  /-- The next number that was never given. -/
  fresh : Nat := 0
  /-- The time spent waiting, in milliseconds. -/
  elapsed : Nat := 0
  departures : List Departure := []

namespace Session

/-- Notes events. -/
def log (session : Session) (events : List Event) : Session :=
  { session with events := session.events ++ events }

/-- Gives a number that was never given. -/
def number (session : Session) : Session × Nat :=
  ({ session with fresh := session.fresh + 1 }, session.fresh)

/-- A number in decimal digits, `width` of them or more. -/
def paddedDigits (width value : Nat) : List Char :=
  let digits := Nat.toDigits 10 value
  List.replicate (width - digits.length) '0' ++ digits

/-- The token with a number: five groups of digits, as for a random identifier. Different numbers
have different tokens. -/
def tokenText (value : Nat) : String :=
  "00000000-0000-4000-8000-" ++ String.ofList (paddedDigits 12 value)

/-- Draws a token. -/
def token (session : Session) : Session × String :=
  let (session, number) := session.number
  (session, tokenText number)

/-- Changes a resolver. -/
def updateResolver (session : Session) (id : Nat) (change : Resolver → Resolver) : Session :=
  { session with resolvers := session.resolvers.update id change }

/-- Whether a file of passing use is still referred to. -/
def isLive (session : Session) (temporary : Nat) : Bool :=
  session.temporaries.has temporary

/-- Makes a system loader without symbols. -/
def addSystem (session : Session) : Session × Nat :=
  let (session, id) := session.number
  ({ session with systems := session.systems.add id [] }, id)

/-- The unit name of system symbols. -/
def systemUnit : String := "<system>"

/-- Gives a system loader a symbol, in place of an earlier one of the name. -/
def defineSystem (session : Session) (id : Nat) (name : String) (content : Bytes) :
    Session × Symbol :=
  let (session, serial) := session.number
  let symbol : Symbol := ⟨name, systemUnit, .bytecode content, serial⟩
  let change := fun symbols : List (String × Symbol) =>
    symbols.filter (fun entry => entry.1 ≠ name) ++ [(name, symbol)]
  ({ session with systems := session.systems.update id change }, symbol)

/-- Makes a reaper. -/
def addReaper (session : Session) : Session × Nat :=
  let (session, id) := session.number
  ({ session with reapers := session.reapers.add id [] }, id)

/-- Has a reaper track a file of passing use. The result is the number of the file, which something
has to refer to from then on. -/
def track (session : Session) (reaper : Nat) (path : String) : Session × Nat :=
  let (numbered, id) := session.number
  ({ numbered with
      temporaries := numbered.temporaries.add id ⟨path, false⟩
      reapers := numbered.reapers.update reaper
        (Reaper.track session.isLive (trackedName path) id) }, id)

/-- Has a reaper sweep. -/
def sweep (session : Session) (reaper : Nat) : Session × Nat :=
  match session.reapers.get? reaper with
  | none => (session, 0)
  | some entries =>
    let (kept, count) := entries.sweep session.isLive
    ({ session with reapers := session.reapers.update reaper fun _ => kept }, count)

/-- Makes the one attempt to delete a file of passing use. -/
def release (session : Session) (id : Nat) : Session × Bool :=
  match session.temporaries.get? id with
  | none => (session, false)
  | some temporary =>
    let (released, files, result) := temporary.release session.files
    let after : Session :=
      { session with files, temporaries := session.temporaries.update id fun _ => released }
    match result with
    | .ok removed => (after, removed)
    | .error _ => (after.log [.temporaryFileKept], false)

/-- How many of the files that a reaper tracks are live. -/
def liveCount (session : Session) (reaper : Nat) : Nat :=
  ((session.reapers.get? reaper).getD []).liveCount session.isLive

/-- The names of the live files that a reaper tracks. -/
def liveNames (session : Session) (reaper : Nat) : List String :=
  ((session.reapers.get? reaper).getD []).liveNames session.isLive

end Session

end Hotload
