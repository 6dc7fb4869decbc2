import Hotload.Files.Change

/-!
# Files of passing use

A file of passing use is deleted once: when it is released, or else when nothing refers to it any
more. A reaper lists the files that are still referred to. Which ones are, it is told from outside,
and it forgets the others when it next tracks a file or sweeps.
-/

namespace Hotload

/-- A file of passing use. -/
structure TemporaryFile where
  path : String
  /-- Whether the one attempt to delete it has been made. -/
  isReleased : Bool := false
  deriving DecidableEq, Repr

namespace TemporaryFile

/-- Makes the one attempt to delete the file. The result tells whether this call removed it. -/
def release (temporary : TemporaryFile) (files : Files) :
    TemporaryFile × Files × Except FileError Bool :=
  if temporary.isReleased then (temporary, files, .ok false)
  else
    let (after, result) := files.removeIfExists temporary.path
    (⟨temporary.path, true⟩, after, result)

end TemporaryFile

/-- The files that a reaper tracks, by file name and number, in the order of tracking. -/
abbrev Reaper := List (String × Nat)

namespace Reaper

/-- The tracked files that are still referred to. -/
def live (isLive : Nat → Bool) (reaper : Reaper) : Reaper :=
  reaper.filter fun entry => isLive entry.2

/-- Tracks one more file, and forgets those that nothing refers to. -/
def track (isLive : Nat → Bool) (name : String) (id : Nat) (reaper : Reaper) : Reaper :=
  reaper.live isLive ++ [(name, id)]

/-- Forgets the files that nothing refers to, and tells how many they were. -/
def sweep (isLive : Nat → Bool) (reaper : Reaper) : Reaper × Nat :=
  (reaper.live isLive, reaper.length - (reaper.live isLive).length)

/-- How many tracked files are still referred to. -/
def liveCount (isLive : Nat → Bool) (reaper : Reaper) : Nat :=
  reaper.countP fun entry => isLive entry.2

/-- The names of the files that are still referred to. -/
def liveNames (isLive : Nat → Bool) (reaper : Reaper) : List String :=
  (reaper.live isLive).map (·.1)

end Reaper

/-- The name under which a path is tracked: its last component, or nothing. -/
def trackedName (path : String) : String :=
  (Path.fileName? path).getD ""

end Hotload
