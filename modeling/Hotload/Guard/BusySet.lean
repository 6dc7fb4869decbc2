/-!
# Busy threads

A thread is busy while it compiles or defines something. Markers nest, so the set keeps for every
busy thread how many of its markers are live; a thread without a live marker is not in the set.
-/

namespace Hotload

/-- The name of a thread. -/
abbrev Thread := String

/-- The busy threads, each with the number of its live markers. -/
abbrev BusySet := List (Thread × Nat)

namespace BusySet

/-- How many markers of a thread are live. -/
def depth (busy : BusySet) (thread : Thread) : Nat :=
  (busy.lookup thread).getD 0

/-- Whether a thread has a live marker. -/
def isBusy (busy : BusySet) (thread : Thread) : Bool :=
  (busy.lookup thread).isSome

/-- The number of busy threads. -/
def count (busy : BusySet) : Nat :=
  busy.length

/-- Sets the number of live markers of a thread that is in the set. -/
def setDepth (busy : BusySet) (thread : Thread) (depth : Nat) : BusySet :=
  busy.map fun entry => if entry.1 = thread then (thread, depth) else entry

/-- Takes a thread out of the set. -/
def drop (busy : BusySet) (thread : Thread) : BusySet :=
  busy.filter fun entry => entry.1 ≠ thread

/-- Adds a marker of a thread. -/
def enter (busy : BusySet) (thread : Thread) : BusySet :=
  match busy.lookup thread with
  | some depth => busy.setDepth thread (depth + 1)
  | none => busy ++ [(thread, 1)]

/-- Takes one marker of a thread away. The last one takes the thread out of the set. -/
def leave (busy : BusySet) (thread : Thread) : BusySet :=
  match busy.lookup thread with
  | some depth => if depth ≤ 1 then busy.drop thread else busy.setDepth thread (depth - 1)
  | none => busy

end BusySet

end Hotload
