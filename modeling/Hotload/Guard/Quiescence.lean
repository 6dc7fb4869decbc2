/-!
# Waiting for a thread

Before loaded code is thrown away, the caller waits for a thread to leave it. The wait looks, pauses
and looks again, and gives up after a number of pauses. It is written over any state that can be
looked at and that changes during a pause.
-/

namespace Hotload

/-- How a wait ended. -/
inductive Quiescence where
  /-- The thread was not busy to begin with. -/
  | idle
  /-- The thread left after some pauses. -/
  | drained (polls : Nat)
  /-- The thread was still busy when all pauses were used up. -/
  | timedOut (polls : Nat)
  deriving DecidableEq, Repr

namespace Quiescence

/-- Whether the thread is known to have left. -/
def isQuiescent : Quiescence → Bool
  | .timedOut _ => false
  | _ => true

variable {State : Type}

/-- Looks and pauses until the thread is gone or no pause remains; `polls` pauses were made
before. -/
def poll (look : State → Bool × State) (pause : State → State) (polls : Nat) :
    Nat → State → Quiescence × State
  | 0, state =>
    match look state with
    | (false, state) => (.drained polls, state)
    | (true, state) => (.timedOut polls, state)
  | remaining + 1, state =>
    match look state with
    | (false, state) => (.drained polls, state)
    | (true, state) => poll look pause (polls + 1) remaining (pause state)

/-- Waits for the thread that `look` watches, with at most `attempts` pauses. -/
def await (look : State → Bool × State) (pause : State → State) (attempts : Nat) (state : State) :
    Quiescence × State :=
  match look state with
  | (false, state) => (.idle, state)
  | (true, state) => poll look pause 0 attempts state

end Quiescence

end Hotload
