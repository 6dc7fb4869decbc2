import Hotload.Session.Resolver
import Mathlib.Logic.Function.Iterate

/-!
# Waits that are bounded

A wait looks twice before it pauses for the first time, and once more after every pause. What it
comes to is told by the answers that its looks get, whatever these are: the answers of a sequence
that somebody else makes up, or those that the markers of a session give. `EndsBy` says which answers
lead to which end.

The wait reports the pauses that it made. They are never more than the attempts that it is allowed.
`Waits` is the same wait with its counter in a word of 32 bits, which is counted up from zero and
compared with the attempts before each pause. It comes to an end, and its counter never overflows.
-/

namespace Hotload

namespace Quiescence

/-- The number of pauses that a wait reports. -/
def polls : Quiescence → Nat
  | .idle => 0
  | .drained polls | .timedOut polls => polls

/-- The number of looks of a wait: two, and one more for every pause, unless the first sees that the
thread is gone. -/
def looks : Quiescence → Nat
  | .idle => 1
  | .drained polls | .timedOut polls => polls + 2

/-- How a wait ends, by the answers that its looks get one after the other. -/
structure EndsBy (answers : Nat → Bool) (attempts : Nat) (outcome : Quiescence) : Prop where
  idle : outcome = .idle ↔ answers 0 = false
  drained : ∀ polls, outcome = .drained polls ↔
    polls ≤ attempts ∧ answers (polls + 1) = false ∧ ∀ earlier ≤ polls, answers earlier = true
  timedOut : ∀ polls, outcome = .timedOut polls ↔
    polls = attempts ∧ ∀ look ≤ attempts + 1, answers look = true
  bounded : outcome.polls ≤ attempts
  /-- The last look tells whether the thread has left. -/
  last : outcome.isQuiescent = !answers (outcome.looks - 1)

section

variable {answers : Nat → Bool} {attempts : Nat}

theorem endsBy_idle (gone : answers 0 = false) : EndsBy answers attempts .idle where
  idle := by simp [gone]
  drained := by
    intro polls
    have busyFirst : ¬ ∀ earlier ≤ polls, answers earlier = true := fun busy => by
      simp [busy 0 (Nat.zero_le polls)] at gone
    simp [busyFirst]
  timedOut := by
    intro polls
    have busyFirst : ¬ ∀ look ≤ attempts + 1, answers look = true := fun busy => by
      simp [busy 0 (Nat.zero_le _)] at gone
    simp [busyFirst]
  bounded := Nat.zero_le attempts
  last := by simp [isQuiescent, looks, gone]

/-- The first look that sees the thread gone tells how many pauses there were. -/
theorem endsBy_drained {polls : Nat} (within : polls ≤ attempts)
    (busy : ∀ earlier ≤ polls, answers earlier = true) (gone : answers (polls + 1) = false) :
    EndsBy answers attempts (.drained polls) where
  idle := by simp [busy 0 (Nat.zero_le polls)]
  drained := by
    intro others
    rw [drained.injEq]
    refine ⟨?_, ?_⟩
    · rintro rfl
      exact ⟨within, gone, busy⟩
    · rintro ⟨_, goneThere, busyBefore⟩
      have notLater : ¬ others < polls := fun less => by
        rw [busy (others + 1) less] at goneThere
        cases goneThere
      have notEarlier : ¬ polls < others := fun less => by
        rw [busyBefore (polls + 1) less] at gone
        cases gone
      omega
  timedOut := by
    intro others
    have goneWithin : ¬ ∀ look ≤ attempts + 1, answers look = true := fun all => by
      rw [all (polls + 1) (by omega)] at gone
      cases gone
    simp [goneWithin]
  bounded := within
  last := by simp [isQuiescent, looks, gone]

theorem endsBy_timedOut (busy : ∀ look ≤ attempts + 1, answers look = true) :
    EndsBy answers attempts (.timedOut attempts) where
  idle := by simp [busy 0 (Nat.zero_le _)]
  drained := by
    intro polls
    have busyThere : polls ≤ attempts → answers (polls + 1) = true := fun within =>
      busy (polls + 1) (by omega)
    simp only [reduceCtorEq, false_iff, not_and]
    intro within gone
    rw [busyThere within] at gone
    cases gone
  timedOut := by
    intro polls
    rw [timedOut.injEq]
    exact ⟨fun same => ⟨same.symm, busy⟩, fun there => there.1.symm⟩
  bounded := Nat.le_refl attempts
  last := by simp [isQuiescent, looks, busy (attempts + 1) (Nat.le_refl _)]

end

/-! ## Looks and pauses -/

section

variable {State : Type} (look : State → Bool × State) (pause : State → State) (start : State)

/-- What a wait finds at each of its looks, as long as it goes on: there is no pause before the
second look, and one before every later look. -/
def foundAt : Nat → State
  | 0 => start
  | 1 => (look start).2
  | number + 2 => pause (look (foundAt (number + 1))).2

/-- The answers that the looks get. -/
def answersFrom (number : Nat) : Bool :=
  (look (foundAt look pause start number)).1

/-- What the looks and pauses of a wait lead to is what its last look leaves. -/
def EndsAt (attempts : Nat) (ended : Quiescence × State) : Prop :=
  EndsBy (answersFrom look pause start) attempts ended.1 ∧
    ended.2 = (look (foundAt look pause start (ended.1.looks - 1))).2

/-- After the first look, a wait polls. The induction is on the pauses that are left, and all looks so
far saw the thread busy. -/
theorem poll_endsAt (remaining polls : Nat)
    (busy : ∀ earlier ≤ polls, answersFrom look pause start earlier = true) :
    EndsAt look pause start (polls + remaining)
      (poll look pause polls remaining (foundAt look pause start (polls + 1))) := by
  induction remaining generalizing polls with
  | zero =>
    rcases heard : look (foundAt look pause start (polls + 1)) with ⟨_ | _, after⟩
    · have gone : answersFrom look pause start (polls + 1) = false := by
        rw [answersFrom, heard]
      simp only [poll, heard]
      exact ⟨endsBy_drained (Nat.le_add_right polls 0) busy gone, by simp [looks, heard]⟩
    · have there : answersFrom look pause start (polls + 1) = true := by
        rw [answersFrom, heard]
      simp only [poll, heard]
      refine ⟨endsBy_timedOut fun number within => ?_, by simp [looks, heard]⟩
      rcases Nat.le_succ_iff.mp within with earlier | rfl
      · exact busy number earlier
      · exact there
  | succ remaining inductionHypothesis =>
    rcases heard : look (foundAt look pause start (polls + 1)) with ⟨_ | _, after⟩
    · have gone : answersFrom look pause start (polls + 1) = false := by
        rw [answersFrom, heard]
      simp only [poll, heard]
      exact ⟨endsBy_drained (Nat.le_add_right polls _) busy gone, by simp [looks, heard]⟩
    · have there : answersFrom look pause start (polls + 1) = true := by
        rw [answersFrom, heard]
      have next : foundAt look pause start (polls + 2) = pause after := by
        rw [foundAt, heard]
      simp only [poll, heard]
      rw [← next, show polls + (remaining + 1) = polls + 1 + remaining by omega]
      refine inductionHypothesis (polls + 1) fun number within => ?_
      rcases Nat.le_succ_iff.mp within with earlier | rfl
      · exact busy number earlier
      · exact there

/-- A wait ends by the answers that its looks get. -/
theorem await_endsAt (attempts : Nat) :
    EndsAt look pause start attempts (await look pause attempts start) := by
  unfold await
  rcases heard : look start with ⟨_ | _, after⟩
  · have gone : answersFrom look pause start 0 = false := by
      rw [answersFrom, foundAt, heard]
    exact ⟨endsBy_idle gone, by simp [looks, foundAt, heard]⟩
  · have there : answersFrom look pause start 0 = true := by
      rw [answersFrom, foundAt, heard]
    have second : foundAt look pause start 1 = after := by
      rw [foundAt, heard]
    have polled := poll_endsAt look pause start attempts 0 fun earlier within => by
      obtain rfl := Nat.le_zero.mp within
      exact there
    rwa [Nat.zero_add, Nat.zero_add, second] at polled

end

/-! ## The counter in a word -/

section

variable {State : Type} (look : State → Bool × State) (pause : State → State) (attempts : UInt32)

/-- The loop of a wait, with the pauses so far in a word. It goes on only if the next pause can be
counted. -/
inductive Loops : UInt32 → State → Quiescence × State → Prop where
  | left {polls : UInt32} {state after : State} (seen : look state = (false, after)) :
      Loops polls state (.drained polls.toNat, after)
  | givenUp {state after : State} (seen : look state = (true, after)) :
      Loops attempts state (.timedOut attempts.toNat, after)
  | again {polls : UInt32} {state after : State} {ended : Quiescence × State}
      (seen : look state = (true, after)) (unspent : polls ≠ attempts)
      (counts : (polls + 1).toNat = polls.toNat + 1) (rest : Loops (polls + 1) (pause after) ended) :
      Loops polls state ended

/-- A wait with its counter in a word: a look, and then the loop. -/
inductive Waits : State → Quiescence × State → Prop where
  | idle {state after : State} (seen : look state = (false, after)) : Waits state (.idle, after)
  | busy {state after : State} {ended : Quiescence × State} (seen : look state = (true, after))
      (loops : Loops look pause attempts 0 after ended) : Waits state ended

/-- Polling is the loop. The induction is on the pauses that are left. -/
theorem poll_loops (remaining : Nat) (polls : UInt32)
    (split : polls.toNat + remaining = attempts.toNat) (state : State) :
    Loops look pause attempts polls state (poll look pause polls.toNat remaining state) := by
  induction remaining generalizing polls state with
  | zero =>
    obtain rfl : polls = attempts := UInt32.toNat_inj.mp split
    rcases seen : look state with ⟨_ | _, after⟩
    · simp only [poll, seen]
      exact .left seen
    · simp only [poll, seen]
      exact .givenUp seen
  | succ remaining inductionHypothesis =>
    rcases seen : look state with ⟨_ | _, after⟩
    · simp only [poll, seen]
      exact .left seen
    · have unspent : polls ≠ attempts := by
        rintro rfl
        omega
      have counts : (polls + 1).toNat = polls.toNat + 1 := by
        have room := attempts.toNat_lt
        rw [UInt32.toNat_add]
        simp only [UInt32.reduceToNat]
        omega
      have rest := inductionHypothesis (polls + 1) (by omega) (pause after)
      rw [counts] at rest
      simp only [poll, seen]
      exact .again seen unspent counts rest

/-- A wait that counts in a word ends like one that counts without a bound. -/
theorem await_waits (state : State) :
    Waits look pause attempts state (await look pause attempts.toNat state) := by
  unfold await
  rcases seen : look state with ⟨_ | _, after⟩
  · exact .idle seen
  · exact .busy seen (poll_loops look pause attempts attempts.toNat 0 (by simp) after)

end

/-! ## Waits that are counted -/

/-- What a wait has done so far. -/
structure Vigil where
  looks : Nat := 0
  pauses : Nat := 0
  /-- The time spent in pauses. -/
  slept : Nat := 0
  deriving DecidableEq, Repr

namespace Vigil

/-- A look that gets the next answer of a sequence. -/
def look (answers : Nat → Bool) (vigil : Vigil) : Bool × Vigil :=
  (answers vigil.looks, { vigil with looks := vigil.looks + 1 })

/-- A pause of a given length. -/
def pause (interval : Nat) (vigil : Vigil) : Vigil :=
  { vigil with pauses := vigil.pauses + 1, slept := vigil.slept + interval }

/-- Before each look there were as many looks as it has in front of it, and one pause less. -/
theorem foundAt_eq (answers : Nat → Bool) (interval number : Nat) :
    foundAt (look answers) (pause interval) {} number =
      ⟨number, number - 1, interval * (number - 1)⟩ := by
  induction number with
  | zero => rfl
  | succ number inductionHypothesis =>
    cases number with
    | zero => rfl
    | succ number =>
      rw [foundAt, inductionHypothesis]
      simp [look, pause, Nat.mul_succ]

/-- The looks get the answers of the sequence. -/
theorem answersFrom_eq (answers : Nat → Bool) (interval : Nat) :
    answersFrom (look answers) (pause interval) {} = answers := by
  funext number
  rw [answersFrom, foundAt_eq]
  rfl

/-- A wait that is counted makes the looks and the pauses that its outcome tells. -/
theorem await_endsBy (answers : Nat → Bool) (interval attempts : Nat) :
    ∃ outcome, await (look answers) (pause interval) attempts {} =
        (outcome, ⟨outcome.looks, outcome.polls, interval * outcome.polls⟩) ∧
      EndsBy answers attempts outcome := by
  have endsAt := await_endsAt (look answers) (pause interval) {} attempts
  rcases ended : await (look answers) (pause interval) attempts {} with ⟨outcome, vigil⟩
  rw [ended] at endsAt
  obtain ⟨ends, left⟩ := endsAt
  rw [answersFrom_eq] at ends
  rw [foundAt_eq] at left
  have counted : vigil = ⟨outcome.looks, outcome.polls, interval * outcome.polls⟩ := by
    rw [show vigil = _ from left]
    cases outcome <;> rfl
  exact ⟨outcome, by rw [counted], ends⟩

end Vigil

end Quiescence

namespace Session

/-- Letting time pass takes that time. -/
theorem pass_elapsed (session : Session) (time : Nat) :
    (session.pass time).elapsed = session.elapsed + time := by
  have kept : ∀ (due : List Departure) (later : Session),
      (due.foldl (fun session departure =>
        session.unmarkBusy departure.resolver departure.thread) later).elapsed = later.elapsed := by
    intro due
    induction due with
    | nil => intro later; rfl
    | cons departure rest inductionHypothesis =>
      intro later
      exact inductionHypothesis _
  exact kept _ _

/-- Whether a thread is marked at each look of a wait, if the wait goes on. -/
def busyAt (session : Session) (id : Nat) (thread : Thread) (interval number : Nat) : Bool :=
  ((·.pass interval)^[number - 1] session).isBusy id thread

open Quiescence in
/-- A look at the markers changes nothing, so only the pauses count. -/
theorem foundAt_pass (session : Session) (id : Nat) (thread : Thread) (interval number : Nat) :
    foundAt (fun session => (session.isBusy id thread, session)) (·.pass interval) session number =
      (·.pass interval)^[number - 1] session := by
  induction number with
  | zero => rfl
  | succ number inductionHypothesis =>
    cases number with
    | zero => rfl
    | succ number =>
      rw [foundAt, inductionHypothesis]
      exact (Function.iterate_succ_apply' (·.pass interval) number session).symm

theorem passes_elapsed (session : Session) (interval count : Nat) :
    ((·.pass interval)^[count] session).elapsed = session.elapsed + interval * count := by
  induction count with
  | zero => rfl
  | succ count inductionHypothesis =>
    rw [Function.iterate_succ_apply', pass_elapsed, inductionHypothesis, Nat.mul_succ,
      Nat.add_assoc]

open Quiescence in
/-- A wait for a thread of a session ends by whether the thread is marked, and takes the time of its
pauses. -/
theorem awaitThread_endsBy (session : Session) (id : Nat) (thread : Thread)
    (interval attempts : Nat) :
    EndsBy (session.busyAt id thread interval) attempts
        (session.awaitThread id thread interval attempts).2 ∧
      (session.awaitThread id thread interval attempts).1.elapsed = session.elapsed +
        interval * (session.awaitThread id thread interval attempts).2.polls := by
  have endsAt := await_endsAt (fun session : Session => (session.isBusy id thread, session))
    (·.pass interval) session attempts
  have answered : answersFrom (fun session : Session => (session.isBusy id thread, session))
      (·.pass interval) session = session.busyAt id thread interval :=
    funext fun number => by rw [answersFrom, foundAt_pass]; rfl
  unfold Session.awaitThread
  rcases ended : await (fun session : Session => (session.isBusy id thread, session))
    (·.pass interval) attempts session with ⟨outcome, after⟩
  rw [ended] at endsAt
  obtain ⟨ends, left⟩ := endsAt
  rw [answered] at ends
  rw [foundAt_pass] at left
  have elapsed : after.elapsed = session.elapsed + interval * outcome.polls := by
    rw [show after = _ from left, passes_elapsed]
    cases outcome <;> rfl
  cases outcome with
  | idle => exact ⟨ends, elapsed⟩
  | drained polls => exact ⟨ends, elapsed⟩
  | timedOut polls => exact ⟨ends, elapsed⟩

end Session

namespace Quiescence

/-- A wait ends, whatever answers its looks get, and the answers tell how: at once if the first is
that the thread is not busy; else with the pauses that lie before the first such answer, if they are
as many as allowed; and else with all pauses that are allowed. It makes as many pauses as it
reports, each of the given length, and can count them in a word. A wait for a thread of a session is
one of these. Both come from one law of waits, by induction on the attempts left, for whatever looks
and pauses do to a state. -/
theorem await_answered (interval : Nat) (attempts : UInt32) :
    (∀ answers, ∃ outcome,
      await (Vigil.look answers) (Vigil.pause interval) attempts.toNat {} =
        (outcome, ⟨outcome.looks, outcome.polls, interval * outcome.polls⟩) ∧
      EndsBy answers attempts.toNat outcome ∧
      Waits (Vigil.look answers) (Vigil.pause interval) attempts {}
        (outcome, ⟨outcome.looks, outcome.polls, interval * outcome.polls⟩)) ∧
    ∀ (session : Session) (id : Nat) (thread : Thread),
      EndsBy (session.busyAt id thread interval) attempts.toNat
          (session.awaitThread id thread interval attempts.toNat).2 ∧
        (session.awaitThread id thread interval attempts.toNat).1.elapsed = session.elapsed +
          interval * (session.awaitThread id thread interval attempts.toNat).2.polls := by
  constructor
  · intro answers
    obtain ⟨outcome, ended, ends⟩ := Vigil.await_endsBy answers interval attempts.toNat
    have waits := await_waits (Vigil.look answers) (Vigil.pause interval) attempts {}
    rw [ended] at waits
    exact ⟨outcome, ended, ends, waits⟩
  · intro session id thread
    exact session.awaitThread_endsBy id thread interval attempts.toNat

end Quiescence

end Hotload
