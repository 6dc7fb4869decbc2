import Hotload.Proofs.MarkedCalls

/-!
# Unloads that wait for a thread

Before a resolver is unloaded, the caller may wait for a thread to leave its code. The wait looks
whether the thread is marked, pauses and looks again; when the thread is not marked, the cache is
purged, and when it still is after all pauses, a strict unload does nothing. All the while the thread
goes on with its calls, one after the other, and the unload may look or purge between any two of
their steps.

A thread is marked from the call of the compiler to the end of the compile. So what the last look
excludes is a compile. It excludes neither a call that has staged its archive and has yet to call the
compiler, nor one that reads its symbol back, nor a compile that begins between the look and the
purge.
-/

namespace Hotload

namespace Session

/-! ## A thread and an unload -/

namespace Standing

/-- What a call has come to, if it has ended. -/
def deed? : Standing → Option Deed
  | .goingOn errand => errand.deed?
  | _ => none

/-- Whether the next step calls the compiler. -/
def isCalling : Standing → Bool
  | .goingOn errand => errand.request?.isSome
  | _ => false

/-- The next step of a call. The compiler does its work when it returns, all at once. -/
def step (id : Nat) (thread : Thread) (session : Session) : Standing → Session × Standing
  | .goingOn errand =>
    if calls : errand.request?.isSome then
      ((session.markBusy id thread).noteInvocation id thread (errand.request?.get calls),
        .compiling errand calls)
    else
      let (after, next) := errand.step id thread session
      (after, .goingOn next)
  | .compiling errand calls =>
    let (files, result) := errand.resolver.compiler (errand.request?.get calls) session.files
    ({ session with files }, .goingOn (errand.answered result))
  | .unwound => (session, .unwound)

end Standing

/-- Where an unload stands that waits for a thread. -/
inductive Unloading where
  | asked
  /-- The thread was marked when the unload looked first, and there were some pauses since. -/
  | polling (polls : Nat)
  /-- The thread was not marked at the last look. -/
  | cleared (outcome : Quiescence)
  /-- The thread was still marked when all pauses were used up. -/
  | givenUp (polls : Nat)
  | ended (result : Except FileError Quiescence)

/-- Whether an unload goes on to purge. -/
def Unloading.isCleared : Unloading → Bool
  | .cleared _ => true
  | _ => false

/-- Whether an unload has ended without a purge. -/
def Unloading.isSkipped : Unloading → Bool
  | .ended (.ok (.timedOut _)) => true
  | _ => false

/-- A session with a thread that makes calls, and with an unload that waits for it. -/
structure Teardown where
  session : Session
  /-- The call that the thread is in. -/
  standing? : Option Standing
  /-- What was done so far. -/
  deeds : List Deed
  unloading : Unloading
  /-- What the thread was in when the unload last looked. -/
  seen? : Option (Option Standing)
  /-- Whether the thread has called the compiler since. -/
  hasCalled : Bool
  /-- What the thread was in when the cache was purged, and whether it had called the compiler since
  the last look. -/
  purged? : Option (Option Standing × Bool)

namespace Teardown

/-- Nothing was begun yet. -/
def start (session : Session) : Teardown :=
  ⟨session, none, [], .asked, none, false, none⟩

/-- The thread takes the next step of its call, or returns from it. -/
def goOn (id : Nat) (thread : Thread) (state : Teardown) : Teardown :=
  match state.standing? with
  | none => state
  | some standing =>
    match standing.deed? with
    | some deed => { state with standing? := none, deeds := state.deeds ++ [deed] }
    | none =>
      { state with
        session := (standing.step id thread state.session).1
        standing? := some (standing.step id thread state.session).2
        hasCalled := state.hasCalled || standing.isCalling }

/-- The unload looks whether the thread is marked. -/
def look (id : Nat) (thread : Thread) (attempts : Nat) (state : Teardown) : Teardown :=
  let isBusy := state.session.isBusy id thread
  match state.unloading with
  | .asked =>
    { state with
      unloading := if isBusy then .polling 0 else .cleared .idle
      seen? := some state.standing?
      hasCalled := false }
  | .polling polls =>
    { state with
      unloading :=
        if !isBusy then .cleared (.drained polls)
        else if polls = attempts then .givenUp polls
        else .polling (polls + 1)
      seen? := some state.standing?
      hasCalled := false }
  | _ => state

/-- The unload purges the cache if the thread was not marked, and else does without. -/
def unload (id : Nat) (state : Teardown) : Teardown :=
  match state.unloading with
  | .cleared outcome =>
    let (after, result) := state.session.unload id
    { state with
      session := after
      unloading := .ended (result.map fun _ => outcome)
      deeds := state.deeds ++ [.unloaded result]
      purged? := some (state.standing?, state.hasCalled) }
  | .givenUp polls =>
    { state with
      session := state.session.log [.stillBusy polls, .unloadSkipped]
      unloading := .ended (.ok (.timedOut polls)) }
  | _ => state

end Teardown

/-- One step of the thread or of the unload. The thread makes one call after the other, step by
step; the unload looks for the thread, over and over, and then purges in a step of its own. -/
inductive TeardownStep (id : Nat) (thread : Thread) (attempts : Nat) : Teardown → Teardown → Prop
  | call (state : Teardown) (resolver : Resolver) (call : PipelineCall)
      (free : state.standing? = none)
      (present : state.session.resolvers.get? id = some resolver) :
      TeardownStep id thread attempts state
        { state with standing? := some (.goingOn (Errand.ofCall resolver call)) }
  | goOn (state : Teardown) : TeardownStep id thread attempts state (state.goOn id thread)
  | look (state : Teardown) : TeardownStep id thread attempts state (state.look id thread attempts)
  | unload (state : Teardown) : TeardownStep id thread attempts state (state.unload id)

/-! ## One after the other -/

/-- What a deed makes of a session when nothing interrupts it. -/
def Deed.Takes (id : Nat) (thread : Thread) (before after : Session) : Deed → Prop
  | .defined name content result => before.define id thread name content = (after, result)
  | .loaded container result => before.loadContainer id thread container = (after, result)
  | .unloaded result => before.unload id = (after, result)

/-- Deeds that were done one after the other. -/
inductive Replays (id : Nat) (thread : Thread) (start : Session) : List Deed → Session → Prop
  | nil : Replays id thread start [] start
  | snoc {deeds : List Deed} {before after : Session} {deed : Deed}
      (earlier : Replays id thread start deeds before) (takes : deed.Takes id thread before after) :
      Replays id thread start (deeds ++ [deed]) after

/-- A call goes on by its own steps only. -/
def Standing.Goes (id : Nat) (thread : Thread) : Session × Standing → Session × Standing → Prop :=
  Relation.ReflTransGen fun stand next => stand.2.step id thread stand.1 = next

variable {id : Nat} {thread : Thread} {session : Session} {resolver : Resolver}

/-- A call stands elsewhere by its own steps only, as its errand goes on by them. -/
theorem Errand.Goes.standing {errand : Errand} {stand : Session × Errand}
    (goes : Errand.Goes id thread (session, errand) stand) :
    Standing.Goes id thread (session, .goingOn errand) (stand.1, .goingOn stand.2) := by
  induction goes with
  | refl => exact .refl
  | @tail stand next _ step inductionHypothesis =>
    obtain ⟨session, errand⟩ := stand
    subst step
    refine inductionHypothesis.trans ?_
    cases calls : errand.request? with
    | none =>
      have uncalled : ¬ errand.request?.isSome := by rw [calls]; simp
      refine .single ?_
      simp only [Standing.step, uncalled, Bool.false_eq_true, ↓reduceDIte]
    | some request =>
      have called : errand.request?.isSome := by rw [calls]; rfl
      have isRequest : errand.request?.get called = request := by simp [calls]
      rw [Errand.step_calling calls]
      refine .head (b := ((session.markBusy id thread).noteInvocation id thread request,
        .compiling errand called)) ?_ (.single ?_)
      · simp only [Standing.step, called, ↓reduceDIte, isRequest]
      · simp only [Standing.step, isRequest]
        rfl

/-- A call that has ended stays where it is. -/
theorem Standing.step_ended {standing : Standing} (done : standing.deed?.isSome) (id : Nat)
    (thread : Thread) (session : Session) :
    standing.step id thread session = (session, standing) := by
  unfold deed? at done
  split at done
  · next errand =>
    unfold Errand.deed? at done
    split at done
    · rfl
    · rfl
    · cases done
  · cases done

/-- A call comes to one end only. -/
theorem Standing.Goes.unique {before first second : Session × Standing}
    (left : Goes id thread before first) (right : Goes id thread before second)
    (done : first.2.deed?.isSome) (alsoDone : second.2.deed?.isSome) : first = second := by
  have rests : ∀ {stand next : Session × Standing}, stand.2.deed?.isSome →
      Goes id thread stand next → stand = next := by
    intro stand next done goes
    induction goes with
    | refl => rfl
    | tail _ step inductionHypothesis =>
      rw [← inductionHypothesis, step_ended done] at step
      exact step
  rcases Relation.ReflTransGen.total_of_right_unique
    (fun _ _ _ one other => one.symm.trans other) left right with onward | onward
  · exact rests done onward
  · exact (rests alsoDone onward).symm

/-- What a call comes to that nothing interrupts is what the operation comes to. -/
theorem Standing.Goes.takes {before : Session} {call : PipelineCall} {standing : Standing}
    {deed : Deed} (present : before.resolvers.get? id = some resolver)
    (goes : Goes id thread (before, .goingOn (Errand.ofCall resolver call)) (session, standing))
    (done : standing.deed? = some deed) : deed.Takes id thread before session := by
  have called : Errand.Goes id thread (before, Errand.ofCall resolver call) _ :=
    Errand.goes_call present call
  have whole := called.standing
  have ended : (Standing.goingOn (Errand.ending resolver id thread before call)).deed?.isSome := by
    cases call <;> rfl
  have same := goes.unique whole (by rw [done]; rfl) ended
  obtain ⟨rfl, rfl⟩ := Prod.mk.inj same
  cases call with
  | define name content =>
    cases done
    rfl
  | loadContainer container =>
    cases done
    rfl

/-! ## What holds at any time -/

namespace Teardown

/-- The thread as one that calls, as far as its markers matter. -/
def markings (thread : Thread) (state : Teardown) : Markings :=
  ⟨state.session, [], state.standing?.toList.map fun standing => ⟨thread, 0, standing, false⟩⟩

/-- Whether a thread is marked by the call that it is in. -/
def isMarked (standing? : Option Standing) : Bool :=
  standing?.any Standing.isMarked

/-- The thread goes on as if it were alone, from what was done so far. -/
def InTurn (id : Nat) (thread : Thread) (start : Session) (state : Teardown) : Prop :=
  match state.standing? with
  | none => Replays id thread start state.deeds state.session
  | some standing => ∃ before call resolver, Replays id thread start state.deeds before ∧
      before.resolvers.get? id = some resolver ∧
      Standing.Goes id thread (before, .goingOn (Errand.ofCall resolver call))
        (state.session, standing)

/-- What an unload that waits for a thread makes sure of. The promises say what a look tells, what
is known of the thread at the purge, and when nothing of all this can be told from calls made one
after the other. -/
structure Cautious (id : Nat) (thread : Thread) (start : Session) (state : Teardown) : Prop where
  /-- A look tells whether the call of the thread has called the compiler and is not done with what
  came out. -/
  isBusy_eq : state.session.isBusy id thread = isMarked state.standing?
  /-- When the unload has found the thread unmarked, it stays so until it calls the compiler. -/
  cleared : ∀ outcome, state.unloading = .cleared outcome → outcome.isQuiescent = true ∧
    (∃ standing?, state.seen? = some standing? ∧ isMarked standing? = false) ∧
      (isMarked state.standing? = true → state.hasCalled = true)
  givenUp : ∀ polls, state.unloading = .givenUp polls ∨
      state.unloading = .ended (.ok (.timedOut polls)) →
    (∃ standing?, state.seen? = some standing? ∧ isMarked standing? = true) ∧
      state.purged? = none
  /-- So the thread is marked at the purge only if it has called the compiler since. -/
  purged : ∀ standing? hasCalled, state.purged? = some (standing?, hasCalled) →
    (∃ result, state.unloading = .ended result ∧
        ∀ outcome, result = .ok outcome → outcome.isQuiescent = true) ∧
      (∃ seen?, state.seen? = some seen? ∧ isMarked seen? = false) ∧
        (isMarked standing? = true → hasCalled = true)
  /-- Unless the purge falls into a call, everything is as if it were done one after the other. -/
  inTurn : state.unloading.isSkipped = false → (state.purged?.bind Prod.fst) = none →
    state.InTurn id thread start

/-- What holds while a thread makes calls and an unload waits for it. -/
structure Guarded (id : Nat) (thread : Thread) (start : Session) (state : Teardown) : Prop extends
    Cautious id thread start state where
  kept : (state.markings thread).Kept id

end Teardown

/-- Only how many markers there are matters, for calls that do not count on them. -/
theorem Markings.Kept.relist {before after : Markings} (kept : before.Kept id)
    (session : after.session = before.session)
    (same : ∀ thread, after.live.count thread = before.live.count thread)
    (careless : ∀ caller ∈ after.callers, caller.isUndisturbed = false) : after.Kept id where
  given := session ▸ kept.given
  held := session ▸ kept.held
  counts := by
    obtain ⟨resolver, present, counts⟩ := kept.counts
    exact ⟨resolver, session ▸ present, counts.congr same⟩
  undisturbed caller listed calm := by
    rw [careless caller listed] at calm
    cases calm

/-- A step of the only call there is keeps what holds of its markers. -/
theorem Markings.Kept.stepSingle {standing : Standing}
    (kept : Kept id ⟨session, [], [⟨thread, 0, standing, false⟩]⟩) :
    Kept id ⟨(standing.step id thread session).1, [],
      [⟨thread, 0, (standing.step id thread session).2, false⟩]⟩ := by
  cases standing with
  | goingOn errand =>
    cases calls : errand.request? with
    | none =>
      have uncalled : ¬ errand.request?.isSome := by rw [calls]; simp
      have goes : session.lending [] (errand.step id thread) = errand.step id thread session :=
        lending_nil session (errand.step_keepsHeld id thread session).held
      have there : [(⟨thread, 0, .goingOn errand, false⟩ : Caller)][0]? =
        some ⟨thread, 0, .goingOn errand, false⟩ := rfl
      have gone : Kept id (Markings.move ⟨session, [], [⟨thread, 0, .goingOn errand, false⟩]⟩ 0
          ⟨thread, 0, .goingOn errand, false⟩ (.goingOn (errand.step id thread session).2)
          (errand.step id thread session).1) := kept.goOn there rfl calls goes
      rw [move_single] at gone
      simpa only [Standing.step, uncalled, Bool.false_eq_true, ↓reduceDIte] using gone
    | some request =>
      have called : errand.request?.isSome := by rw [calls]; rfl
      have isRequest : errand.request?.get called = request := by simp [calls]
      have there : [(⟨thread, 0, .goingOn errand, false⟩ : Caller)][0]? =
        some ⟨thread, 0, .goingOn errand, false⟩ := rfl
      have entered := kept.enter there rfl calls
      rw [move_single] at entered
      simpa only [Standing.step, called, ↓reduceDIte, isRequest] using entered
  | compiling errand calls =>
    have there : [(⟨thread, 0, .compiling errand calls, false⟩ : Caller)][0]? =
      some ⟨thread, 0, .compiling errand calls, false⟩ := rfl
    have answered := kept.answer
      (errand.resolver.compiler (errand.request?.get calls) session.files).2 there rfl
    rw [move_single] at answered
    obtain ⟨resolver, present, -⟩ := answered.counts
    exact answered.other ⟨keepsView_of_rest (Nat.le_refl _) rfl rfl, answered.held,
      Option.isSome_iff_exists.mpr ⟨resolver, present⟩⟩
  | unwound => exact kept

/-- An unload leaves what the host holds. -/
theorem unload_keepsHeld (session : Session) (id : Nat) :
    KeepsHeld session (session.unload id).1 := by
  unfold unload
  split
  · exact .refl session
  · next resolver _ =>
    have purged : KeepsHeld session (session.purge resolver.layout).1 :=
      ⟨rfl, Nat.le_refl _, fun _ _ _ present => present⟩
    exact (purged.updateResolver id fun resolver => { resolver with registry := [] }).settle

namespace Teardown

variable {start : Session} {attempts : Nat} {state : Teardown}

/-- A thread is busy just while the call that it is in has marked it. -/
theorem isBusy_eq_isMarked (kept : (state.markings thread).Kept id) :
    state.session.isBusy id thread = isMarked state.standing? := by
  have told := kept.told.isBusy_iff thread
  rw [Bool.eq_iff_iff]
  refine told.trans ?_
  unfold markings Markings.live isMarked
  cases state.standing? with
  | none => simp
  | some standing =>
    cases marked : standing.isMarked <;> simp [marked]

theorem Guarded.start_call (guarded : Guarded id thread start state)
    {resolver : Resolver} (call : PipelineCall) (free : state.standing? = none)
    (present : state.session.resolvers.get? id = some resolver) :
    Guarded id thread start
      { state with standing? := some (.goingOn (Errand.ofCall resolver call)) } := by
  have unmarked : (Standing.goingOn (Errand.ofCall resolver call)).isMarked = false :=
    Errand.isMarked_ofCall resolver call
  have kept : (markings thread { state with
      standing? := some (.goingOn (Errand.ofCall resolver call)) }).Kept id := by
    refine guarded.kept.relist rfl (fun other => ?_) (by simp [markings])
    simp [markings, Markings.live, free, unmarked]
  refine ⟨⟨isBusy_eq_isMarked kept, fun outcome stands => ?_, guarded.givenUp, guarded.purged,
    fun unskipped untorn => ?_⟩, kept⟩
  · obtain ⟨quiet, seen, -⟩ := guarded.cleared outcome stands
    exact ⟨quiet, seen, by simp [isMarked, unmarked]⟩
  · have turn := guarded.inTurn unskipped untorn
    unfold InTurn at turn
    rw [free] at turn
    exact ⟨state.session, call, resolver, turn, present, .refl⟩

/-- A call that has come to something marks nothing. -/
theorem isMarked_of_deed {standing : Standing} {deed : Deed} (done : standing.deed? = some deed) :
    standing.isMarked = false := by
  cases standing with
  | goingOn errand => exact Errand.isMarked_of_deed (Option.isSome_iff_exists.mpr ⟨deed, done⟩)
  | compiling errand calls => cases done
  | unwound => cases done

/-- A step marks the thread only by calling the compiler. -/
theorem isMarked_step {standing : Standing} (uncalled : standing.isCalling = false)
    (marked : (standing.step id thread session).2.isMarked = true) : standing.isMarked = true := by
  cases standing with
  | goingOn errand =>
    have free : ¬ errand.request?.isSome := by
      change errand.request?.isSome = false at uncalled
      simp [uncalled]
    have own : errand.request? = none := by simpa using free
    simp only [Standing.step, free, Bool.false_eq_true, ↓reduceDIte] at marked
    have stepped : (errand.step id thread session).2.isMarked = true := marked
    rw [Errand.isMarked_step own] at stepped
    exact (Bool.and_eq_true_iff.mp stepped).1
  | compiling errand calls => rfl
  | unwound => exact marked

/-- A step of the thread leaves the unload guarded. It marks the thread only by calling the
compiler, and then that is noted. -/
theorem Guarded.goOn (guarded : Guarded id thread start state) :
    Guarded id thread start (state.goOn id thread) := by
  unfold Teardown.goOn
  cases inCall : state.standing? with
  | none => exact guarded
  | some standing =>
    have kept : Markings.Kept id ⟨state.session, [], [⟨thread, 0, standing, false⟩]⟩ := by
      have kept := guarded.kept
      unfold markings at kept
      rwa [inCall] at kept
    dsimp only
    cases done : standing.deed? with
    | some deed =>
      have left : (markings thread { state with
          standing? := none, deeds := state.deeds ++ [deed] }).Kept id := by
        refine kept.relist rfl (fun other => ?_) (by simp [markings])
        simp [markings, Markings.live, isMarked_of_deed done]
      refine ⟨⟨isBusy_eq_isMarked left, fun outcome stands => ?_, guarded.givenUp, guarded.purged,
        fun unskipped untorn => ?_⟩, left⟩
      · obtain ⟨quiet, seen, -⟩ := guarded.cleared outcome stands
        exact ⟨quiet, seen, by simp [isMarked]⟩
      · have turn := guarded.inTurn unskipped untorn
        unfold InTurn at turn
        rw [inCall] at turn
        obtain ⟨before, call, resolver, earlier, present, goes⟩ := turn
        exact .snoc earlier (goes.takes present done)
    | none =>
      have gone : (markings thread { state with
          session := (standing.step id thread state.session).1
          standing? := some (standing.step id thread state.session).2
          hasCalled := state.hasCalled || standing.isCalling }).Kept id := kept.stepSingle
      refine ⟨⟨isBusy_eq_isMarked gone, fun outcome stands => ?_, guarded.givenUp, guarded.purged,
        fun unskipped untorn => ?_⟩, gone⟩
      · obtain ⟨quiet, seen, calls⟩ := guarded.cleared outcome stands
        refine ⟨quiet, seen, fun marked => ?_⟩
        rw [inCall] at calls
        cases calling : standing.isCalling with
        | true => exact Bool.or_true _
        | false =>
          rw [Bool.or_false]
          exact calls (isMarked_step calling marked)
      · have turn := guarded.inTurn unskipped untorn
        unfold InTurn at turn ⊢
        rw [inCall] at turn
        obtain ⟨before, call, resolver, earlier, present, goes⟩ := turn
        exact ⟨before, call, resolver, earlier, present, goes.tail rfl⟩

/-- Until the unload has ended, nothing is purged. -/
theorem Guarded.purged?_eq_none (guarded : Guarded id thread start state)
    (under : ∀ result, state.unloading ≠ .ended result) : state.purged? = none := by
  refine Option.eq_none_iff_forall_ne_some.mpr fun ⟨standing?, hasCalled⟩ purged => ?_
  obtain ⟨⟨result, ended, -⟩, -⟩ := guarded.purged _ _ purged
  exact under result ended

theorem Guarded.look (guarded : Guarded id thread start state) :
    Guarded id thread start (state.look id thread attempts) := by
  have busy := guarded.isBusy_eq
  unfold Teardown.look
  dsimp only
  split
  · next stands =>
    have unpurged := guarded.purged?_eq_none fun result => by simp [stands]
    refine ⟨⟨busy, fun outcome cleared => ?_, fun polls given => ?_,
      fun standing? hasCalled purged => absurd (unpurged.symm.trans purged) (by simp),
      fun _ untorn => ?_⟩, guarded.kept⟩
    · dsimp only at cleared
      split at cleared
      · cases cleared
      · next idle =>
        cases cleared
        rw [busy, Bool.not_eq_true] at idle
        exact ⟨rfl, ⟨_, rfl, idle⟩, fun marked => by rw [idle] at marked; cases marked⟩
    · dsimp only at given
      split at given <;> rcases given with given | given <;> cases given
    · exact guarded.inTurn (by rw [stands]; rfl) untorn
  · next polls stands =>
    have unpurged := guarded.purged?_eq_none fun result => by simp [stands]
    refine ⟨⟨busy, fun outcome cleared => ?_, fun given isGiven => ?_,
      fun standing? hasCalled purged => absurd (unpurged.symm.trans purged) (by simp),
      fun _ untorn => ?_⟩, guarded.kept⟩
    · dsimp only at cleared
      split at cleared
      · next idle =>
        cases cleared
        rw [busy, Bool.not_eq_eq_eq_not, Bool.not_true] at idle
        exact ⟨rfl, ⟨_, rfl, idle⟩, fun marked => by rw [idle] at marked; cases marked⟩
      · split at cleared <;> cases cleared
    · refine ⟨⟨_, rfl, ?_⟩, unpurged⟩
      dsimp only at isGiven
      split at isGiven
      · rcases isGiven with isGiven | isGiven <;> cases isGiven
      · next still =>
        rw [busy] at still
        simpa using still
    · exact guarded.inTurn (by rw [stands]; rfl) untorn
  · exact guarded

theorem Guarded.unload (guarded : Guarded id thread start state) :
    Guarded id thread start (state.unload id) := by
  unfold Teardown.unload
  split
  · next outcome stands =>
    obtain ⟨quiet, seen, calls⟩ := guarded.cleared outcome stands
    have unpurged := guarded.purged?_eq_none fun result => by simp [stands]
    obtain ⟨held, present⟩ := guarded.kept.stays (state.session.unload_keepsHeld id)
    have leaves : LeavesMarks id (state.markings thread).session (state.session.unload id).1 :=
      ⟨unload_keepsView (fun _ _ => rfl) state.session id, held, present⟩
    have quiescent : ∀ answer, (state.session.unload id).2.map (fun _ => outcome) = .ok answer →
        answer.isQuiescent = true := by
      intro answer isAnswer
      cases result : (state.session.unload id).2 with
      | error error => rw [result] at isAnswer; cases isAnswer
      | ok _ =>
        rw [result] at isAnswer
        cases isAnswer
        exact quiet
    have kept : (markings thread { state with session := (state.session.unload id).1 }).Kept id :=
      guarded.kept.other leaves
    refine ⟨⟨isBusy_eq_isMarked kept, nofun, fun polls given => ?_,
      fun standing? hasCalled purged => ?_, fun _ untorn => ?_⟩, kept⟩
    · rcases given with given | given
      · cases given
      · exact nomatch quiescent _ (Unloading.ended.inj given)
    · obtain ⟨rfl, rfl⟩ := Prod.mk.inj (Option.some.inj purged)
      exact ⟨⟨_, rfl, quiescent⟩, seen, calls⟩
    · have free : state.standing? = none := untorn
      have turn := guarded.inTurn (by rw [stands]; rfl) (by rw [unpurged]; rfl)
      unfold InTurn at turn ⊢
      rw [free] at turn
      dsimp only
      rw [free]
      exact .snoc turn rfl
  · next polls stands =>
    obtain ⟨resolver, present, -⟩ := guarded.kept.counts
    have unpurged := guarded.purged?_eq_none fun result => by simp [stands]
    have leaves : LeavesMarks id (state.markings thread).session
        (state.session.log [.stillBusy polls, .unloadSkipped]) :=
      ⟨log_keepsView _ _, guarded.kept.held, Option.isSome_iff_exists.mpr ⟨resolver, present⟩⟩
    have kept : (markings thread { state with
        session := state.session.log [.stillBusy polls, .unloadSkipped] }).Kept id :=
      guarded.kept.other leaves
    exact ⟨⟨isBusy_eq_isMarked kept, nofun, fun _ _ => guarded.givenUp polls (.inl stands),
      fun standing? hasCalled purged => absurd (unpurged.symm.trans purged) (by simp), nofun⟩, kept⟩
  · exact guarded

/-- Every step of the thread or of the unload leaves the unload guarded. -/
theorem Guarded.step {next : Teardown} (guarded : Guarded id thread start state)
    (step : TeardownStep id thread attempts state next) : Guarded id thread start next := by
  cases step with
  | call resolver call free present => exact guarded.start_call call free present
  | goOn => exact guarded.goOn
  | look => exact guarded.look
  | unload => exact guarded.unload

end Teardown

/-- An unload that waits for a thread purges only after a look that found the thread not compiling,
so the thread compiles at the purge only if it has called the compiler since. If the purge does not
fall into a call and the unload has not given up, all calls and the unload come to what they come to
one after the other. Calls and unload go on step by step, in any order; the invariant counts the
thread's markers by the phase that its call is in. -/
theorem cautious_of_run {holder : String} {attempts : Nat} {state : Teardown}
    (held : (holder, .loader (.resolver id)) ∈ session.held)
    (present : session.resolvers.get? id = some resolver) (given : id < session.fresh)
    (idle : resolver.busy = [])
    (run : Relation.ReflTransGen (TeardownStep id thread attempts) (.start session) state) :
    state.Cautious id thread session := by
  suffices guarded : state.Guarded id thread session from guarded.toCautious
  induction run with
  | refl =>
    have none : resolver.busy.Counts [] := by
      rw [idle]
      exact BusySet.counts_nil
    have kept : ((Teardown.start session).markings thread).Kept id :=
      ⟨given, ⟨holder, held⟩, ⟨resolver, present, none⟩, fun _ listed => nomatch listed⟩
    exact
      { isBusy_eq := Teardown.isBusy_eq_isMarked kept
        cleared := by
          intro outcome stands
          cases stands
        givenUp := by rintro polls (stands | stands) <;> cases stands
        purged := by
          intro standing? hasCalled purged
          cases purged
        inTurn := fun _ _ => Replays.nil
        kept }
  | tail _ step inductionHypothesis => exact inductionHypothesis.step step

/-- Any number of steps of the thread are a run. -/
theorem run_goOn {attempts : Nat} (state : Teardown) (steps : Nat) :
    Relation.ReflTransGen (TeardownStep id thread attempts) state
      ((Teardown.goOn id thread)^[steps] state) := by
  induction steps generalizing state with
  | zero => exact .refl
  | succ steps inductionHypothesis =>
    exact .head (.goOn state) (inductionHypothesis (state.goOn id thread))

/-- Whether what was to be done was done. -/
def Deed.isDone : Deed → Bool
  | .defined _ _ result => result.isOk
  | .loaded _ result => result.isOk
  | .unloaded result => result.isOk

/-- A thread defines a symbol with the resolver that copies. -/
def definingState (steps : Nat) : Teardown :=
  (Teardown.goOn 1 "main")^[steps]
    { Teardown.start openedCopier with
      standing? := some (.goingOn (Errand.ofCall copier (.define "m" [7]))) }

theorem run_definingState (steps : Nat) :
    Relation.ReflTransGen (TeardownStep 1 "main" 300) (.start openedCopier) (definingState steps) :=
  .head (.call (.start openedCopier) copier (.define "m" [7]) rfl rfl) (run_goOn _ steps)

/-- An unload finds the thread compiling, looks again when its call has returned, and purges. Both
come to what they come to one after the other. -/
theorem cautious_of_run_drained :
    ∃ state, Relation.ReflTransGen (TeardownStep 1 "main" 300) (.start openedCopier) state ∧
      (state.deeds.map Deed.isDone = [true, true] ∧ state.purged?.isSome = true) ∧
      state.Cautious 1 "main" openedCopier := by
  have run : Relation.ReflTransGen (TeardownStep 1 "main" 300) (.start openedCopier) _ :=
    ((((run_definingState 5).tail (.look _)).trans (run_goOn _ 7)).tail (.look _)).tail (.unload _)
  have held : ("loader", .loader (.resolver 1)) ∈ openedCopier.held := by decide +kernel
  exact ⟨_, run, by decide +kernel, cautious_of_run held rfl (by decide +kernel) rfl run⟩

/-- Whether a call has staged its archive, and has not registered its unit or read it back. -/
def Errand.isWithin : Errand → Bool
  | .define _ _ _ .asked | .define _ _ _ (.ended _) => false
  | .define .. => true
  | .load _ _ (.packaging ..) | .load _ _ (.packaged ..) | .load _ _ (.compiling ..)
  | .load _ _ (.compiled ..) | .load _ _ (.registering ..) => true
  | .load .. => false

/-- Whether a call is there. -/
def Standing.isWithin : Standing → Bool
  | .goingOn errand => errand.isWithin
  | .compiling .. => true
  | .unwound => false

/-- A thread is unmarked as long as it has not called the compiler, so an unload may purge while the
archive of a definition is staged. The definition fails then, and it succeeds without the unload. -/
theorem purge_within_definition :
    ∃ before after, Relation.ReflTransGen (TeardownStep 1 "main" 300) (.start openedCopier) before ∧
      Relation.ReflTransGen (TeardownStep 1 "main" 300) (before.unload 1) after ∧
      before.unloading.isCleared = true ∧ before.standing?.any Standing.isWithin = true ∧
      after.deeds.map Deed.isDone = [true, false] ∧
      (openedCopier.define 1 "main" "m" [7]).2.isOk = true :=
  ⟨(definingState 2).look 1 "main" 300, _, (run_definingState 2).tail (.look _), run_goOn _ 10,
    by decide +kernel⟩

end Session

end Hotload
