import Hotload.Proofs.BusyMarkers
import Hotload.Proofs.Errands

/-!
# Calls that mark their threads

Any number of threads may work with one resolver. Markers of threads are made and dropped by hand, and
calls mark their threads by themselves: a call makes a marker when it calls the compiler and drops it
when the compile is over, whatever came of it, or when the stack unwinds. `MarkStep` is one step of
any of them, so a run is any interleaving. The compiler may work in any way and report anything, and
nothing is assumed of the compile lock.
-/

namespace Hotload

namespace Session

/-! ## Markers and calls -/

/-- Where a call stands. -/
inductive Standing where
  | goingOn (errand : Errand)
  /-- The compiler is at work. -/
  | compiling (errand : Errand) (calls : errand.request?.isSome)
  | unwound

namespace Standing

/-- Whether the thread of the call is marked by it. -/
def isMarked : Standing → Bool
  | .goingOn errand => errand.isMarked
  | .compiling _ _ => true
  | .unwound => false

/-- What the call refers to. -/
def targets : Standing → List Target
  | .goingOn errand | .compiling errand _ => errand.targets
  | .unwound => []

end Standing

/-- A call and its thread. -/
structure Caller where
  thread : Thread
  /-- How many markers the thread had when it made the call. -/
  entry : Nat
  standing : Standing
  /-- Whether no other marker of the thread was made or dropped since. -/
  isUndisturbed : Bool

namespace Caller

/-- Whether a call marks a thread. -/
def marks (thread : Thread) (caller : Caller) : Bool :=
  caller.standing.isMarked && caller.thread == thread

/-- How many markers of a thread a call has made and not dropped yet. -/
def own (caller : Caller) (thread : Thread) : Nat :=
  if caller.marks thread then 1 else 0

/-- A marker of a thread was made or dropped. -/
def disturb (thread : Thread) (caller : Caller) : Caller :=
  if caller.thread = thread then { caller with isUndisturbed := false } else caller

end Caller

/-- A session with markers that were made by hand, each listed by its thread, and with calls, each
known by its place in the list. -/
structure Markings where
  session : Session
  markers : List Thread
  callers : List Caller

namespace Markings

/-- All live markers, by their threads. -/
def live (state : Markings) : List Thread :=
  state.markers ++ (state.callers.filter (·.standing.isMarked)).map (·.thread)

/-- What the other calls refer to. -/
def targets (state : Markings) (number : Nat) : List Target :=
  (state.callers.eraseIdx number).flatMap (·.standing.targets)

/-- A call comes to stand elsewhere. -/
def move (state : Markings) (number : Nat) (caller : Caller) (standing : Standing)
    (session : Session) : Markings where
  session := session
  markers := state.markers
  callers :=
    (if standing.isMarked = caller.standing.isMarked then state.callers
      else state.callers.map (Caller.disturb caller.thread)).set number { caller with standing }

end Markings

/-- Anything may happen that marks nothing, as long as the host holds the resolver. -/
structure LeavesMarks (id : Nat) (before after : Session) : Prop where
  view : KeepsView (·.busy) id before after
  held : ∃ holder, (holder, .loader (.resolver id)) ∈ after.held
  present : (after.resolvers.get? id).isSome

/-- One step of any thread: a marker is made or dropped, a call is made, goes on or is given up as
the stack unwinds, or something else happens. A call that comes to its compiler is marked in the
step that calls it. Markers may be dropped in any order and by any thread. -/
inductive MarkStep (id : Nat) : Markings → Markings → Prop
  | mark (state : Markings) (thread : Thread) :
      MarkStep id state
        ⟨state.session.markBusy id thread, state.markers ++ [thread],
          state.callers.map (Caller.disturb thread)⟩
  /-- A marker may be dropped on any thread, and before those that were made earlier. -/
  | drop (state : Markings) (number : Nat) (thread : Thread)
      (there : state.markers[number]? = some thread) :
      MarkStep id state
        ⟨state.session.unmarkBusy id thread, state.markers.eraseIdx number,
          state.callers.map (Caller.disturb thread)⟩
  | ask (state : Markings) (resolver : Resolver) (thread : Thread) (call : PipelineCall)
      (present : state.session.resolvers.get? id = some resolver) :
      MarkStep id state
        { state with
          callers := state.callers ++
            [⟨thread, resolver.busy.depth thread, .goingOn (Errand.ofCall resolver call), true⟩] }
  /-- The compiler is called. -/
  | enter (state : Markings) (number : Nat) (caller : Caller) (errand : Errand)
      (request : CompileRequest) (there : state.callers[number]? = some caller)
      (stands : caller.standing = .goingOn errand) (calls : errand.request? = some request) :
      MarkStep id state
        (state.move number caller (.compiling errand (calls ▸ rfl))
          ((state.session.markBusy id caller.thread).noteInvocation id caller.thread request))
  /-- The compiler returns, whatever it reports. -/
  | answer (state : Markings) (number : Nat) (caller : Caller) (errand : Errand)
      (calls : errand.request?.isSome) (result : Except CompilerError CompileOutcome)
      (there : state.callers[number]? = some caller)
      (stands : caller.standing = .compiling errand calls) :
      MarkStep id state (state.move number caller (.goingOn (errand.answered result)) state.session)
  | goOn (state : Markings) (number : Nat) (caller : Caller) (errand next : Errand) (after : Session)
      (there : state.callers[number]? = some caller)
      (stands : caller.standing = .goingOn errand) (own : errand.request? = none)
      (goes : state.session.lending (state.targets number) (errand.step id caller.thread) =
        (after, next)) :
      MarkStep id state (state.move number caller (.goingOn next) after)
  /-- The stack unwinds, and the marker of the call is dropped with it. -/
  | unwind (state : Markings) (number : Nat) (caller : Caller)
      (there : state.callers[number]? = some caller) :
      MarkStep id state
        (state.move number caller .unwound
          (if caller.standing.isMarked then state.session.unmarkBusy id caller.thread
            else state.session))
  | other (state : Markings) (after : Session) (leaves : LeavesMarks id state.session after) :
      MarkStep id state { state with session := after }

/-! ## What a step does to the number of live markers -/

namespace Errand

/-- A call to the compiler comes before the mark, and the answer during it. -/
theorem isMarked_answered {errand : Errand} (calls : errand.request?.isSome)
    (result : Except CompilerError CompileOutcome) : (errand.answered result).isMarked = true := by
  unfold request? at calls
  split at calls
  · rfl
  · rfl
  · cases calls

theorem isMarked_of_request {errand : Errand} (calls : errand.request?.isSome) :
    errand.isMarked = false := by
  unfold request? at calls
  split at calls
  · rfl
  · rfl
  · cases calls

theorem isMarked_of_isLeaving {errand : Errand} (leaves : errand.isLeaving = true) :
    errand.isMarked = true := by
  unfold isLeaving at leaves
  split at leaves
  · rfl
  · rfl
  · cases leaves

theorem isMarked_ofCall (resolver : Resolver) (call : PipelineCall) :
    (ofCall resolver call).isMarked = false := by
  cases call <;> rfl

/-- A call that has come to something marks nothing. -/
theorem isMarked_of_deed {errand : Errand} (done : errand.deed?.isSome) :
    errand.isMarked = false := by
  unfold deed? at done
  split at done
  · rfl
  · rfl
  · cases done

/-- Away from the compiler, a step of a definition ends the mark or leaves it. -/
theorem isMarked_advance (resolver : Resolver) (name : String) (content : Bytes)
    {phase : DefinePhase} (own : (define resolver name content phase).request? = none) (id : Nat)
    (thread : Thread) (session : Session) :
    (define resolver name content
        (Definition.advance ⟨thread, name, content, phase⟩ id resolver session).2).isMarked =
      ((define resolver name content phase).isMarked &&
        !(define resolver name content phase).isLeaving) := by
  cases phase with
  | asked =>
    change (define resolver name content (session.stageForBytes resolver name).2).isMarked = false
    unfold stageForBytes
    generalize session.stage resolver.staging name _ false = staged
    rcases staged with ⟨after, error | archive⟩ <;> rfl
  | packaging archive =>
    simp only [Definition.advance, packageContent]
    generalize Packaging.packageBytes archive _ content session.files = packaged
    rcases packaged with ⟨files, error | ⟨⟩⟩ <;> rfl
  | packaged archive =>
    change (define resolver name content (session.stageArtifact resolver archive).2).isMarked = false
    unfold stageArtifact
    generalize session.stage resolver.staging _ _ true = staged
    rcases staged with ⟨after, error | output⟩ <;> rfl
  | tracking archive output => rfl
  | compiling archive output temporary => cases own
  | compiled archive output temporary result =>
    simp only [Definition.advance, judgeArtifact]
    split
    · rfl
    · split <;> rfl
  | registering archive output temporary =>
    simp only [Definition.advance, registerArtifact]
    generalize session.register id _ output (some temporary) = registered
    rcases registered with ⟨after, error | unit⟩ <;> rfl
  | finished archive temporary result => rfl
  | discarding archive result => cases result <;> rfl
  | reading handle => rfl
  | ended result => rfl

/-- Away from the compiler, a step of a load ends the mark or leaves it. -/
theorem isMarked_load (resolver : Resolver) (container : String) {phase : Phase}
    (calls : ∀ output archive, phase ≠ .packaged output archive) (id : Nat) (thread : Thread)
    (session : Session) :
    (load resolver container (session.advance id resolver thread container phase).2).isMarked =
      ((load resolver container phase).isMarked &&
        !(load resolver container phase).isLeaving) := by
  cases phase with
  | asked =>
    change (load resolver container (session.checkSource container).2).isMarked = false
    unfold checkSource
    split <;> rfl
  | readable =>
    change (load resolver container (session.findOutput resolver container).2).isMarked = false
    unfold findOutput
    split <;> rfl
  | entered output =>
    change (load resolver container (session.checkOutput output).2).isMarked = false
    unfold checkOutput
    split <;> rfl
  | staging output =>
    change (load resolver container (session.stageArchive resolver container output).2).isMarked =
      false
    unfold stageArchive
    generalize session.stage resolver.staging container _ false = staged
    rcases staged with ⟨after, error | archive⟩ <;> rfl
  | packaging output archive =>
    change (load resolver container
      (session.packageArchive container output archive).2).isMarked = false
    unfold packageArchive
    split <;> rfl
  | packaged output archive => exact absurd rfl (calls output archive)
  | compiled output archive result =>
    change (load resolver container
      (session.judge id resolver output archive result).2).isMarked = true
    unfold judge
    split
    · rfl
    · split <;> rfl
  | finished output archive result => cases result <;> rfl
  | reusing | registering | clearing | discarding | waiting | compiling | leaving | ended => rfl

/-- Away from the compiler, a step of a call ends the mark or leaves it. -/
theorem isMarked_step {errand : Errand} (own : errand.request? = none) (id : Nat) (thread : Thread)
    (session : Session) :
    (errand.step id thread session).2.isMarked = (errand.isMarked && !errand.isLeaving) := by
  cases errand with
  | define resolver name content phase =>
    exact isMarked_advance resolver name content own id thread (session.lent (phase.kept ++ []))
  | load resolver container phase =>
    change (load resolver container
      (session.goOnLoading id resolver thread container phase).2).isMarked = _
    rcases goOnLoading_cases session id resolver thread container phase with
      ⟨output, archive, rfl⟩ | ⟨output, rfl⟩ | ⟨result, rfl⟩ | ⟨calls, goes⟩
    · cases own
    · rfl
    · rfl
    · rw [goes]
      exact isMarked_load resolver container calls id thread (session.lent phase.kept)

end Errand

namespace Markings

variable {id number : Nat} {state : Markings} {caller : Caller}

/-- The live markers of a thread are those made by hand and those of its calls. -/
theorem count_live (state : Markings) (thread : Thread) :
    state.live.count thread =
      state.markers.count thread + state.callers.countP (Caller.marks thread) := by
  unfold live
  rw [List.count_append]
  congr 1
  rw [List.count_eq_countP, List.countP_map, List.countP_filter]
  refine List.countP_congr fun caller _ => ?_
  simp [Caller.marks, and_comm]

theorem marks_disturb (disturbing thread : Thread) (caller : Caller) :
    (caller.disturb disturbing).marks thread = caller.marks thread := by
  unfold Caller.disturb
  split <;> rfl

/-- As many calls mark a thread when some have been disturbed. -/
theorem countP_disturb (callers : List Caller) (disturbing thread : Thread) :
    (callers.map (Caller.disturb disturbing)).countP (Caller.marks thread) =
      callers.countP (Caller.marks thread) := by
  rw [List.countP_map]
  exact List.countP_congr fun caller _ => by simp [marks_disturb]

/-- Where one call takes the place of another, its marker does. -/
theorem countP_set {callers : List Caller} (inside : number < callers.length) (next : Caller)
    (thread : Thread) :
    (callers.set number next).countP (Caller.marks thread) + callers[number].own thread =
      callers.countP (Caller.marks thread) + next.own thread := by
  have listed : callers[number].marks thread = true →
      0 < callers.countP (Caller.marks thread) := fun marked =>
    List.countP_pos_iff.mpr ⟨_, List.getElem_mem inside, marked⟩
  rw [List.countP_set inside]
  unfold Caller.own
  by_cases marked : callers[number].marks thread = true
  · have := listed marked
    simp only [marked, ↓reduceIte]
    omega
  · simp [marked]

/-- A call that moves changes the live markers by its own. -/
theorem count_live_move (there : state.callers[number]? = some caller) (standing : Standing)
    (session : Session) (thread : Thread) :
    (state.move number caller standing session).live.count thread + caller.own thread =
      state.live.count thread + { caller with standing }.own thread := by
  obtain ⟨inside, isThere⟩ := List.getElem?_eq_some_iff.mp there
  simp only [count_live, move]
  split
  · have replaced := countP_set inside { caller with standing } thread
    rw [isThere] at replaced
    omega
  · have within : number < (state.callers.map (Caller.disturb caller.thread)).length := by
      rwa [List.length_map]
    have replaced := countP_set within { caller with standing } thread
    have same : (caller.disturb caller.thread).own thread = caller.own thread := by
      unfold Caller.own
      rw [marks_disturb]
    rw [List.getElem_map, isThere, same, countP_disturb] at replaced
    omega

/-- What holds of markers and calls at any time. -/
structure Kept (id : Nat) (state : Markings) : Prop where
  given : id < state.session.fresh
  held : ∃ holder, (holder, .loader (.resolver id)) ∈ state.session.held
  counts : ∃ resolver, state.session.resolvers.get? id = some resolver ∧
    resolver.busy.Counts state.live
  undisturbed : ∀ caller ∈ state.callers, caller.isUndisturbed = true →
    state.live.count caller.thread = caller.entry + caller.own caller.thread

namespace Kept

variable (kept : Kept id state)

include kept

/-- The host holds the resolver after any step that leaves what it holds. -/
theorem next {after : Markings} {change : BusySet → BusySet}
    (changes : ChangesView (·.busy) change id state.session after.session)
    (held : ∃ holder, (holder, .loader (.resolver id)) ∈ after.session.held)
    (present : (after.session.resolvers.get? id).isSome)
    (counted : ∀ busy : BusySet, busy.Counts state.live → (change busy).Counts after.live)
    (undisturbed : ∀ caller ∈ after.callers, caller.isUndisturbed = true →
      after.live.count caller.thread = caller.entry + caller.own caller.thread) : Kept id after := by
  obtain ⟨later, there⟩ := Option.isSome_iff_exists.mp present
  obtain ⟨earlier, early, shows⟩ := changes.resolver kept.given later there
  obtain ⟨resolver, stood, counts⟩ := kept.counts
  obtain rfl : earlier = resolver := Option.some.inj (early.symm.trans stood)
  refine ⟨Nat.lt_of_lt_of_le kept.given changes.fresh, held, ⟨later, there, ?_⟩, undisturbed⟩
  have shown : later.busy = change earlier.busy := shows
  rw [shown]
  exact counted _ counts

/-- A step of the session's own leaves the resolver with the host. -/
theorem stays {after : Session} (holds : KeepsHeld state.session after) :
    (∃ holder, (holder, .loader (.resolver id)) ∈ after.held) ∧
      (after.resolvers.get? id).isSome := by
  obtain ⟨holder, held⟩ := kept.held
  obtain ⟨resolver, present, -⟩ := kept.counts
  refine ⟨⟨holder, holds.held ▸ held⟩, holds.stays holder id held ?_⟩
  rw [present]
  rfl

/-- Where only markers of one thread change, calls of other threads are as they were. -/
theorem disturbed {thread : Thread} {live : List Thread}
    (others : ∀ other, other ≠ thread → live.count other = state.live.count other)
    {later : Caller} (listed : later ∈ state.callers.map (Caller.disturb thread))
    (calm : later.isUndisturbed = true) :
    live.count later.thread = later.entry + later.own later.thread := by
  obtain ⟨earlier, was, rfl⟩ := List.mem_map.mp listed
  unfold Caller.disturb at calm ⊢
  split at calm
  · cases calm
  · next apart =>
    rw [if_neg apart, others earlier.thread apart]
    exact kept.undisturbed earlier was calm

theorem mark (thread : Thread) :
    Kept id ⟨state.session.markBusy id thread, state.markers ++ [thread],
      state.callers.map (Caller.disturb thread)⟩ := by
  have added (other : Thread) :
      (Markings.live ⟨state.session.markBusy id thread, state.markers ++ [thread],
          state.callers.map (Caller.disturb thread)⟩).count other =
        (thread :: state.live).count other := by
    simp only [count_live, countP_disturb, List.count_cons, List.count_append, List.count_nil]
    omega
  obtain ⟨held, present⟩ := kept.stays
    (state.session.markBusy_quiet id thread).toKeepsLinks.keepsHeld
  refine kept.next (state.session.markBusy_marks id thread) held present
    (fun busy counts => (counts.enter thread).congr added) fun caller listed calm => ?_
  refine kept.disturbed (fun other apart => ?_) listed calm
  rw [added, List.count_cons_of_ne (Ne.symm apart)]

theorem drop {thread : Thread} (there : state.markers[number]? = some thread) :
    Kept id ⟨state.session.unmarkBusy id thread, state.markers.eraseIdx number,
      state.callers.map (Caller.disturb thread)⟩ := by
  obtain ⟨inside, isThere⟩ := List.getElem?_eq_some_iff.mp there
  have listed : thread ∈ state.markers := isThere ▸ List.getElem_mem inside
  have alive : thread ∈ state.live := List.mem_append_left _ listed
  have dropped (other : Thread) :
      (Markings.live ⟨state.session.unmarkBusy id thread, state.markers.eraseIdx number,
          state.callers.map (Caller.disturb thread)⟩).count other =
        (state.live.erase thread).count other := by
    have positive := List.count_pos_iff.mpr listed
    have removed : (state.markers.eraseIdx number).count other =
        (state.markers.erase thread).count other := by
      have same := (List.getElem_cons_eraseIdx_perm inside).count_eq other
      have erased := (List.perm_cons_erase listed).count_eq other
      rw [isThere, List.count_cons] at same
      rw [List.count_cons] at erased
      omega
    rw [count_live, countP_disturb, removed, List.count_erase, List.count_erase, count_live]
    by_cases here : thread == other
    · obtain rfl : thread = other := by simpa using here
      simp only [here, ↓reduceIte]
      omega
    · simp [here]
  obtain ⟨held, present⟩ := kept.stays
    (state.session.unmarkBusy_quiet id thread).toKeepsLinks.keepsHeld
  refine kept.next (state.session.unmarkBusy_marks id thread) held present
    (fun busy counts => (counts.leave alive).congr dropped) fun caller listed calm => ?_
  refine kept.disturbed (fun other apart => ?_) listed calm
  rw [dropped, List.count_erase_of_ne apart]

theorem ask {resolver : Resolver} (present : state.session.resolvers.get? id = some resolver)
    (thread : Thread) (call : PipelineCall) :
    Kept id { state with
      callers := state.callers ++
        [⟨thread, resolver.busy.depth thread, .goingOn (Errand.ofCall resolver call), true⟩] } := by
  have unmarked : Standing.isMarked (.goingOn (Errand.ofCall resolver call)) = false :=
    Errand.isMarked_ofCall resolver call
  have same (other : Thread) : (Markings.live { state with
      callers := state.callers ++ [⟨thread, resolver.busy.depth thread,
        .goingOn (Errand.ofCall resolver call), true⟩] }).count other = state.live.count other := by
    simp [count_live, Caller.marks, unmarked]
  obtain ⟨standing, stood, counts⟩ := kept.counts
  obtain rfl : resolver = standing := Option.some.inj (present.symm.trans stood)
  refine ⟨kept.given, kept.held, ⟨resolver, stood, counts.congr same⟩, fun caller listed calm => ?_⟩
  rw [same]
  rcases List.mem_append.mp listed with before | added
  · exact kept.undisturbed caller before calm
  · obtain rfl := List.mem_singleton.mp added
    simp [Caller.own, Caller.marks, unmarked, counts.depth_eq]

/-- A call that moves does so for its own thread, and others of the thread notice if its marker comes
or goes. -/
theorem move {standing : Standing} {after : Session} {change : BusySet → BusySet}
    (there : state.callers[number]? = some caller)
    (changes : ChangesView (·.busy) change id state.session after)
    (held : ∃ holder, (holder, .loader (.resolver id)) ∈ after.held)
    (present : (after.resolvers.get? id).isSome)
    (counted : ∀ busy : BusySet, busy.Counts state.live →
      (change busy).Counts (state.move number caller standing after).live) :
    Kept id (state.move number caller standing after) := by
  have moved := count_live_move there standing after
  refine kept.next changes held present counted fun later listed calm => ?_
  unfold Markings.move at listed
  rcases List.mem_or_eq_of_mem_set listed with other | rfl
  · split at other
    · next same =>
      have own : { caller with standing }.own later.thread = caller.own later.thread := by
        simp [Caller.own, Caller.marks, same]
      have before := kept.undisturbed later other calm
      have := moved later.thread
      omega
    · refine kept.disturbed (fun other apart => ?_) other calm
      have own (one : Caller) (thread : one.thread = caller.thread) : one.own other = 0 := by
        simp [Caller.own, Caller.marks, thread, Ne.symm apart]
      have := moved other
      have none := own caller rfl
      have later := own { caller with standing } rfl
      omega
  · have before := kept.undisturbed caller (List.mem_of_getElem? there) calm
    have := moved caller.thread
    dsimp only
    omega

/-- A call whose thread is marked by it no more and no less leaves the marks. -/
theorem move_same {standing : Standing} {after : Session}
    (there : state.callers[number]? = some caller)
    (same : standing.isMarked = caller.standing.isMarked)
    (keeps : KeepsView (·.busy) id state.session after)
    (held : ∃ holder, (holder, .loader (.resolver id)) ∈ after.held)
    (present : (after.resolvers.get? id).isSome) :
    Kept id (state.move number caller standing after) := by
  refine kept.move there keeps held present fun busy counts => counts.congr fun thread => ?_
  have own : { caller with standing }.own thread = caller.own thread := by
    simp [Caller.own, Caller.marks, same]
  have := count_live_move there standing after thread
  omega

/-- A call that ends its mark takes one marker of its thread away. -/
theorem move_leave {standing : Standing} {after : Session}
    (there : state.callers[number]? = some caller) (marked : caller.standing.isMarked = true)
    (unmarked : standing.isMarked = false)
    (changes : ChangesView (·.busy) (·.leave caller.thread) id state.session after)
    (held : ∃ holder, (holder, .loader (.resolver id)) ∈ after.held)
    (present : (after.resolvers.get? id).isSome) :
    Kept id (state.move number caller standing after) := by
  have alive : caller.thread ∈ state.live :=
    List.mem_append_right _ (List.mem_map.mpr ⟨caller,
      List.mem_filter.mpr ⟨List.mem_of_getElem? there, marked⟩, rfl⟩)
  refine kept.move there changes held present fun busy counts =>
    (counts.leave alive).congr fun thread => ?_
  have moved := count_live_move there standing after thread
  have own : { caller with standing }.own thread = 0 := by
    simp [Caller.own, Caller.marks, unmarked]
  have was : caller.own thread = if caller.thread == thread then 1 else 0 := by
    simp [Caller.own, Caller.marks, marked]
  rw [own, was] at moved
  rw [List.count_erase]
  omega

theorem enter {errand : Errand} {request : CompileRequest}
    (there : state.callers[number]? = some caller) (stands : caller.standing = .goingOn errand)
    (calls : errand.request? = some request) :
    Kept id (state.move number caller (.compiling errand (calls ▸ rfl))
      ((state.session.markBusy id caller.thread).noteInvocation id caller.thread request)) := by
  have unmarked : caller.standing.isMarked = false := by
    rw [stands]
    exact Errand.isMarked_of_request (by rw [calls]; rfl)
  obtain ⟨held, present⟩ := kept.stays
    (state.session.markBusy_quiet id caller.thread).toKeepsLinks.keepsHeld
  have noted : KeepsView (·.busy) id (state.session.markBusy id caller.thread)
      ((state.session.markBusy id caller.thread).noteInvocation id caller.thread request) :=
    keepsView_of_rest (Nat.le_refl _) rfl rfl
  refine kept.move there ((state.session.markBusy_marks id caller.thread).trans noted) held present
    fun busy counts => (counts.enter caller.thread).congr fun thread => ?_
  have moved := count_live_move there (.compiling errand (calls ▸ rfl))
    ((state.session.markBusy id caller.thread).noteInvocation id caller.thread request) thread
  have was : caller.own thread = 0 := by simp [Caller.own, Caller.marks, unmarked]
  have own : { caller with standing := .compiling errand (calls ▸ rfl) }.own thread =
      if caller.thread == thread then 1 else 0 := by
    simp [Caller.own, Caller.marks, Standing.isMarked]
  rw [own, was] at moved
  rw [List.count_cons]
  exact moved

theorem answer {errand : Errand} {calls : errand.request?.isSome}
    (result : Except CompilerError CompileOutcome) (there : state.callers[number]? = some caller)
    (stands : caller.standing = .compiling errand calls) :
    Kept id (state.move number caller (.goingOn (errand.answered result)) state.session) := by
  obtain ⟨held, present⟩ := kept.stays (.refl state.session)
  refine kept.move_same there ?_ (.refl _) held present
  rw [stands]
  exact Errand.isMarked_answered calls result

theorem goOn {errand next : Errand} {after : Session}
    (there : state.callers[number]? = some caller) (stands : caller.standing = .goingOn errand)
    (own : errand.request? = none)
    (goes : state.session.lending (state.targets number) (errand.step id caller.thread) =
      (after, next)) : Kept id (state.move number caller (.goingOn next) after) := by
  have changes := ChangesView.lending (state.targets number)
    (errand.step_marks id caller.thread) state.session
  obtain ⟨held, present⟩ := kept.stays (lending_keepsHeld state.session (state.targets number)
    (errand.step_keepsHeld id caller.thread))
  have marks : next.isMarked = (errand.isMarked && !errand.isLeaving) := by
    have stepped := Errand.isMarked_step own id caller.thread
      (state.session.lent (state.targets number))
    have isNext : (errand.step id caller.thread
        (state.session.lent (state.targets number))).2 = next := congrArg Prod.snd goes
    rwa [isNext] at stepped
  rw [goes] at changes held present
  have uncalled : errand.request?.isSome = false := by rw [own]; rfl
  have wasMarked : caller.standing.isMarked = errand.isMarked := by rw [stands]; rfl
  cases leaves : errand.isLeaving with
  | true =>
    refine kept.move_leave there (wasMarked.trans (Errand.isMarked_of_isLeaving leaves)) ?_
      (changes.congr fun busy => ?_) held present
    · change next.isMarked = false
      simp [marks, leaves]
    · simp [Errand.marking, uncalled, leaves]
  | false =>
    refine kept.move_same there ?_ (changes.congr fun busy => ?_) held present
    · change next.isMarked = _
      simp [marks, leaves, wasMarked]
    · simp [Errand.marking, uncalled, leaves]

theorem unwind (there : state.callers[number]? = some caller) :
    Kept id (state.move number caller .unwound
      (if caller.standing.isMarked then state.session.unmarkBusy id caller.thread
        else state.session)) := by
  split
  · next marked =>
    obtain ⟨held, present⟩ := kept.stays
      (state.session.unmarkBusy_quiet id caller.thread).toKeepsLinks.keepsHeld
    exact kept.move_leave there marked rfl (state.session.unmarkBusy_marks id caller.thread) held
      present
  · next unmarked =>
    obtain ⟨held, present⟩ := kept.stays (.refl state.session)
    exact kept.move_same there (Bool.eq_false_of_not_eq_true unmarked).symm (.refl _) held present

theorem other {after : Session} (leaves : LeavesMarks id state.session after) :
    Kept id { state with session := after } :=
  kept.next leaves.view leaves.held leaves.present (fun _ counts => counts) kept.undisturbed

/-- Every step keeps what holds of markers and calls: it changes how many live markers a thread has as
it changes how deep the thread is in the busy set. -/
theorem step {next : Markings} (step : MarkStep id state next) : Kept id next := by
  cases step with
  | mark thread => exact kept.mark thread
  | drop number thread there => exact kept.drop there
  | ask resolver thread call present => exact kept.ask present thread call
  | enter number caller errand request there stands calls => exact kept.enter there stands calls
  | answer number caller errand calls result there stands => exact kept.answer result there stands
  | goOn number caller errand next after there stands own goes =>
    exact kept.goOn there stands own goes
  | unwind number caller there => exact kept.unwind there
  | other after leaves => exact kept.other leaves

end Kept

/-! ## Every run -/

/-- How many markers a thread has by the busy set of a resolver. -/
def depth (state : Markings) (id : Nat) (thread : Thread) : Nat :=
  ((state.session.resolvers.get? id).map fun resolver => resolver.busy.depth thread).getD 0

/-- The live markers but for those of one call. -/
def others (state : Markings) (number : Nat) : List Thread :=
  live { state with callers := state.callers.eraseIdx number }

/-- The busy set of a resolver tells what markers are live. -/
structure Told (id : Nat) (state : Markings) : Prop where
  depth_eq : ∀ thread, state.depth id thread = state.live.count thread
  /-- There are entries for the threads with live markers, and no others. -/
  entries : ∃ resolver, state.session.resolvers.get? id = some resolver ∧
    (∀ thread depth, (thread, depth) ∈ resolver.busy ↔
      thread ∈ state.live ∧ depth = state.live.count thread) ∧
    resolver.busy.count = state.live.dedup.length
  isBusy_iff : ∀ thread, state.session.isBusy id thread = true ↔ thread ∈ state.live
  /-- Whoever drops a marker finds it counted. -/
  counted : ∀ thread ∈ state.live, 0 < state.depth id thread
  /-- A call adds one marker to those that its thread has anyway, while the compiler is at work. -/
  compiling : ∀ number caller errand calls, state.callers[number]? = some caller →
    caller.standing = .compiling errand calls →
    state.depth id caller.thread = (state.others number).count caller.thread + 1 ∧
      (caller.isUndisturbed = true → state.depth id caller.thread = caller.entry + 1)
  /-- When it returns, with whatever result, it has taken its marker away. -/
  returned : ∀ number caller errand, state.callers[number]? = some caller →
    caller.standing = .goingOn errand → errand.deed?.isSome →
    state.depth id caller.thread = (state.others number).count caller.thread ∧
      (caller.isUndisturbed = true → state.depth id caller.thread = caller.entry)

/-- A call has its own markers, and all others are others. -/
theorem count_others (there : state.callers[number]? = some caller) (thread : Thread) :
    state.live.count thread = (state.others number).count thread + caller.own thread := by
  obtain ⟨inside, isThere⟩ := List.getElem?_eq_some_iff.mp there
  have split := (List.getElem_cons_eraseIdx_perm inside).countP_eq (Caller.marks thread)
  rw [isThere, List.countP_cons] at split
  unfold others Caller.own
  rw [count_live, count_live, ← split]
  dsimp only
  omega

theorem Kept.told (kept : Kept id state) : Told id state := by
  obtain ⟨resolver, present, counts⟩ := kept.counts
  have depthIs (thread : Thread) : state.depth id thread = state.live.count thread := by
    unfold depth
    rw [present]
    exact counts.depth_eq thread
  refine ⟨depthIs, ⟨resolver, present, counts.mem_iff, counts.count_eq⟩, fun thread => ?_,
    fun thread alive => ?_, fun number caller errand calls there stands => ?_,
    fun number caller errand there stands done => ?_⟩
  · unfold isBusy
    rw [present]
    exact counts.isBusy_iff thread
  · rw [depthIs]
    exact List.count_pos_iff.mpr alive
  · have own : caller.own caller.thread = 1 := by
      simp [Caller.own, Caller.marks, stands, Standing.isMarked]
    refine ⟨by rw [depthIs, count_others there, own], fun calm => ?_⟩
    rw [depthIs, kept.undisturbed caller (List.mem_of_getElem? there) calm, own]
  · have own : caller.own caller.thread = 0 := by
      simp [Caller.own, Caller.marks, stands, Standing.isMarked, Errand.isMarked_of_deed done]
    refine ⟨by rw [depthIs, count_others there, own]; rfl, fun calm => ?_⟩
    rw [depthIs, kept.undisturbed caller (List.mem_of_getElem? there) calm, own]
    rfl

end Markings

variable {id : Nat} {holder : String} {session : Session} {resolver : Resolver}

/-! ## Calls that are alone -/

/-- The only call there is goes from one place to another. -/
theorem move_single (session after : Session) (markers : List Thread) (caller : Caller)
    (standing : Standing) :
    Markings.move ⟨session, markers, [caller]⟩ 0 caller standing after =
      ⟨after, markers, [{ caller with standing }]⟩ := by
  unfold Markings.move
  split <;> rfl

/-- While it goes on by itself, its steps are among those of any number of threads. -/
theorem run_of_goes {thread : Thread} {errand : Errand} {stand : Session × Errand}
    (held : (holder, .loader (.resolver id)) ∈ session.held)
    (present : (session.resolvers.get? id).isSome)
    (goes : Errand.Goes id thread (session, errand) stand) (markers : List Thread) (entry : Nat) :
    Relation.ReflTransGen (MarkStep id)
      ⟨session, markers, [⟨thread, entry, .goingOn errand, true⟩]⟩
      ⟨stand.1, markers, [⟨thread, entry, .goingOn stand.2, true⟩]⟩ := by
  suffices along : Relation.ReflTransGen (MarkStep id)
      ⟨session, markers, [⟨thread, entry, .goingOn errand, true⟩]⟩
      ⟨stand.1, markers, [⟨thread, entry, .goingOn stand.2, true⟩]⟩ ∧
        (holder, .loader (.resolver id)) ∈ stand.1.held ∧
          (stand.1.resolvers.get? id).isSome from along.1
  induction goes with
  | refl => exact ⟨.refl, held, present⟩
  | @tail stand next _ step inductionHypothesis =>
    obtain ⟨run, held, present⟩ := inductionHypothesis
    obtain ⟨session, errand⟩ := stand
    subst step
    have holds := errand.step_keepsHeld id thread session
    refine ⟨run.trans ?_, holds.held ▸ held, holds.stays holder id held present⟩
    have marked : ((session.markBusy id thread).resolvers.get? id).isSome :=
      (session.markBusy_quiet id thread).toKeepsLinks.keepsHeld.stays holder id held present
    cases calls : errand.request? with
    | none =>
      have goes : session.lending [] (errand.step id thread) = errand.step id thread session :=
        lending_nil session holds.held
      have taken : MarkStep id _ _ := .goOn
        ⟨session, markers, [⟨thread, entry, .goingOn errand, true⟩]⟩ 0
        ⟨thread, entry, .goingOn errand, true⟩ errand _ _ rfl rfl calls goes
      rw [move_single] at taken
      exact .single taken
    | some request =>
      have entered : MarkStep id _ _ := .enter
        ⟨session, markers, [⟨thread, entry, .goingOn errand, true⟩]⟩ 0
        ⟨thread, entry, .goingOn errand, true⟩ errand request rfl rfl calls
      rw [move_single] at entered
      have worked : MarkStep id _ _ := .other
        ⟨(session.markBusy id thread).noteInvocation id thread request, markers,
          [⟨thread, entry, .compiling errand (calls ▸ rfl), true⟩]⟩
        { (session.markBusy id thread).noteInvocation id thread request with
          files := (errand.resolver.compiler request session.files).1 }
        ⟨keepsView_of_rest (Nat.le_refl _) rfl rfl, ⟨holder, held⟩, marked⟩
      have returned : MarkStep id _ _ := .answer
        ⟨{ (session.markBusy id thread).noteInvocation id thread request with
            files := (errand.resolver.compiler request session.files).1 }, markers,
          [⟨thread, entry, .compiling errand (calls ▸ rfl), true⟩]⟩ 0
        ⟨thread, entry, .compiling errand (calls ▸ rfl), true⟩ errand (calls ▸ rfl)
        (errand.resolver.compiler request session.files).2 rfl rfl
      rw [move_single] at returned
      rw [Errand.step_calling calls id thread session]
      exact .head entered (.head worked (.single returned))

/-- What an operation does with a resolver is a run of one call. -/
theorem run_of_call (held : (holder, .loader (.resolver id)) ∈ session.held)
    (present : session.resolvers.get? id = some resolver) (thread : Thread) (call : PipelineCall)
    (markers : List Thread) :
    Relation.ReflTransGen (MarkStep id) ⟨session, markers, []⟩
      ⟨(session.call id thread call).1, markers,
        [⟨thread, resolver.busy.depth thread,
          .goingOn (Errand.ending resolver id thread session call), true⟩]⟩ :=
  .head (.ask ⟨session, markers, []⟩ resolver thread call present)
    (run_of_goes held (Option.isSome_iff_exists.mpr ⟨resolver, present⟩)
      (Errand.goes_call present call) markers (resolver.busy.depth thread))

/-- Away from compiles and marks, operations of the host leave the marks as well. -/
theorem perform_leavesMarks (session : Session) {operation : Operation}
    (unmarking : operation.marks = false)
    (held : (holder, .loader (.resolver id)) ∈ (session.perform operation).held)
    (present : ((session.perform operation).resolvers.get? id).isSome) :
    LeavesMarks id session (session.perform operation) where
  view := perform_keepsView (fun _ _ => rfl) (fun _ _ => rfl) (fun _ _ => rfl) (fun _ _ _ => rfl)
    session unmarking
  held := ⟨holder, held⟩
  present := present

/-- Whatever any number of threads do, the busy set of a resolver tells which markers are live, and
every call marks its thread once while it compiles. The resolver is held and nobody is busy in the
beginning. Every step changes the number of a thread's live markers and its depth in the set alike,
so that the two agree throughout; how deep a call's own thread was when it began is kept with the
call. -/
theorem markers_told_of_run {state : Markings}
    (held : (holder, .loader (.resolver id)) ∈ session.held)
    (present : session.resolvers.get? id = some resolver) (given : id < session.fresh)
    (idle : resolver.busy = [])
    (run : Relation.ReflTransGen (MarkStep id) ⟨session, [], []⟩ state) : state.Told id := by
  suffices kept : state.Kept id from kept.told
  induction run with
  | refl =>
    have none : resolver.busy.Counts [] := by
      rw [idle]
      exact BusySet.counts_nil
    exact ⟨given, ⟨holder, held⟩, ⟨resolver, present, none⟩, fun _ listed => nomatch listed⟩
  | tail _ step inductionHypothesis => exact inductionHypothesis.step step

/-- A resolver was opened that copies what it compiles. -/
def openedCopier : Session :=
  besideNothing.perform (.openResolver "loader" {} copying .archive none)

/-- A thread is marked by hand and then defines a symbol, so that it is marked twice while it
compiles and once when the call has returned. A marker of another thread, made before, is dropped
meanwhile. -/
theorem markers_told_of_run_nested :
    ∃ state caller, Relation.ReflTransGen (MarkStep 1) ⟨openedCopier, [], []⟩ state ∧
      state.callers = [caller] ∧ caller.thread = "main" ∧ caller.entry = 1 ∧
      caller.isUndisturbed = true ∧ state.live = ["main"] ∧ state.Told 1 := by
  have marks : Relation.ReflTransGen (MarkStep 1) ⟨openedCopier, [], []⟩
      ⟨(openedCopier.markBusy 1 "side").markBusy 1 "main", ["side", "main"], []⟩ :=
    .head (.mark _ "side") (.single (.mark _ "main"))
  obtain ⟨resolver, there⟩ : ∃ resolver,
      ((openedCopier.markBusy 1 "side").markBusy 1 "main").resolvers.get? 1 = some resolver :=
    ⟨_, rfl⟩
  have entry : resolver.busy.depth "main" = 1 := by
    have deep : (((openedCopier.markBusy 1 "side").markBusy 1 "main").resolvers.get? 1).map
      (fun resolver => resolver.busy.depth "main") = some 1 := by decide +kernel
    rw [there] at deep
    exact Option.some.inj deep
  have marked : ("loader", .loader (.resolver 1)) ∈
      ((openedCopier.markBusy 1 "side").markBusy 1 "main").held := by decide +kernel
  have held : ("loader", .loader (.resolver 1)) ∈ openedCopier.held := by decide +kernel
  have calls := run_of_call marked there "main" (.define "m" [7]) ["side", "main"]
  have unmarked : (Errand.ending resolver 1 "main"
      ((openedCopier.markBusy 1 "side").markBusy 1 "main") (.define "m" [7])).isMarked = false := rfl
  generalize Errand.ending resolver 1 "main" _ (.define "m" [7]) = ending at calls unmarked
  have run := (marks.trans calls).tail (.drop _ 0 "side" rfl)
  refine ⟨_, _, run, rfl, rfl, entry, rfl, ?_,
    markers_told_of_run held rfl (by decide +kernel) rfl run⟩
  simp [Markings.live, Caller.disturb, Standing.isMarked, unmarked]

end Session

end Hotload
