import Hotload.Proofs.Definitions
import Hotload.Proofs.FailureFlag

/-!
# Calls of one thread

A thread that defines symbols and loads containers makes one call after the other. An errand is a
call under way: the steps of a definition or of a load, with the compile lock to itself. It is marked
while its resolver counts it as busy, which is from the call of the compiler to the end of the
compile; staging and packaging come before that, and so does the look for an artifact that can be
used again, and clearing up and reading back come after it.

An errand that nothing interrupts comes to what its call comes to.
-/

namespace Hotload

namespace Session

/-- What a load refers to while it takes its next step, and after it: the unit it has made, when it
lets go of what the compile has left over. -/
def Phase.kept : Phase → List Target
  | .finished _ _ (.ok unit) => [.loader (.unit unit)]
  | _ => []

/-- What a load refers to. -/
def Phase.targets : Phase → List Target
  | .finished _ _ (.ok unit) | .discarding _ (.ok unit) | .leaving (.ok unit) | .ended (.ok unit) =>
    [.loader (.unit unit)]
  | _ => []

/-- The next step of a load that has the lock to itself. The compiler does all its work at once. -/
def goOnLoading (session : Session) (id : Nat) (resolver : Resolver) (thread : Thread)
    (container : String) : Phase → Session × Phase
  | .waiting output => (session, .entered output)
  | .packaged output archive =>
    let (after, result) :=
      (session.markBusy id thread).invoke id resolver thread ⟨archive, output, true⟩
    (after, .compiled output archive result)
  | .leaving result => (session, .ended result)
  | phase => session.lending phase.kept fun session =>
      session.advance id resolver thread container phase

/-- A call under way: what is asked for, how far that is, and the resolver as the call found it. -/
inductive Errand where
  | define (resolver : Resolver) (name : String) (content : Bytes) (phase : DefinePhase)
  | load (resolver : Resolver) (container : String) (phase : Phase)

/-- What was done with a resolver, and what came of it. -/
inductive Deed where
  | defined (name : String) (content : Bytes) (result : Except LoadError Symbol)
  | loaded (container : String) (result : Except LoadError Nat)
  /-- The cache was purged. -/
  | unloaded (result : Except FileError Unit)

namespace Errand

/-- A call at its beginning. -/
def ofCall (resolver : Resolver) : PipelineCall → Errand
  | .define name content => .define resolver name content .asked
  | .loadContainer container => .load resolver container .asked

/-- The resolver as the call found it. -/
def resolver : Errand → Resolver
  | .define resolver .. | .load resolver .. => resolver

/-- The next step of a call. -/
def step (id : Nat) (thread : Thread) (session : Session) : Errand → Session × Errand
  | .define resolver name content phase =>
    let (after, next) := Definition.goOn ⟨thread, name, content, phase⟩ id resolver [] session
    (after, .define resolver name content next)
  | .load resolver container phase =>
    let (after, next) := session.goOnLoading id resolver thread container phase
    (after, .load resolver container next)

/-- What a call refers to. -/
def targets : Errand → List Target
  | .define _ _ _ phase => phase.targets
  | .load _ _ phase => phase.targets

/-- What a call has come to, if it has ended. -/
def deed? : Errand → Option Deed
  | .define _ name content (.ended result) => some (.defined name content result)
  | .load _ container (.ended result) => some (.loaded container result)
  | _ => none

/-- What the compiler is asked for, if the next step calls it. -/
def request? : Errand → Option CompileRequest
  | .define _ _ _ (.compiling archive output _) | .load _ _ (.packaged output archive) =>
    some ⟨archive, output, true⟩
  | _ => none

/-- The compiler has answered. -/
def answered (result : Except CompilerError CompileOutcome) : Errand → Errand
  | .define resolver name content (.compiling archive output temporary) =>
    .define resolver name content (.compiled archive output temporary result)
  | .load resolver container (.packaged output archive) =>
    .load resolver container (.compiled output archive result)
  | errand => errand

/-- Whether the next step ends the compile, and the mark is taken away. -/
def isLeaving : Errand → Bool
  | .define _ _ _ (.finished ..) | .load _ _ (.finished ..) => true
  | _ => false

/-- Whether the compiler was called, and the compile is not over. -/
def isMarked : Errand → Bool
  | .define _ _ _ (.compiled ..) | .define _ _ _ (.registering ..) | .define _ _ _ (.finished ..)
  | .load _ _ (.compiled ..) | .load _ _ (.registering ..) | .load _ _ (.finished ..) => true
  | _ => false

/-- How the next step changes the marks of threads. -/
def marking (errand : Errand) (thread : Thread) (busy : BusySet) : BusySet :=
  if errand.request?.isSome then busy.enter thread
  else if errand.isLeaving then busy.leave thread
  else busy

end Errand

/-! ## What a step leaves as it was -/

variable {id : Nat} {resolver : Resolver} {thread : Thread} {container : String}
variable {session before after : Session}

/-- A step of a load leaves what the host holds. -/
theorem advance_keepsHeld (session : Session) (id : Nat) (resolver : Resolver) (thread : Thread)
    (container : String) (phase : Phase) :
    KeepsHeld session (session.advance id resolver thread container phase).1 := by
  cases phase with
  | asked =>
    change KeepsHeld session (session.checkSource container).1
    unfold checkSource
    split <;> exact .refl session
  | readable =>
    change KeepsHeld session (session.findOutput resolver container).1
    unfold findOutput
    split <;> exact .refl session
  | entered output =>
    change KeepsHeld session (session.checkOutput output).1
    unfold checkOutput
    split <;> exact .refl session
  | reusing output => exact session.register_keepsHeld id (Path.unitName output) output none
  | staging output =>
    have staged := (session.stage_keepsLinks resolver.staging container
      (some resolver.staging.archiveExtension) false).keepsHeld
    change KeepsHeld session (session.stageArchive resolver container output).1
    unfold stageArchive
    generalize session.stage resolver.staging container _ false = result at staged ⊢
    rcases result with ⟨later, error | archive⟩ <;> exact staged
  | packaging output archive =>
    change KeepsHeld session (session.packageArchive container output archive).1
    unfold packageArchive
    split <;> exact ⟨rfl, Nat.le_refl _, fun _ _ _ present => present⟩
  | compiled output archive result =>
    change KeepsHeld session (session.judge id resolver output archive result).1
    unfold judge
    split
    · exact .refl session
    · split
      · exact (session.rejectEmpty_keepsLinks id resolver archive output none).keepsHeld
      · exact .refl session
  | registering output archive =>
    exact session.register_keepsHeld id (Path.unitName output) output none
  | finished output archive result =>
    cases result <;> exact (session.unmarkBusy_quiet id thread).toKeepsLinks.keepsHeld.settle
  | clearing output archive error => exact (session.discard_keepsLinks output).keepsHeld
  | discarding archive result => exact (session.discard_keepsLinks archive).keepsHeld
  | waiting | packaged | compiling | leaving | ended => exact .refl session

/-- A load calls the compiler, enters or leaves the lock, or takes a step of its own. -/
theorem goOnLoading_cases (session : Session) (id : Nat) (resolver : Resolver) (thread : Thread)
    (container : String) (phase : Phase) :
    (∃ output archive, phase = .packaged output archive) ∨ (∃ output, phase = .waiting output) ∨
      (∃ result, phase = .leaving result) ∨
      (∀ output archive, phase ≠ .packaged output archive) ∧
        session.goOnLoading id resolver thread container phase =
          session.lending phase.kept fun session =>
            session.advance id resolver thread container phase := by
  cases phase with
  | packaged output archive => exact .inl ⟨output, archive, rfl⟩
  | waiting output => exact .inr (.inl ⟨output, rfl⟩)
  | leaving result => exact .inr (.inr (.inl ⟨result, rfl⟩))
  | _ => exact .inr (.inr (.inr ⟨nofun, rfl⟩))

/-- A step of a call keeps what the host holds, as a step of a definition or a load does. -/
theorem Errand.step_keepsHeld (errand : Errand) (id : Nat) (thread : Thread) (session : Session) :
    KeepsHeld session (errand.step id thread session).1 := by
  cases errand with
  | define resolver name content phase =>
    exact lending_keepsHeld session _ (Definition.advance_keepsHeld _ id resolver)
  | load resolver container phase =>
    change KeepsHeld session (session.goOnLoading id resolver thread container phase).1
    rcases goOnLoading_cases session id resolver thread container phase with
      ⟨output, archive, rfl⟩ | ⟨output, rfl⟩ | ⟨result, rfl⟩ | ⟨_, goes⟩
    · exact ((session.markBusy_quiet id thread).toKeepsLinks.trans
        ((session.markBusy id thread).invoke_keepsLinks id resolver thread _)).keepsHeld
    · exact .refl session
    · exact .refl session
    · rw [goes]
      exact lending_keepsHeld session _ fun lent =>
        advance_keepsHeld lent id resolver thread container phase

/-! ## How a step marks its thread -/

/-- Lending changes no view. -/
theorem ChangesView.lending {Shown : Type} {view : Resolver → Shown} {change : Shown → Shown}
    (targets : List Target) {Result : Type} {action : Session → Session × Result}
    (changes : ∀ session, ChangesView view change id session (action session).1)
    (session : Session) : ChangesView view change id session (session.lending targets action).1 :=
  have lent := changes (session.lent targets)
  ⟨lent.fresh, lent.tracks, lent.resolver⟩

/-- A mark shows among the busy threads of its resolver. -/
theorem markBusy_marks (session : Session) (id : Nat) (thread : Thread) :
    ChangesView (·.busy) (·.enter thread) id session (session.markBusy id thread) := by
  have marked : ChangesView (·.busy) (fun busy => if id = id then busy.enter thread else busy) id
      session (session.markBusy id thread) := updateResolver_changesView session id fun _ => rfl
  exact marked.congr fun _ => if_pos rfl

/-- The end of a mark shows among the busy threads of its resolver. -/
theorem unmarkBusy_marks (session : Session) (id : Nat) (thread : Thread) :
    ChangesView (·.busy) (·.leave thread) id session (session.unmarkBusy id thread) := by
  have unmarked : ChangesView (·.busy) (fun busy => if id = id then busy.leave thread else busy) id
      session (session.unmarkBusy id thread) := updateResolver_changesView session id fun _ => rfl
  exact unmarked.congr fun _ => if_pos rfl

/-- The compiler itself marks nothing. -/
theorem invoke_marks (session : Session) (id other : Nat) (resolver : Resolver) (thread : Thread)
    (request : CompileRequest) :
    KeepsView (·.busy) id session (session.invoke other resolver thread request).1 :=
  keepsView_of_rest (Nat.le_refl _) rfl rfl

/-- What follows a compile that left nothing behind marks nothing. -/
theorem rejectEmpty_marks (session : Session) (id other : Nat) (resolver : Resolver)
    (archive output : String) (temporary : Option Nat) :
    KeepsView (·.busy) id session
      (session.rejectEmpty other resolver archive output temporary) := by
  have rejected : ChangesView (·.busy) (fun busy => if id = other then busy else busy) id session
      (session.rejectEmpty other resolver archive output temporary) :=
    rejectEmpty_changesView session other resolver archive output temporary fun _ => rfl
  exact rejected.congr fun _ => ite_self _

/-- A registration marks nothing either. -/
theorem register_marks (session : Session) (id other : Nat) (name artifact : String)
    (temporary : Option Nat) :
    KeepsView (·.busy) id session (session.register other name artifact temporary).1 :=
  register_keepsView (fun _ _ => rfl) session other name artifact temporary

/-- A step of a definition marks its thread for the compiler, and ends the mark with the compile. -/
theorem define_marks (resolver : Resolver) (name : String) (content : Bytes) (phase : DefinePhase)
    (id : Nat) (thread : Thread) (session : Session) :
    ChangesView (·.busy) ((Errand.define resolver name content phase).marking thread) id session
      (Definition.advance ⟨thread, name, content, phase⟩ id resolver session).1 := by
  cases phase with
  | asked =>
    change KeepsView (·.busy) id session (session.stageForBytes resolver name).1
    have staged : KeepsView (·.busy) id session (session.stage resolver.staging name
      (some resolver.staging.archiveExtension) false).1 := stage_keepsView ..
    unfold stageForBytes
    generalize session.stage resolver.staging name _ false = result at staged ⊢
    rcases result with ⟨after, error | archive⟩ <;> exact staged
  | packaging archive =>
    change KeepsView (·.busy) id session (session.packageContent name content archive).1
    unfold packageContent
    split <;> exact keepsView_of_rest (Nat.le_refl _) rfl rfl
  | packaged archive =>
    change KeepsView (·.busy) id session (session.stageArtifact resolver archive).1
    have staged : KeepsView (·.busy) id session (session.stage resolver.staging
      ("unit-" ++ archive) resolver.staging.artifactExtension true).1 := stage_keepsView ..
    unfold stageArtifact
    generalize session.stage resolver.staging _ _ true = result at staged ⊢
    rcases result with ⟨after, error | output⟩ <;> exact staged
  | tracking archive output =>
    exact track_keepsView session resolver.reaper output
  | compiling archive output temporary =>
    exact (session.markBusy_marks id thread).trans (invoke_marks _ id id resolver thread _)
  | compiled archive output temporary result =>
    change KeepsView (·.busy) id session
      (session.judgeArtifact id resolver archive output temporary result).1
    unfold judgeArtifact
    split
    · exact .refl session
    · split
      · exact session.rejectEmpty_marks id id resolver archive output (some temporary)
      · exact .refl session
  | registering archive output temporary =>
    change KeepsView (·.busy) id session (session.registerArtifact id archive output temporary).1
    have registered := session.register_marks id id (Path.unitName output) output (some temporary)
    unfold registerArtifact
    split <;> next heard => rw [heard] at registered; exact registered
  | finished archive temporary result => exact (session.unmarkBusy_marks id thread).settle
  | discarding archive result =>
    change KeepsView (·.busy) id session (session.discardArchive archive result).1
    cases result <;> exact discard_keepsView session archive
  | reading handle =>
    have kept : KeepsView (·.busy) id session (session.readBack handle.unit name).1 :=
      readBack_keepsView (fun _ _ => rfl) session handle.unit name
    exact kept
  | ended result => exact KeepsView.refl session

/-- A load ends the mark with the compile as well. -/
theorem advance_marks (resolver : Resolver) (container : String) {phase : Phase}
    (calls : ∀ output archive, phase ≠ .packaged output archive) (id : Nat) (thread : Thread)
    (session : Session) :
    ChangesView (·.busy) ((Errand.load resolver container phase).marking thread) id session
      (session.advance id resolver thread container phase).1 := by
  cases phase with
  | asked =>
    change KeepsView (·.busy) id session (session.checkSource container).1
    unfold checkSource
    split <;> exact .refl session
  | readable =>
    change KeepsView (·.busy) id session (session.findOutput resolver container).1
    unfold findOutput
    split <;> exact .refl session
  | entered output =>
    change KeepsView (·.busy) id session (session.checkOutput output).1
    unfold checkOutput
    split <;> exact .refl session
  | reusing output => exact session.register_marks id id (Path.unitName output) output none
  | staging output =>
    change KeepsView (·.busy) id session (session.stageArchive resolver container output).1
    have staged : KeepsView (·.busy) id session (session.stage resolver.staging container
      (some resolver.staging.archiveExtension) false).1 := stage_keepsView ..
    unfold stageArchive
    generalize session.stage resolver.staging container _ false = result at staged ⊢
    rcases result with ⟨later, error | archive⟩ <;> exact staged
  | packaging output archive =>
    change KeepsView (·.busy) id session (session.packageArchive container output archive).1
    unfold packageArchive
    split <;> exact keepsView_of_rest (Nat.le_refl _) rfl rfl
  | packaged output archive => exact absurd rfl (calls output archive)
  | compiled output archive result =>
    change KeepsView (·.busy) id session (session.judge id resolver output archive result).1
    unfold judge
    split
    · exact .refl session
    · split
      · exact session.rejectEmpty_marks id id resolver archive output none
      · exact .refl session
  | registering output archive =>
    exact session.register_marks id id (Path.unitName output) output none
  | finished output archive result =>
    cases result <;> exact (session.unmarkBusy_marks id thread).settle
  | clearing output archive error => exact discard_keepsView session output
  | discarding archive result => exact discard_keepsView session archive
  | waiting | compiling | leaving | ended => exact KeepsView.refl session

/-- A step of a call marks its thread for the compiler, and ends the mark with the compile. -/
theorem Errand.step_marks (errand : Errand) (id : Nat) (thread : Thread) (session : Session) :
    ChangesView (·.busy) (errand.marking thread) id session (errand.step id thread session).1 := by
  cases errand with
  | define resolver name content phase =>
    exact ChangesView.lending _ (define_marks resolver name content phase id thread) session
  | load resolver container phase =>
    change ChangesView (·.busy) ((Errand.load resolver container phase).marking thread) id session
      (session.goOnLoading id resolver thread container phase).1
    rcases goOnLoading_cases session id resolver thread container phase with
      ⟨output, archive, rfl⟩ | ⟨output, rfl⟩ | ⟨result, rfl⟩ | ⟨calls, goes⟩
    · exact (session.markBusy_marks id thread).trans (invoke_marks _ id id resolver thread _)
    · exact KeepsView.refl session
    · exact KeepsView.refl session
    · rw [goes]
      exact ChangesView.lending _ (advance_marks resolver container calls id thread) session

/-! ## Calls that nothing interrupts -/

namespace Errand

/-- Where nobody interferes, a call of the compiler is a mark, the compiler's work and its answer. -/
theorem step_calling {errand : Errand} {request : CompileRequest}
    (calls : errand.request? = some request) (id : Nat) (thread : Thread) (session : Session) :
    errand.step id thread session =
      ({ (session.markBusy id thread).noteInvocation id thread request with
          files := (errand.resolver.compiler request session.files).1 },
        errand.answered (errand.resolver.compiler request session.files).2) := by
  unfold request? at calls
  split at calls
  · next resolver name content archive output temporary =>
    cases calls
    have called : Definition.goOn ⟨thread, name, content, .compiling archive output temporary⟩ id
        resolver [] session =
          session.callCompiler id resolver thread archive output temporary :=
      lending_nil session rfl
    exact congrArg (fun taken : Session × DefinePhase =>
      (taken.1, define resolver name content taken.2)) called
  · cases calls
    rfl
  · cases calls

/-- A call goes on by its own steps only. -/
def Goes (id : Nat) (thread : Thread) : Session × Errand → Session × Errand → Prop :=
  Relation.ReflTransGen fun stand next => stand.2.step id thread stand.1 = next

/-- A call at its end, as it comes to it from a session. -/
def ending (resolver : Resolver) (id : Nat) (thread : Thread) (session : Session) :
    PipelineCall → Errand
  | .define name content =>
    .define resolver name content (.ended (session.define id thread name content).2)
  | .loadContainer container =>
    .load resolver container (.ended (session.loadContainer id thread container).2)

/-- A load that nothing interrupts takes these steps. -/
theorem uninterrupted :
    Uninterrupted id resolver thread container fun session phase after next =>
      Goes id thread (session, load resolver container phase)
        (after, load resolver container next) where
  refl _ _ := .refl
  trans left right := Relation.ReflTransGen.trans left right
  advance {session phase after next} own goes := by
    have free : phase.kept = [] := by
      cases phase with
      | finished output archive result =>
        cases result with
        | error error => rfl
        | ok unit => cases own
      | _ => rfl
    rcases goOnLoading_cases session id resolver thread container phase with
      ⟨output, archive, rfl⟩ | ⟨output, rfl⟩ | ⟨result, rfl⟩ | ⟨_, step⟩
    · cases own
    · cases own
    · cases own
    · rw [free, lending_nil session
        (advance_keepsHeld session id resolver thread container phase).held, goes] at step
      refine .single ?_
      change ((session.goOnLoading id resolver thread container phase).1,
        load resolver container (session.goOnLoading id resolver thread container phase).2) = _
      rw [step]
  enter session output := .single rfl
  call session output archive := .single rfl
  finish session output archive unit := by
    have tidy : Tidy (session.settle.unmarkBusy id thread) :=
      (tidy_settle session).same (session.settle.unmarkBusy_quiet id thread).toKeepsLinks rfl
    have lent : Tidy ((session.settle.unmarkBusy id thread).lent [.loader (.unit unit)]) :=
      tidy.grow (fun target referred => mem_targets_lent.mpr (.inl referred))
        (fun _ present => .inl present) (fun _ present => present) fun _ present => .inl present
    refine .single ?_
    change ((session.settle.goOnLoading id resolver thread container
        (.finished output archive (.ok unit))).1,
      load resolver container (session.settle.goOnLoading id resolver thread container
        (.finished output archive (.ok unit))).2) = _
    have goes : (session.settle.lent [.loader (.unit unit)]).advance id resolver thread container
        (.finished output archive (.ok unit)) =
          ((session.settle.unmarkBusy id thread).lent [.loader (.unit unit)],
            .discarding archive (.ok unit)) :=
      congrArg (·, _) lent.settle_eq
    unfold goOnLoading lending
    dsimp only [Phase.kept]
    rw [goes, tidy.settle_eq]
    rfl
  leave session result := .single rfl

/-- A call that nothing interrupts comes to what the operation comes to. -/
theorem goes_call {session : Session} (present : session.resolvers.get? id = some resolver)
    (call : PipelineCall) :
    Goes id thread (session, ofCall resolver call)
      ((session.call id thread call).1, ending resolver id thread session call) := by
  cases call with
  | define name content =>
    have alone : DefinesAlone id resolver thread name content session .asked _ _ :=
      define_alone present
    exact Relation.ReflTransGen.lift
      (fun stand : Session × DefinePhase => (stand.1, define resolver name content stand.2))
      (fun stand next goes => by subst goes; rfl) _ _ alone
  | loadContainer container => exact uninterrupted.loadContainer present

end Errand

end Session

end Hotload
