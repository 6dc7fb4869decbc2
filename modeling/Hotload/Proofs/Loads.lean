import Hotload.Proofs.Outputs
import Hotload.Proofs.Wiring
import Hotload.Session.Resolver

/-!
# Loads under way

Any number of threads may load containers with one resolver at once. A load looks for its container
and computes where the compiled artifact goes; then it waits for the lock, and everything that
follows happens under it: it looks for the artifact, and registers it if it is there, or else stages
an archive, packages the container, calls the compiler, registers what came out and clears up.
`Phase` says where a load stands, `advance` takes it one step further, and `LoadStep` takes any load
a step further, so a run is any interleaving. While a load waits for the compiler it is in a phase of
its own; the compiler may write its output or remove it as often as it likes, and report anything. A
load that nothing interrupts does what `loadContainer` does.
-/

namespace Hotload

open Files (Through)

namespace Session

/-- Where a load of a container stands, from the check of its source to its result. Each phase holds
what the load has found out by then. -/
inductive Phase where
  | asked
  /-- The container is a file. -/
  | readable
  /-- It is known where the artifact goes, and the lock is waited for. -/
  | waiting (output : String)
  /-- The lock is held. -/
  | entered (output : String)
  /-- The artifact is there. -/
  | reusing (output : String)
  /-- The artifact is missing or empty. -/
  | staging (output : String)
  | packaging (output archive : String)
  /-- The compiler can be called. -/
  | packaged (output archive : String)
  /-- The compiler is at work. -/
  | compiling (output archive : String)
  | compiled (output archive : String) (result : Except CompilerError CompileOutcome)
  /-- The compiler left something behind. -/
  | registering (output archive : String)
  | finished (output archive : String) (result : Except LoadError Nat)
  /-- The compile failed, and what it left has to go. -/
  | clearing (output archive : String) (error : LoadError)
  /-- The archive has to go. -/
  | discarding (archive : String) (result : Except LoadError Nat)
  /-- The lock can be released. -/
  | leaving (result : Except LoadError Nat)
  | ended (result : Except LoadError Nat)

namespace Phase

/-- Whether the lock is held. -/
def isInside : Phase → Bool
  | .asked | .readable | .waiting _ | .ended _ => false
  | _ => true

/-- Whether the artifact was not looked for yet. -/
def isYoung : Phase → Bool
  | .asked | .readable | .waiting _ | .entered _ => true
  | _ => false

end Phase

/-- The container has to be a file. -/
def checkSource (session : Session) (container : String) : Session × Phase :=
  if session.files.isFile container then (session, .readable)
  else (session, .ended (.error (.sourceUnavailable container)))

/-- The artifact goes where path and time of the container say. -/
def findOutput (session : Session) (resolver : Resolver) (container : String) : Session × Phase :=
  match resolver.staging.durablePath container session.files with
  | .error _ => (session, .ended (.error (.sourceUnavailable container)))
  | .ok output => (session, .waiting output)

/-- The artifact is used again unless it is missing or empty. -/
def checkOutput (session : Session) (output : String) : Session × Phase :=
  if session.outputSize output = 0 then (session, .staging output) else (session, .reusing output)

/-- The artifact that is there is registered. -/
def reuse (session : Session) (id : Nat) (output : String) : Session × Phase :=
  let (after, result) := session.register id (Path.unitName output) output none
  (after, .leaving result)

/-- A path for the archive is staged. -/
def stageArchive (session : Session) (resolver : Resolver) (container output : String) :
    Session × Phase :=
  match session.stage resolver.staging container (some resolver.staging.archiveExtension) false with
  | (after, .error error) => (after, .leaving (.error error))
  | (after, .ok archive) => (after, .packaging output archive)

/-- The container is copied into the archive. -/
def packageArchive (session : Session) (container output archive : String) : Session × Phase :=
  match Packaging.packageContainer archive container session.files with
  | (files, .error error) =>
    ({ session with files }, .discarding archive (.error (.packaging container error)))
  | (files, .ok _) => ({ session with files }, .packaged output archive)

/-- What the compiler reported and left behind is judged. -/
def judge (session : Session) (id : Nat) (resolver : Resolver) (output archive : String) :
    Except CompilerError CompileOutcome → Session × Phase
  | .error error => (session, .finished output archive (.error (.compiler error)))
  | .ok _ =>
    if session.outputSize output = 0 then
      (session.rejectEmpty id resolver archive output none,
        .finished output archive (.error (.emptyOutput archive)))
    else (session, .registering output archive)

/-- The new artifact is registered. -/
def registerNew (session : Session) (id : Nat) (output archive : String) : Session × Phase :=
  let (after, result) := session.register id (Path.unitName output) output none
  (after, .finished output archive result)

/-- The thread is busy no longer. -/
def finishCompile (session : Session) (id : Nat) (thread : Thread) (output archive : String) :
    Except LoadError Nat → Session × Phase
  | .ok unit => ((session.unmarkBusy id thread).settle, .discarding archive (.ok unit))
  | .error error => ((session.unmarkBusy id thread).settle, .clearing output archive error)

/-- The step that follows a phase, where that is a step of the load alone. Entering and leaving the
lock and calling the compiler are not. -/
def advance (session : Session) (id : Nat) (resolver : Resolver) (thread : Thread)
    (container : String) : Phase → Session × Phase
  | .asked => session.checkSource container
  | .readable => session.findOutput resolver container
  | .entered output => session.checkOutput output
  | .reusing output => session.reuse id output
  | .staging output => session.stageArchive resolver container output
  | .packaging output archive => session.packageArchive container output archive
  | .compiled output archive result => session.judge id resolver output archive result
  | .registering output archive => session.registerNew id output archive
  | .finished output archive result => session.finishCompile id thread output archive result
  | .clearing output archive error => (session.discard output, .discarding archive (.error error))
  | .discarding archive result => (session.discard archive, .leaving result)
  | other => (session, other)

/-- What is noted of loads. Each is known by its number. -/
inductive LoadEvent where
  /-- A load looked for its artifact, which had the given length. -/
  | looked (load : Nat) (output : String) (length : Nat)
  /-- A load called the compiler, while its artifact had the given length. -/
  | invoked (load : Nat) (output : String) (length : Nat)
  /-- A load registered its artifact with the given content as a unit, after a compile or without
  one. -/
  | bound (load : Nat) (output : String) (artifact : Except FileError Bytes) (unit : Nat)
    (isCompiled : Bool)

/-- The load that an event is about. -/
def LoadEvent.load : LoadEvent → Nat
  | .looked load _ _ => load
  | .invoked load _ _ => load
  | .bound load _ _ _ _ => load

/-- What is noted when a load goes on from one phase to the next. -/
def noteAdvance (session : Session) (load : Nat) : Phase → Phase → List LoadEvent
  | .entered output, _ => [.looked load output (session.outputSize output)]
  | .reusing output, .leaving (.ok unit) =>
    [.bound load output (session.files.read output) unit false]
  | .registering output _, .finished _ _ (.ok unit) =>
    [.bound load output (session.files.read output) unit true]
  | _, _ => []

/-- A load. -/
structure Load where
  thread : Thread
  container : String
  phase : Phase

/-- A session with loads, each known by its place in the list, and what was noted of them. -/
structure Loads where
  session : Session
  isLocked : Bool
  loads : List Load
  events : List LoadEvent

/-- One step of any load with a resolver: another load is asked for, or one of those under way goes
on. A step is what others may see between two steps. So the lock is entered only while it is free,
and the compiler is called, works through its output any number of times, and returns in steps of
their own. -/
inductive LoadStep (id : Nat) (resolver : Resolver) : Loads → Loads → Prop
  /-- Another load begins. -/
  | ask (state : Loads) (thread : Thread) (container : String) :
      LoadStep id resolver state
        { state with loads := state.loads ++ [⟨thread, container, .asked⟩] }
  | enter (state : Loads) (load : Nat) (thread : Thread) (container output : String)
      (there : state.loads[load]? = some ⟨thread, container, .waiting output⟩)
      (open_ : state.isLocked = false) :
      LoadStep id resolver state
        { state with
          isLocked := true
          loads := state.loads.set load ⟨thread, container, .entered output⟩ }
  | advance (state : Loads) (load : Nat) (thread : Thread) (container : String) (phase : Phase)
      (there : state.loads[load]? = some ⟨thread, container, phase⟩) :
      LoadStep id resolver state
        { state with
          session := (state.session.advance id resolver thread container phase).1
          loads := state.loads.set load
            ⟨thread, container, (state.session.advance id resolver thread container phase).2⟩
          events := state.events ++ state.session.noteAdvance load phase
            (state.session.advance id resolver thread container phase).2 }
  | invoke (state : Loads) (load : Nat) (thread : Thread) (container output archive : String)
      (there : state.loads[load]? = some ⟨thread, container, .packaged output archive⟩) :
      LoadStep id resolver state
        { state with
          session := (state.session.markBusy id thread).noteInvocation id thread
            ⟨archive, output, true⟩
          loads := state.loads.set load ⟨thread, container, .compiling output archive⟩
          events := state.events ++ [.invoked load output (state.session.outputSize output)] }
  /-- The compiler does some of its work at its output. -/
  | work (state : Loads) (load : Nat) (thread : Thread) (container output archive : String)
      (files : Files)
      (there : state.loads[load]? = some ⟨thread, container, .compiling output archive⟩)
      (through : Through output state.session.files files) :
      LoadStep id resolver state { state with session := { state.session with files } }
  /-- The compiler comes back with anything to report, whatever it has done. -/
  | return_ (state : Loads) (load : Nat) (thread : Thread) (container output archive : String)
      (result : Except CompilerError CompileOutcome)
      (there : state.loads[load]? = some ⟨thread, container, .compiling output archive⟩) :
      LoadStep id resolver state
        { state with
          loads := state.loads.set load ⟨thread, container, .compiled output archive result⟩ }
  | leave (state : Loads) (load : Nat) (thread : Thread) (container : String)
      (result : Except LoadError Nat)
      (there : state.loads[load]? = some ⟨thread, container, .leaving result⟩) :
      LoadStep id resolver state
        { state with
          isLocked := false
          loads := state.loads.set load ⟨thread, container, .ended result⟩ }

/-! ## A load that nothing interrupts -/

variable {id : Nat} {resolver : Resolver} {thread : Thread} {container : String}

namespace Phase

/-- Whether no step of the load alone follows: it waits for the lock or for the compiler, or it goes
or has gone. -/
def isIdle : Phase → Bool
  | .waiting _ | .packaged _ _ | .compiling _ _ | .leaving _ | .ended _ => true
  | _ => false

/-- The phases that one step of a load alone leads to. What the step did to the session is not told
here; `advance` tells it. -/
inductive Precedes : Phase → Phase → Prop
  | stay (phase : Phase) (idle : phase.isIdle = true) : Precedes phase phase
  | missing (error : LoadError) : Precedes .asked (.ended (.error error))
  | found : Precedes .asked .readable
  | homeless (error : LoadError) : Precedes .readable (.ended (.error error))
  | placed (output : String) : Precedes .readable (.waiting output)
  | empty (output : String) : Precedes (.entered output) (.staging output)
  | filled (output : String) : Precedes (.entered output) (.reusing output)
  | reused (output : String) (result : Except LoadError Nat) :
      Precedes (.reusing output) (.leaving result)
  | unstaged (output : String) (error : LoadError) :
      Precedes (.staging output) (.leaving (.error error))
  | staged (output archive : String) : Precedes (.staging output) (.packaging output archive)
  | unpackaged (output archive : String) (error : LoadError) :
      Precedes (.packaging output archive) (.discarding archive (.error error))
  | packaged (output archive : String) :
      Precedes (.packaging output archive) (.packaged output archive)
  | rejected (output archive : String) (result : Except CompilerError CompileOutcome)
      (error : LoadError) :
      Precedes (.compiled output archive result) (.finished output archive (.error error))
  | accepted (output archive : String) (result : Except CompilerError CompileOutcome) :
      Precedes (.compiled output archive result) (.registering output archive)
  | registered (output archive : String) (result : Except LoadError Nat) :
      Precedes (.registering output archive) (.finished output archive result)
  | kept (output archive : String) (unit : Nat) :
      Precedes (.finished output archive (.ok unit)) (.discarding archive (.ok unit))
  | failed (output archive : String) (error : LoadError) :
      Precedes (.finished output archive (.error error)) (.clearing output archive error)
  | cleared (output archive : String) (error : LoadError) :
      Precedes (.clearing output archive error) (.discarding archive (.error error))
  | discarded (archive : String) (result : Except LoadError Nat) :
      Precedes (.discarding archive result) (.leaving result)

end Phase

/-- A step of a load alone leads to one of these. -/
theorem advance_precedes (session : Session) (thread : Thread) (container : String)
    (phase : Phase) : phase.Precedes (session.advance id resolver thread container phase).2 := by
  cases phase with
  | asked =>
    change Phase.Precedes _ (session.checkSource container).2
    unfold checkSource
    split
    · exact .found
    · exact .missing _
  | readable =>
    change Phase.Precedes _ (session.findOutput resolver container).2
    unfold findOutput
    split
    · exact .homeless _
    · exact .placed _
  | entered output =>
    change Phase.Precedes _ (session.checkOutput output).2
    unfold checkOutput
    split
    · exact .empty output
    · exact .filled output
  | reusing output => exact .reused output _
  | staging output =>
    change Phase.Precedes _ (session.stageArchive resolver container output).2
    unfold stageArchive
    split
    · exact .unstaged output _
    · exact .staged output _
  | packaging output archive =>
    change Phase.Precedes _ (session.packageArchive container output archive).2
    unfold packageArchive
    split
    · exact .unpackaged output archive _
    · exact .packaged output archive
  | compiled output archive result =>
    change Phase.Precedes _ (session.judge id resolver output archive result).2
    unfold judge
    split
    · exact .rejected output archive _ _
    · split
      · exact .rejected output archive _ _
      · exact .accepted output archive _
  | registering output archive => exact .registered output archive _
  | finished output archive result =>
    cases result with
    | error error => exact .failed output archive error
    | ok unit => exact .kept output archive unit
  | clearing output archive error => exact .cleared output archive error
  | discarding archive result => exact .discarded archive result
  | waiting | packaged | compiling | leaving | ended => exact .stay _ rfl

/-- The steps of a load alone do not pass the lock. -/
theorem advance_isInside (session : Session) (thread : Thread) (container : String)
    (phase : Phase) :
    (session.advance id resolver thread container phase).2.isInside = phase.isInside := by
  have precedes : phase.Precedes (session.advance id resolver thread container phase).2 :=
    session.advance_precedes thread container phase
  generalize (session.advance id resolver thread container phase).2 = next at precedes ⊢
  cases precedes <;> rfl

namespace Phase

/-- Whether the step that follows is the load's own, and it refers to no unit yet. -/
def isOwn : Phase → Bool
  | .waiting _ | .packaged _ _ | .compiling _ _ | .finished _ _ (.ok _) | .leaving _ | .ended _ =>
    false
  | _ => true

end Phase

/-- Ways of a load that nothing interrupts. Its own steps are ways, and so are entering and leaving
the lock, a call of the compiler from beginning to end, and the end of a compile that registered a
unit. What was registered is settled by then. -/
structure Uninterrupted (id : Nat) (resolver : Resolver) (thread : Thread) (container : String)
    (Goes : Session → Phase → Session → Phase → Prop) : Prop where
  refl : ∀ session phase, Goes session phase session phase
  trans : ∀ {first second third phase next last}, Goes first phase second next →
    Goes second next third last → Goes first phase third last
  advance : ∀ {session phase after next}, phase.isOwn = true →
    session.advance id resolver thread container phase = (after, next) →
      Goes session phase after next
  enter : ∀ session output, Goes session (.waiting output) session (.entered output)
  call : ∀ session output archive, Goes session (.packaged output archive)
    ((session.markBusy id thread).invoke id resolver thread ⟨archive, output, true⟩).1
    (.compiled output archive
      ((session.markBusy id thread).invoke id resolver thread ⟨archive, output, true⟩).2)
  finish : ∀ (session : Session) output archive unit,
    Goes session.settle (.finished output archive (.ok unit))
      (session.settle.unmarkBusy id thread).settle (.discarding archive (.ok unit))
  leave : ∀ session result, Goes session (.leaving result) session (.ended result)

/-- What is registered is settled. -/
theorem register_settled {session after : Session} {name artifact : String}
    {temporary : Option Nat} {unit : Nat}
    (registered : session.register id name artifact temporary = (after, .ok unit)) :
    ∃ before : Session, after = before.settle := by
  rcases session.register_cases id name artifact temporary with
    ⟨error, failed⟩ | ⟨resolver, size, content, _, _, _, succeeded⟩
  · rw [failed] at registered
    cases (Prod.mk.inj registered).2
  · rw [succeeded, enlist_eq] at registered
    exact ⟨_, (Prod.mk.inj registered).1.symm⟩

namespace Uninterrupted

variable {Goes : Session → Phase → Session → Phase → Prop}

/-- From the archive to the end of the compile. -/
theorem compile (ways : Uninterrupted id resolver thread container Goes) (session : Session)
    (output archive : String) {after : Session} {result : Except LoadError Nat}
    (compiled : session.compile id resolver thread archive output (Path.unitName output) none =
      (after, result)) :
    Goes session (.packaged output archive) after
      (match result with
      | .ok unit => .discarding archive (.ok unit)
      | .error error => .clearing output archive error) := by
  rcases ending : (session.markBusy id thread).compileMarked id resolver thread archive output
    (Path.unitName output) none with ⟨marked, outcome⟩
  simp only [Session.compile, ending, Prod.mk.injEq] at compiled
  obtain ⟨rfl, rfl⟩ := compiled
  have called := ways.call session output archive
  rcases invoked : (session.markBusy id thread).invoke id resolver thread
    ⟨archive, output, true⟩ with ⟨returned, report⟩
  rw [invoked] at called
  refine ways.trans called ?_
  have judged : returned.advance id resolver thread container (.compiled output archive report) =
      returned.judge id resolver output archive report := rfl
  have failing (last : Session) (error : LoadError) : Goes last
      (.finished output archive (.error error)) (last.unmarkBusy id thread).settle
        (.clearing output archive error) := ways.advance rfl rfl
  unfold compileMarked at ending
  rw [invoked] at ending
  cases report with
  | error error =>
    cases ending
    exact ways.trans (ways.advance rfl judged) (failing _ _)
  | ok written =>
    dsimp only at ending
    unfold judge at judged
    dsimp only at judged
    split at ending
    · next empty =>
      cases ending
      rw [if_pos empty] at judged
      exact ways.trans (ways.advance rfl judged) (failing _ _)
    · next filled =>
      rw [if_neg filled] at judged
      refine ways.trans (ways.advance rfl judged) ?_
      have registered : returned.advance id resolver thread container
          (.registering output archive) = returned.registerNew id output archive := rfl
      unfold registerNew at registered
      rw [ending] at registered
      refine ways.trans (ways.advance rfl registered) ?_
      cases outcome with
      | error error => exact failing _ _
      | ok unit =>
        obtain ⟨before, rfl⟩ := register_settled ending
        exact ways.finish before output archive unit

/-- From the check that found the artifact missing to the end of the load. -/
theorem compileContainer (ways : Uninterrupted id resolver thread container Goes)
    (session : Session) (output : String) {after : Session} {result : Except LoadError Nat}
    (compiled : session.compileContainer id resolver thread container output
      (Path.unitName output) = (after, result)) :
    Goes session (.staging output) after (.leaving result) := by
  have staging : session.advance id resolver thread container (.staging output) =
      session.stageArchive resolver container output := rfl
  unfold Session.compileContainer at compiled
  unfold stageArchive at staging
  rcases staged : session.stage resolver.staging container
    (some resolver.staging.archiveExtension) false with ⟨between, error | archive⟩
  all_goals rw [staged] at compiled staging
  · cases compiled
    exact ways.advance rfl staging
  · refine ways.trans (ways.advance rfl staging) ?_
    have discarded (last : Session) (result : Except LoadError Nat) :
        Goes last (.discarding archive result) (last.discard archive) (.leaving result) :=
      ways.advance rfl rfl
    have packaging : between.advance id resolver thread container (.packaging output archive) =
        between.packageArchive container output archive := rfl
    unfold packageArchive at packaging
    rcases packaged : Packaging.packageContainer archive container between.files with
      ⟨files, error | count⟩
    all_goals
      simp only [packaged] at compiled packaging
      refine ways.trans (ways.advance rfl packaging) ?_
    · cases compiled
      exact discarded _ _
    · split at compiled
      · next ending =>
        cases compiled
        exact ways.trans (ways.compile _ output archive ending) (discarded _ _)
      · next failed error ending =>
        cases compiled
        have clearing : failed.advance id resolver thread container
            (.clearing output archive error) =
              (failed.discard output, .discarding archive (.error error)) := rfl
        exact ways.trans (ways.compile _ output archive ending)
          (ways.trans (ways.advance rfl clearing) (discarded _ _))

/-- A load that nothing interrupts does what `loadContainer` does. -/
theorem loadContainer (ways : Uninterrupted id resolver thread container Goes) {session : Session}
    (present : session.resolvers.get? id = some resolver) :
    Goes session .asked (session.loadContainer id thread container).1
      (.ended (session.loadContainer id thread container).2) := by
  have asking : session.advance id resolver thread container .asked =
      session.checkSource container := rfl
  unfold checkSource at asking
  unfold Session.loadContainer
  rw [present]
  cases there : session.files.isFile container with
  | false =>
    rw [there] at asking
    exact ways.advance rfl asking
  | true =>
    rw [there] at asking
    refine ways.trans (ways.advance rfl asking) ?_
    have finding : session.advance id resolver thread container .readable =
        session.findOutput resolver container := rfl
    unfold findOutput at finding
    simp only [Bool.not_true, Bool.false_eq_true, ↓reduceIte]
    cases found : resolver.staging.durablePath container session.files with
    | error error =>
      rw [found] at finding
      exact ways.advance rfl finding
    | ok output =>
      rw [found] at finding
      have checking : session.advance id resolver thread container (.entered output) =
          session.checkOutput output := rfl
      unfold checkOutput at checking
      refine ways.trans (ways.advance rfl finding) (ways.trans (ways.enter session output) ?_)
      unfold compileOrReuse
      dsimp only
      split
      · next empty =>
        rw [if_pos empty] at checking
        exact ways.trans (ways.advance rfl checking) (ways.trans
          (ways.compileContainer session output (Prod.eta _).symm) (ways.leave _ _))
      · next filled =>
        rw [if_neg filled] at checking
        have reusing : session.advance id resolver thread container (.reusing output) =
            session.reuse id output := rfl
        exact ways.trans (ways.advance rfl checking) (ways.trans
          (ways.advance rfl reusing) (ways.leave _ _))

end Uninterrupted

/-! ### The only load there is -/

/-- The only load there is goes from one phase to another, whatever was noted before. -/
def Alone (id : Nat) (resolver : Resolver) (thread : Thread) (container : String)
    (session : Session) (isLocked : Bool) (phase : Phase) (after : Session) (locked : Bool)
    (next : Phase) : Prop :=
  ∀ events, ∃ later, Relation.ReflTransGen (LoadStep id resolver)
    ⟨session, isLocked, [⟨thread, container, phase⟩], events⟩
    ⟨after, locked, [⟨thread, container, next⟩], later⟩

/-- The ways of the only load there is are uninterrupted, given that the compiler works through its
output only. -/
theorem alone_uninterrupted (careful : ∀ request files,
      Through request.output files (resolver.compiler request files).1) :
    Uninterrupted id resolver thread container fun session phase after next =>
      Alone id resolver thread container session phase.isInside phase after next.isInside next where
  refl session phase events := ⟨events, .refl⟩
  trans left right events := by
    obtain ⟨between, early⟩ := left events
    obtain ⟨later, late⟩ := right between
    exact ⟨later, early.trans late⟩
  advance {session phase after next} _ goes events := by
    have step : LoadStep id resolver
        ⟨session, phase.isInside, [⟨thread, container, phase⟩], events⟩ _ :=
      .advance _ 0 thread container phase rfl
    have inside : (session.advance id resolver thread container phase).2.isInside =
      phase.isInside := advance_isInside session thread container phase
    rw [goes] at step inside
    rw [inside]
    exact ⟨_, .single step⟩
  enter session output events :=
    ⟨_, .single (LoadStep.enter ⟨session, false, [⟨thread, container, _⟩], events⟩ 0 thread
      container output rfl rfl)⟩
  call session output archive events := by
    have called : LoadStep id resolver
        ⟨session, true, [⟨thread, container, .packaged output archive⟩], events⟩ _ :=
      .invoke _ 0 thread container output archive rfl
    have work : LoadStep id resolver
        ⟨(session.markBusy id thread).noteInvocation id thread ⟨archive, output, true⟩, true,
          [⟨thread, container, .compiling output archive⟩],
          events ++ [.invoked 0 output (session.outputSize output)]⟩ _ :=
      .work _ 0 thread container output archive
        (resolver.compiler ⟨archive, output, true⟩ session.files).1 rfl
        (careful ⟨archive, output, true⟩ session.files)
    have back : LoadStep id resolver
        ⟨{ (session.markBusy id thread).noteInvocation id thread ⟨archive, output, true⟩ with
            files := (resolver.compiler ⟨archive, output, true⟩ session.files).1 }, true,
          [⟨thread, container, .compiling output archive⟩],
          events ++ [.invoked 0 output (session.outputSize output)]⟩ _ :=
      .return_ _ 0 thread container output archive
        (resolver.compiler ⟨archive, output, true⟩ session.files).2 rfl
    exact ⟨_, ((Relation.ReflTransGen.single called).tail work).tail back⟩
  finish session output archive unit events := by
    have step : LoadStep id resolver
        ⟨session.settle, true, [⟨thread, container, .finished output archive (.ok unit)⟩], events⟩
        _ := .advance _ 0 thread container _ rfl
    exact ⟨_, .single step⟩
  leave session result events :=
    ⟨_, .single (LoadStep.leave ⟨session, true, [⟨thread, container, _⟩], events⟩ 0 thread
      container result rfl)⟩

/-- A load that nothing interrupts does what `loadContainer` does, given that the compiler works
through its output only. -/
theorem loadContainer_alone (careful : ∀ request files,
      Through request.output files (resolver.compiler request files).1)
    {session : Session} (present : session.resolvers.get? id = some resolver) :
    Alone id resolver thread container session false .asked
      (session.loadContainer id thread container).1 false
      (.ended (session.loadContainer id thread container).2) :=
  (alone_uninterrupted careful).loadContainer present

end Session

end Hotload
