import Hotload.Proofs.Wiring

/-!
# Runs of operations

A host works on a session by operations, one after the other. `Operation` lists them, with files
that change from outside among them, and `Reachable` are the sessions that any run of them leads to
from a session without loaders. What every operation keeps holds of all of these.
-/

namespace Hotload

/-- What a host can do with a session, and what may happen to its files and threads meanwhile. -/
inductive Operation where
  /-- Something else changes files. -/
  | changeFiles (change : Files → Files)
  | addSystem
  | defineSystem (id : Nat) (name : String) (content : Bytes)
  /-- Opens a resolver and holds it under a name. -/
  | openResolver (holder : String) (config : Config) (compiler : Compiler) (platform : Platform)
      (parent : Option Loader)
  /-- Has a resolver's compiler behave in another way from now on. -/
  | setCompiler (id : Nat) (compiler : Compiler)
  | define (id : Nat) (thread : Thread) (name : String) (content : Bytes)
  | loadContainer (id : Nat) (thread : Thread) (container : String)
  | loadArtifact (id : Nat) (artifact : String)
  | register (id : Nat) (name artifact : String) (temporary : Option Nat)
  /-- Binds an artifact without registering the unit. -/
  | bind (platform : Platform) (name artifact libraries : String) (parent : Option Loader)
  | unload (id : Nat)
  | unloadAfter (id : Nat) (thread : Option Thread) (policy : UnloadPolicy)
  | setLocal (id : Nat) (loader : Option Loader)
  | find (loader : Loader) (name : String)
  | findRegistered (id : Nat) (name : String)
  | hold (holder : String) (target : Target)
  | letGo (holder : String)
  | addReaper
  | track (reaper : Nat) (path : String)
  | release (temporary : Nat)
  | sweep (reaper : Nat)
  | markBusy (id : Nat) (thread : Thread)
  | unmarkBusy (id : Nat) (thread : Thread)
  | pass (time : Nat)
  | departLater (id : Nat) (thread : Thread) (time : Nat)

/-- The resolver whose units an operation lets go of, if it does. -/
def Operation.unloads : Operation → Option Nat
  | .unload id | .unloadAfter id _ _ => some id
  | _ => none

/-- What looking and pausing keep, a wait keeps. -/
theorem Quiescence.await_keeps {State : Type} (good : State → Prop)
    (look : State → Bool × State) (pause : State → State)
    (looked : ∀ state, good state → good (look state).2)
    (paused : ∀ state, good state → good (pause state)) (attempts : Nat) (state : State)
    (first : good state) : good (await look pause attempts state).2 := by
  have polled : ∀ (remaining polls : Nat) (state : State), good state →
      good (poll look pause polls remaining state).2 := by
    intro remaining
    induction remaining with
    | zero =>
      intro polls state now
      have seen := looked state now
      unfold poll
      split <;> next heard => rw [heard] at seen; exact seen
    | succ remaining inductionHypothesis =>
      intro polls state now
      have seen := looked state now
      unfold poll
      rcases heard : look state with ⟨_ | _, later⟩ <;> rw [heard] at seen
      · exact seen
      · exact inductionHypothesis _ _ (paused _ seen)
  have seen := looked state first
  unfold await
  rcases heard : look state with ⟨_ | _, later⟩ <;> rw [heard] at seen
  · exact seen
  · exact polled _ _ _ seen

namespace Session

/-- Opens a resolver and holds it, or leaves things as a failed opening does. -/
def openHeld (session : Session) (holder : String) (config : Config) (compiler : Compiler)
    (platform : Platform) (parent : Option Loader) : Session :=
  match session.openResolver config compiler platform parent with
  | (after, .ok id) => (after.hold holder (.loader (.resolver id))).settle
  | (after, .error _) => after

/-- What an operation makes of a session. -/
def perform (session : Session) : Operation → Session
  | .changeFiles change => { session with files := change session.files }
  | .addSystem => session.addSystem.1
  | .defineSystem id name content => (session.defineSystem id name content).1
  | .openResolver holder config compiler platform parent =>
    session.openHeld holder config compiler platform parent
  | .setCompiler id compiler =>
    session.updateResolver id fun resolver => { resolver with compiler }
  | .define id thread name content => (session.define id thread name content).1
  | .loadContainer id thread container => (session.loadContainer id thread container).1
  | .loadArtifact id artifact => (session.loadArtifact id artifact).1
  | .register id name artifact temporary => (session.register id name artifact temporary).1
  | .bind platform name artifact libraries parent =>
    (session.bind platform name artifact libraries parent none).1
  | .unload id => (session.unload id).1
  | .unloadAfter id thread policy => (session.unloadAfter id thread policy).1
  | .setLocal id loader => session.setLocal id loader
  | .find loader name => (session.find loader name).1
  | .findRegistered id name => (session.findRegistered id name).1
  | .hold holder target => (session.hold holder target).settle
  | .letGo holder => session.letGo holder
  | .addReaper => session.addReaper.1
  | .track reaper path => (session.track reaper path).1
  | .release temporary => (session.release temporary).1
  | .sweep reaper => (session.sweep reaper).1
  | .markBusy id thread => session.markBusy id thread
  | .unmarkBusy id thread => session.unmarkBusy id thread
  | .pass time => session.pass time
  | .departLater id thread time => session.departLater id thread time

/-- Runs of operations, one after the other. -/
def performAll (session : Session) (operations : List Operation) : Session :=
  operations.foldl perform session

/-- The sessions that operations lead to from a session without loaders. -/
inductive Reachable : Session → Prop where
  | start (files : Files) : Reachable { files }
  | perform {session : Session} (reached : Reachable session) (operation : Operation) :
      Reachable (session.perform operation)

/-- A run of operations leads from a session that operations lead to to another such session. -/
theorem Reachable.performAll {session : Session} (reached : Reachable session)
    (operations : List Operation) : Reachable (session.performAll operations) := by
  induction operations generalizing session with
  | nil => exact reached
  | cons operation rest inductionHypothesis =>
    exact inductionHypothesis (reached.perform operation)

/-! ## Loads and definitions, step by step -/

/-- No file of passing use is in the second session but those of the first and such that have been
given a number. -/
def TracksGiven (before after : Session) : Prop :=
  ∀ id, after.temporaries.has id = true → before.temporaries.has id = true ∨ id < after.fresh

/-- A file that was just tracked has been given its number. -/
theorem track_tracksGiven (session : Session) (reaper : Nat) (path : String) :
    TracksGiven session (session.track reaper path).1 := by
  intro id tracked
  have added : (session.track reaper path).1.temporaries =
      session.temporaries.add session.fresh ⟨path, false⟩ := rfl
  unfold Table.has at tracked ⊢
  rw [added, Table.get?_add, Option.isSome_or, Bool.or_eq_true] at tracked
  refine tracked.imp_right fun new => ?_
  split at new
  · next same =>
    rw [same]
    exact Nat.lt_succ_self _
  · cases new

/-- A property of sessions that lasts: look-ups leave it, and steps do that leave the loaders and make
no files of passing use, and compiles and registrations do, also when a file of passing use was just
tracked. -/
structure Lasting (good : Session → Prop) : Prop where
  keeps : ∀ {before after : Session}, good before → LeavesLoaders before after →
    after.temporaries = before.temporaries → good after
  find : ∀ {session : Session}, good session → ∀ loader name, good (session.find loader name).1
  compile : ∀ {before session : Session}, good before → LeavesLoaders before session →
    TracksGiven before session → ∀ id resolver thread archive output name temporary,
      (∀ given ∈ temporary, given < session.fresh) →
        good (session.compile id resolver thread archive output name temporary).1
  register : ∀ {session : Session}, good session → ∀ id name artifact,
    good (session.register id name artifact none).1

namespace Lasting

variable {good : Session → Prop} {session : Session}

/-- Changes of files leave it. -/
theorem files (lasting : Lasting good) (now : good session) (files : Files) :
    good { session with files } :=
  lasting.keeps now (leavesLoaders_of_rest rfl rfl rfl (Nat.le_refl _)) rfl

/-- Staging leaves it. -/
theorem stage (lasting : Lasting good) (now : good session) (staging : Staging) (key : String)
    (extension : Option String) (create : Bool) :
    good (session.stage staging key extension create).1 :=
  lasting.keeps now (stage_leavesLoaders session staging key extension create)
    (stage_temporaries session staging key extension create)

/-- Deleting a staged file leaves it. -/
theorem discard (lasting : Lasting good) (now : good session) (path : String) :
    good (session.discard path) :=
  lasting.keeps now (discard_leavesLoaders session path) (discard_temporaries session path)

/-- Compiling into a file of passing use leaves it. -/
theorem compileTemporary (lasting : Lasting good) (now : good session) (id : Nat)
    (resolver : Resolver) (thread : Thread) (archive : String) :
    good (session.compileTemporary id resolver thread archive).1 := by
  have staged := lasting.stage now resolver.staging ("unit-" ++ archive)
    resolver.staging.artifactExtension true
  unfold Session.compileTemporary
  dsimp only
  split
  · next heard =>
    rw [heard] at staged
    exact staged
  · next after output heard =>
    rw [heard] at staged
    refine lasting.compile staged (track_leavesLoaders after resolver.reaper output)
      (track_tracksGiven after resolver.reaper output) id resolver thread archive output _ _ ?_
    rintro _ ⟨⟩
    exact Nat.lt_succ_self _

/-- Packaging and compiling bytecode leaves it. -/
theorem compileBytes (lasting : Lasting good) (now : good session) (id : Nat)
    (resolver : Resolver) (thread : Thread) (name : String) (content : Bytes) :
    good (session.compileBytes id resolver thread name content).1 := by
  have staged :=
    lasting.stage now resolver.staging name (some resolver.staging.archiveExtension) false
  unfold Session.compileBytes
  split
  · next heard =>
    rw [heard] at staged
    exact staged
  · next later archive heard =>
    rw [heard] at staged
    have packaged := lasting.files staged
    split
    · exact lasting.discard (packaged _) archive
    · next files _ =>
      have compiled := lasting.compileTemporary (packaged files) id resolver thread archive
      dsimp only
      -- Whatever is made of the result, the compile itself need not be unfolded.
      generalize Session.compileTemporary _ id resolver thread archive = compiledTo at compiled ⊢
      exact lasting.discard compiled archive

/-- Packaging and compiling a container leaves it. -/
theorem compileContainer (lasting : Lasting good) (now : good session) (id : Nat)
    (resolver : Resolver) (thread : Thread) (container output name : String) :
    good (session.compileContainer id resolver thread container output name).1 := by
  have staged :=
    lasting.stage now resolver.staging container (some resolver.staging.archiveExtension) false
  unfold Session.compileContainer
  split
  · next heard =>
    rw [heard] at staged
    exact staged
  · next later archive heard =>
    rw [heard] at staged
    have packaged := lasting.files staged
    split
    · exact lasting.discard (packaged _) archive
    · next files _ _ =>
      have compiled := lasting.compile (packaged files) (.refl _)
        (fun _ tracked => .inl tracked) id resolver thread archive output name none (by simp)
      split
      · next compiledTo =>
        rw [compiledTo] at compiled
        exact lasting.discard compiled archive
      · next compiledTo =>
        rw [compiledTo] at compiled
        exact lasting.discard (lasting.discard compiled output) archive

/-- Defining a symbol leaves it. -/
theorem define (lasting : Lasting good) (now : good session) (id : Nat) (thread : Thread)
    (name : String) (content : Bytes) : good (session.define id thread name content).1 := by
  unfold Session.define
  split
  · exact now
  · next resolver _ =>
    have compiled := lasting.compileBytes now id resolver thread name content
    split
    · next heard =>
      rw [heard] at compiled
      exact compiled
    · next after unit heard =>
      rw [heard] at compiled
      have found := lasting.find compiled (.unit unit) name
      unfold readBack
      split <;> next asked => rw [asked] at found; exact found

/-- Loading a container leaves it. -/
theorem loadContainer (lasting : Lasting good) (now : good session) (id : Nat) (thread : Thread)
    (container : String) : good (session.loadContainer id thread container).1 := by
  unfold Session.loadContainer
  split
  · exact now
  · next resolver _ =>
    split
    · exact now
    · split
      · exact now
      · unfold compileOrReuse
        dsimp only
        split
        · exact lasting.compileContainer now id resolver thread container _ _
        · exact lasting.register now id _ _

/-- Loading an artifact leaves it. -/
theorem loadArtifact (lasting : Lasting good) (now : good session) (id : Nat)
    (artifact : String) : good (session.loadArtifact id artifact).1 := by
  unfold Session.loadArtifact
  split
  · exact lasting.register now id _ artifact
  · exact now

end Lasting

/-- What passing time and noting events keep, a wait keeps. -/
theorem wait_keeps {good : Session → Prop} {session : Session} (now : good session) (id : Nat)
    (thread : Option Thread) (passed : ∀ session time, good session → good (session.pass time))
    (logged : ∀ session events, good session → good (session.log events)) :
    good (session.wait id thread).1 := by
  unfold wait
  split
  · next thread resolver _ =>
    have awaited := Quiescence.await_keeps good
      (fun session => (session.isBusy id thread, session))
      (·.pass resolver.patience.interval.toNat) (fun _ now => now)
      (fun later now => passed later _ now) resolver.patience.attempts.toNat session now
    unfold awaitThread
    dsimp only
    split
    · exact logged _ _ awaited
    · exact awaited
  · exact now

/-- Waiting is quiet. -/
theorem wait_quiet (session : Session) (id : Nat) (thread : Option Thread) :
    Quiet session (session.wait id thread).1 :=
  wait_keeps (Quiet.refl session) id thread (fun later _ quiet => quiet.trans (pass_quiet later _))
    fun _ _ quiet => quiet.trans ⟨⟨rfl, Nat.le_refl _⟩, rfl, rfl⟩

theorem wait_leavesLoaders (session : Session) (id : Nat) (thread : Option Thread) :
    LeavesLoaders session (session.wait id thread).1 :=
  wait_keeps (LeavesLoaders.refl session) id thread
    (fun later _ left => left.trans (pass_leavesLoaders later _))
    fun _ _ left => left.trans (leavesLoaders_of_rest rfl rfl rfl (Nat.le_refl _))

/-! ## What every operation leaves -/

/-- A property that hangs on the loaders of a session, and that the steps which change them leave.
Unloads are told apart, because there are properties that hold as long as nothing is unloaded. -/
structure Persistent (good : Session → Prop) : Prop where
  keeps : ∀ {before after : Session}, good before → LeavesLoaders before after → good after
  find : ∀ {session : Session}, good session → ∀ loader name, good (session.find loader name).1
  findRegistered : ∀ {session : Session}, good session → ∀ id name,
    good (session.findRegistered id name).1
  settle : ∀ {session : Session}, good session → good session.settle
  hold : ∀ {session : Session}, good session → ∀ held, good { session with held }
  addUnit : ∀ {session : Session}, good session → ∀ unit, unit.resolved = [] →
    good (session.addUnit unit).1
  register : ∀ {session : Session}, good session → ∀ id name artifact temporary,
    good (session.register id name artifact temporary).1
  setLocal : ∀ {session : Session}, good session → ∀ id loader, good (session.setLocal id loader)
  openResolver : ∀ {session : Session}, good session → ∀ config compiler platform parent,
    good (session.openResolver config compiler platform parent).1

/-- What registering and letting go leave, and steps that leave the loaders, compiling leaves. -/
theorem compile_keeps (good : Session → Prop) {session : Session}
    (keeps : ∀ {before after : Session}, good before → LeavesLoaders before after → good after)
    (settle : ∀ {session : Session}, good session → good session.settle)
    (register : ∀ {session : Session}, good session → ∀ id name artifact temporary,
      good (session.register id name artifact temporary).1)
    (now : good session) (id : Nat) (resolver : Resolver) (thread : Thread)
    (archive output name : String) (temporary : Option Nat) :
    good (session.compile id resolver thread archive output name temporary).1 := by
  have marked : good (session.markBusy id thread) :=
    keeps now (markBusy_leavesLoaders session id thread)
  have compiled : good ((session.markBusy id thread).compileMarked id resolver thread archive
      output name temporary).1 := by
    have invoked := keeps marked
      (invoke_leavesLoaders _ id resolver thread ⟨archive, output, true⟩)
    unfold compileMarked
    split
    · next heard =>
      rw [heard] at invoked
      exact invoked
    · next after _ heard =>
      rw [heard] at invoked
      split
      · exact keeps invoked
          (rejectEmpty_leavesLoaders after id resolver archive output temporary)
      · exact register invoked id name output temporary
  unfold Session.compile
  exact settle (keeps compiled (unmarkBusy_leavesLoaders _ id thread))

namespace Persistent

variable {good : Session → Prop} {session : Session}

/-- Compiling leaves it. -/
theorem compile (persistent : Persistent good) (now : good session) (id : Nat)
    (resolver : Resolver) (thread : Thread) (archive output name : String)
    (temporary : Option Nat) :
    good (session.compile id resolver thread archive output name temporary).1 :=
  compile_keeps good persistent.keeps persistent.settle persistent.register now id resolver thread
    archive output name temporary

/-- A property that is persistent lasts: loads and definitions leave it, step by step. -/
theorem lasting (persistent : Persistent good) : Lasting good where
  keeps := fun now left _ => persistent.keeps now left
  find := persistent.find
  compile := fun now left _ id resolver thread archive output name temporary _ =>
    persistent.compile (persistent.keeps now left) id resolver thread archive output name temporary
  register := fun now id name artifact => persistent.register now id name artifact none

theorem unloadAfter (persistent : Persistent good) (now : good session) (id : Nat)
    (thread : Option Thread) (policy : UnloadPolicy)
    (unload : ∀ {session : Session}, good session → good (session.unload id).1) :
    good (session.unloadAfter id thread policy).1 := by
  have waited := persistent.keeps now (wait_leavesLoaders session id thread)
  unfold Session.unloadAfter
  dsimp only
  split
  · exact persistent.keeps waited (leavesLoaders_of_rest rfl rfl rfl (Nat.le_refl _))
  · have unloaded := unload waited
    split <;> next heard => rw [heard] at unloaded; exact unloaded

theorem openHeld (persistent : Persistent good) (now : good session) (holder : String)
    (config : Config) (compiler : Compiler) (platform : Platform) (parent : Option Loader) :
    good (session.openHeld holder config compiler platform parent) := by
  have opened := persistent.openResolver now config compiler platform parent
  unfold Session.openHeld
  split
  · next heard =>
    rw [heard] at opened
    exact persistent.settle (persistent.hold opened _)
  · next heard =>
    rw [heard] at opened
    exact opened

/-- Every operation leaves it, provided that its unload does. -/
theorem perform (persistent : Persistent good) (now : good session) (operation : Operation)
    (unload : ∀ id ∈ operation.unloads, ∀ {session : Session}, good session →
      good (session.unload id).1) : good (session.perform operation) := by
  cases operation with
  | changeFiles | departLater =>
    exact persistent.keeps now (leavesLoaders_of_rest rfl rfl rfl (Nat.le_refl _))
  | addSystem | defineSystem | addReaper =>
    exact persistent.keeps now (leavesLoaders_of_rest rfl rfl rfl (Nat.le_succ _))
  | openResolver holder config compiler platform parent =>
    exact persistent.openHeld now holder config compiler platform parent
  | setCompiler id =>
    exact persistent.keeps now (updateResolver_leavesLoaders session id _ (fun _ => rfl) fun _ => rfl)
  | define id thread name content => exact persistent.lasting.define now id thread name content
  | loadContainer id thread container =>
    exact persistent.lasting.loadContainer now id thread container
  | loadArtifact id artifact => exact persistent.lasting.loadArtifact now id artifact
  | register id name artifact temporary =>
    exact persistent.register now id name artifact temporary
  | bind platform name artifact libraries parent =>
    unfold Session.perform Session.bind
    dsimp only
    split
    · exact now
    · exact persistent.addUnit now _ rfl
  | unload id => exact unload id rfl now
  | unloadAfter id thread policy =>
    exact persistent.unloadAfter now id thread policy (unload id rfl)
  | setLocal id loader => exact persistent.setLocal now id loader
  | find loader name => exact persistent.find now loader name
  | findRegistered id name => exact persistent.findRegistered now id name
  | hold | letGo => exact persistent.settle (persistent.hold now _)
  | track reaper path => exact persistent.keeps now (track_leavesLoaders session reaper path)
  | release temporary => exact persistent.keeps now (release_leavesLoaders session temporary)
  | sweep reaper => exact persistent.keeps now (sweep_leavesLoaders session reaper)
  | markBusy id thread => exact persistent.keeps now (markBusy_leavesLoaders session id thread)
  | unmarkBusy id thread => exact persistent.keeps now (unmarkBusy_leavesLoaders session id thread)
  | pass time => exact persistent.keeps now (pass_leavesLoaders session time)

/-- Every run leaves it, provided that its unloads do. -/
theorem performAll (persistent : Persistent good) (now : good session) (operations : List Operation)
    (unload : ∀ operation ∈ operations, ∀ id ∈ operation.unloads, ∀ {session : Session},
      good session → good (session.unload id).1) : good (session.performAll operations) := by
  induction operations generalizing session with
  | nil => exact now
  | cons operation rest inductionHypothesis =>
    exact inductionHypothesis
      (persistent.perform now operation (unload operation List.mem_cons_self))
      fun other member => unload other (List.mem_cons_of_mem _ member)

/-- A property that is persistent holds of every session that operations lead to, if unloads leave
it and it holds without loaders. -/
theorem reachable (persistent : Persistent good)
    (unload : ∀ {session : Session}, good session → ∀ id, good (session.unload id).1)
    (start : ∀ files, good { files }) (reached : Reachable session) : good session := by
  induction reached with
  | start files => exact start files
  | perform _ operation inductionHypothesis =>
    exact persistent.perform inductionHypothesis operation fun id _ _ now => unload now id

end Persistent

/-- Sessions stay wired. -/
theorem wired_persistent : Persistent Wired where
  keeps := fun wired left => wired.keeps left.toKeepsLinks
  find := fun wired loader name => wired.keeps (quiet_follows.find _ loader name).toKeepsLinks
  findRegistered := fun wired id name =>
    wired.keeps (quiet_follows.findRegistered _ id name).toKeepsLinks
  settle := Wired.settle
  hold := fun wired _ => ⟨wired.numbered, wired.joined⟩
  addUnit := fun wired unit _ => wired.addUnit unit
  register := Wired.register
  setLocal := Wired.setLocal
  openResolver := Wired.openResolver

/-- Every session that operations lead to is wired. -/
theorem Reachable.wired {session : Session} (reached : Reachable session) : Wired session :=
  wired_persistent.reachable Wired.unload wired_start reached

end Session

end Hotload
