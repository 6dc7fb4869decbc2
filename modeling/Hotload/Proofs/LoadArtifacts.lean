import Hotload.Proofs.LoadFiles

/-!
# Loads and the artifacts that stand

An artifact that a load registered stands as it was, whatever steps of whatever loads follow. A load
registers none that is empty: it has found its artifact filled under the lock, or the compiler has
filled it. The load that changes an artifact has found it missing or empty under the lock, so it is
none of those that stand; and every other change is one through a spare path.
-/

namespace Hotload

open Files (SameSkeleton Plain Apart Touches)

namespace Session

variable {id : Nat} {holder : String} {resolver : Resolver}

/-- An artifact stands as it was when it was registered: it is there with the same bytes, it is not
empty, and it can be bound. -/
structure Stands (resolver : Resolver) (files : Files) (output : String)
    (artifact : Except FileError Bytes) : Prop where
  isDurable : ∃ text, output = durable resolver text
  shown : ∃ location bytes modified,
    files.shown? output = some (location, .file bytes modified) ∧ bytes ≠ [] ∧
      artifact = .ok bytes
  binds : ∃ content, UnitContent.bind resolver.platform files output = .ok content

/-- An artifact that is shown as before stands as before. -/
theorem Stands.of_shown {files other : Files} {output : String}
    {artifact : Except FileError Bytes} (stands : Stands resolver files output artifact)
    (same : other.shown? output = files.shown? output) :
    Stands resolver other output artifact where
  isDurable := stands.isDurable
  shown := by
    rw [same]
    exact stands.shown
  binds := by
    obtain ⟨content, bound⟩ := stands.binds
    obtain ⟨location, bytes, modified, shown, _⟩ := stands.shown
    exact ⟨content, by rw [UnitContent.bind_of_shown shown (same.trans shown), bound]⟩

/-- Some load registered the artifact with the given content. -/
def Bound (events : List LoadEvent) (output : String) (artifact : Except FileError Bytes) : Prop :=
  ∃ load unit isCompiled, .bound load output artifact unit isCompiled ∈ events

/-- What was registered in the end was registered before, or the last event tells of it. -/
theorem Bound.concat {events : List LoadEvent} {new : LoadEvent} {output : String}
    {artifact : Except FileError Bytes} (bound : Bound (events ++ [new]) output artifact) :
    Bound events output artifact ∨
      ∃ load unit isCompiled, new = .bound load output artifact unit isCompiled := by
  obtain ⟨load, unit, isCompiled, listed⟩ := bound
  rcases List.mem_append.mp listed with earlier | noted
  · exact .inl ⟨load, unit, isCompiled, earlier⟩
  · exact .inr ⟨load, unit, isCompiled, (List.mem_singleton.mp noted).symm⟩

/-- Every artifact that was registered stands. -/
def AllStand (resolver : Resolver) (files : Files) (events : List LoadEvent) : Prop :=
  ∀ output artifact, Bound events output artifact → Stands resolver files output artifact

/-- What spares artifacts keeps those standing that did. -/
theorem AllStand.spared {files other : Files} {events : List LoadEvent}
    (all : AllStand resolver files events) (spares : Spares resolver files other) :
    AllStand resolver other events := by
  intro output artifact bound
  have stands := all output artifact bound
  obtain ⟨text, rfl⟩ := stands.isDurable
  exact stands.of_shown (spares.shown text)

/-- A load has an artifact to itself: it is none of those that were registered. -/
structure Own (resolver : Resolver) (files : Files) (events : List LoadEvent) (output : String) :
    Prop where
  isDurable : ∃ text, output = durable resolver text
  apart : ∀ other artifact, Bound events other artifact → Apart files output other

/-- The later events tell of no more artifacts that were registered. -/
def NoneBound (events later : List LoadEvent) : Prop :=
  ∀ output artifact, Bound later output artifact → Bound events output artifact

/-- A load keeps an artifact to itself while the skeleton stays and no other artifact is
registered. -/
theorem Own.of_skeleton {files other : Files} {events later : List LoadEvent} {output : String}
    (own : Own resolver files events output) (same : SameSkeleton files other)
    (quiet : NoneBound events later) : Own resolver other later output :=
  ⟨own.isDurable, fun another artifact bound =>
    (own.apart another artifact (quiet another artifact bound)).of_skeleton same⟩

/-- A change at an artifact that a load has to itself keeps all others standing. -/
theorem AllStand.touched {files other : Files} {events : List LoadEvent} {output : String}
    (all : AllStand resolver files events) (own : Own resolver files events output)
    (touches : Touches output files other) : AllStand resolver other events := by
  intro another artifact bound
  exact (all another artifact bound).of_shown (touches.status (own.apart another artifact bound))

/-- An artifact that is missing or empty is none of those that stand. -/
theorem AllStand.own {files : Files} {events : List LoadEvent} {output : String}
    (all : AllStand resolver files events) (isDurable : ∃ text, output = durable resolver text)
    (empty : files.shownLength output = 0) : Own resolver files events output := by
  refine ⟨isDurable, fun other artifact bound => ?_⟩
  obtain ⟨location, bytes, modified, shown, filled, _⟩ := (all other artifact bound).shown
  exact Files.apart_of_empty empty shown filled

/-- What is known of a load in a phase. -/
def Phase.Good (resolver : Resolver) (files : Files) (events : List LoadEvent) : Phase → Prop
  | .asked | .readable | .leaving _ | .ended _ => True
  | .waiting output | .entered output => ∃ text, output = durable resolver text
  | .reusing output => (∃ text, output = durable resolver text) ∧ files.shownLength output ≠ 0
  | .staging output => Own resolver files events output ∧ files.shownLength output = 0
  | .packaging output archive | .packaged output archive =>
    Own resolver files events output ∧ files.shownLength output = 0 ∧ Spare resolver files archive
  | .compiling output archive | .compiled output archive _ | .clearing output archive _
  | .finished output archive (.error _) =>
    Own resolver files events output ∧ Spare resolver files archive
  | .registering output archive =>
    Own resolver files events output ∧ files.shownLength output ≠ 0 ∧
      Spare resolver files archive
  | .finished _ archive (.ok _) | .discarding archive _ => Spare resolver files archive

/-- What is known of a load that is not past the lock hangs on nothing else. -/
theorem Phase.Good.outside {files other : Files} {events later : List LoadEvent} {phase : Phase}
    (good : phase.Good resolver files events) (outside : phase.isInside = false) :
    phase.Good resolver other later := by
  cases phase with
  | asked | readable | waiting | ended => exact good
  | entered | reusing | staging | packaging | packaged | compiling | compiled | registering
  | finished | clearing | discarding | leaving => cases outside

/-- Everything that is known of loads under way: at most one is past the lock, every artifact that
was registered stands as it was, and every load is in a good phase. `Ready` goes along because each
step needs it for the next. -/
structure Sound (state : Loads) (id : Nat) (holder : String) (resolver : Resolver) : Prop where
  locked : Locked state
  ready : Ready state.session id holder resolver
  stands : AllStand resolver state.session.files state.events
  good : ∀ (load : Nat) (found : Load), state.loads[load]? = some found →
    found.phase.Good resolver state.session.files state.events

/-! ## One step of a load -/

theorem AllStand.later {files : Files} {events later : List LoadEvent}
    (all : AllStand resolver files events) (quiet : NoneBound events later) :
    AllStand resolver files later :=
  fun output artifact bound => all output artifact (quiet output artifact bound)

/-- What one step of a load comes to. -/
structure Advances (id : Nat) (resolver : Resolver) (before after : Session)
    (later : List LoadEvent) (next : Phase) : Prop where
  onward : Onward before after id
  stands : AllStand resolver after.files later
  good : next.Good resolver after.files later

section

variable {session : Session} {events later : List LoadEvent}

/-- An artifact is as long as it was where artifacts are spared. -/
theorem Spares.shownLength {files other : Files} (spares : Spares resolver files other)
    {output : String} (isDurable : ∃ text, output = durable resolver text) :
    other.shownLength output = files.shownLength output := by
  obtain ⟨text, rfl⟩ := isDurable
  unfold Files.shownLength
  rw [spares.shown]

/-- A step that leaves the session alone. -/
theorem Advances.stay (stands : AllStand resolver session.files events)
    (quiet : NoneBound events later) {next : Phase}
    (good : next.Good resolver session.files later) :
    Advances id resolver session session later next :=
  ⟨Onward.refl session, stands.later quiet, good⟩

/-- A step that keeps the links and changes the tree through a path that spares artifacts. -/
theorem Advances.spare {after : Session} (stands : AllStand resolver session.files events)
    (quiet : NoneBound events later) (onward : Onward session after id)
    (spares : Spares resolver session.files after.files) {next : Phase}
    (good : next.Good resolver after.files later) :
    Advances id resolver session after later next :=
  ⟨onward, (stands.spared spares).later quiet, good⟩

/-- Looking for the container. -/
theorem checkSource_advances (stands : AllStand resolver session.files events)
    (quiet : NoneBound events later) (container : String) :
    Advances id resolver session (session.checkSource container).1 later
      (session.checkSource container).2 := by
  unfold checkSource
  split
  · exact Advances.stay stands quiet trivial
  · exact Advances.stay stands quiet trivial

/-- Finding out where the artifact goes. -/
theorem findOutput_advances (stands : AllStand resolver session.files events)
    (quiet : NoneBound events later) (container : String) :
    Advances id resolver session (session.findOutput resolver container).1 later
      (session.findOutput resolver container).2 := by
  unfold findOutput
  split
  · exact Advances.stay stands quiet trivial
  · next output found => exact Advances.stay stands quiet (durable_of_path found)

/-- Looking for the artifact. One that is missing or empty belongs to the load from now on. -/
theorem checkOutput_advances (stands : AllStand resolver session.files events)
    (quiet : NoneBound events later) {output : String}
    (isDurable : ∃ text, output = durable resolver text) :
    Advances id resolver session (session.checkOutput output).1 later
      (session.checkOutput output).2 := by
  unfold checkOutput
  split
  · next empty =>
    rw [outputSize_eq] at empty
    exact Advances.stay stands quiet ⟨(stands.later quiet).own isDurable empty, empty⟩
  · next filled =>
    rw [outputSize_eq] at filled
    exact Advances.stay stands quiet ⟨isDurable, filled⟩

/-- Staging an archive. -/
theorem stageArchive_advances (ready : Ready session id holder resolver)
    (stands : AllStand resolver session.files events) (quiet : NoneBound events later)
    (container : String) {output : String} (own : Own resolver session.files events output)
    (empty : session.files.shownLength output = 0) :
    Advances id resolver session (session.stageArchive resolver container output).1 later
      (session.stageArchive resolver container output).2 := by
  unfold stageArchive
  split
  · next staged =>
    obtain ⟨onward, spares, _⟩ := ready.stage container staged
    exact Advances.spare stands quiet onward spares trivial
  · next archive staged =>
    obtain ⟨onward, spares, spare⟩ := ready.stage container staged
    have empty : _ = 0 := (spares.shownLength own.isDurable).trans empty
    exact Advances.spare stands quiet onward spares
      ⟨own.of_skeleton spares.skeleton quiet, empty, spare archive rfl⟩

/-- A session with another tree lies onward where the skeleton is the same. -/
theorem Onward.files (session : Session) {files : Files}
    (skeleton : SameSkeleton session.files files) : Onward session { session with files } id :=
  ⟨rfl, fun now there => ⟨now, there, rfl, rfl⟩, skeleton, Nat.le_refl _, fun _ listed => listed⟩

/-- Packaging the container. -/
theorem packageArchive_advances (stands : AllStand resolver session.files events)
    (quiet : NoneBound events later) (container : String) {output archive : String}
    (own : Own resolver session.files events output)
    (empty : session.files.shownLength output = 0)
    (spare : Spare resolver session.files archive) :
    Advances id resolver session (session.packageArchive container output archive).1 later
      (session.packageArchive container output archive).2 := by
  have spares := spare.spares (Packaging.packageContainer_touches archive container session.files)
  unfold packageArchive
  split
  · next files _ packaged =>
    rw [packaged] at spares
    exact Advances.spare stands quiet (Onward.files session spares.skeleton) spares
      (spare.of_skeleton spares.skeleton)
  · next files _ packaged =>
    rw [packaged] at spares
    have empty : _ = 0 := (spares.shownLength own.isDurable).trans empty
    exact Advances.spare stands quiet (Onward.files session spares.skeleton) spares
      ⟨own.of_skeleton spares.skeleton quiet, empty, spare.of_skeleton spares.skeleton⟩

/-- A step that keeps the links and changes the tree at an artifact that belongs to the load. -/
theorem Advances.own {after : Session} {output : String}
    (stands : AllStand resolver session.files events) (quiet : NoneBound events later)
    (own : Own resolver session.files events output) (onward : Onward session after id)
    (touches : Touches output session.files after.files) {next : Phase}
    (good : next.Good resolver after.files later) :
    Advances id resolver session after later next :=
  ⟨onward, (stands.touched own touches).later quiet, good⟩

/-- Discarding what stands at an artifact that belongs to the load. -/
theorem discard_touches (ready : Ready session id holder resolver) {output : String}
    (isDurable : ∃ text, output = durable resolver text) :
    Touches output session.files (session.discard output).files := by
  obtain ⟨text, rfl⟩ := isDurable
  rw [discard_files]
  exact Files.removeIfExists_touches (ready.plain text)

/-- Judging what the compiler left behind. -/
theorem judge_advances (ready : Ready session id holder resolver)
    (stands : AllStand resolver session.files events) (quiet : NoneBound events later)
    {output archive : String} (own : Own resolver session.files events output)
    (spare : Spare resolver session.files archive)
    (result : Except CompilerError CompileOutcome) :
    Advances id resolver session (session.judge id resolver output archive result).1 later
      (session.judge id resolver output archive result).2 := by
  have still := own.of_skeleton (SameSkeleton.refl session.files) quiet
  unfold judge
  split
  · exact Advances.stay stands quiet ⟨still, spare⟩
  · split
    · have files := session.rejectEmpty_files id resolver archive output
      have touches : Touches output session.files
          (session.rejectEmpty id resolver archive output none).files := by
        rw [files, ← discard_files]
        exact discard_touches ready own.isDurable
      have onward : Onward session
          (session.rejectEmpty id resolver archive output none) id :=
        (session.rejectEmpty_keepsLinks id resolver archive output none).onward
          touches.skeleton (session.rejectEmpty_temporaries id resolver archive output)
      exact Advances.own stands quiet own onward touches
        ⟨own.of_skeleton touches.skeleton quiet, spare.of_skeleton touches.skeleton⟩
    · next filled =>
      rw [outputSize_eq] at filled
      exact Advances.stay stands quiet ⟨still, filled, spare⟩

/-- An artifact that is bound, and is not empty, stands. -/
theorem stands_of_bind {files : Files} {output : String} {content : UnitContent}
    (isDurable : ∃ text, output = durable resolver text) (filled : files.shownLength output ≠ 0)
    (bound : UnitContent.bind resolver.platform files output = .ok content) :
    Stands resolver files output (files.read output) := by
  obtain ⟨location, bytes, modified, shown⟩ := UnitContent.shown_of_bind bound
  have nonempty : bytes ≠ [] := by
    rintro rfl
    simp [Files.shownLength, shown] at filled
  exact ⟨isDurable, ⟨location, bytes, modified, shown, nonempty, Files.read_of_shown shown⟩,
    content, bound⟩

/-- What was registered with success, and is not empty, stands. -/
theorem Ready.registered (ready : Ready session id holder resolver) {output : String}
    (isDurable : ∃ text, output = durable resolver text)
    (filled : session.files.shownLength output ≠ 0) {name : String} {unit : Nat}
    (registered : (session.register id name output none).2 = .ok unit) :
    Stands resolver session.files output (session.files.read output) := by
  rcases session.register_cases id name output none with
    ⟨error, failed⟩ | ⟨now, size, content, there, _, bound, _⟩
  · rw [failed] at registered
    cases registered
  · obtain ⟨opened, stood, _, platform⟩ := ready.opened
    rw [there] at stood
    obtain rfl := Option.some.inj stood
    rw [platform] at bound
    exact stands_of_bind isDurable filled bound

/-- Nothing is registered by a step of which nothing is noted. -/
theorem noneBound_nil (events : List LoadEvent) : NoneBound events (events ++ []) := by
  rw [List.append_nil]
  exact fun _ _ bound => bound

/-- Registering an artifact that is not empty. From now on it stands, with those that stood. -/
theorem Ready.register_stands (ready : Ready session id holder resolver)
    (stands : AllStand resolver session.files events) {output : String}
    (isDurable : ∃ text, output = durable resolver text)
    (filled : session.files.shownLength output ≠ 0) {after : Session} {unit : Nat}
    (registered : session.register id (Path.unitName output) output none = (after, .ok unit))
    (load : Nat) (isCompiled : Bool) :
    AllStand resolver after.files
      (events ++ [.bound load output (session.files.read output) unit isCompiled]) := by
  obtain ⟨onward, spares⟩ := ready.register (Path.unitName output) output none
  have succeeded : (session.register id (Path.unitName output) output none).2 = .ok unit := by
    rw [registered]
  have new := ready.registered isDurable filled succeeded
  rw [registered] at spares
  intro another artifact bound
  rcases bound.concat with earlier | ⟨_, _, _, noted⟩
  · exact stands.spared spares another artifact earlier
  · cases noted
    obtain ⟨text, rfl⟩ := isDurable
    exact new.of_shown (spares.shown text)

/-- Registering the artifact that is there. -/
theorem reuse_advances (ready : Ready session id holder resolver)
    (stands : AllStand resolver session.files events) (load : Nat) {output : String}
    (isDurable : ∃ text, output = durable resolver text)
    (filled : session.files.shownLength output ≠ 0) :
    Advances id resolver session (session.reuse id output).1
      (events ++ session.noteAdvance load (.reusing output) (session.reuse id output).2)
      (session.reuse id output).2 := by
  obtain ⟨onward, spares⟩ := ready.register (Path.unitName output) output none
  unfold reuse
  rcases heard : session.register id (Path.unitName output) output none with ⟨after, error | unit⟩
  all_goals rw [heard] at onward spares
  · exact Advances.spare stands (noneBound_nil events) onward spares trivial
  · exact ⟨onward, ready.register_stands stands isDurable filled heard load false, trivial⟩

/-- Registering a new artifact. -/
theorem registerNew_advances (ready : Ready session id holder resolver)
    (stands : AllStand resolver session.files events) (load : Nat) {output archive : String}
    (own : Own resolver session.files events output)
    (filled : session.files.shownLength output ≠ 0)
    (spare : Spare resolver session.files archive) :
    Advances id resolver session (session.registerNew id output archive).1
      (events ++ session.noteAdvance load (.registering output archive)
        (session.registerNew id output archive).2)
      (session.registerNew id output archive).2 := by
  obtain ⟨onward, spares⟩ := ready.register (Path.unitName output) output none
  have spareStill := spare.of_skeleton spares.skeleton
  unfold registerNew
  rcases heard : session.register id (Path.unitName output) output none with ⟨after, error | unit⟩
  all_goals rw [heard] at onward spares spareStill
  · have quiet := noneBound_nil events
    exact Advances.spare stands quiet onward spares
      ⟨own.of_skeleton spares.skeleton quiet, spareStill⟩
  · exact ⟨onward, ready.register_stands stands own.isDurable filled heard load true, spareStill⟩

/-- The end of the compile. -/
theorem finishCompile_advances (ready : Ready session id holder resolver)
    (stands : AllStand resolver session.files events) (quiet : NoneBound events later)
    (thread : Thread) {output archive : String} {result : Except LoadError Nat}
    (good : (Phase.finished output archive result).Good resolver session.files events) :
    Advances id resolver session (session.finishCompile id thread output archive result).1 later
      (session.finishCompile id thread output archive result).2 := by
  have unmarked : Onward session (session.unmarkBusy id thread) id :=
    (session.unmarkBusy_quiet id thread).toKeepsLinks.onward (SameSkeleton.refl _) rfl
  have now := ready.onward unmarked
  have onward := unmarked.trans now.settle_onward
  have spares : Spares resolver session.files (session.unmarkBusy id thread).settle.files :=
    now.settle_spares
  cases result with
  | ok unit =>
    have spare : Spare resolver session.files archive := good
    exact Advances.spare stands quiet onward spares (spare.of_skeleton spares.skeleton)
  | error error =>
    obtain ⟨own, spare⟩ : Own resolver session.files events output ∧
      Spare resolver session.files archive := good
    exact Advances.spare stands quiet onward spares
      ⟨own.of_skeleton spares.skeleton quiet, spare.of_skeleton spares.skeleton⟩

/-- Clearing up what a failed compile left. -/
theorem clear_advances (ready : Ready session id holder resolver)
    (stands : AllStand resolver session.files events) (quiet : NoneBound events later)
    {output archive : String} (own : Own resolver session.files events output)
    (spare : Spare resolver session.files archive) (error : LoadError) :
    Advances id resolver session (session.discard output) later
      (.discarding archive (.error error)) := by
  have touches := discard_touches ready own.isDurable
  have onward : Onward session (session.discard output) id :=
    (session.discard_keepsLinks output).onward touches.skeleton
      (session.discard_temporaries output)
  exact Advances.own stands quiet own onward touches (spare.of_skeleton touches.skeleton)

/-- Clearing up the archive. -/
theorem discardArchive_advances (stands : AllStand resolver session.files events)
    (quiet : NoneBound events later) {archive : String}
    (spare : Spare resolver session.files archive) (result : Except LoadError Nat) :
    Advances id resolver session (session.discard archive) later (.leaving result) := by
  have touches : Touches archive session.files (session.discard archive).files := by
    rw [discard_files]
    exact Files.removeIfExists_touches spare.plain
  have onward : Onward session (session.discard archive) id :=
    (session.discard_keepsLinks archive).onward touches.skeleton
      (session.discard_temporaries archive)
  exact Advances.spare stands quiet onward (spare.spares touches) trivial

/-- Only registering an artifact is noted as such. -/
theorem noteAdvance_quiet (load : Nat) (phase next : Phase)
    (notReused : ∀ output, phase ≠ .reusing output)
    (notNew : ∀ output archive, phase ≠ .registering output archive) :
    NoneBound events (events ++ session.noteAdvance load phase next) := by
  rintro output artifact ⟨other, unit, isCompiled, listed⟩
  rcases List.mem_append.mp listed with earlier | noted
  · exact ⟨other, unit, isCompiled, earlier⟩
  · unfold noteAdvance at noted
    split at noted
    · cases List.mem_singleton.mp noted
    · exact absurd rfl (notReused _)
    · exact absurd rfl (notNew _ _)
    · cases noted

/-- A step of a load leads onward, keeps every artifact standing that was registered, and keeps what
is known of the load. -/
theorem advance_advances (ready : Ready session id holder resolver)
    (stands : AllStand resolver session.files events) (load : Nat) (thread : Thread)
    (container : String) {phase : Phase} (good : phase.Good resolver session.files events) :
    Advances id resolver session (session.advance id resolver thread container phase).1
      (events ++ session.noteAdvance load phase
        (session.advance id resolver thread container phase).2)
      (session.advance id resolver thread container phase).2 := by
  by_cases isNew : ∃ output archive, phase = .registering output archive
  · obtain ⟨output, archive, rfl⟩ := isNew
    obtain ⟨own, filled, spare⟩ := good
    exact registerNew_advances ready stands load own filled spare
  by_cases isReused : ∃ output, phase = .reusing output
  · obtain ⟨output, rfl⟩ := isReused
    exact reuse_advances ready stands load good.1 good.2
  have quiet : NoneBound events (events ++ session.noteAdvance load phase
      (session.advance id resolver thread container phase).2) :=
    noteAdvance_quiet load phase _ (fun output same => isReused ⟨output, same⟩)
      fun output archive same => isNew ⟨output, archive, same⟩
  cases phase with
  | asked => exact checkSource_advances stands quiet container
  | readable => exact findOutput_advances stands quiet container
  | waiting output => exact Advances.stay stands quiet good
  | entered output => exact checkOutput_advances stands quiet good
  | reusing output => exact absurd ⟨output, rfl⟩ isReused
  | staging output =>
    have step : session.advance id resolver thread container (.staging output) =
        session.stageArchive resolver container output := rfl
    rw [step] at quiet ⊢
    exact stageArchive_advances ready stands quiet container good.1 good.2
  | packaging output archive =>
    have step : session.advance id resolver thread container (.packaging output archive) =
        session.packageArchive container output archive := rfl
    rw [step] at quiet ⊢
    exact packageArchive_advances stands quiet container good.1 good.2.1 good.2.2
  | packaged output archive =>
    have step : session.advance id resolver thread container (.packaged output archive) =
        (session, .packaged output archive) := rfl
    rw [step] at quiet ⊢
    exact Advances.stay stands quiet
      ⟨good.1.of_skeleton (SameSkeleton.refl _) quiet, good.2.1, good.2.2⟩
  | compiling output archive =>
    have step : session.advance id resolver thread container (.compiling output archive) =
        (session, .compiling output archive) := rfl
    rw [step] at quiet ⊢
    exact Advances.stay stands quiet ⟨good.1.of_skeleton (SameSkeleton.refl _) quiet, good.2⟩
  | compiled output archive result =>
    have step : session.advance id resolver thread container (.compiled output archive result) =
        session.judge id resolver output archive result := rfl
    rw [step] at quiet ⊢
    exact judge_advances ready stands quiet good.1 good.2 result
  | registering output archive => exact absurd ⟨output, archive, rfl⟩ isNew
  | finished output archive result =>
    have step : session.advance id resolver thread container (.finished output archive result) =
        session.finishCompile id thread output archive result := rfl
    rw [step] at quiet ⊢
    exact finishCompile_advances ready stands quiet thread good
  | clearing output archive error => exact clear_advances ready stands quiet good.1 good.2 error
  | discarding archive result => exact discardArchive_advances stands quiet good result
  | leaving result => exact Advances.stay stands quiet trivial
  | ended result => exact Advances.stay stands quiet trivial

end

/-! ## Any step of any load -/

/-- A load that moves on and leads onward keeps everything known of all loads. -/
theorem Sound.move {state : Loads} (sound : Sound state id holder resolver) {load : Nat}
    {thread : Thread} {container : String} {phase next : Phase}
    (there : state.loads[load]? = some ⟨thread, container, phase⟩)
    (inside : phase.isInside = true) {after : Session} {later : List LoadEvent}
    {isLocked : Bool}
    (locked : Locked ⟨after, isLocked, state.loads.set load ⟨thread, container, next⟩, later⟩)
    (advances : Advances id resolver state.session after later next) :
    Sound ⟨after, isLocked, state.loads.set load ⟨thread, container, next⟩, later⟩ id holder
      resolver where
  locked := locked
  ready := sound.ready.onward advances.onward
  stands := advances.stands
  good := by
    intro other found now
    rw [getElem?_moved there] at now
    split at now
    · cases now
      exact advances.good
    · next away =>
      -- Every other load is before the lock or behind it, so nothing it relies on has changed.
      refine (sound.good other found now).outside ?_
      rw [← Bool.not_eq_true]
      intro otherInside
      exact away (sound.locked.alone other load found _ now there otherInside inside)

/-- The steps of a load before the lock and behind it leave the session alone. -/
theorem advance_outside (id : Nat) (resolver : Resolver) (session : Session) (load : Nat)
    (thread : Thread) (container : String) {phase : Phase} (outside : phase.isInside = false) :
    (session.advance id resolver thread container phase).1 = session ∧
      session.noteAdvance load phase (session.advance id resolver thread container phase).2 =
        [] := by
  cases phase with
  | asked =>
    have step : session.advance id resolver thread container .asked =
        session.checkSource container := rfl
    rw [step]
    unfold checkSource
    split <;> exact ⟨rfl, rfl⟩
  | readable =>
    have step : session.advance id resolver thread container .readable =
        session.findOutput resolver container := rfl
    rw [step]
    unfold findOutput
    split <;> exact ⟨rfl, rfl⟩
  | waiting | ended => exact ⟨rfl, rfl⟩
  | entered | reusing | staging | packaging | packaged | compiling | compiled | registering
  | finished | clearing | discarding | leaving => cases outside

/-- A load that moves on and leaves the session alone keeps everything known of all loads. -/
theorem Sound.stay {state : Loads} (sound : Sound state id holder resolver) {load : Nat}
    {thread : Thread} {container : String} {phase next : Phase}
    (there : state.loads[load]? = some ⟨thread, container, phase⟩) {isLocked : Bool}
    (locked : Locked ⟨state.session, isLocked, state.loads.set load ⟨thread, container, next⟩,
      state.events⟩) (good : next.Good resolver state.session.files state.events) :
    Sound ⟨state.session, isLocked, state.loads.set load ⟨thread, container, next⟩, state.events⟩
      id holder resolver where
  locked := locked
  ready := sound.ready
  stands := sound.stands
  good := by
    intro other found now
    rw [getElem?_moved there] at now
    split at now
    · cases now
      exact good
    · exact sound.good other found now

/-- Every step keeps everything known of all loads. A step outside of the lock leaves all artifacts
alone. Under the lock there is one load only, and what its step comes to is told phase by phase by
`Advances`. -/
theorem LoadStep.sound {state next : Loads} (step : LoadStep id resolver state next)
    (sound : Sound state id holder resolver) : Sound next id holder resolver := by
  have locked := step.locked sound.locked
  cases step with
  | ask thread container =>
    refine ⟨locked, sound.ready, sound.stands, ?_⟩
    intro load found now
    rcases getElem?_asked now with earlier | ⟨_, rfl⟩
    · exact sound.good load found earlier
    · trivial
  | enter load thread container output there open_ =>
    exact sound.stay there locked (sound.good load _ there)
  | advance load thread container phase there =>
    have advances := advance_advances sound.ready sound.stands load thread container
      (sound.good load _ there)
    cases inside : phase.isInside with
    | true => exact sound.move there inside locked advances
    | false =>
      obtain ⟨same, nothing⟩ := advance_outside id resolver state.session load thread container
        inside
      rw [same, nothing, List.append_nil] at advances
      rw [same, nothing, List.append_nil] at locked ⊢
      exact sound.stay there locked advances.good
  | invoke load thread container output archive there =>
    obtain ⟨own, _, spare⟩ := sound.good load _ there
    have called : KeepsLinks state.session ((state.session.markBusy id thread).noteInvocation id
        thread ⟨archive, output, true⟩) :=
      (state.session.markBusy_quiet id thread).toKeepsLinks.trans ⟨rfl, Nat.le_refl _⟩
    have quiet : NoneBound state.events
        (state.events ++ [.invoked load output (state.session.outputSize output)]) := by
      intro another artifact bound
      rcases bound.concat with earlier | ⟨_, _, _, noted⟩
      · exact earlier
      · cases noted
    refine sound.move there rfl locked ⟨called.onward (SameSkeleton.refl _) rfl, ?_, ?_⟩
    · exact sound.stands.later quiet
    · exact ⟨own.of_skeleton (SameSkeleton.refl _) quiet, spare⟩
  | work load thread container output archive files there through =>
    obtain ⟨own, spare⟩ := sound.good load _ there
    obtain ⟨text, isDurable⟩ := own.isDurable
    have touches := through.touches (isDurable ▸ sound.ready.plain text)
    have onward : Onward state.session { state.session with files } id :=
      Onward.files state.session touches.skeleton
    refine ⟨locked, sound.ready.onward onward, sound.stands.touched own touches, ?_⟩
    intro other found now
    by_cases same : other = load
    · rw [same, there] at now
      cases now
      exact ⟨own.of_skeleton touches.skeleton fun _ _ bound => bound,
        spare.of_skeleton touches.skeleton⟩
    · refine (sound.good other found now).outside ?_
      rw [← Bool.not_eq_true]
      intro otherInside
      exact same (sound.locked.alone other load found _ now there otherInside rfl)
  | return_ load thread container output archive result there =>
    exact sound.stay there locked (sound.good load _ there)
  | leave load thread container result there => exact sound.stay there locked trivial

end Session

end Hotload
