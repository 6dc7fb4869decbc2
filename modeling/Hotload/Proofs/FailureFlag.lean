import Hotload.Proofs.CacheRuns
import Hotload.Proofs.FailedLoads
import Hotload.Proofs.GivenNumbers
import Hotload.Proofs.ResolverViews
import Hotload.Proofs.Traces

/-!
# The failure that a resolver remembers

A resolver remembers for good that a compile left nothing behind. It is the only error of a call that
it remembers: the memory tells exactly whether a definition or a load of a container has reported an
empty output. Such a report is made exactly when the compiler was called, reported success, and left
no file or an empty one at the path of the artifact, whatever exit code and log it gave. Then nothing
is registered and neither the artifact nor the archive is left.
-/

namespace Hotload

open Files

namespace Files

/-- A path shows no file, or one without content. -/
def ShowsNothing (files : Files) (path : String) : Prop :=
  files.shown? path = none ∨ ∃ location modified,
    files.shown? path = some (location, .file [] modified)

/-- The length that a path shows is zero just if it shows no file, or one without content. -/
theorem shownLength_eq_zero_iff {files : Files} {path : String} :
    files.shownLength path = 0 ↔ files.ShowsNothing path := by
  unfold shownLength ShowsNothing
  rcases files.shown? path with _ | ⟨location, ⟨content, modified⟩ | _ | target⟩
  · simp
  · simp [List.length_eq_zero_iff]
  · simp
  · simp

end Files

/-! ## Calls and their compiles -/

/-- Why a call fails, if it does. -/
def failureOf {Result : Type} : Except LoadError Result → Option LoadError
  | .ok _ => none
  | .error error => some error

/-- A failure that says that a compile left nothing behind. -/
def LoadError.isEmptyOutput : LoadError → Bool
  | .emptyOutput _ => true
  | _ => false

/-- A call that may come to the compiler of a resolver. -/
inductive PipelineCall where
  | define (name : String) (content : Bytes)
  | loadContainer (container : String)

/-- The operation that makes the call. -/
def PipelineCall.operation (id : Nat) (thread : Thread) : PipelineCall → Operation
  | .define name content => .define id thread name content
  | .loadContainer container => .loadContainer id thread container

/-- A compile as a call comes to it: what the session is by then, and what is to be compiled. -/
structure Compiling where
  session : Session
  resolver : Resolver
  archive : String
  output : String
  name : String
  temporary : Option Nat

namespace Compiling

/-- What the compiler is asked to do. -/
def request (compiling : Compiling) : CompileRequest :=
  ⟨compiling.archive, compiling.output, true⟩

/-- What the compiler makes of the tree, and what it reports. -/
def answer (compiling : Compiling) : Files × Except CompilerError CompileOutcome :=
  compiling.resolver.compiler compiling.request compiling.session.files

/-- The compiler reports success, with any exit code and log, and there is no file at the path of
the artifact, or an empty one. -/
def LeavesNothing (compiling : Compiling) : Prop :=
  (∃ outcome, compiling.answer.2 = .ok outcome) ∧ compiling.answer.1.ShowsNothing compiling.output

/-- The compile itself. -/
def run (compiling : Compiling) (id : Nat) (thread : Thread) : Session × Except LoadError Nat :=
  compiling.session.compile id compiling.resolver thread compiling.archive compiling.output
    compiling.name compiling.temporary

end Compiling

/-- Whether an operation may mark threads or take marks away. -/
def Operation.marks : Operation → Bool
  | .define .. | .loadContainer .. | .unloadAfter .. | .markBusy .. | .unmarkBusy .. | .pass _ => true
  | _ => false

namespace Session

/-- The compile that a definition comes to, unless staging or packaging fails. -/
def definitionCompile? (session : Session) (resolver : Resolver) (name : String)
    (content : Bytes) : Option Compiling :=
  match session.stage resolver.staging name (some resolver.staging.archiveExtension) false with
  | (_, .error _) => none
  | (staged, .ok archive) =>
    match Packaging.packageBytes archive (Symbol.entryPath name) content staged.files with
    | (_, .error _) => none
    | (files, .ok ()) =>
      match ({ staged with files }).stage resolver.staging ("unit-" ++ archive)
        resolver.staging.artifactExtension true with
      | (_, .error _) => none
      | (after, .ok output) =>
        let (tracked, temporary) := after.track resolver.reaper output
        some ⟨tracked, resolver, archive, output, Path.unitName output, some temporary⟩

/-- The compile that a load of a container comes to, unless there is none to read, its artifact is
there, or staging or packaging fails. -/
def containerCompile? (session : Session) (resolver : Resolver) (container : String) :
    Option Compiling :=
  if !session.files.isFile container then none
  else
    match resolver.staging.durablePath container session.files with
    | .error _ => none
    | .ok output =>
      if session.outputSize output = 0 then
        match session.stage resolver.staging container (some resolver.staging.archiveExtension)
          false with
        | (_, .error _) => none
        | (staged, .ok archive) =>
          match Packaging.packageContainer archive container staged.files with
          | (_, .error _) => none
          | (files, .ok _) =>
            some ⟨{ staged with files }, resolver, archive, output, Path.unitName output, none⟩
      else none

/-- The compile that a call on a resolver comes to, if it does. -/
def compiling? (session : Session) (id : Nat) (call : PipelineCall) : Option Compiling :=
  (session.resolvers.get? id).bind fun resolver =>
    match call with
    | .define name content => session.definitionCompile? resolver name content
    | .loadContainer container => session.containerCompile? resolver container

/-- Makes a call on a resolver. The result is the reason of its failure, if it fails. -/
def call (session : Session) (id : Nat) (thread : Thread) :
    PipelineCall → Session × Option LoadError
  | .define name content =>
    ((session.define id thread name content).1,
      failureOf (session.define id thread name content).2)
  | .loadContainer container =>
    ((session.loadContainer id thread container).1,
      failureOf (session.loadContainer id thread container).2)

theorem perform_operation (session : Session) (id : Nat) (thread : Thread) (call : PipelineCall) :
    session.perform (call.operation id thread) = (session.call id thread call).1 := by
  cases call <;> rfl

/-! ## How calls end -/

variable {session before after : Session} {id : Nat} {thread : Thread}

/-- Every file of passing use has been given its number. -/
def TemporariesGiven (session : Session) : Prop :=
  ∀ id, session.temporaries.has id = true → id < session.fresh

/-- A step on the way to a compile: no loader changes, no compiler is called, and nothing is tracked
but under new numbers. -/
structure Prepares (before after : Session) : Prop where
  resolvers : after.resolvers = before.resolvers
  units : after.units = before.units
  invocations : after.invocations = before.invocations
  fresh : before.fresh ≤ after.fresh
  tracks : TracksGiven before after

theorem Prepares.trans {first second third : Session} (left : Prepares first second)
    (right : Prepares second third) : Prepares first third where
  resolvers := right.resolvers.trans left.resolvers
  units := right.units.trans left.units
  invocations := right.invocations.trans left.invocations
  fresh := Nat.le_trans left.fresh right.fresh
  tracks other tracked :=
    (right.tracks other tracked).elim
      (fun middle => (left.tracks other middle).imp_right fun given =>
        Nat.lt_of_lt_of_le given right.fresh)
      .inr

theorem Prepares.keepsView {Shown : Type} {view : Resolver → Shown} (prepares : Prepares before after) :
    KeepsView view id before after :=
  keepsView_of_resolvers prepares.fresh prepares.tracks prepares.resolvers

/-- Staging is such a step, and so is what is written to the staged path. -/
theorem stage_prepares {staging : Staging} {key : String} {extension : Option String} {create : Bool}
    {result : Except LoadError String}
    (staged : session.stage staging key extension create = (after, result)) (files : Files) :
    Prepares session after ∧ Prepares session { after with files } ∧
      after.temporaries = session.temporaries ∧ after.fresh = session.fresh + 1 := by
  have rest := session.stage_rest staging key extension create
  rw [staged] at rest
  dsimp only at rest
  rw [rest]
  have tracks : ∀ given : Session, given.temporaries = session.temporaries →
      TracksGiven session given := fun _ same _ tracked => .inl (same ▸ tracked)
  exact ⟨⟨rfl, rfl, rfl, Nat.le_succ _, tracks _ rfl⟩, ⟨rfl, rfl, rfl, Nat.le_succ _, tracks _ rfl⟩,
    rfl, rfl⟩

theorem discard_prepares (session : Session) (path : String) :
    Prepares session (session.discard path) := by
  unfold discard
  split <;> exact ⟨rfl, rfl, rfl, Nat.le_refl _, fun _ tracked => .inl tracked⟩

/-- What a call finds when it comes to a compile. -/
structure Fits (session : Session) (compiling : Compiling) : Prop where
  prepared : Prepares session compiling.session
  tracked : TemporariesGiven session → ∀ id ∈ compiling.temporary,
    compiling.session.temporaries.get? id = some ⟨compiling.output, false⟩

/-- A compile of an artifact that lasts tracks no temporary one. -/
theorem Fits.durable {compiling : Compiling} (prepared : Prepares session compiling.session)
    (lasts : compiling.temporary = none) : session.Fits compiling where
  prepared := prepared
  tracked := by
    intro _ id tracked
    rw [lasts] at tracked
    cases tracked

/-- How a call ends: without a compile, with the error of its compile, or as it may after a compile
that succeeded. -/
inductive CallOutcome (session : Session) (id : Nat) (thread : Thread) :
    Option Compiling → Session → Option LoadError → Prop
  | uncompiled {after : Session} {failure : Option LoadError}
      (keeps : ∀ other, KeepsView (·.hasFailed) other session after)
      (unrecorded : after.invocations = session.invocations)
      (other : ∀ error ∈ failure, error.isEmptyOutput = false) :
      CallOutcome session id thread none after failure
  | failed {compiling : Compiling} (fits : session.Fits compiling) {later after : Session}
      {error : LoadError} (ran : compiling.run id thread = (later, .error error))
      (left : after = later.discard compiling.archive ∨
        after = (later.discard compiling.output).discard compiling.archive) :
      CallOutcome session id thread (some compiling) after (some error)
  | compiled {compiling : Compiling} (fits : session.Fits compiling) {later after : Session}
      {number : Nat} {failure : Option LoadError}
      (ran : compiling.run id thread = (later, .ok number))
      (keeps : ∀ other, KeepsView (·.hasFailed) other later after)
      (unrecorded : after.invocations = later.invocations)
      (other : ∀ error ∈ failure, error.isEmptyOutput = false) :
      CallOutcome session id thread (some compiling) after failure

/-- Look-ups call no compiler. -/
theorem invocations_follows : Follows fun before after => after.invocations = before.invocations where
  refl _ := rfl
  trans left right := right.trans left
  log _ _ := rfl
  makeSymbol _ _ _ _ _ := rfl
  remember session id name symbol := by
    unfold remember
    split
    · rfl
    · split <;> rfl

/-- Reading back calls no compiler, and fails for reasons of its own. -/
theorem readBack_quietly (session : Session) (unit : Nat) (name : String) :
    (session.readBack unit name).1.invocations = session.invocations ∧
      ∀ error ∈ failureOf (session.readBack unit name).2, error.isEmptyOutput = false := by
  have asked := invocations_follows.find session (.unit unit) name
  unfold readBack
  split
  all_goals
    next heard =>
      rw [heard] at asked
      refine ⟨asked, ?_⟩
      simp [failureOf, LoadError.isEmptyOutput]

/-- A definition ends in one of these ways. -/
theorem define_outcome {resolver : Resolver} (present : session.resolvers.get? id = some resolver)
    (name : String) (content : Bytes) :
    CallOutcome session id thread (session.definitionCompile? resolver name content)
      (session.define id thread name content).1
      (failureOf (session.define id thread name content).2) := by
  unfold define definitionCompile? compileBytes
  rw [present]
  dsimp only
  rcases isStaged : session.stage resolver.staging name (some resolver.staging.archiveExtension)
    false with ⟨staged, refusal | archive⟩
  · obtain ⟨prepared, -⟩ := stage_prepares isStaged staged.files
    obtain ⟨cause, rfl⟩ := stage_error isStaged
    exact .uncompiled (fun _ => prepared.keepsView) prepared.invocations (by simp [failureOf, LoadError.isEmptyOutput])
  dsimp only
  rcases Packaging.packageBytes archive (Symbol.entryPath name) content staged.files with
    ⟨files, cause | ⟨⟩⟩
  · obtain ⟨-, prepared, -⟩ := stage_prepares isStaged files
    have discarded := prepared.trans (discard_prepares { staged with files } archive)
    exact .uncompiled (fun _ => discarded.keepsView) discarded.invocations
      (by simp [failureOf, LoadError.isEmptyOutput])
  obtain ⟨-, packaged, temporaries, fresh⟩ := stage_prepares isStaged files
  dsimp only
  unfold compileTemporary
  dsimp only
  rcases isOutput : stage { staged with files } resolver.staging ("unit-" ++ archive)
    resolver.staging.artifactExtension true with ⟨after, refusal | output⟩
  · obtain ⟨prepared, -⟩ := stage_prepares isOutput after.files
    have discarded := (packaged.trans prepared).trans (discard_prepares after archive)
    obtain ⟨cause, rfl⟩ := stage_error isOutput
    exact .uncompiled (fun _ => discarded.keepsView) discarded.invocations
      (by simp [failureOf, LoadError.isEmptyOutput])
  obtain ⟨staged, -, kept, next⟩ := stage_prepares isOutput after.files
  have fits : session.Fits ⟨(after.track resolver.reaper output).1, resolver, archive, output,
      Path.unitName output, some (after.track resolver.reaper output).2⟩ := by
    refine ⟨(packaged.trans staged).trans
      ⟨rfl, rfl, rfl, Nat.le_succ _, track_tracksGiven after resolver.reaper output⟩, ?_⟩
    rintro given _ ⟨⟩
    have vacant : after.temporaries.has after.fresh = false := by
      refine Bool.eq_false_iff.mpr fun present => ?_
      rw [kept] at present
      have earlier : after.fresh < session.fresh := given _ (temporaries ▸ present)
      dsimp only at next
      omega
    exact Table.get?_add_new _ vacant _
  dsimp only
  rcases ran : (after.track resolver.reaper output).1.compile id resolver thread archive output
    (Path.unitName output) (some (after.track resolver.reaper output).2) with ⟨later, error | number⟩
  · exact .failed fits ran (.inl rfl)
  · obtain ⟨unrecorded, other⟩ := (later.discard archive).readBack_quietly number name
    exact .compiled fits ran
      (fun _ => (discard_keepsView later archive).trans (readBack_keepsView (fun _ _ => rfl) _ number name))
      (unrecorded.trans (discard_invocations later archive)) other

/-- A registration fails for reasons of its own. -/
theorem register_quietly (session : Session) (id : Nat) (name artifact : String)
    (temporary : Option Nat) :
    ∀ error ∈ failureOf (session.register id name artifact temporary).2,
      error.isEmptyOutput = false := by
  unfold register
  repeat' split
  all_goals simp [failureOf, LoadError.isEmptyOutput]

/-- A load of a container ends as its compile tells, if it comes to one. -/
theorem loadContainer_outcome {resolver : Resolver}
    (present : session.resolvers.get? id = some resolver) (container : String) :
    CallOutcome session id thread (session.containerCompile? resolver container)
      (session.loadContainer id thread container).1
      (failureOf (session.loadContainer id thread container).2) := by
  have unreadable : CallOutcome session id thread none session
      (some (.sourceUnavailable container)) :=
    .uncompiled (fun _ => .refl session) rfl (by simp [LoadError.isEmptyOutput])
  unfold loadContainer containerCompile?
  rw [present]
  dsimp only
  by_cases isFile : session.files.isFile container = true
  swap
  · simpa only [isFile, Bool.not_false, ↓reduceIte, failureOf] using unreadable
  simp only [isFile, Bool.not_true, Bool.false_eq_true, ↓reduceIte]
  rcases resolver.staging.durablePath container session.files with _ | output
  · exact unreadable
  unfold compileOrReuse
  dsimp only
  by_cases empty : session.outputSize output = 0
  swap
  · simp only [empty, ↓reduceIte]
    exact .uncompiled (fun _ => register_keepsView (fun _ _ => rfl) session id _ output none)
      (register_invocations session id _ output none) (register_quietly session id _ output none)
  simp only [empty, ↓reduceIte]
  unfold compileContainer
  rcases isStaged : session.stage resolver.staging container (some resolver.staging.archiveExtension)
    false with ⟨staged, refusal | archive⟩
  · obtain ⟨prepared, -⟩ := stage_prepares isStaged staged.files
    obtain ⟨cause, rfl⟩ := stage_error isStaged
    exact .uncompiled (fun _ => prepared.keepsView) prepared.invocations
      (by simp [failureOf, LoadError.isEmptyOutput])
  dsimp only
  rcases Packaging.packageContainer archive container staged.files with ⟨files, cause | count⟩
  all_goals obtain ⟨-, prepared, -⟩ := stage_prepares isStaged files
  · have discarded := prepared.trans (discard_prepares { staged with files } archive)
    exact .uncompiled (fun _ => discarded.keepsView) discarded.invocations
      (by simp [failureOf, LoadError.isEmptyOutput])
  dsimp only
  have fits : session.Fits ⟨{ staged with files }, resolver, archive, output, Path.unitName output,
      none⟩ := .durable prepared rfl
  rcases ran : compile { staged with files } id resolver thread archive output (Path.unitName output)
    none with ⟨later, error | number⟩
  · exact .failed fits ran (.inr rfl)
  · exact .compiled fits ran (fun _ => discard_keepsView later archive)
      (discard_invocations later archive) (by simp [failureOf])

/-- Every call ends as its compile tells, if it comes to one. -/
theorem call_outcome (session : Session) (id : Nat) (thread : Thread) (call : PipelineCall) :
    CallOutcome session id thread (session.compiling? id call) (session.call id thread call).1
      (session.call id thread call).2 := by
  unfold compiling?
  cases present : session.resolvers.get? id with
  | none =>
    have nowhere : ∀ error : LoadError, error.isEmptyOutput = false →
        CallOutcome session id thread none session (some error) := fun error other =>
      .uncompiled (fun _ => .refl session) rfl (by simpa using other)
    cases call with
    | define name content =>
      simp only [Session.call, define, present]
      exact nowhere _ rfl
    | loadContainer container =>
      simp only [Session.call, loadContainer, present]
      exact nowhere _ rfl
  | some resolver =>
    rw [Option.bind_some]
    cases call with
    | define name content => exact define_outcome present name content
    | loadContainer container => exact loadContainer_outcome present container

/-! ## When a compile left nothing behind -/

/-- A call failed because its compile left nothing behind. -/
def reportsEmpty (failure : Option LoadError) : Bool :=
  failure.any LoadError.isEmptyOutput

/-- The session when the compiler has answered. -/
def invoked (compiling : Compiling) (id : Nat) (thread : Thread) : Session :=
  ((compiling.session.markBusy id thread).invoke id compiling.resolver thread compiling.request).1

/-- What a compile comes to before its mark is taken away: the compiler's own error, the report that
it left nothing behind, or a registration. -/
inductive MarkedOutcome (compiling : Compiling) (id : Nat) (thread : Thread) :
    Session → Except LoadError Nat → Prop
  | refused {error : CompilerError} (answered : compiling.answer.2 = .error error) :
      MarkedOutcome compiling id thread (invoked compiling id thread) (.error (.compiler error))
  | empty (nothing : compiling.LeavesNothing) :
      MarkedOutcome compiling id thread
        ((invoked compiling id thread).rejectEmpty id compiling.resolver compiling.archive
          compiling.output compiling.temporary)
        (.error (.emptyOutput compiling.archive))
  | registered (something : ¬ compiling.LeavesNothing) :
      MarkedOutcome compiling id thread
        ((invoked compiling id thread).register id compiling.name compiling.output
          compiling.temporary).1
        ((invoked compiling id thread).register id compiling.name compiling.output
          compiling.temporary).2

/-- A compile comes to its outcome, after which the mark is taken away and what is no longer needed
is let go of. -/
theorem run_outcome (compiling : Compiling) (id : Nat) (thread : Thread) :
    ∃ marked result, compiling.run id thread = ((marked.unmarkBusy id thread).settle, result) ∧
      MarkedOutcome compiling id thread marked result := by
  refine ⟨_, _, rfl, ?_⟩
  have isInvoked : (compiling.session.markBusy id thread).invoke id compiling.resolver thread
      ⟨compiling.archive, compiling.output, true⟩ =
        (invoked compiling id thread, compiling.answer.2) := rfl
  rw [isInvoked]
  rcases answered : compiling.answer.2 with error | outcome
  · exact .refused answered
  · dsimp only
    have length : (invoked compiling id thread).outputSize compiling.output =
        compiling.answer.1.shownLength compiling.output := outputSize_eq ..
    split
    · next none =>
      exact .empty ⟨⟨outcome, answered⟩, shownLength_eq_zero_iff.mp (length.symm.trans none)⟩
    · next some =>
      exact .registered fun nothing => some (length.trans (shownLength_eq_zero_iff.mpr nothing.2))

/-- A compile that left nothing behind reports so. -/
theorem run_of_leavesNothing {compiling : Compiling} (nothing : compiling.LeavesNothing) (id : Nat)
    (thread : Thread) :
    compiling.run id thread =
      ((((invoked compiling id thread).rejectEmpty id compiling.resolver compiling.archive
          compiling.output compiling.temporary).unmarkBusy id thread).settle,
        .error (.emptyOutput compiling.archive)) := by
  obtain ⟨marked, result, ran, outcome⟩ := run_outcome compiling id thread
  rw [ran]
  cases outcome with
  | refused answered =>
    obtain ⟨outcome, succeeded⟩ := nothing.1
    exact nomatch answered.symm.trans succeeded
  | registered something => exact absurd nothing something
  | empty _ => rfl

/-- A compile reports that it left nothing behind exactly when the compiler did so. -/
theorem run_emptyOutput_iff (compiling : Compiling) (id : Nat) (thread : Thread) (input : String) :
    (compiling.run id thread).2 = .error (.emptyOutput input) ↔
      compiling.archive = input ∧ compiling.LeavesNothing := by
  obtain ⟨marked, result, ran, outcome⟩ := run_outcome compiling id thread
  rw [ran]
  cases outcome with
  | refused answered =>
    refine iff_of_false (by simp) ?_
    rintro ⟨-, ⟨outcome, succeeded⟩, -⟩
    exact nomatch answered.symm.trans succeeded
  | empty nothing => simp [nothing]
  | registered something =>
    refine iff_of_false (fun reports => ?_) fun nothing => something nothing.2
    have other := register_quietly (invoked compiling id thread) id compiling.name compiling.output
      compiling.temporary
    rw [reports] at other
    exact Bool.noConfusion (other _ rfl)

/-- What a call changes of the failure that a resolver remembers: it is set if the call was made on
this resolver and reports that a compile left nothing behind. -/
abbrev RemembersReport (other id : Nat) (failure : Option LoadError) : Session → Session → Prop :=
  ChangesView (·.hasFailed) (· || (decide (other = id) && reportsEmpty failure)) other

/-- What keeps the view of failures makes no report. -/
theorem ChangesView.silent {other : Nat} (keeps : KeepsView (·.hasFailed) other before after)
    {failure : Option LoadError} (silent : ∀ error ∈ failure, error.isEmptyOutput = false) :
    RemembersReport other id failure before after := by
  have nothing : reportsEmpty failure = false := by
    cases failure with
    | none => rfl
    | some error => exact silent error rfl
  exact keeps.congr fun _ => by simp [nothing]

/-- A compile remembers its report. -/
theorem run_remembers (compiling : Compiling) (id : Nat) (thread : Thread) (other : Nat) :
    RemembersReport other id (failureOf (compiling.run id thread).2) compiling.session
      (compiling.run id thread).1 := by
  obtain ⟨marked, result, ran, outcome⟩ := run_outcome compiling id thread
  have called : KeepsView (·.hasFailed) other compiling.session (invoked compiling id thread) :=
    (markBusy_keepsView (fun _ _ => rfl) compiling.session id thread).trans
      (keepsView_of_rest (Nat.le_refl _) rfl rfl)
  have unmarked : KeepsView (·.hasFailed) other marked (marked.unmarkBusy id thread).settle :=
    (unmarkBusy_keepsView (fun _ _ => rfl) marked id thread).settle
  rw [ran]
  refine ChangesView.trans ?_ unmarked
  cases outcome with
  | refused answered => exact called.silent (by simp [failureOf, LoadError.isEmptyOutput])
  | empty nothing =>
    have rejected : ChangesView (·.hasFailed) (fun failed => if other = id then true else failed) other
        (invoked compiling id thread) ((invoked compiling id thread).rejectEmpty id
          compiling.resolver compiling.archive compiling.output compiling.temporary) :=
      rejectEmpty_changesView _ id _ _ _ _ fun _ => rfl
    refine (called.trans rejected).congr fun failed => ?_
    by_cases same : other = id <;> simp [same, failureOf, reportsEmpty, LoadError.isEmptyOutput]
  | registered something =>
    exact (called.trans (register_keepsView (fun _ _ => rfl) _ id _ _ _)).silent
      (register_quietly _ id _ _ _)

/-- A call remembers its report in the flag of its resolver, and in no other. -/
theorem call_remembers (session : Session) (id : Nat) (thread : Thread) (call : PipelineCall)
    (other : Nat) :
    RemembersReport other id (session.call id thread call).2 session
      (session.call id thread call).1 := by
  have outcome := session.call_outcome id thread call
  generalize session.call id thread call = ended at outcome ⊢
  obtain ⟨after, failure⟩ := ended
  generalize session.compiling? id call = compiling? at outcome
  cases outcome with
  | uncompiled keeps _ silent => exact (keeps other).silent silent
  | @failed compiling fits later _ error ran left =>
    have remembers := run_remembers compiling id thread other
    rw [ran] at remembers
    have discarded : KeepsView (·.hasFailed) other later after := by
      rcases left with rfl | rfl
      · exact discard_keepsView later compiling.archive
      · exact (discard_keepsView later compiling.output).trans (discard_keepsView _ compiling.archive)
    exact (fits.prepared.keepsView.trans remembers).trans discarded
  | @compiled compiling fits later _ number failure ran keeps _ silent =>
    have remembers := run_remembers compiling id thread other
    rw [ran] at remembers
    have kept : KeepsView (·.hasFailed) other compiling.session later :=
      remembers.congr fun failed => by simp [failureOf, reportsEmpty]
    exact ((fits.prepared.keepsView.trans kept).trans (keeps other)).silent silent

/-! ## Runs -/

section

variable {Shown : Type} {view : Resolver → Shown} {other : Nat}

/-- Opening a resolver changes nothing of those that have been given a number. -/
theorem openResolver_keepsView (session : Session) (config : Config) (compiler : Compiler)
    (platform : Platform) (parent : Option Loader) :
    KeepsView view other session (session.openResolver config compiler platform parent).1 := by
  have prepared : KeepsView view other session
      (session.prepare (Staging.ofConfig config).layout parent).1 := by
    unfold prepare
    split <;> exact keepsView_of_rest (Nat.le_refl _) rfl rfl
  unfold openResolver
  split
  · exact .refl session
  · dsimp only
    split
    · next heard =>
      rw [heard] at prepared
      exact prepared
    · next after heard =>
      rw [heard] at prepared
      refine prepared.trans ⟨Nat.le_add_right _ 2, fun _ tracked => .inl tracked, ?_⟩
      intro given later present
      have early : other < after.fresh := given
      have apart : other ≠ after.fresh + 1 := by omega
      have found := (Table.get?_add after.resolvers (after.fresh + 1) other _).symm.trans present
      rw [if_neg apart, Option.or_none] at found
      exact ⟨later, found, rfl⟩

/-- Opening a resolver and holding it changes nothing of those that have been given a number. -/
theorem openHeld_keepsView (session : Session) (holder : String) (config : Config)
    (compiler : Compiler) (platform : Platform) (parent : Option Loader) :
    KeepsView view other session (session.openHeld holder config compiler platform parent) := by
  have opened : KeepsView view other session
      (session.openResolver config compiler platform parent).1 :=
    session.openResolver_keepsView config compiler platform parent
  unfold openHeld
  split
  · next after id heard =>
    rw [heard] at opened
    exact ChangesView.settle (opened.trans (keepsView_of_rest (Nat.le_refl _) rfl rfl))
  · next heard =>
    rw [heard] at opened
    exact opened

end

section

variable {Shown : Type} {view : Resolver → Shown} {other : Nat}
variable (unregistered : ∀ (resolver : Resolver) registry,
  view { resolver with registry } = view resolver)
include unregistered

/-- An unload shows in the registry only. -/
theorem unload_keepsView (session : Session) (id : Nat) :
    KeepsView view other session (session.unload id).1 := by
  unfold unload
  split
  · exact .refl session
  · next resolver _ =>
    have purged : KeepsView view other session (session.purge resolver.layout).1 :=
      keepsView_of_rest (Nat.le_refl _) rfl rfl
    exact ChangesView.settle (purged.trans (updateResolver_keepsView _ id fun _ =>
      unregistered _ _))

variable (unlearnt : ∀ (resolver : Resolver) defined,
  view { resolver with defined } = view resolver)
variable (uncompiled : ∀ (resolver : Resolver) compiler,
  view { resolver with compiler } = view resolver)
variable (unchosen : ∀ (resolver : Resolver) localUnit defined,
  view { resolver with localUnit, defined } = view resolver)
include unlearnt uncompiled unchosen

/-- Away from compiles and marks, an operation shows in registries, compilers and look-ups only. -/
theorem perform_keepsView (session : Session) {operation : Operation}
    (unmarking : operation.marks = false) :
    KeepsView view other session (session.perform operation) := by
  cases operation with
  | define | loadContainer | markBusy | unmarkBusy | pass | unloadAfter => cases unmarking
  | openResolver holder config compiler platform parent =>
    exact session.openHeld_keepsView holder config compiler platform parent
  | changeFiles change => exact keepsView_of_rest (Nat.le_refl _) rfl rfl
  | addSystem | defineSystem | addReaper => exact keepsView_of_rest (Nat.le_succ _) rfl rfl
  | departLater => exact keepsView_of_rest (Nat.le_refl _) rfl rfl
  | setCompiler id compiler => exact updateResolver_keepsView session id fun _ => uncompiled _ _
  | loadArtifact id artifact =>
    unfold perform loadArtifact
    dsimp only
    split
    · exact register_keepsView unregistered session id _ artifact none
    · exact .refl session
  | register id name artifact temporary =>
    exact register_keepsView unregistered session id name artifact temporary
  | bind platform name artifact libraries parent =>
    unfold perform bind
    dsimp only
    split
    · exact .refl session
    · exact keepsView_of_rest (Nat.le_succ _) rfl rfl
  | unload id => exact unload_keepsView unregistered session id
  | setLocal id loader =>
    exact ChangesView.settle (updateResolver_keepsView session id fun _ => unchosen _ _ _)
  | find loader name => exact (keepsView_follows unlearnt).find session loader name
  | findRegistered id name => exact (keepsView_follows unlearnt).findRegistered session id name
  | hold | letGo => exact ChangesView.settle (keepsView_of_rest (Nat.le_refl _) rfl rfl)
  | track reaper path => exact track_keepsView session reaper path
  | release temporary => exact release_keepsView session temporary
  | sweep reaper =>
    unfold perform sweep
    dsimp only
    split <;> exact keepsView_of_rest (Nat.le_refl _) rfl rfl

end

theorem unloadAfter_keepsView (session : Session) (id : Nat) (thread : Option Thread)
    (policy : UnloadPolicy) (other : Nat) :
    KeepsView (·.hasFailed) other session (session.unloadAfter id thread policy).1 := by
  have waited : KeepsView (·.hasFailed) other session (session.wait id thread).1 :=
    wait_keepsView (fun _ _ => rfl) session id thread
  unfold unloadAfter
  dsimp only
  split
  · exact waited.trans (keepsView_of_rest (Nat.le_refl _) rfl rfl)
  · have unloaded := waited.trans
      (unload_keepsView (fun _ _ => rfl) (session.wait id thread).1 id)
    split <;> next heard => rw [heard] at unloaded; exact unloaded

/-- What an operation reports of a resolver: that it was a call on this resolver, whose compile left
nothing behind. -/
def ReportsEmpty (session : Session) (id : Nat) (operation : Operation) : Prop :=
  ∃ thread call input, operation = PipelineCall.operation id thread call ∧
    (session.call id thread call).2 = some (.emptyOutput input)

/-- A call that is made on a resolver reports what it fails with. -/
theorem reportsEmpty_call_iff (session : Session) (id other : Nat) (thread : Thread)
    (call : PipelineCall) :
    (decide (other = id) && reportsEmpty (session.call id thread call).2) = true ↔
      session.ReportsEmpty other (call.operation id thread) := by
  rw [Bool.and_eq_true, decide_eq_true_iff]
  constructor
  · rintro ⟨rfl, reports⟩
    obtain ⟨error, failure, isEmpty⟩ := (Option.any_eq_true ..).mp reports
    cases error with
    | emptyOutput input => exact ⟨thread, call, input, rfl, failure⟩
    | _ => cases isEmpty
  · rintro ⟨otherThread, otherCall, input, same, failure⟩
    cases call <;> cases otherCall <;> cases same <;> exact ⟨rfl, by rw [failure]; rfl⟩

/-- An operation sets the memory of a resolver just if it makes such a report. -/
theorem perform_remembers (session : Session) (id : Nat) (operation : Operation) :
    ∃ failed : Bool, (failed = true ↔ session.ReportsEmpty id operation) ∧
      ChangesView (·.hasFailed) (· || failed) id session (session.perform operation) := by
  have called : ∀ other thread (call : PipelineCall), ∃ failed : Bool,
      (failed = true ↔ session.ReportsEmpty id (call.operation other thread)) ∧
        ChangesView (·.hasFailed) (· || failed) id session
          (session.perform (call.operation other thread)) := fun other thread call =>
    ⟨_, session.reportsEmpty_call_iff other id thread call,
      session.perform_operation other thread call ▸ session.call_remembers other thread call id⟩
  by_cases isCall : ∃ other thread call, operation = PipelineCall.operation other thread call
  · obtain ⟨other, thread, call, rfl⟩ := isCall
    exact called other thread call
  have silent : ¬ session.ReportsEmpty id operation := fun ⟨thread, call, _, same, _⟩ =>
    isCall ⟨id, thread, call, same⟩
  suffices keeps : KeepsView (·.hasFailed) id session (session.perform operation) from
    ⟨false, by simp [silent], keeps.congr fun failed => (Bool.or_false failed).symm⟩
  cases quiet : operation.marks with
  | false =>
    exact perform_keepsView (fun _ _ => rfl) (fun _ _ => rfl) (fun _ _ => rfl) (fun _ _ _ => rfl)
      session quiet
  | true =>
    cases operation with
    | define other thread name content =>
      exact absurd ⟨other, thread, .define name content, rfl⟩ isCall
    | loadContainer other thread container =>
      exact absurd ⟨other, thread, .loadContainer container, rfl⟩ isCall
    | unloadAfter other thread policy => exact session.unloadAfter_keepsView other thread policy id
    | markBusy other thread => exact markBusy_keepsView (fun _ _ => rfl) session other thread
    | unmarkBusy other thread => exact unmarkBusy_keepsView (fun _ _ => rfl) session other thread
    | pass time => exact pass_keepsView (fun _ _ => rfl) session time
    | _ => cases quiet

/-! ## What an empty artifact leaves -/

/-- A compile that left nothing behind ends by letting go, after its artifact was deleted. -/
theorem run_empty {compiling : Compiling}
    (tracked : ∀ id ∈ compiling.temporary,
      compiling.session.temporaries.get? id = some ⟨compiling.output, false⟩)
    (nothing : compiling.LeavesNothing) (id : Nat) (thread : Thread) :
    ∃ unsettled, compiling.run id thread =
        (unsettled.settle, .error (.emptyOutput compiling.archive)) ∧
      Calm compiling.session unsettled ∧
        unsettled.files = (compiling.answer.1.removeIfExists compiling.output).1 := by
  rw [run_of_leavesNothing nothing id thread]
  have called := (compiling.session.markBusy id thread).invoke_ran id compiling.resolver thread
    compiling.request
  obtain ⟨noted, isNoted, same⟩ := called.rejectEmpty compiling.resolver compiling.archive
    compiling.output compiling.temporary
  have same : (invoked compiling id thread).rejectEmpty id compiling.resolver compiling.archive
      compiling.output compiling.temporary =
        noted.takeBack compiling.output compiling.temporary := same
  obtain ⟨calm, -, removed, -⟩ := isNoted.takenBack tracked
  exact ⟨_, rfl, same ▸ calm, same ▸ removed⟩

/-- Nothing is registered and nothing is left of the artifact. The archive is gone as well, unless the
compiler put a directory in its place, which cannot be deleted as a file. -/
structure LeavesNoUnit (session : Session) (compiling : Compiling) (after : Session) : Prop where
  registries : ∀ other later, after.resolvers.get? other = some later →
    ∃ earlier, session.resolvers.get? other = some earlier ∧ later.registry = earlier.registry
  units : ∀ number unit, after.units.get? number = some unit → session.units.get? number = some unit
  output : after.files.shown? compiling.output = none
  archive : after.files.shown? compiling.archive = none ∨
    ∃ location, compiling.answer.1.shown? compiling.archive = some (location, .directory)

/-- Deleting a file leaves what another path shows, or leaves nothing of it. -/
theorem shown_discard {found : Option (Location × Node)} {path other : String}
    (shown : session.files.shown? other = found ∨ session.files.shown? other = none) :
    (session.discard path).files.shown? other = found ∨
      (session.discard path).files.shown? other = none := by
  rw [discard_files]
  rcases session.files.shown_removeIfExists path other with same | gone
  · rwa [same]
  · exact .inr gone

/-- Letting go leaves what a path shows, or leaves nothing of it. -/
theorem shown_settle {found : Option (Location × Node)} {other : String}
    (shown : session.files.shown? other = found ∨ session.files.shown? other = none) :
    session.settle.files.shown? other = found ∨ session.settle.files.shown? other = none := by
  refine settle_files (fun files => files.shown? other = found ∨ files.shown? other = none) shown ?_
  intro files _ temporary now _ _ _
  rcases files.shown_removeIfExists temporary.path other with same | gone
  · rwa [same]
  · exact .inr gone

/-- Letting go adds no units, and leaves the registries of the resolvers that remain. -/
theorem Calm.settle_registries (calm : Calm before after) :
    (∀ other later, after.settle.resolvers.get? other = some later →
      ∃ earlier, before.resolvers.get? other = some earlier ∧ later.registry = earlier.registry) ∧
    ∀ number unit, after.settle.units.get? number = some unit →
      before.units.get? number = some unit := by
  obtain ⟨units, resolvers⟩ := settle_loaders after
  constructor
  · intro other later present
    rw [resolvers] at present
    have there := after.keptLoaders_pruned.resolver_before present
    have stands := calm.resolver other
    rw [there, Option.map_some] at stands
    obtain ⟨earlier, early, same⟩ := Option.map_eq_some_iff.mp stands.symm
    exact ⟨earlier, early, congrArg (·.1.registry) same.symm⟩
  · intro number unit present
    rw [units] at present
    exact calm.units ▸ after.keptLoaders_pruned.unit_before present

/-- A call whose compile left nothing behind leaves no unit, no artifact and no archive. -/
theorem call_leavesNoUnit (given : TemporariesGiven session) {call : PipelineCall}
    {compiling : Compiling} (comes : session.compiling? id call = some compiling)
    (nothing : compiling.LeavesNothing) :
    LeavesNoUnit session compiling (session.call id thread call).1 := by
  have outcome := session.call_outcome id thread call
  rw [comes] at outcome
  generalize session.call id thread call = ended at outcome ⊢
  obtain ⟨after, failure⟩ := ended
  cases outcome with
  | compiled fits ran _ _ _ =>
    obtain ⟨unsettled, ranEmpty, -⟩ := run_empty (fits.tracked given) nothing id thread
    exact nomatch (congrArg Prod.snd (ran.symm.trans ranEmpty))
  | @failed _ fits later _ error ran left =>
    obtain ⟨unsettled, ranEmpty, calm, removed⟩ := run_empty (fits.tracked given) nothing id thread
    obtain ⟨rfl, -⟩ := Prod.mk.inj (ran.symm.trans ranEmpty)
    obtain ⟨registries, units⟩ := calm.settle_registries
    rw [fits.prepared.resolvers, fits.prepared.units] at *
    -- The output showed no directory, so its removal leaves nothing there to be shown again.
    have noOutput : unsettled.files.shown? compiling.output = none := by
      rw [removed]
      rcases compiling.answer.1.shown_removeIfExists_own compiling.output with dark | ⟨_, shown, -⟩
      · exact dark
      · rcases nothing.2 with none | ⟨_, _, file⟩
        · exact nomatch none.symm.trans shown
        · exact nomatch file.symm.trans shown
    have outputAfter : unsettled.settle.files.shown? compiling.output = none ∨
        unsettled.settle.files.shown? compiling.output = none := shown_settle (.inl noOutput)
    have archiveAfter : unsettled.settle.files.shown? compiling.archive =
          compiling.answer.1.shown? compiling.archive ∨
        unsettled.settle.files.shown? compiling.archive = none :=
      shown_settle
        (removed ▸ compiling.answer.1.shown_removeIfExists compiling.output compiling.archive)
    obtain ⟨last, rfl, prepares, outputLast, archiveLast⟩ : ∃ last,
        after = last.discard compiling.archive ∧ Prepares unsettled.settle last ∧
          (last.files.shown? compiling.output = none ∨ last.files.shown? compiling.output = none) ∧
          (last.files.shown? compiling.archive = compiling.answer.1.shown? compiling.archive ∨
            last.files.shown? compiling.archive = none) := by
      rcases left with rfl | rfl
      · exact ⟨_, rfl, ⟨rfl, rfl, rfl, Nat.le_refl _, fun _ tracked => .inl tracked⟩, outputAfter,
          archiveAfter⟩
      · exact ⟨_, rfl, discard_prepares _ _, shown_discard outputAfter, shown_discard archiveAfter⟩
    have discarded := prepares.trans (discard_prepares last compiling.archive)
    refine ⟨?_, ?_, (or_self_iff.mp (shown_discard outputLast)), ?_⟩
    · rw [discarded.resolvers]
      exact registries
    · rw [discarded.units]
      exact units
    · rw [discard_files]
      refine (last.files.shown_removeIfExists_own compiling.archive).imp_right ?_
      rintro ⟨location, directory, -⟩
      refine ⟨location, ?_⟩
      rcases archiveLast with same | gone
      · exact same ▸ directory
      · exact nomatch gone.symm.trans directory

/-! ## Runs -/

/-- A step from a session in which every file of passing use has its number leads to another. -/
theorem ChangesView.temporariesGiven {Shown : Type} {view : Resolver → Shown} {change : Shown → Shown}
    (changes : ChangesView view change id before after) (given : TemporariesGiven before) :
    TemporariesGiven after := fun other tracked =>
  (changes.tracks other tracked).elim
    (fun there => Nat.lt_of_lt_of_le (given other there) changes.fresh)
    fun new => new

theorem TemporariesGiven.performAll (given : TemporariesGiven session) (operations : List Operation) :
    TemporariesGiven (session.performAll operations) := by
  induction operations generalizing session with
  | nil => exact given
  | cons operation rest inductionHypothesis =>
    obtain ⟨failed, -, changes⟩ := session.perform_remembers 0 operation
    exact inductionHypothesis (changes.temporariesGiven given)

theorem Reachable.temporariesGiven (reached : Reachable session) : TemporariesGiven session := by
  induction reached with
  | start files => exact fun _ tracked => nomatch tracked
  | @perform session _ operation inductionHypothesis =>
    obtain ⟨failed, -, changes⟩ := session.perform_remembers 0 operation
    exact changes.temporariesGiven inductionHypothesis

/-- An operation of a run reports that a compile of a resolver left nothing behind. -/
def ReportedEmpty (session : Session) (id : Nat) (operations : List Operation) : Prop :=
  ∃ earlier operation later, operations = earlier ++ operation :: later ∧
    (session.performAll earlier).ReportsEmpty id operation

theorem reportedEmpty_cons {operation : Operation} {rest : List Operation} :
    session.ReportedEmpty id (operation :: rest) ↔
      session.ReportsEmpty id operation ∨ (session.perform operation).ReportedEmpty id rest := by
  constructor
  · rintro ⟨_ | ⟨first, earlier⟩, reporting, later, same, reports⟩
    · obtain ⟨rfl, rfl⟩ := List.cons_eq_cons.mp same
      exact .inl reports
    · obtain ⟨rfl, rfl⟩ := List.cons_eq_cons.mp same
      exact .inr ⟨earlier, reporting, later, rfl, reports⟩
  · rintro (reports | ⟨earlier, reporting, later, rfl, reports⟩)
    · exact ⟨[], operation, rest, rfl, reports⟩
    · exact ⟨operation :: earlier, reporting, later, rfl, reports⟩

/-- A run sets the memory of a resolver just if one of its operations makes such a report. -/
theorem performAll_remembers (session : Session) (id : Nat) (operations : List Operation) :
    ∃ failed : Bool, (failed = true ↔ session.ReportedEmpty id operations) ∧
      ChangesView (·.hasFailed) (· || failed) id session (session.performAll operations) := by
  induction operations generalizing session with
  | nil =>
    refine ⟨false, iff_of_false (by simp) ?_, (KeepsView.refl session).congr fun _ =>
      (Bool.or_false _).symm⟩
    rintro ⟨earlier, operation, later, same, -⟩
    exact List.append_ne_nil_of_right_ne_nil _ (List.cons_ne_nil _ _) same.symm
  | cons operation rest inductionHypothesis =>
    obtain ⟨first, reportsFirst, changesFirst⟩ := session.perform_remembers id operation
    obtain ⟨others, reportsOthers, changesOthers⟩ := inductionHypothesis (session.perform operation)
    refine ⟨first || others, ?_, (changesFirst.trans changesOthers).congr fun _ =>
      Bool.or_assoc _ _ _⟩
    rw [Bool.or_eq_true, reportsFirst, reportsOthers, reportedEmpty_cons]

/-! ## The memory of a resolver -/

/-- A call reports that a compile left nothing behind exactly when the compile that it comes to did
so. -/
theorem call_emptyOutput_iff (session : Session) (id : Nat) (thread : Thread) (call : PipelineCall)
    (input : String) :
    (session.call id thread call).2 = some (.emptyOutput input) ↔
      ∃ compiling, session.compiling? id call = some compiling ∧ compiling.archive = input ∧
        compiling.LeavesNothing := by
  have outcome := session.call_outcome id thread call
  generalize session.call id thread call = ended at outcome ⊢
  generalize session.compiling? id call = compiling? at outcome ⊢
  obtain ⟨after, failure⟩ := ended
  cases outcome with
  | uncompiled _ _ silent =>
    exact iff_of_false (fun reports => Bool.noConfusion (silent _ reports)) (by simp)
  | @failed compiling _ _ _ _ ran _ =>
    have told := run_emptyOutput_iff compiling id thread input
    rw [ran] at told
    simpa using told
  | @compiled compiling _ _ _ _ _ ran _ _ silent =>
    refine iff_of_false (fun reports => Bool.noConfusion (silent _ reports)) ?_
    rintro ⟨_, ⟨⟩, rfl, nothing⟩
    have told := (run_emptyOutput_iff compiling id thread _).mpr ⟨rfl, nothing⟩
    rw [ran] at told
    cases told

/-- The compile that a call comes to is the one call of a compiler that it makes. -/
theorem call_invocations (session : Session) (id : Nat) (thread : Thread) (call : PipelineCall) :
    match session.compiling? id call with
    | none => (session.call id thread call).1.invocations = session.invocations
    | some compiling => ∃ invocation : Invocation, invocation.resolver = id ∧
        invocation.request = compiling.request ∧
          (session.call id thread call).1.invocations = session.invocations ++ [invocation] := by
  have outcome := session.call_outcome id thread call
  generalize session.call id thread call = ended at outcome ⊢
  generalize session.compiling? id call = compiling? at outcome ⊢
  obtain ⟨after, failure⟩ := ended
  have called : ∀ {compiling : Compiling} {later : Session} {result : Except LoadError Nat},
      session.Fits compiling → compiling.run id thread = (later, result) →
        ∃ invocation : Invocation, invocation.resolver = id ∧
          invocation.request = compiling.request ∧
            later.invocations = session.invocations ++ [invocation] := by
    intro compiling later result fits ran
    obtain ⟨invocation, recorded, caller, request⟩ := compiling.session.compile_invocations id
      compiling.resolver thread compiling.archive compiling.output compiling.name compiling.temporary
    rw [← Compiling.run, ran, fits.prepared.invocations] at recorded
    exact ⟨invocation, caller, request, recorded⟩
  cases outcome with
  | uncompiled _ unrecorded _ => exact unrecorded
  | failed fits ran left =>
    obtain ⟨invocation, caller, request, recorded⟩ := called fits ran
    refine ⟨invocation, caller, request, ?_⟩
    rcases left with rfl | rfl <;> simp only [discard_invocations, recorded]
  | compiled fits ran _ unrecorded _ =>
    obtain ⟨invocation, caller, request, recorded⟩ := called fits ran
    exact ⟨invocation, caller, request, unrecorded.trans recorded⟩

/-- What a resolver that was just opened tells of compiles that leave nothing behind: its flag says
whether there was one and stays once it is set, a call reports one exactly when its compiler left
nothing, and then there is no unit of it. -/
structure TellsFailures (opened : Session) (id : Nat) : Prop where
  /-- After any run of operations, the resolver remembers a failure exactly if a definition or a load
  on it reported an empty output. -/
  remembers : ∀ operations resolver,
    (opened.performAll operations).resolvers.get? id = some resolver →
      (resolver.hasFailed = true ↔ opened.ReportedEmpty id operations)
  /-- It never forgets, whatever happens after. -/
  stays : ∀ operations later resolver other,
    (opened.performAll operations).resolvers.get? id = some resolver → resolver.hasFailed = true →
      (opened.performAll (operations ++ later)).resolvers.get? id = some other →
        other.hasFailed = true
  /-- At any time, a call reports an empty output exactly when its compiler reported success and left
  nothing behind. -/
  reports : ∀ operations thread call input,
    ((opened.performAll operations).call id thread call).2 = some (.emptyOutput input) ↔
      ∃ compiling, (opened.performAll operations).compiling? id call = some compiling ∧
        compiling.archive = input ∧ compiling.LeavesNothing
  /-- That is the one call of a compiler that it makes. -/
  calls : ∀ operations thread call,
    match (opened.performAll operations).compiling? id call with
    | none => ((opened.performAll operations).call id thread call).1.invocations =
        (opened.performAll operations).invocations
    | some compiling => ∃ invocation : Invocation, invocation.resolver = id ∧
        invocation.request = compiling.request ∧
          ((opened.performAll operations).call id thread call).1.invocations =
            (opened.performAll operations).invocations ++ [invocation]
  /-- Such a call registers nothing, and artifact and archive are gone. -/
  leaves : ∀ operations thread call compiling,
    (opened.performAll operations).compiling? id call = some compiling → compiling.LeavesNothing →
      LeavesNoUnit (opened.performAll operations) compiling
        ((opened.performAll operations).call id thread call).1

/-- A resolver that was just opened remembers no failure. -/
theorem openHeld_unfailed (distinct : Distinct session) (holder : String) {config : Config}
    {compiler : Compiler} {platform : Platform} {parent : Option Loader}
    (opens : session.openResolver config compiler platform parent = (after, .ok id)) :
    id < (session.openHeld holder config compiler platform parent).fresh ∧ ∀ resolver,
      (session.openHeld holder config compiler platform parent).resolvers.get? id = some resolver →
        resolver.hasFailed = false := by
  obtain ⟨prior, resolver, vacant, unfailed, given, resolvers⟩ :
      ∃ (prior : Table Resolver) (resolver : Resolver), prior.get? id = none ∧
        resolver.hasFailed = false ∧ id < after.fresh ∧ after.resolvers = prior.add id resolver := by
    unfold openResolver at opens
    split at opens
    · cases opens
    dsimp only at opens
    split at opens
    · cases opens
    next prepared heard =>
    have early := distinct.keeps (prepare_keepsLinks session (Staging.ofConfig config).layout parent)
    rw [heard] at early
    obtain ⟨rfl, number⟩ := Prod.mk.inj opens
    obtain rfl := Except.ok.inj number
    refine ⟨prepared.resolvers, _, ?_, rfl, Nat.lt_succ_self _, rfl⟩
    by_contra there
    have given := early.resolversGiven _ (Table.has_iff.mp (Option.isSome_iff_ne_none.mpr there))
    exact absurd given (Nat.not_lt.mpr (Nat.le_succ _))
  unfold openHeld
  rw [opens]
  have settled : KeepsView (·.hasFailed) id (after.hold holder (.loader (.resolver id)))
      (after.hold holder (.loader (.resolver id))).settle := settle_keepsView _
  refine ⟨Nat.lt_of_lt_of_le given settled.fresh, fun later present => ?_⟩
  obtain ⟨earlier, early, same⟩ := settled.resolver given later present
  have added : after.resolvers.get? id = some earlier := early
  rw [resolvers, Table.get?_add, vacant, Option.none_or, if_pos rfl] at added
  obtain rfl := Option.some.inj added
  exact same.trans unfailed

/-- A resolver remembers for good whether a call on it has reported an empty output, and a call
reports that exactly when its compiler reported success and left no file or an empty one. The
resolver is one that was just opened, and any operations may follow. What a run reported is defined
along the run, so that the flag can be compared with it step by step, and each call is taken apart
at its compile. -/
theorem hasFailed_iff_emptyOutput (reached : Reachable session) {config : Config}
    {compiler : Compiler} {platform : Platform} {parent : Option Loader}
    (opens : session.openResolver config compiler platform parent = (after, .ok id))
    (holder : String) :
    TellsFailures (session.perform (.openResolver holder config compiler platform parent)) id := by
  obtain ⟨given, unfailed⟩ := openHeld_unfailed reached.distinct holder opens
  have tracked := (reached.perform (.openResolver holder config compiler platform parent)).temporariesGiven
  have remembered : ∀ operations resolver,
      ((session.perform (.openResolver holder config compiler platform parent)).performAll
        operations).resolvers.get? id = some resolver →
      (resolver.hasFailed = true ↔
        (session.perform (.openResolver holder config compiler platform parent)).ReportedEmpty id
          operations) := by
    intro operations resolver present
    obtain ⟨failed, reported, changes⟩ := performAll_remembers
      (session.perform (.openResolver holder config compiler platform parent)) id operations
    obtain ⟨earlier, early, same⟩ := changes.resolver given resolver present
    rw [same, unfailed earlier early, Bool.false_or, reported]
  refine ⟨remembered, ?_, fun operations => call_emptyOutput_iff _ id,
    fun operations => call_invocations _ id, fun operations thread call compiling comes nothing =>
      call_leavesNoUnit (tracked.performAll operations) comes nothing⟩
  intro operations later resolver other present failed presentLater
  obtain ⟨earlier, operation, rest, rfl, reports⟩ := (remembered _ _ present).mp failed
  exact (remembered _ _ presentLater).mpr
    ⟨earlier, operation, rest ++ later, by rw [List.append_assoc, List.cons_append], reports⟩

/-- A compiler that reports success and writes nothing. -/
def idle : Compiler := fun _ files => (files, .ok ⟨some 0, "done"⟩)

/-- A resolver whose compiler reports success and writes nothing reports an empty output. It
remembers that after its next load, with another compiler, has succeeded. -/
theorem hasFailed_iff_emptyOutput_idle :
    (∃ after, besideNothing.openResolver {} idle .archive none = (after, .ok 1)) ∧
      TellsFailures (besideNothing.perform (.openResolver "loader" {} idle .archive none)) 1 ∧
        ((besideNothing.perform (.openResolver "loader" {} idle .archive none)).performAll
          [.loadContainer 1 "main" "a.zip", .setCompiler 1 copying,
            .loadContainer 1 "main" "a.zip"]).resolvers.map
          (fun entry => (entry.2.hasFailed, entry.2.registry.length)) = [(true, 1)] := by
  have opens : besideNothing.openResolver {} idle .archive none =
      ((besideNothing.openResolver {} idle .archive none).1, .ok 1) := rfl
  exact ⟨⟨_, opens⟩, hasFailed_iff_emptyOutput (.start _) opens "loader", by decide +kernel⟩

end Session
end Hotload
