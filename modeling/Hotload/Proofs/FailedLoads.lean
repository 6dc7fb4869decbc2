import Hotload.Proofs.FailedCompiles
import Hotload.Proofs.FreshUnits
import Hotload.Proofs.LoadFiles

/-!
# Loads that fail

A load can fail because the container cannot be packaged, because of the compiler, because the
artifact is empty, or because it cannot be bound. In any case nothing is registered, and no artifact
is left that the next load of the container would take for a finished one. The price is that the path
of the artifact is cleared even of what was there before the load: an empty file goes, and so does a
link, though not what it led to.
-/

namespace Hotload

open Files

namespace Session

variable {session before after : Session} {id : Nat} {resolver : Resolver} {thread : Thread}
variable {container output name : String} {error : LoadError}

/-! ## The tree after a failed compile -/

/-- A compile of a lasting artifact that fails, and whose output is discarded, has worked through the
artifact's path only and leaves nothing there. -/
theorem compile_discard (tidy : Tidy session) (faithful : Faithful resolver.compiler)
    (noDirectory : ∀ location, session.files.shown? output ≠ some (location, .directory))
    {archive : String}
    (failed : session.compile id resolver thread archive output name none =
      (after, .error error)) :
    Restored session (after.discard output) ∧
      Through output session.files (after.discard output).files ∧
        (after.discard output).files.shownLength output = 0 := by
  obtain ⟨restored, left⟩ := compile_lasting_error tidy failed
  have ran := faithful ⟨archive, output, true⟩ session.files
  have through : Through output session.files after.files := by
    rcases left with left | left
    · rw [left]
      exact ran
    · rw [left]
      exact ran.removeIfExists
  rw [discard_files]
  exact ⟨restored.trans (discard_restored after output), through.removeIfExists,
    removed_shownLength after.files output (through.noDirectory noDirectory)⟩

/-- A compile of a container that fails leaves the loaders as they were, nothing at the path of the
artifact, and the rest of the tree as it was unless that path ends at a link. -/
theorem compileContainer_error (clean : Clean session) (undrawn : Undrawn session)
    (faithful : Faithful resolver.compiler) (empty : session.outputSize output = 0)
    (failed : session.compileContainer id resolver thread container output name =
      (after, .error error)) :
    Restored session after ∧ after.outputSize output = 0 ∧
      (Plain session.files output → ∀ location, session.files.target? output ≠ some location →
        after.files.node? location = session.files.node? location) := by
  rw [outputSize_eq] at empty ⊢
  unfold compileContainer at failed
  generalize some resolver.staging.archiveExtension = extension at failed
  have restored := session.stage_restored resolver.staging container extension false
  rcases isStaged : session.stage resolver.staging container extension false with ⟨staged, result⟩
  rw [isStaged] at failed restored
  obtain ⟨unchanged, _, isArchive⟩ := undrawn.stage resolver.staging container extension isStaged
  rcases result with refusal | archive
  · obtain ⟨rfl, _⟩ := Prod.mk.inj failed
    exact ⟨restored, (unchanged.shownLength output).trans empty,
      fun _ location _ => unchanged location⟩
  · obtain rfl := isArchive archive rfl
    have blank := (undrawn.blank resolver.staging container extension).same unchanged
    generalize resolver.staging.pathFor container extension (tokenText session.fresh) = archive
      at failed blank
    have packaging := Packaging.packageContainer_touches archive container staged.files
    have packed := fun files => restored.trans (restored_files staged files)
    dsimp only at failed
    rcases packaged : Packaging.packageContainer archive container staged.files with
      ⟨files, cause | count⟩
    all_goals
      rw [packaged] at failed packaging
      dsimp only at failed packaging
    · obtain ⟨rfl, _⟩ := Prod.mk.inj failed
      have same := unchanged.trans (discard_cleared { staged with files } blank packaging)
      exact ⟨(packed files).trans (discard_restored _ archive),
        (same.shownLength output).trans empty, fun _ location _ => same location⟩
    · have skeleton := unchanged.skeleton.trans packaging.skeleton
      have tidy := (clean.same (packed files).keepsLinks (packed files).temporaries).toTidy
      rcases compiled : compile { staged with files } id resolver thread archive output name none
        with ⟨later, cause | unit⟩
      all_goals
        rw [compiled] at failed
        dsimp only at failed
      · obtain ⟨rfl, _⟩ := Prod.mk.inj failed
        obtain ⟨kept, through, cleared⟩ := compile_discard tidy faithful
          (fun location shown => noDirectory_of_empty empty location
            (skeleton.shows_directory shown)) compiled
        refine ⟨(packed files).trans (kept.trans (discard_restored _ archive)), ?_, ?_⟩
        · rw [discard_files]
          exact shownLength_removeIfExists _ archive output cleared
        · intro plain location away
          have apart : staged.files.target? output ≠ some location := by
            rw [unchanged.skeleton.target]
            exact away
          rw [discard_files, blank.cleared_beside packaging
            (through.touches (plain.of_skeleton skeleton)) apart, unchanged location]
      · cases (Prod.mk.inj failed).2

/-! ## The next load -/

theorem stage_error {staging : Staging} {key : String} {extension : Option String} {create : Bool}
    (failed : session.stage staging key extension create = (after, .error error)) :
    ∃ cause, error = .staging cause := by
  unfold stage at failed
  dsimp only at failed
  split at failed
  · cases (Prod.mk.inj failed).2
  · exact ⟨_, (Except.error.inj (Prod.mk.inj failed).2).symm⟩

/-- A load that fails in staging or packaging, or calls the compiler for the path of the artifact. -/
inductive Recompiles (session : Session) (id : Nat) (container output : String) (after : Session) :
    Except LoadError Nat → Prop
  | unstaged (cause : StagingError) (unrecorded : after.invocations = session.invocations) :
      Recompiles session id container output after (.error (.staging cause))
  | unpackaged (cause : PackagingError) (unrecorded : after.invocations = session.invocations) :
      Recompiles session id container output after (.error (.packaging container cause))
  | called {result : Except LoadError Nat} (call : Invocation)
      (recorded : after.invocations = session.invocations ++ [call]) (caller : call.resolver = id)
      (aimed : call.request.output = output) : Recompiles session id container output after result

/-- Compiling a container calls the compiler, unless there is no archive to compile. -/
theorem compileContainer_recompiles {result : Except LoadError Nat}
    (compiled : session.compileContainer id resolver thread container output name =
      (after, result)) : Recompiles session id container output after result := by
  unfold compileContainer at compiled
  generalize some resolver.staging.archiveExtension = extension at compiled
  have rest := session.stage_rest resolver.staging container extension false
  rcases isStaged : session.stage resolver.staging container extension false with
    ⟨staged, cause | archive⟩
  all_goals
    rw [isStaged] at compiled rest
    dsimp only at compiled rest
  · obtain ⟨rfl, rfl⟩ := Prod.mk.inj compiled
    obtain ⟨cause, rfl⟩ := stage_error isStaged
    exact .unstaged cause (by rw [rest])
  · have unrecorded : staged.invocations = session.invocations := by rw [rest]
    rcases packaged : Packaging.packageContainer archive container staged.files with
      ⟨files, cause | count⟩
    all_goals
      rw [packaged] at compiled
      dsimp only at compiled
    · obtain ⟨rfl, rfl⟩ := Prod.mk.inj compiled
      exact .unpackaged cause ((discard_invocations _ archive).trans unrecorded)
    · obtain ⟨call, recorded, caller, request⟩ := compile_invocations { staged with files } id
        resolver thread archive output name none
      have appended := recorded.trans (congrArg (· ++ [call]) unrecorded)
      rcases heard : compile { staged with files } id resolver thread archive output name none with
        ⟨later, error | unit⟩
      all_goals
        rw [heard] at compiled appended
        obtain ⟨rfl, rfl⟩ := Prod.mk.inj compiled
        refine .called call ?_ caller (by rw [request])
      · rw [discard_invocations, discard_invocations]
        exact appended
      · rw [discard_invocations]
        exact appended

/-- The artifact of a file that is unchanged has its path. -/
theorem durablePath_of_file {files other : Files} (staging : Staging)
    (isFile : files.isFile container = true)
    (unchanged : other.status container = files.status container) :
    staging.durablePath container other = staging.durablePath container files := by
  have modified : other.modified container = files.modified container := by
    unfold Files.isFile at isFile
    unfold Files.modified
    rw [unchanged]
    split at isFile
    · next status => rw [status]
    · cases isFile
  unfold Staging.durablePath
  rw [modified]

/-- A load of a container without an artifact comes to the compiler. -/
theorem loadContainer_recompiles (present : session.resolvers.get? id = some resolver)
    (isFile : session.files.isFile container = true)
    (durable : resolver.staging.durablePath container session.files = .ok output)
    (empty : session.outputSize output = 0) {result : Except LoadError Nat}
    (loaded : session.loadContainer id thread container = (after, result)) :
    Recompiles session id container output after result := by
  unfold loadContainer compileOrReuse at loaded
  simp only [present, isFile, durable, empty, Bool.not_true, Bool.false_eq_true, ↓reduceIte]
    at loaded
  exact compileContainer_recompiles loaded

/-! ## What a failed load leaves -/

/-- No artifact of a container is left, and nothing is lost but what may have been at its path. -/
structure LeavesNoArtifact (session : Session) (id : Nat) (resolver : Resolver)
    (container output : String) (after : Session) : Prop where
  /-- A path that showed no file with a content shows none. -/
  empty : ¬ session.files.ShowsContent output → ¬ after.files.ShowsContent output
  /-- Unless the path ends at a link, only the place that it leads to may have changed. -/
  elsewhere : Plain session.files output → ∀ location,
    session.files.target? output ≠ some location →
      after.files.node? location = session.files.node? location
  /-- So what is staged is as it was, if lasting artifacts do not go there. -/
  staged : ∀ home, Housed home session.files → resolver.layout = home.layout →
    Direct home resolver → ∀ name,
      after.files.node? (home.stagingPlace ++ [name]) =
        session.files.node? (home.stagingPlace ++ [name])
  /-- A load of the unchanged container does not take what is left for its artifact. -/
  again : session.files.isFile container = true → session.outputSize output = 0 →
    after.files.status container = session.files.status container →
      ∀ thread, Recompiles after id container output (after.loadContainer id thread container).1
        (after.loadContainer id thread container).2

/-- Doing nothing leaves none, where there is nothing to compile. -/
theorem leavesNoArtifact_refl
    (idle : session.files.isFile container = true → session.outputSize output ≠ 0) :
    LeavesNoArtifact session id resolver container output session where
  empty := fun dark => dark
  elsewhere := fun _ _ _ => rfl
  staged := fun _ _ _ _ _ => rfl
  again := fun isFile empty => absurd empty (idle isFile)

/-- A compile of a container that failed leaves none. -/
theorem leavesNoArtifact_compile (present : session.resolvers.get? id = some resolver)
    (durable : resolver.staging.durablePath container session.files = .ok output)
    (restored : Restored session after) (cleared : after.outputSize output = 0)
    (elsewhere : Plain session.files output → ∀ location,
      session.files.target? output ≠ some location →
        after.files.node? location = session.files.node? location) :
    LeavesNoArtifact session id resolver container output after where
  empty := fun _ shows => by
    rw [outputSize_eq] at cleared
    exact shows.length cleared
  elsewhere := elsewhere
  staged := by
    intro home housed layout direct name
    obtain ⟨text, rfl⟩ := durable_of_path durable
    refine elsewhere (durable_plain housed layout direct text) _ fun aimed => ?_
    -- An artifact stands directly in the cache directory, and a staged file one level below.
    obtain ⟨first, same, _⟩ := durable_place housed layout direct (place_of_target aimed)
    have lengths := congrArg List.length same
    simp [Home.stagingPlace] at lengths
  again := by
    intro isFile _ status thread
    have standing := restored.toCalm.resolver id
    rw [present, Option.map_some] at standing
    obtain ⟨now, there, stands⟩ := Option.map_eq_some_iff.mp standing
    have staging : now.staging = resolver.staging := congrArg (·.1.staging) stands
    refine loadContainer_recompiles there ?_ ?_ cleared rfl
    · unfold Files.isFile
      rw [status]
      exact isFile
    · rw [staging, durablePath_of_file resolver.staging isFile status]
      exact durable

/-- A load that fails registers nothing and leaves no artifact that another load would use. The
compiler may do what it likes, as long as it works through its output, and the tokens that are still
to be drawn must be new. A load fails before its compile, where nothing has changed; or in its
compile, after which archive and output are taken back; or in the registration of an artifact that
was there, which leaves everything as it was. -/
theorem loadContainer_failed (hosted : Hosted session) (undrawn : Undrawn session)
    (present : session.resolvers.get? id = some resolver) (faithful : Faithful resolver.compiler)
    (failed : session.loadContainer id thread container = (after, .error error)) :
    Restored session after ∧
      ∀ output, resolver.staging.durablePath container session.files = .ok output →
        LeavesNoArtifact session id resolver container output after := by
  unfold loadContainer at failed
  rw [present] at failed
  dsimp only at failed
  by_cases isFile : session.files.isFile container = true
  · simp only [isFile, Bool.not_true, Bool.false_eq_true, ↓reduceIte] at failed
    cases durable : resolver.staging.durablePath container session.files with
    | error refusal =>
      rw [durable] at failed
      obtain ⟨rfl, _⟩ := Prod.mk.inj failed
      exact ⟨Restored.refl _, fun _ impossible => by cases impossible⟩
    | ok output =>
      rw [durable] at failed
      dsimp only at failed
      unfold compileOrReuse at failed
      by_cases empty : session.outputSize output = 0
      · rw [if_pos empty] at failed
        obtain ⟨restored, cleared, elsewhere⟩ :=
          compileContainer_error hosted.clean undrawn faithful empty failed
        refine ⟨restored, fun _ same => ?_⟩
        obtain rfl := Except.ok.inj same
        exact leavesNoArtifact_compile present durable restored cleared elsewhere
      · rw [if_neg empty] at failed
        have unchanged := register_error (congrArg Prod.snd failed)
        rw [failed] at unchanged
        obtain rfl := unchanged
        refine ⟨Restored.refl _, fun _ same => ?_⟩
        obtain rfl := Except.ok.inj same
        exact leavesNoArtifact_refl fun _ => empty
  · rw [if_pos (by simpa using isFile)] at failed
    obtain ⟨rfl, _⟩ := Prod.mk.inj failed
    exact ⟨Restored.refl _, fun _ _ => leavesNoArtifact_refl fun isFile' => absurd isFile' isFile⟩

/-! ### A compiler that spoils its output -/

/-- A compiler that writes half an artifact and fails. -/
def spoiling : Compiler := fun request files =>
  match files.write request.output [7] with
  | .error error => (files, .error (.file error))
  | .ok after => (after, .error (.undecodable .diagnostic))

/-- The compiler that spoils its output works through it only. -/
theorem spoiling_through : Faithful spoiling := by
  intro request files
  unfold spoiling
  split
  · exact .nothing files
  · next written => exact .write (.nothing files) written

/-- A container next to a resolver with that compiler. -/
def besideSpoiler : Session :=
  besideNothing.perform (.openResolver "loader" {} spoiling .archive none)

/-- The resolver with the compiler that spoils its output. -/
def spoiler : Resolver :=
  { copier with compiler := spoiling }

/-- A compiler writes half an artifact and fails. The load fails with its error, the session is
restored, and of the artifact nothing is left. -/
theorem loadContainer_failed_spoiled :
    (besideSpoiler.loadContainer 1 "main" "a.zip").2 =
        .error (.compiler (.undecodable .diagnostic)) ∧
      Restored besideSpoiler (besideSpoiler.loadContainer 1 "main" "a.zip").1 ∧
      LeavesNoArtifact besideSpoiler 1 spoiler "a.zip"
        (durable spoiler (Staging.durableMessage "a.zip" 1000))
        (besideSpoiler.loadContainer 1 "main" "a.zip").1 := by
  have hosted : Hosted besideSpoiler := (Hosted.start _).perform trivial
  have undrawn : Undrawn besideSpoiler := undrawnFrom_of_names (by decide +kernel) _
  have fails : (besideSpoiler.loadContainer 1 "main" "a.zip").2 =
      .error (.compiler (.undecodable .diagnostic)) := by
    decide +kernel
  have present : besideSpoiler.resolvers.get? 1 = some spoiler := rfl
  have modified : besideSpoiler.files.modified "a.zip" = .ok 1000 := by decide +kernel
  rcases loaded : besideSpoiler.loadContainer 1 "main" "a.zip" with ⟨after, result⟩
  rw [loaded] at fails
  obtain rfl := fails
  obtain ⟨restored, leaves⟩ :=
    loadContainer_failed hosted undrawn present spoiling_through loaded
  refine ⟨rfl, restored, leaves _ ?_⟩
  unfold Staging.durablePath
  rw [modified]
  rfl

/-- The container next to a resolver whose artifacts go among the staged files, and an empty file
where the artifact of the container goes. -/
def besideStray : Session :=
  (besideNothing.perform (.openResolver "loader" strayConfig spoiling .archive none)).perform
    (.changeFiles fun files => ((files.write
      (Path.join (Path.join "cache" strayConfig.stagingDirectory) "left") []).toOption).getD files)

/-- The names in the directory for staged files of that resolver. -/
def strayNames (session : Session) : Option (List String) :=
  (session.files.list (Path.join "cache" strayConfig.stagingDirectory)).toOption

/-- A container is loaded whose artifact goes among the staged files, where an empty file stands in
its place. The load fails, and the staged file is gone. -/
theorem loadContainer_stray :
    (besideStray.loadContainer 1 "main" "a.zip").2 =
      .error (.compiler (.undecodable .diagnostic)) ∧
    strayNames besideStray = some ["left"] ∧
    strayNames (besideStray.loadContainer 1 "main" "a.zip").1 = some [] := by
  decide +kernel

end Session

end Hotload
