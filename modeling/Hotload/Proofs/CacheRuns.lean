import Hotload.Proofs.CacheOperations
import Hotload.Proofs.LoadOrder

/-!
# The cache directory in the course of a run

A resolver without another resolver as its parent is opened, and then operations follow: symbols are
defined, containers and artifacts are loaded, units are unloaded, handles are kept and dropped, and
each of it may succeed or fail. Between any two operations, the directory of the resolver holds
exactly what its ledger accounts for.

This hangs on two things that the check of a configuration does not ask for. No artifact goes into a
subdirectory, which an extension with a separator in it may bring about. And the path of the
directory does not lead through the directory itself, because emptying the directory then takes away
what the path leads through.
-/

namespace Hotload

open Files

namespace Session

variable {tenancy : Tenancy} {ledger : Ledger} {session after : Session}

/-! ## Operations -/

/-- What may happen in a run: operations of the resolver, with a compiler that works through its
output only and entries that can be removed; look-ups; handles to what is there, but for the handle
of the resolver itself; and changes of other files. -/
def Allowed (tenancy : Tenancy) (session : Session) : Operation → Prop
  | .changeFiles change => Elsewhere tenancy session (change session.files)
  | .define id _ _ _ | .loadContainer id _ _ =>
    id = tenancy.id ∧ ∀ now, session.resolvers.get? id = some now → Faithful now.compiler
  | .loadArtifact id _ => id = tenancy.id
  | .unload id | .unloadAfter id _ _ =>
    id = tenancy.id ∧ (tenancy.home.layout.purge session.files).refusals = []
  | .hold holder target => holder ≠ tenancy.holder ∧
    ∀ id, target = .temporary id → (session.temporaries.get? id).isSome
  | .letGo holder => holder ≠ tenancy.holder
  | .openResolver .. | .register .. | .bind .. | .track .. => False
  | _ => True

/-- Whether unloading after a wait goes on to empty the directory. -/
def goesOn (session : Session) (id : Nat) (thread : Option Thread) (policy : UnloadPolicy) : Bool :=
  (session.wait id thread).2.isQuiescent || policy ≠ .strict

end Session

/-- The account after an operation. -/
def Ledger.after (ledger : Ledger) (tenancy : Tenancy) (session : Session) : Operation → Ledger
  | .loadContainer id thread container =>
    ledger.afterLoad (session.artifactToCompile tenancy.resolver container)
      (session.loadContainer id thread container).2
  | .unload _ => ⟨session.fresh, []⟩
  | .unloadAfter id thread policy =>
    if session.goesOn id thread policy then ⟨(session.wait id thread).1.fresh, []⟩ else ledger
  | _ => ledger

namespace Session

variable {tenancy : Tenancy} {ledger : Ledger} {session after : Session}

/-- The invariant between operations: the directory is tended with nothing in use, and everything
was let go of that nothing refers to. -/
structure Kept (tenancy : Tenancy) (ledger : Ledger) (session : Session) : Prop where
  tended : Tended tenancy ledger [] none session
  settled : Settled session

theorem Kept.quiet (kept : Kept tenancy ledger session) (quiet : Quiet session after) :
    Kept tenancy ledger after :=
  ⟨kept.tended.quiet quiet, kept.settled.same quiet.toKeepsLinks quiet.temporaries⟩

/-- Unloading after a wait empties the directory, or it leaves everything in place. -/
theorem Kept.unloadAfter (kept : Kept tenancy ledger session) (thread : Option Thread)
    (policy : UnloadPolicy) (removed : (tenancy.home.layout.purge session.files).refusals = []) :
    Kept tenancy
      (if session.goesOn tenancy.id thread policy then
        ⟨(session.wait tenancy.id thread).1.fresh, []⟩ else ledger)
      (session.unloadAfter tenancy.id thread policy).1 := by
  have waiting := wait_quiet session tenancy.id thread
  have waited := kept.quiet waiting
  unfold Session.unloadAfter goesOn
  rcases heard : session.wait tenancy.id thread with ⟨later, outcome⟩
  rw [heard] at waiting waited
  dsimp only
  by_cases skipped : (!outcome.isQuiescent && decide (policy = .strict)) = true
  · rw [if_pos skipped, if_neg]
    · exact waited.quiet ⟨⟨rfl, Nat.le_refl _⟩, rfl, rfl⟩
    · simpa [Bool.and_eq_true] using skipped
  · have goes : (outcome.isQuiescent || decide (policy ≠ .strict)) = true := by
      cases quiescent : outcome.isQuiescent <;> simp_all
    rw [if_neg skipped, if_pos goes]
    have unloaded := waited.tended.unload (by rw [waiting.files]; exact removed)
    have settled := waited.settled.unload tenancy.id
    rcases done : later.unload tenancy.id with ⟨last, error | ⟨⟩⟩
    all_goals
      rw [done] at unloaded settled
      exact ⟨unloaded.1, settled⟩

/-- Keeping a handle to something that is there. -/
theorem Kept.hold (kept : Kept tenancy ledger session) {holder : String} {target : Target}
    (other : holder ≠ tenancy.holder)
    (present : ∀ id, target = .temporary id → (session.temporaries.get? id).isSome) :
    Kept tenancy ledger (session.hold holder target).settle := by
  have held : Tended tenancy ledger [] none (session.hold holder target) := by
    refine kept.tended.relinked ⟨kept.tended.wired.numbered, kept.tended.wired.joined⟩ ?_
      kept.tended.opened rfl rfl (Nat.le_refl _) ?_
    · refine List.mem_append_left _ (List.mem_filter.mpr ⟨kept.tended.held, ?_⟩)
      simpa using other.symm
    · intro id referred
      rcases temporary_mem_targets.mp referred with ⟨name, listed⟩ | unit
      · rcases List.mem_append.mp listed with earlier | new
        · exact .inl (temporary_mem_targets.mpr
            (.inl ⟨name, (List.mem_filter.mp earlier).1⟩))
        · have same := (Prod.mk.inj (List.mem_singleton.mp new)).2
          exact .inr (present id same.symm)
      · exact .inl (temporary_mem_targets.mpr (.inr unit))
  exact ⟨held.settle, settled_settle _⟩

/-- Dropping a handle. -/
theorem Kept.letGo (kept : Kept tenancy ledger session) {holder : String}
    (other : holder ≠ tenancy.holder) : Kept tenancy ledger (session.letGo holder) := by
  have dropped : Tended tenancy ledger [] none
      { session with held := session.held.filter fun entry => entry.1 ≠ holder } := by
    refine kept.tended.relinked ⟨kept.tended.wired.numbered, kept.tended.wired.joined⟩ ?_
      kept.tended.opened rfl rfl (Nat.le_refl _) ?_
    · refine List.mem_filter.mpr ⟨kept.tended.held, ?_⟩
      simpa using other.symm
    · intro id referred
      rcases temporary_mem_targets.mp referred with ⟨name, listed⟩ | unit
      · exact .inl (temporary_mem_targets.mpr (.inl ⟨name, (List.mem_filter.mp listed).1⟩))
      · exact .inl (temporary_mem_targets.mpr (.inr unit))
  exact ⟨dropped.settle, settled_settle _⟩

/-- Every operation that is allowed keeps the directory, with the account going on by what it did.
Most operations touch no file; definitions, loads and unloads are taken one by one, each by the law
of what it does in the directory. -/
theorem Kept.perform (kept : Kept tenancy ledger session) {operation : Operation}
    (allowed : Allowed tenancy session operation) :
    Kept tenancy (ledger.after tenancy session operation) (session.perform operation) := by
  obtain ⟨tended, settled⟩ := kept
  cases operation with
  | changeFiles change =>
    exact ⟨tended.changeFiles allowed, settled.same ⟨rfl, Nat.le_refl _⟩ rfl⟩
  | addSystem => exact Kept.quiet ⟨tended, settled⟩ ⟨⟨rfl, Nat.le_succ _⟩, rfl, rfl⟩
  | defineSystem id name content =>
    exact Kept.quiet ⟨tended, settled⟩ ⟨⟨rfl, Nat.le_succ _⟩, rfl, rfl⟩
  | openResolver => exact absurd allowed id
  | setCompiler id compiler =>
    exact Kept.quiet ⟨tended, settled⟩ (updateResolver_quiet session id _ fun _ => rfl)
  | define id thread name content =>
    obtain ⟨rfl, faithful⟩ := allowed
    exact ⟨tended.define faithful content, settled_lasting.define settled tenancy.id thread name content⟩
  | loadContainer id thread container =>
    obtain ⟨rfl, faithful⟩ := allowed
    exact ⟨tended.loadContainer thread container faithful,
      settled_lasting.loadContainer settled tenancy.id thread container⟩
  | loadArtifact id artifact =>
    obtain rfl : id = tenancy.id := allowed
    exact ⟨tended.loadArtifact artifact,
      settled_lasting.loadArtifact settled tenancy.id artifact⟩
  | register => exact absurd allowed id
  | bind => exact absurd allowed id
  | unload id =>
    obtain ⟨rfl, removed⟩ := allowed
    exact ⟨(tended.unload removed).1, settled.unload tenancy.id⟩
  | unloadAfter id thread policy =>
    obtain ⟨rfl, removed⟩ := allowed
    exact Kept.unloadAfter ⟨tended, settled⟩ thread policy removed
  | setLocal id loader => exact ⟨tended.setLocal id loader, settled_settle _⟩
  | find loader name => exact Kept.quiet ⟨tended, settled⟩ (quiet_follows.find session loader name)
  | findRegistered id name =>
    exact Kept.quiet ⟨tended, settled⟩ (quiet_follows.findRegistered session id name)
  | hold holder target => exact Kept.hold ⟨tended, settled⟩ allowed.1 allowed.2
  | letGo holder => exact Kept.letGo ⟨tended, settled⟩ allowed
  | addReaper => exact Kept.quiet ⟨tended, settled⟩ ⟨⟨rfl, Nat.le_succ _⟩, rfl, rfl⟩
  | track => exact absurd allowed id
  | release temporary => exact ⟨tended.release temporary, settled.release temporary⟩
  | sweep reaper =>
    refine Kept.quiet ⟨tended, settled⟩ ⟨sweep_keepsLinks session reaper, ?_, ?_⟩
    all_goals
      unfold Session.perform sweep
      dsimp only
      split <;> rfl
  | markBusy id thread => exact Kept.quiet ⟨tended, settled⟩ (markBusy_quiet session id thread)
  | unmarkBusy id thread => exact Kept.quiet ⟨tended, settled⟩ (unmarkBusy_quiet session id thread)
  | pass time => exact Kept.quiet ⟨tended, settled⟩ (pass_quiet session time)
  | departLater id thread time =>
    exact Kept.quiet ⟨tended, settled⟩ ⟨⟨rfl, Nat.le_refl _⟩, rfl, rfl⟩

/-! ## Opening -/

/-- The path of the directory does not lead through the directory: it leads there whatever is in it,
if it leads anywhere, and else what is made for it is a new directory. -/
inductive Sited (home : Home) (files : Files) : Prop
  | standing (anchored : Anchored files home.root home.place)
      (regular : Regular home.place files)
  | missing (absent : files.exists_ home.root = false)
      (anchored : Anchored (files.makeDirectories home.root).1 home.root home.place)
      (cleared : Cleared home.place (files.makeDirectories home.root).1)

/-- No number is in use that was not given. -/
structure Numbered (session : Session) : Prop where
  temporaries : ∀ id, (session.temporaries.get? id).isSome → id < session.fresh
  referred : ∀ id, .temporary id ∈ session.targets → id < session.fresh

/-- A resolver without a resolver as its parent is opened, and no other file of passing use has its
path in the directory. -/
structure Opening (tenancy : Tenancy) (start : Session) (config : Config) (compiler : Compiler)
    (platform : Platform) (parent : Option Loader) (after : Session) : Prop where
  opens : start.openResolver config compiler platform parent = (after, .ok tenancy.id)
  noResolver : parent.any isResolver = false
  home : tenancy.home = ⟨config.cacheDirectory, tenancy.home.place, config.stagingDirectory,
    config.librariesDirectory⟩
  resolver : after.resolvers.get? tenancy.id = some tenancy.resolver
  opened : tenancy.opened = after.fresh
  wired : Wired start
  numbered : Numbered start
  sited : Sited tenancy.home start.files
  foreign : ∀ id temporary, start.temporaries.get? id = some temporary →
    temporary.isReleased = false → Aloof tenancy.home after.files temporary.path

/-- What the check of a configuration takes for one name is a proper name. -/
theorem single_of_isOneName {name : String} (isOne : Config.isOneName name = true) :
    Path.Single name name := by
  unfold Config.isOneName at isOne
  obtain ⟨present, whole, _, notHere, notUp⟩ := of_decide_eq_true isOne
  exact Path.single_of_name present whole notHere notUp

/-- The subdirectories of a configuration without flaws have proper names, which differ. -/
theorem names_of_config {config : Config} (sound : config.flaw? = none) :
    Path.Single config.stagingDirectory config.stagingDirectory ∧
      Path.Single config.librariesDirectory config.librariesDirectory ∧
        config.stagingDirectory ≠ config.librariesDirectory := by
  unfold Config.flaw? at sound
  split at sound
  · cases sound
  · split at sound
    · cases sound
    · next staging =>
      split at sound
      · cases sound
      · next libraries =>
        split at sound
        · cases sound
        · next different =>
          exact ⟨single_of_isOneName (by simpa using staging),
            single_of_isOneName (by simpa using libraries), different⟩

/-- What an opening that succeeds does. -/
theorem openResolver_ok {start : Session} {config : Config} {compiler : Compiler}
    {platform : Platform} {parent : Option Loader} {id : Nat}
    (opens : start.openResolver config compiler platform parent = (after, .ok id)) :
    config.flaw? = none ∧ ∃ prepared,
      start.prepare (Staging.ofConfig config).layout parent = (prepared, .ok ()) ∧
        after.files = prepared.files ∧ after.temporaries = prepared.temporaries ∧
          after.held = prepared.held ∧ after.units = prepared.units ∧
            prepared.fresh ≤ after.fresh := by
  unfold openResolver at opens
  split at opens
  · cases opens
  · next sound =>
    dsimp only at opens
    split at opens
    · cases opens
    · next prepared heard =>
      obtain rfl := (Prod.mk.inj opens).1
      refine ⟨sound, prepared, heard, rfl, rfl, rfl, rfl, ?_⟩
      simp only [addReaper, number]
      omega

/-- A directory that is there is emptied when it is prepared without a resolver as the parent. -/
theorem prepare_standing {home : Home} {start : Session} {parent : Option Loader}
    (anchored : Anchored start.files home.root home.place)
    (noResolver : parent.any isResolver = false) :
    start.prepare home.layout parent = start.purge home.layout := by
  have there : start.files.exists_ home.layout.root = true := by
    unfold exists_ status
    rw [show home.layout.root = home.root from rfl, anchored.reached]
    rfl
  unfold prepare
  rw [noResolver, there]
  rfl

/-- The prepared directory is vacant. -/
theorem Sited.prepared {home : Home} {start prepared : Session} {parent : Option Loader}
    (sited : Sited home start.files) (staging : Path.Single home.staging home.staging)
    (libraries : Path.Single home.libraries home.libraries)
    (distinct : home.staging ≠ home.libraries) (noResolver : parent.any isResolver = false)
    (prepares : start.prepare home.layout parent = (prepared, .ok ())) :
    home.Proper ∧ Vacant home prepared.files := by
  cases sited with
  | standing anchored regular =>
    obtain ⟨rfl, done⟩ := Prod.mk.inj ((prepare_standing anchored noResolver).symm.trans prepares)
    obtain ⟨proper, vacant, _⟩ :=
      Home.vacant_of_purge staging libraries distinct anchored regular done
    exact ⟨proper, vacant⟩
  | missing absent anchored cleared =>
    unfold prepare at prepares
    rw [noResolver, show home.layout.root = home.root from rfl, absent] at prepares
    simp only [Bool.false_and, Bool.false_eq_true, ↓reduceIte] at prepares
    rcases made : start.files.makeDirectories home.root with ⟨files, error | ⟨⟩⟩
    · have failed : (home.layout.create start.files).2 = .error error := by
        unfold Layout.create
        rw [Layout.makeAll, show home.layout.root = home.root from rfl, made]
      rw [failed] at prepares
      exact absurd (Prod.mk.inj prepares).2 (by simp)
    · rw [made] at anchored cleared
      have onward : home.layout.create start.files = home.layout.create files := by
        unfold Layout.create
        rw [Layout.makeAll, show home.layout.root = home.root from rfl, made, Layout.makeAll,
          makeDirectories_there anchored.reached]
      rw [onward] at prepares
      obtain ⟨created, proper⟩ :=
        home.create_cleared anchored cleared staging libraries distinct
      obtain ⟨rfl, done⟩ := Prod.mk.inj prepares
      have isProper := proper done
      rw [created isProper]
      exact ⟨isProper, Home.furnish_vacant isProper anchored cleared⟩

/-- Preparing a directory makes no files of passing use. -/
theorem prepare_temporaries (session : Session) (layout : Layout) (parent : Option Loader) :
    (session.prepare layout parent).1.temporaries = session.temporaries := by
  unfold prepare
  split <;> rfl

/-- After an opening, the directory holds its two subdirectories. -/
theorem Opening.tended {start : Session} {config : Config} {compiler : Compiler}
    {platform : Platform} {parent : Option Loader}
    (opening : Opening tenancy start config compiler platform parent after) :
    Tended tenancy ⟨tenancy.opened, []⟩ [] none
      (after.hold tenancy.holder (.loader (.resolver tenancy.id))) := by
  have wired := opening.wired.openResolver config compiler platform parent
  rw [opening.opens] at wired
  obtain ⟨sound, prepared, prepares, files, temporaries, held, units, fresh⟩ :=
    openResolver_ok opening.opens
  have layout : (Staging.ofConfig config).layout = tenancy.home.layout := by
    rw [opening.home]
    rfl
  rw [layout] at prepares
  have kept := prepare_keepsLinks start tenancy.home.layout parent
  have made := start.prepare_temporaries tenancy.home.layout parent
  rw [prepares] at kept made
  have names := names_of_config sound
  have staging : tenancy.home.staging = config.stagingDirectory := by rw [opening.home]
  have libraries : tenancy.home.libraries = config.librariesDirectory := by rw [opening.home]
  rw [← staging, ← libraries] at names
  obtain ⟨proper, vacant⟩ :=
    opening.sited.prepared names.1 names.2.1 names.2.2 opening.noResolver prepares
  have early : ∀ id temporary, after.temporaries.get? id = some temporary →
      start.temporaries.get? id = some temporary ∧ id < tenancy.opened := by
    intro id temporary present
    rw [temporaries, made] at present
    have given := opening.numbered.temporaries id (by rw [present]; rfl)
    have later : start.fresh ≤ prepared.fresh := kept.fresh
    have last := opening.opened
    exact ⟨present, by omega⟩
  have referred : ∀ id, .temporary id ∈ (after.hold tenancy.holder
      (.loader (.resolver tenancy.id))).targets → id < tenancy.opened := by
    intro id refers
    have before : .temporary id ∈ start.targets := by
      rw [← kept.targets, temporary_mem_targets]
      rcases temporary_mem_targets.mp refers with ⟨name, listed⟩ | ⟨entry, listed, unit⟩
      · rcases List.mem_append.mp listed with earlier | new
        · rw [held] at earlier
          exact .inl ⟨name, (List.mem_filter.mp earlier).1⟩
        · exact absurd (Prod.mk.inj (List.mem_singleton.mp new)).2 (by simp)
      · exact .inr ⟨entry, units ▸ listed, unit⟩
    have given := opening.numbered.referred id before
    have later : start.fresh ≤ prepared.fresh := kept.fresh
    have last := opening.opened
    omega
  exact
    { proper := proper
      wired := ⟨wired.numbered, wired.joined⟩
      held := List.mem_append_right _ List.mem_cons_self
      opened := ⟨tenancy.resolver, opening.resolver, rfl, rfl⟩
      filled := by
        change Filled tenancy.home after.files _
        rw [files]
        exact vacant.filled
      drawn := fun id temporary present => opening.opened ▸ (early id temporary present).2
      own := fun id temporary present late =>
        absurd late (Nat.not_le_of_lt (early id temporary present).2)
      foreign := fun id temporary present _ unreleased =>
        opening.foreign id temporary (early id temporary present).1 unreleased
      remain := fun id temporary counts _ =>
        absurd counts.since (Nat.not_le_of_lt (early id temporary counts.present).2)
      stand := fun _ impossible => by cases impossible
      known := fun id late refers => absurd late (Nat.not_le_of_lt (referred id refers))
      since := ⟨Nat.le_refl _, Nat.le_of_eq opening.opened⟩
      storable := fun _ impossible => by cases impossible
      clear := fun _ impossible => by cases impossible }

/-- From its opening on the directory is kept. It was just emptied or made, so there is nothing in
it that the ledger would have to account for. -/
theorem Opening.kept {start : Session} {config : Config} {compiler : Compiler}
    {platform : Platform} {parent : Option Loader}
    (opening : Opening tenancy start config compiler platform parent after) :
    Kept tenancy ⟨tenancy.opened, []⟩
      (start.perform (.openResolver tenancy.holder config compiler platform parent)) := by
  have performed : start.perform (.openResolver tenancy.holder config compiler platform parent) =
      (after.hold tenancy.holder (.loader (.resolver tenancy.id))).settle := by
    simp only [perform, openHeld, opening.opens]
  rw [performed]
  exact ⟨opening.tended.settle, settled_settle _⟩

/-! ## Runs -/

/-- A run of a resolver from its opening on, with the account that it comes to. Every operation must
be allowed in the session that it finds, and the account goes on by what it did there. -/
inductive Run (tenancy : Tenancy) : Session → Ledger → Prop
  | opened {start after : Session} {config : Config} {compiler : Compiler} {platform : Platform}
      {parent : Option Loader}
      (opening : Opening tenancy start config compiler platform parent after) :
      Run tenancy (start.perform (.openResolver tenancy.holder config compiler platform parent))
        ⟨tenancy.opened, []⟩
  | perform {session : Session} {ledger : Ledger} (run : Run tenancy session ledger)
      (operation : Operation) (allowed : Allowed tenancy session operation) :
      Run tenancy (session.perform operation) (ledger.after tenancy session operation)

/-- Every run keeps the directory, by induction on its operations. -/
theorem Run.kept (run : Run tenancy session ledger) : Kept tenancy ledger session := by
  induction run with
  | opened opening => exact opening.kept
  | perform _ operation allowed inductionHypothesis => exact inductionHypothesis.perform allowed

/-- What the directory holds: its two subdirectories; among staged files, those of passing use that
were made since the directory was last emptied, are still referred to and were not released; and in
the directory itself the artifacts that were compiled for good since then. -/
structure Contents (tenancy : Tenancy) (ledger : Ledger) (session : Session) : Prop where
  root : session.files.locate true tenancy.home.root =
    .ok (.taken tenancy.home.place .directory)
  subdirectories : session.files.node? tenancy.home.stagingPlace = some .directory ∧
    session.files.node? tenancy.home.librariesPlace = some .directory
  exact : ∀ location, Inside tenancy.home.place location →
    (session.files.node? location ≠ none ↔
      location = tenancy.home.stagingPlace ∨ location = tenancy.home.librariesPlace ∨
        (∃ id temporary, Counts ledger session.temporaries id temporary ∧
          .temporary id ∈ session.targets ∧
            session.files.place? true temporary.path = some location) ∨
        ∃ output ∈ ledger.compiled, session.files.place? true output = some location)
  temporaries : ∀ id temporary, Counts ledger session.temporaries id temporary →
    session.files.isFile temporary.path = true ∧
      ∃ name, session.files.place? true temporary.path =
        some (tenancy.home.stagingPlace ++ [name])
  lasting : ∀ output ∈ ledger.compiled, ∃ name bytes content,
    session.files.place? true output = some (tenancy.home.place ++ [name]) ∧
      session.files.read output = .ok bytes ∧ bytes ≠ [] ∧
        UnitContent.bind tenancy.resolver.platform session.files output = .ok content
  units : ∀ entry ∈ session.units, ∀ id, entry.2.temporary = some id → ledger.since ≤ id →
    ∃ temporary, session.temporaries.get? id = some temporary ∧
      (temporary.isReleased = false → session.files.isFile temporary.path = true)

/-- Between any two operations of any run, the directory holds exactly what the ledger accounts for,
and what the ledger accounts for is there. A run begins with an opening whose path does not lead
through the directory, and goes on with operations that are `Allowed`. Each of them keeps an
invariant that also has room for what is in use within an operation; between two operations nothing
is, so that the account is exact. -/
theorem cache_contents (run : Run tenancy session ledger) : Contents tenancy ledger session := by
  obtain ⟨tended, settled⟩ := run.kept
  have housed := tended.filled.housed
  have isFile : ∀ id temporary, Counts ledger session.temporaries id temporary →
      session.files.isFile temporary.path = true := by
    intro id temporary counts
    obtain ⟨number, _, staged⟩ := tended.own id temporary counts.present
      (Nat.le_trans tended.since.1 counts.since)
    have remains := tended.remain id temporary counts fun impossible => by cases impossible
    exact remains.isFile (staged.storable tenancy.layout session.files housed)
  have libraries : session.files.node? tenancy.home.librariesPlace = some .directory := by
    refine node?_of_bone ?_
    rw [housed.bones _ tenancy.home.librariesPlace_inside, if_pos (.inr rfl)]
  refine ⟨housed.reached, ⟨node?_of_bone housed.staging_bone, libraries⟩, ?_, ?_, ?_, ?_⟩
  · intro location inside
    constructor
    · intro stands
      rcases tended.filled.only location inside stands with
        isStaging | isLibraries | ⟨path, impossible | compiled | ⟨id, temporary, counts, rfl⟩, leads⟩
      · exact .inl isStaging
      · exact .inr (.inl isLibraries)
      · cases impossible
      · exact .inr (.inr (.inr ⟨path, compiled, place_of_target leads⟩))
      · exact .inr (.inr (.inl ⟨id, temporary, counts, settled id temporary counts.present,
          place_of_target leads⟩))
    · rintro (rfl | rfl | ⟨id, temporary, counts, _, place⟩ | ⟨output, listed, place⟩)
      · simp [node?_of_bone housed.staging_bone]
      · simp [libraries]
      · obtain ⟨there, target, stands⟩ :=
          tended.remain id temporary counts fun impossible => by cases impossible
        obtain rfl := Option.some.inj ((place_of_target target).symm.trans place)
        exact stands
      · obtain ⟨artifact, stands⟩ := tended.stand output listed
        obtain ⟨there, bytes, modified, shown, _⟩ := stands.shown
        obtain ⟨leads, stood⟩ := stands_of_shown shown
        obtain rfl := Option.some.inj (leads.symm.trans place)
        simp [stood]
  · intro id temporary counts
    obtain ⟨number, _, staged⟩ := tended.own id temporary counts.present
      (Nat.le_trans tended.since.1 counts.since)
    obtain ⟨location, target, _⟩ :=
      tended.remain id temporary counts fun impossible => by cases impossible
    have place := place_of_target target
    obtain ⟨name, rfl⟩ := staged.place tenancy.layout housed place
    exact ⟨isFile id temporary counts, name, place⟩
  · intro output listed
    obtain ⟨artifact, stands⟩ := tended.stand output listed
    obtain ⟨text, rfl⟩ := stands.isDurable
    obtain ⟨location, bytes, modified, shown, filled, _⟩ := stands.shown
    obtain ⟨content, bound⟩ := stands.binds
    have place := (stands_of_shown shown).1
    obtain ⟨name, rfl, _⟩ := durable_place housed tenancy.layout tenancy.direct place
    exact ⟨name, bytes, content, place, read_of_shown shown, filled, bound⟩
  · intro entry listed id refers since
    have referred : .temporary id ∈ session.targets :=
      temporary_mem_targets.mpr (.inr ⟨entry, listed, refers⟩)
    obtain ⟨temporary, present⟩ := Option.isSome_iff_exists.mp
      (tended.known id (Nat.le_trans tended.since.1 since) referred)
    exact ⟨temporary, present, fun unreleased =>
      isFile id temporary ⟨present, since, unreleased⟩⟩

/-! ### A run, and runs without the conditions -/

/-- A session with a container without entries, last modified one second into 1970. -/
def besideNothing : Session :=
  { files := ⟨[(["tmp"], .directory), (["tmp", "work"], .directory),
      (["tmp", "work", "a.zip"], .file (Zip.write []) 1000)], 0⟩ }

/-- The resolver that copies, with a directory that is still to be made. -/
def copierTenancy : Tenancy where
  home := copierHome
  id := 1
  holder := "loader"
  resolver := copier
  opened := 2
  layout := rfl
  direct := direct_of_whole fun extension impossible => by cases impossible

/-- Where the directory is missing and nothing stands below its place, a new one can be made. -/
theorem copierHome_missing {files : Files} (absent : files.exists_ copierHome.root = false)
    (top : files.node? ["tmp"] = some .directory)
    (vacant : ∀ entry ∈ files.entries, ¬ copierHome.place <+: entry.1)
    (made : (files.makeDirectories copierHome.root).1.entries =
      files.entries ++ [(copierHome.place, .directory)]) : Sited copierHome files := by
  have nowhere (rest : Location) : files.entries.lookup (copierHome.place ++ rest) = none := by
    refine List.lookup_eq_none_iff.mpr fun entry listed => ?_
    rw [bne_iff_ne]
    exact fun same => vacant entry listed (same ▸ List.prefix_append _ _)
  have lookup (location : Location) (below : location ≠ []) :
      (files.makeDirectories copierHome.root).1.node? location =
        (files.entries.lookup location).or
          (if location = copierHome.place then some .directory else none) := by
    unfold node?
    rw [if_neg below, made, List.lookup_append, List.lookup_cons]
    split <;> simp_all
  refine .missing absent (copierHome_anchored ?_ ?_) fun location inside => ?_
  · have there : files.entries.lookup ["tmp"] = some .directory := top
    rw [bone?, lookup _ (by simp), there]
    rfl
  · have here := nowhere []
    rw [List.append_nil] at here
    have standing : (files.makeDirectories copierHome.root).1.node? copierHome.place =
        some .directory := by
      rw [lookup _ (by simp [copierHome]), here, if_pos rfl]
      rfl
    exact congrArg (·.bind boneOf?) standing
  · obtain ⟨name, rest, rfl⟩ := inside.split
    rw [lookup _ (by simp), nowhere, if_neg (by simp)]
    rfl

/-- A new directory can be made next to the container. -/
theorem copierHome_sited : Sited copierHome besideNothing.files :=
  copierHome_missing (by decide) rfl (by decide) (by decide +kernel)

/-- The resolver that copies is opened over a new directory, with nothing else in the session. -/
theorem copierTenancy_opening : Opening copierTenancy besideNothing {} copying .archive none
    (besideNothing.openResolver {} copying .archive none).1 where
  opens := rfl
  noResolver := rfl
  home := rfl
  resolver := rfl
  opened := rfl
  wired := wired_start _
  numbered :=
    { temporaries := fun _ present => by cases present
      referred := fun _ impossible => by cases impossible }
  sited := copierHome_sited
  foreign := fun _ _ present => by cases present

/-- A compiler that was just chosen is the one in use. -/
theorem setCompiler_faithful (session : Session) (id : Nat) (now : Resolver)
    (present : (session.perform (.setCompiler id copying)).resolvers.get? id = some now) :
    Faithful now.compiler := by
  simp only [perform, updateResolver, Table.get?_update, ↓reduceIte] at present
  obtain ⟨before, _, rfl⟩ := Option.map_eq_some_iff.mp present
  exact copying_through

/-- The session after a symbol was defined with that resolver. -/
def copierDefined : Session :=
  ((besideNothing.perform (.openResolver "loader" {} copying .archive none)).perform
    (.setCompiler 1 copying)).perform (.define 1 "main" "m" [7])

/-- The session after the container was loaded as well. -/
def copierLoaded : Session :=
  (copierDefined.perform (.setCompiler 1 copying)).perform (.loadContainer 1 "main" "a.zip")

/-- The account that this comes to. -/
def copierLedger : Ledger :=
  Ledger.after ⟨2, []⟩ copierTenancy (copierDefined.perform (.setCompiler 1 copying))
    (.loadContainer 1 "main" "a.zip")

/-- A resolver that copies has defined a symbol and loaded a container. The account comes to one
file of passing use and one lasting artifact, and the directory holds these two next to its
subdirectories. -/
theorem cache_contents_copier : copierLedger.compiled.length = 1 ∧
    copierLoaded.temporaries.map (fun entry => (entry.1, entry.2.isReleased)) = [(4, false)] ∧
      Contents copierTenancy copierLedger copierLoaded := by
  have accounted : copierLedger.compiled.length = 1 ∧
      copierLoaded.temporaries.map (fun entry => (entry.1, entry.2.isReleased)) = [(4, false)] := by
    decide +kernel
  have opened : Run copierTenancy
      (besideNothing.perform (.openResolver "loader" {} copying .archive none)) ⟨2, []⟩ :=
    .opened copierTenancy_opening
  have defined : Run copierTenancy copierDefined ⟨2, []⟩ :=
    .perform (.perform opened (.setCompiler 1 copying) trivial) (.define 1 "main" "m" [7])
      ⟨rfl, setCompiler_faithful _ 1⟩
  have loaded : Run copierTenancy copierLoaded copierLedger :=
    .perform (.perform defined (.setCompiler 1 copying) trivial) (.loadContainer 1 "main" "a.zip")
      ⟨rfl, setCompiler_faithful _ 1⟩
  exact ⟨accounted.1, accounted.2, cache_contents loaded⟩

/-- A configuration whose artifacts go into the subdirectory for staged files. -/
def strayConfig : Config where
  cacheDirectory := "cache"
  stagingDirectory := Staging.digest (Staging.durableMessage "a.zip" 1000) ++ ".x"
  artifactExtension := some "x/left"

/-- A configuration is accepted by which lasting artifacts go among the staged files. Once a
container was loaded, the directory for staged files holds its artifact, though there is no file of
passing use. -/
theorem cache_contents_stray : strayConfig.flaw? = none ∧
    ((besideNothing.perform (.openResolver "loader" strayConfig copying .archive none)).perform
      (.loadContainer 1 "main" "a.zip")).temporaries = [] ∧
    (((besideNothing.perform (.openResolver "loader" strayConfig copying .archive none)).perform
      (.loadContainer 1 "main" "a.zip")).files.list
        (Path.join "cache" strayConfig.stagingDirectory)).toOption = some ["left"] := by
  decide +kernel

/-- What is left in the directory when a resolver is opened over a path that leads to it. -/
def leftBy (path : String) (entries : List (Location × Node)) : Option (List String) :=
  let files : Files := ⟨(["tmp"], .directory) :: (["tmp", "work"], .directory) ::
    (["tmp", "work", "cache"], .directory) :: entries, 0⟩
  ((Session.perform { files } (.openResolver "loader" { cacheDirectory := path } copying .archive
    none)).files.list "cache").toOption

-- A path that leads through the directory itself, or through a directory that is still missing,
-- leaves more than the subdirectories there.
example :
    leftBy "cache" [(["tmp", "work", "cache", "x"], .directory)] = some ["staging", "libs"] ∧
    leftBy "cache/x/.." [(["tmp", "work", "cache", "x"], .directory)] =
      some ["x", "staging", "libs"] ∧
    leftBy "new/../cache" [(["tmp", "work", "cache", "old"], .file [] 0)] =
      some ["old", "staging", "libs"] := by
  decide +kernel

end Session

end Hotload
