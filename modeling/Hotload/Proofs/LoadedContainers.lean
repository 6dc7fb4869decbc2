import Hotload.Proofs.ArtifactOrigins
import Hotload.Proofs.ContainerRoundTrip
import Hotload.Proofs.RegistryHistory
import Hotload.Proofs.StagedFiles

/-!
# Containers loaded one after the other

A load that succeeds adds a unit to the registry of its resolver, which is bound to the lasting
artifact of the container, and everything else stays: the settings of the resolver, the other units
that are still registered, and every file that is not empty, wherever it stands. This needs that there
are no files of passing use, whose deletion might take a file away.

So the containers loaded so far, if they were loaded from an empty cache directory on, tell all that
there is. The registry names their units, each at the place of its last load, and every unit was made of
what its container still holds.
-/

namespace Hotload

open Files

/-! ## The names of units -/

namespace Session

/-- The unit of a lasting artifact that stands somewhere has a name that tells the digest. -/
theorem digest_of_unitName {home : Home} {files : Files} {resolver : Resolver} {text : String}
    (housed : Housed home files) (layout : resolver.layout = home.layout)
    (direct : Direct home resolver) {location : Location}
    (place : files.place? true (durable resolver text) = some location) :
    (Path.unitName (durable resolver text)).toList.takeWhile (· ≠ '.') =
      (Staging.digest text).toList := by
  obtain ⟨relative, first, rest, parts, notHere, notUp⟩ :=
    Staging.durable_parts text resolver.staging.artifactExtension
  unfold durable at place ⊢
  rw [layout] at place ⊢
  have single := housed.direct_single relative parts notHere notUp (direct text first rest parts) place
  rw [Path.unitName_join _ single]
  exact Staging.digest_of_parts single.parts

end Session

/-- The compiler that passes archives on works through its output only. -/
theorem Compiler.passthrough_through (request : CompileRequest) (files : Files) :
    Through request.output files (passthrough request files).1 := by
  have copied : Through request.output files (files.copy request.input request.output).1 := by
    unfold Files.copy
    split
    · exact .nothing files
    · split
      · exact .nothing files
      · next opened emptied =>
        have first := (Through.nothing files).write emptied
        split
        · exact first
        · split
          · exact first
          · next written => exact first.write written
    · exact .nothing files
  unfold passthrough
  rcases result : files.copy request.input request.output with ⟨after, error | count⟩
  all_goals
    rw [result] at copied
    exact copied

namespace Session

variable {session after : Session} {id number : Nat} {holder : String} {now resolver : Resolver}
variable {thread : Thread} {container output : String}

/-! ## What a load adds -/

/-- Without files of passing use, letting go leaves the tree alone. -/
theorem settle_files_of_none (vacant : session.temporaries = []) :
    session.settle.files = session.files :=
  settle_files (· = session.files) rfl fun _ _ _ _ present => by rw [vacant] at present; cases present

/-- Without files of passing use, letting go makes none. -/
theorem settle_temporaries_of_none (vacant : session.temporaries = []) :
    session.settle.temporaries = [] :=
  List.eq_nil_iff_forall_not_mem.mpr fun entry listed => by
    have early := settle_mem listed
    rw [vacant] at early
    cases early

/-- A resolver that the host holds is in some state, and so are the units that it has registered. -/
structure Stocks (session : Session) (id : Nat) (holder : String) (now : Resolver)
    (units : Nat → Option LoadedUnit) : Prop where
  held : (holder, .loader (.resolver id)) ∈ session.held
  present : session.resolvers.get? id = some now
  units : ∀ number ∈ now.registry.map (·.2), session.units.get? number = units number

section

variable {units : Nat → Option LoadedUnit} (stocks : Stocks session id holder now units)
include stocks

/-- Steps that touch no loader leave it so. -/
theorem Stocks.same (held : after.held = session.held) (resolvers : after.resolvers = session.resolvers)
    (same : after.units = session.units) : Stocks after id holder now units where
  held := held ▸ stocks.held
  present := resolvers ▸ stocks.present
  units := same ▸ stocks.units

/-- Letting go leaves a resolver stocked, since the host holds it. -/
theorem Stocks.settle : Stocks session.settle id holder now units := by
  have pruned := session.keptLoaders_pruned
  obtain ⟨settled, resolvers⟩ := session.settle_loaders
  have held : (holder, .loader (.resolver id)) ∈ session.keptLoaders.held := by
    rw [pruned.rest]
    exact stocks.held
  have present : session.keptLoaders.resolvers.get? id = some now :=
    (pruned.resolver (held_mem_targets held)).trans stocks.present
  refine ⟨(settle_held session).symm ▸ stocks.held, resolvers ▸ present, fun number listed => ?_⟩
  rw [settled, pruned.unit (registered_mem_targets present listed)]
  exact stocks.units number listed

/-- Marks of threads show in the busy threads only. -/
theorem Stocks.updateBusy (change : BusySet → BusySet) :
    Stocks (session.updateResolver id fun resolver => { resolver with busy := change resolver.busy })
      id holder { now with busy := change now.busy } units where
  held := stocks.held
  present := by
    simp only [updateResolver, Table.get?_update, ↓reduceIte, stocks.present, Option.map_some]
  units := stocks.units

/-- A new unit is registered next to the others. -/
theorem Stocks.enlisted (wired : Wired session) (unit : LoadedUnit) :
    Stocks (session.enlisted id unit) id holder
      { now with registry := Registry.register now.registry unit.name session.fresh }
      fun number => if number = session.fresh then some unit else units number where
  held := stocks.held
  present := by
    have added : (session.addUnit unit).1.resolvers.get? id = some now := stocks.present
    simp only [Session.enlisted, updateResolver, Table.get?_update, ↓reduceIte, added,
      Option.map_some]
  units other listed := by
    have isUnits : (session.enlisted id unit).units = (session.addUnit unit).1.units := rfl
    rw [isUnits]
    split
    · next isNew =>
      rw [isNew]
      exact wired.addUnit_present unit
    · next earlier =>
      obtain ⟨entry, member, rfl⟩ := List.mem_map.mp listed
      have known : entry ∈ now.registry := by
        rcases List.mem_append.mp member with old | new
        · exact (List.mem_filter.mp old).1
        · exact absurd (congrArg Prod.snd (List.mem_singleton.mp new)) earlier
      rw [addUnit_units, if_neg earlier, Option.or_none]
      exact stocks.units _ (List.mem_map_of_mem known)

end

/-- Every file is shown as before. -/
def KeepsFiles (files other : Files) : Prop :=
  ∀ path location content modified, files.shown? path = some (location, .file content modified) →
    other.shown? path = some (location, .file content modified)

/-- A unit was made of an artifact and has found no symbol yet. -/
structure MadeOf (now : Resolver) (files : Files) (output : String) (unit : LoadedUnit) : Prop where
  named : unit.name = Path.unitName output
  artifact : unit.artifact = output
  parent : unit.parent = now.parent
  unasked : unit.resolved = []
  bound : UnitContent.bind now.platform files output = .ok unit.content

/-- A unit is made of an artifact as long as the artifact is shown. -/
theorem MadeOf.shown {files other : Files} {unit : LoadedUnit} (made : MadeOf now files output unit)
    (same : other.shown? output = files.shown? output) : MadeOf now other output unit := by
  obtain ⟨location, bytes, modified, shown⟩ := UnitContent.shown_of_bind made.bound
  exact { made with
    bound := (UnitContent.bind_of_shown shown (same.trans shown) now.platform).trans made.bound }

/-- What a load that succeeds brings: a unit that is made of the artifact and is the most recent one of
the resolver. -/
structure Brings (session : Session) (id : Nat) (holder : String) (now : Resolver)
    (units : Nat → Option LoadedUnit) (output : String) (after : Session) (number : Nat) : Prop where
  files : KeepsFiles session.files after.files
  absent : session.units.get? number = none
  unit : ∃ busy unit, MadeOf now after.files output unit ∧
    Stocks after id holder
      { now with busy, registry := Registry.register now.registry (Path.unitName output) number }
      fun other => if other = number then some unit else units other

section

variable {units : Nat → Option LoadedUnit} (stocks : Stocks session id holder now units)
  (wired : Wired session) (vacant : session.temporaries = [])
include stocks wired vacant

/-- A registration brings a unit. -/
theorem Stocks.register
    (registered : session.register id (Path.unitName output) output none = (after, .ok number)) :
    Brings session id holder now units output after number := by
  rcases session.register_cases id (Path.unitName output) output none with
    ⟨error, failed⟩ | ⟨there, size, content, present, _, bound, succeeded⟩
  · cases (Prod.mk.inj (failed.symm.trans registered)).2
  · obtain rfl := Option.some.inj (stocks.present.symm.trans present)
    rw [enlist_eq] at succeeded
    obtain ⟨isAfter, isNumber⟩ := Prod.mk.inj (succeeded.symm.trans registered)
    obtain rfl := Except.ok.inj isNumber
    have files : after.files = session.files := by
      rw [← isAfter]
      exact settle_files_of_none vacant
    refine ⟨fun path location content modified shown => files ▸ shown, wired.vacant, now.busy,
      unitOf now (Path.unitName output) output none content, ⟨rfl, rfl, rfl, rfl, files ▸ bound⟩, ?_⟩
    rw [← isAfter]
    exact (stocks.enlisted wired _).settle

/-- A compile that succeeds brings a unit, and leaves the tree as the compiler left it. -/
theorem Stocks.compile {archive : String}
    (compiled : session.compile id now thread archive output (Path.unitName output) none =
      (after, .ok number)) :
    (now.compiler ⟨archive, output, true⟩ session.files).1 = after.files ∧
      session.units.get? number = none ∧ ∃ busy unit, MadeOf now after.files output unit ∧
        Stocks after id holder
          { now with busy, registry := Registry.register now.registry (Path.unitName output) number }
          fun other => if other = number then some unit else units other := by
  obtain ⟨called, outcome, content, heard, isNow, filled, bound, isNumber, isAfter⟩ :=
    compile_enlists stocks.present compiled
  have isCalled : called = ((session.markBusy id thread).invoke id now thread
    ⟨archive, output, true⟩).1 := by rw [heard]
  have entering : Stocks called id holder (entered now thread) units := by
    rw [isCalled]
    exact (stocks.updateBusy (·.enter thread)).same rfl rfl rfl
  have calledWired : Wired called := by
    rw [isCalled]
    exact wired.keeps ((markBusy_quiet session id thread).toKeepsLinks.trans
      (invoke_keepsLinks _ id now thread ⟨archive, output, true⟩))
  have calledVacant : called.temporaries = [] := by
    rw [isCalled]
    exact vacant
  have files : after.files = called.files := by
    rw [isAfter]
    refine (settle_files_of_none ?_).trans (settle_files_of_none calledVacant)
    exact settle_temporaries_of_none calledVacant
  have brought := ((entering.enlisted calledWired (unitOf (entered now thread)
    (Path.unitName output) output none content)).settle.updateBusy (·.leave thread)).settle
  rw [isNumber] at brought
  have absent : session.units.get? number = none := by
    have unused := calledWired.vacant
    rw [isNumber, isCalled] at unused
    exact unused
  refine ⟨by rw [files, isCalled]; rfl, absent, (now.busy.enter thread).leave thread,
    unitOf (entered now thread) (Path.unitName output) output none content,
    ⟨rfl, rfl, rfl, rfl, files ▸ bound⟩, ?_⟩
  rw [isAfter]
  exact brought

end

/-! ## Loads in a directory that is kept -/

section

variable {tenancy : Tenancy} {ledger : Ledger} (kept : Kept tenancy ledger session)
  (vacant : session.temporaries = [])
include kept vacant

/-- Without files of passing use, every file in the directory is a lasting artifact. -/
theorem Kept.artifact_of_inside {path : String} {location : Location} {content : Bytes}
    {modified : Int} (shown : session.files.shown? path = some (location, .file content modified))
    (inside : Inside tenancy.home.place location) :
    ∃ text, session.files.target? (durable tenancy.resolver text) = some location ∧
      ∃ place bytes time, session.files.shown? (durable tenancy.resolver text) =
        some (place, .file bytes time) ∧ bytes ≠ [] := by
  have housed := kept.tended.filled.housed
  have stands := (stands_of_shown shown).2
  have noDirectory : session.files.bone? location ≠ some .directory := by
    rw [bone?, stands]
    simp [boneOf?]
  have bones := housed.bones location inside
  rcases kept.tended.filled.only location inside (by rw [stands]; simp) with
    isStaging | isLibraries | ⟨other, impossible | compiled | ⟨id, temporary, counts, _⟩, leads⟩
  · exact absurd (by rw [bones, if_pos (.inl isStaging)]) noDirectory
  · exact absurd (by rw [bones, if_pos (.inr isLibraries)]) noDirectory
  · cases impossible
  · obtain ⟨artifact, standing⟩ := kept.tended.stand other compiled
    obtain ⟨text, rfl⟩ := standing.isDurable
    obtain ⟨place, bytes, time, shows, filled, _⟩ := standing.shown
    exact ⟨text, leads, place, bytes, time, shows, filled⟩
  · have present := counts.present
    rw [vacant] at present
    cases present

/-- Without files of passing use, no file stands where a staged one goes. -/
theorem Kept.staged_apart {archive path : String}
    (staged : StagedAs tenancy.resolver number archive) {location : Location} {content : Bytes}
    {modified : Int} (shown : session.files.shown? path = some (location, .file content modified)) :
    Apart session.files archive path := by
  intro there target place
  obtain rfl : location = there := Option.some.inj ((stands_of_shown shown).1.symm.trans place)
  have housed := kept.tended.filled.housed
  obtain ⟨name, rfl⟩ := staged.place tenancy.layout housed (place_of_target target)
  have inside : Inside tenancy.home.place (tenancy.home.stagingPlace ++ [name]) := by
    rw [Home.stagingPlace, List.append_assoc]
    exact inside_append tenancy.home.place (by simp)
  obtain ⟨text, leads, _⟩ := kept.artifact_of_inside vacant shown inside
  obtain ⟨first, here, _⟩ :=
    durable_place housed tenancy.layout tenancy.direct (place_of_target leads)
  have lengths := congrArg List.length here
  simp [Home.stagingPlace] at lengths

/-- No other file stands where a lasting artifact goes that is missing or empty. -/
theorem Kept.durable_apart {text path : String}
    (empty : session.files.shownLength (durable tenancy.resolver text) = 0) {location : Location}
    {content : Bytes} {modified : Int}
    (shown : session.files.shown? path = some (location, .file content modified)) :
    Apart session.files (durable tenancy.resolver text) path := by
  intro there target place
  obtain rfl : location = there := Option.some.inj ((stands_of_shown shown).1.symm.trans place)
  obtain ⟨first, rfl, _⟩ := durable_place kept.tended.filled.housed tenancy.layout tenancy.direct
    (place_of_target target)
  obtain ⟨other, leads, _, bytes, time, shows, filled⟩ :=
    kept.artifact_of_inside vacant shown (inside_append tenancy.home.place (by simp))
  exact apart_of_empty empty shows filled _ target (place_of_target leads)

/-- A compile of a container brings a unit. -/
theorem Kept.compileContainer {units : Nat → Option LoadedUnit} {text : String}
    (stocks : Stocks session tenancy.id tenancy.holder now units)
    (staging : now.staging = tenancy.resolver.staging) (faithful : Faithful now.compiler)
    (isOutput : output = durable tenancy.resolver text) (empty : session.outputSize output = 0)
    (compiled : session.compileContainer tenancy.id now thread container output
      (Path.unitName output) = (after, .ok number)) :
    Brings session tenancy.id tenancy.holder now units output after number := by
  obtain ⟨archive, removed, cleared, packaged, count, later, isArchive, isCleared, isPackaged, ran,
    rfl⟩ := compileContainer_ok compiled
  have packed : Stocks { session.number.1 with files := packaged } tenancy.id tenancy.holder now
      units := stocks.same rfl rfl rfl
  obtain ⟨isLater, absent, busy, unit, made, brought⟩ := packed.compile
    (kept.tended.wired.keeps ⟨rfl, Nat.le_succ _⟩) vacant ran
  -- The tree changes at the archive, at the artifact, and at the archive again.
  have housed := kept.tended.filled.housed
  have isStaged : archive = tenancy.resolver.staging.pathFor container
      (some tenancy.resolver.staging.archiveExtension) (tokenText session.fresh) := by
    rw [isArchive, archiveFor, staging]
  have spare : Spare tenancy.resolver session.files archive :=
    IsStaged.spare housed tenancy.layout tenancy.direct ⟨_, _, _, isStaged⟩
  have clearing : Touches archive session.files packaged := by
    have first := removeIfExists_touches spare.plain
    have second := Packaging.packageContainer_touches archive container cleared
    rw [isCleared] at first
    rw [isPackaged] at second
    exact first.trans second
  have plain : Plain session.files output :=
    isOutput ▸ durable_plain housed tenancy.layout tenancy.direct text
  have compiling : Touches output packaged later.files := by
    rw [← isLater]
    exact (faithful ⟨archive, output, true⟩ packaged).touches (plain.of_skeleton clearing.skeleton)
  have skeleton := clearing.skeleton.trans compiling.skeleton
  have deleting : Touches archive later.files (later.discard archive).files := by
    rw [discard_files]
    exact removeIfExists_touches (spare.plain.of_skeleton skeleton)
  refine ⟨?_, absent, busy, unit, made.shown ?_, ?_⟩
  · intro path location content modified shown
    have away := kept.staged_apart vacant ⟨_, _, isStaged⟩ shown
    have apart : Apart session.files output path := by
      rw [outputSize_eq] at empty
      subst isOutput
      exact kept.durable_apart vacant empty shown
    have first := (clearing.status away).trans shown
    have second := (compiling.status (apart.of_skeleton clearing.skeleton)).trans first
    exact (deleting.status (away.of_skeleton skeleton)).trans second
  · exact deleting.status (isOutput ▸ (spare.apart text).of_skeleton skeleton)
  · unfold discard
    split
    all_goals exact brought.same rfl rfl rfl

/-- Every load of a container that succeeds brings a unit, made of the artifact of the container. -/
theorem Kept.loadContainer_brings {units : Nat → Option LoadedUnit}
    (stocks : Stocks session tenancy.id tenancy.holder now units)
    (staging : now.staging = tenancy.resolver.staging) (faithful : Faithful now.compiler)
    (loaded : session.loadContainer tenancy.id thread container = (after, .ok number)) :
    session.files.isFile container = true ∧
      ∃ output, tenancy.resolver.staging.durablePath container session.files = .ok output ∧
        Brings session tenancy.id tenancy.holder now units output after number := by
  unfold Session.loadContainer at loaded
  rw [stocks.present] at loaded
  dsimp only at loaded
  split at loaded
  · cases (Prod.mk.inj loaded).2
  · next isFile =>
    rw [staging] at loaded
    split at loaded
    · cases (Prod.mk.inj loaded).2
    · next output path =>
      refine ⟨by simpa using isFile, output, path, ?_⟩
      obtain ⟨text, isOutput⟩ := durable_of_path path
      unfold compileOrReuse at loaded
      dsimp only at loaded
      split at loaded
      · next empty =>
        exact kept.compileContainer vacant stocks staging faithful isOutput empty loaded
      · exact stocks.register kept.tended.wired vacant loaded

end

/-! ## Containers in their order -/

/-- The name of the unit that is made of a container. -/
def unitFor (staging : Staging) (files : Files) (container : String) : String :=
  match staging.durablePath container files with
  | .ok output => Path.unitName output
  | .error _ => ""

/-- Containers are loaded one after the other, each of them with success. -/
inductive LoadsEach (id : Nat) (thread : Thread) : Session → List String → Session → Prop
  | none (session : Session) : LoadsEach id thread session [] session
  | next {session after last : Session} {container : String} {rest : List String} {number : Nat}
      (loaded : session.loadContainer id thread container = (after, .ok number))
      (others : LoadsEach id thread after rest last) :
      LoadsEach id thread session (container :: rest) last

/-- What is seen of a container is what it shows. -/
theorem sightings_of_shown {location : Location} {content : Bytes} {modified : Int}
    (shown : session.files.shown? container = some (location, .file content modified)) :
    session.sightings container = [⟨container, modified, content⟩] := by
  rw [sightings, modified_of_shown shown, read_of_shown shown]

/-- The artifact of a container that is shown as before is where it was. -/
theorem durablePath_of_shown {files other : Files} {location : Location} {content : Bytes}
    {modified : Int} (shown : files.shown? container = some (location, .file content modified))
    (still : other.shown? container = some (location, .file content modified)) (staging : Staging) :
    staging.durablePath container other = staging.durablePath container files := by
  rw [Staging.durablePath, Staging.durablePath, modified_of_shown shown, modified_of_shown still]

/-- Every unit that is registered was made of the artifact of one of the containers. -/
def AllMade (tenancy : Tenancy) (containers : List String) (session : Session)
    (registry : Registry Nat) : Prop :=
  ∀ entry ∈ registry, ∃ unit, session.units.get? entry.2 = some unit ∧ unit.name = entry.1 ∧
    ∃ container ∈ containers, ∃ output,
      tenancy.resolver.staging.durablePath container session.files = .ok output ∧
        MadeOf tenancy.resolver session.files output unit

/-- What the session of a resolver is after containers were loaded, from its opening on: the registry
has their units, each at the place of its last load, and all that the loads have seen of the containers
is there still. -/
structure Loaded (tenancy : Tenancy) (containers : List String) (session : Session) : Prop where
  kept : ∃ ledger, Kept tenancy ledger session
  vacant : session.temporaries = []
  shown : ∀ container ∈ containers, ∃ location content modified,
    session.files.shown? container = some (location, .file content modified)
  artifacts : ∀ container ∈ containers, ∃ output location content modified,
    tenancy.resolver.staging.durablePath container session.files = .ok output ∧
      session.files.shown? output = some (location, .file content modified)
  sighted : ∃ seen, Loading tenancy session seen ∧ ∀ sighting ∈ seen,
    sighting.container ∈ containers ∧ ∃ location, session.files.shown? sighting.container =
      some (location, .file sighting.content sighting.modified)
  stocked : ∃ busy registry, (tenancy.holder, .loader (.resolver tenancy.id)) ∈ session.held ∧
    session.resolvers.get? tenancy.id = some { tenancy.resolver with busy, registry } ∧
    Registry.names registry =
      (containers.map (unitFor tenancy.resolver.staging session.files)).dedup ∧
    AllMade tenancy containers session registry

/-- In the beginning, none are. -/
theorem Opening.loaded {tenancy : Tenancy} {files : Files} {config : Config} {compiler : Compiler}
    {platform : Platform} {opened : Session}
    (opening : Opening tenancy { files } config compiler platform none opened)
    (empty : tenancy.resolver.registry = []) :
    Loaded tenancy [] (opened.hold tenancy.holder (.loader (.resolver tenancy.id))) := by
  obtain ⟨_, prepared, prepares, _, temporaries, _⟩ := openResolver_ok opening.opens
  have vacant : opened.temporaries = [] := by
    have made := prepare_temporaries { files } (Staging.ofConfig config).layout none
    rw [prepares] at made
    exact temporaries.trans made
  have kept : Kept tenancy ⟨tenancy.opened, []⟩
      (opened.hold tenancy.holder (.loader (.resolver tenancy.id))) := by
    refine ⟨opening.tended, fun id temporary present => ?_⟩
    have listed : opened.temporaries.get? id = some temporary := present
    rw [vacant] at listed
    cases listed
  have present : (opened.hold tenancy.holder (.loader (.resolver tenancy.id))).resolvers.get?
      tenancy.id = some tenancy.resolver := opening.resolver
  have uses : Uses (opened.hold tenancy.holder (.loader (.resolver tenancy.id))) tenancy.id
      tenancy.resolver.compiler := fun now there => by
    obtain rfl := Option.some.inj (present.symm.trans there)
    rfl
  have begun : Loading tenancy (opened.hold tenancy.holder (.loader (.resolver tenancy.id))) [] :=
    .begun (kept.placed uses vacant) fun text artifact isRead =>
      absurd isRead (kept.bare rfl text artifact)
  refine ⟨⟨_, kept⟩, vacant, by simp, by simp, ⟨[], begun, by simp⟩, tenancy.resolver.busy, [],
    kept.tended.held, ?_, rfl, fun _ impossible => by cases impossible⟩
  rw [present, ← empty]

/-- One more container is loaded. -/
theorem Loaded.loadContainer {tenancy : Tenancy} {containers : List String}
    (before : Loaded tenancy containers session) (faithful : Faithful tenancy.resolver.compiler)
    (loaded : session.loadContainer tenancy.id thread container = (after, .ok number)) :
    Loaded tenancy (containers ++ [container]) after := by
  obtain ⟨⟨ledger, kept⟩, vacant, shown, artifacts, ⟨seen, loading, sighted⟩, busy, registry, held,
    present, names, entries⟩ := before
  have stocks : Stocks session tenancy.id tenancy.holder
      { tenancy.resolver with busy, registry } session.units.get? := ⟨held, present, fun _ _ => rfl⟩
  obtain ⟨isFile, output, path, files, absent, later, unit, made, brought⟩ :=
    kept.loadContainer_brings vacant stocks rfl faithful loaded
  obtain ⟨location, content, modified, shows⟩ := shown_of_isFile isFile
  have still := files _ _ _ _ shows
  obtain ⟨placed, sourced⟩ := loading.sourced faithful
  have onward := (placed.loadContainer faithful sourced loaded).onward
  have isAfter : (session.loadContainer tenancy.id thread container).1 = after := by rw [loaded]
  have unmoved : ∀ listed ∈ containers, tenancy.resolver.staging.durablePath listed after.files =
      tenancy.resolver.staging.durablePath listed session.files := by
    intro listed member
    obtain ⟨_, _, _, early⟩ := shown listed member
    exact durablePath_of_shown early (files _ _ _ _ early) _
  have isPath := (durablePath_of_shown shows still tenancy.resolver.staging).trans path
  refine ⟨?_, ?_, ?_, ?_, ?_, later, _, brought.held, brought.present, ?_, ?_⟩
  · have performed : Kept tenancy _ (session.perform (.loadContainer tenancy.id thread container)) :=
      kept.perform ⟨rfl, fun now there => by
        obtain rfl := Option.some.inj (present.symm.trans there)
        exact faithful⟩
    rw [← isAfter]
    exact ⟨_, performed⟩
  · refine List.eq_nil_iff_forall_not_mem.mpr fun entry listed => ?_
    have early := onward.temporaries entry listed
    rw [vacant] at early
    cases early
  · intro listed member
    rcases List.mem_append.mp member with earlier | last
    · obtain ⟨_, _, _, early⟩ := shown listed earlier
      exact ⟨_, _, _, files _ _ _ _ early⟩
    · obtain rfl := List.mem_singleton.mp last
      exact ⟨_, _, _, still⟩
  · intro listed member
    rcases List.mem_append.mp member with earlier | last
    · obtain ⟨artifact, _, _, _, leads, early⟩ := artifacts listed earlier
      exact ⟨artifact, _, _, _, (unmoved listed earlier).trans leads, files _ _ _ _ early⟩
    · obtain rfl := List.mem_singleton.mp last
      obtain ⟨_, _, _, own⟩ := UnitContent.shown_of_bind made.bound
      exact ⟨output, _, _, _, isPath, own⟩
  · refine ⟨_, isAfter ▸ loading.loaded thread container, fun sighting found => ?_⟩
    rcases List.mem_append.mp found with earlier | last
    · obtain ⟨member, there, early⟩ := sighted sighting earlier
      exact ⟨List.mem_append_left _ member, there, files _ _ _ _ early⟩
    · rw [sightings_of_shown shows] at last
      obtain rfl := List.mem_singleton.mp last
      exact ⟨by simp, location, still⟩
  · rw [Registry.names_register, names, List.map_append, List.map_cons, List.map_nil,
      Registry.dedup_concat]
    have isName : unitFor tenancy.resolver.staging after.files container = Path.unitName output := by
      rw [unitFor, isPath]
    have others : containers.map (unitFor tenancy.resolver.staging after.files) =
        containers.map (unitFor tenancy.resolver.staging session.files) :=
      List.map_congr_left fun listed member => by rw [unitFor, unitFor, unmoved listed member]
    rw [isName, others]
  · intro entry member
    rcases List.mem_append.mp member with earlier | last
    · obtain ⟨old, there, named, source, listed, artifact, leads, was⟩ :=
        entries entry (List.mem_filter.mp earlier).1
      have older : entry.2 ≠ number := by
        intro same
        rw [same, absent] at there
        cases there
      obtain ⟨_, _, _, artifactShown⟩ := UnitContent.shown_of_bind was.bound
      refine ⟨old, ?_, named, source, List.mem_append_left _ listed, artifact,
        (unmoved source listed).trans leads,
        was.shown ((files _ _ _ _ artifactShown).trans artifactShown.symm)⟩
      rw [brought.units entry.2 (List.mem_map_of_mem member), if_neg older, there]
    · obtain rfl := List.mem_singleton.mp last
      refine ⟨unit, ?_, made.named, container, by simp, output, isPath,
        ⟨made.named, made.artifact, made.parent, made.unasked, made.bound⟩⟩
      rw [brought.units number (List.mem_map_of_mem member), if_pos rfl]

/-- Several more containers are loaded, by induction from one. -/
theorem LoadsEach.loaded {tenancy : Tenancy} {done containers : List String} {last : Session}
    (each : LoadsEach tenancy.id thread session containers last)
    (faithful : Faithful tenancy.resolver.compiler) (before : Loaded tenancy done session) :
    Loaded tenancy (done ++ containers) last := by
  induction each generalizing done with
  | none => rwa [List.append_nil]
  | next loaded _ inductionHypothesis =>
    have after := inductionHypothesis (before.loadContainer faithful loaded)
    rwa [List.append_assoc] at after

/-! ## What the units hold -/

end Session

/-- The parts of a container: its entries that are no directories, with their contents. -/
def partsIn (files : Files) (container : String) : List (String × Bytes) :=
  match Packaging.openContainer files container with
  | .error _ => []
  | .ok (content, entries) =>
    ((Packaging.contents content (entries.filter (!·.isDirectory))).toOption).getD []

/-- Entries that were copied to parts have them as their contents. -/
theorem Packaging.contents_of_copies {content : Bytes} {entries : List Zip.Entry}
    {parts : List (String × Bytes)} (copies : List.Forall₂ (Copies content) entries parts) :
    contents content entries = .ok parts := by
  induction copies with
  | nil => rfl
  | @cons entry part rest others head _ inductionHypothesis =>
    obtain ⟨named, body⟩ := head
    rw [contents, body]
    dsimp only
    rw [inductionHypothesis, ← named]

/-- What the entries of a container were copied to are the parts of the container. -/
theorem partsIn_of_copies {files : Files} {container : String} {content : Bytes}
    {entries : List Zip.Entry} {parts : List (String × Bytes)}
    (isRead : files.read container = .ok content) (isList : Zip.entries? content = some entries)
    (copies : List.Forall₂ (Packaging.Copies content) (entries.filter (!·.isDirectory)) parts) :
    partsIn files container = parts := by
  rw [partsIn, Packaging.openContainer, isRead]
  dsimp only
  rw [isList]
  dsimp only
  rw [Packaging.contents_of_copies copies]
  rfl

/-- What is compiled by passing it on is an archive with the parts of the container. -/
theorem CompiledFrom.write {source artifact : Bytes}
    (compiled : CompiledFrom Compiler.passthrough source artifact) (filled : artifact ≠ [])
    {files : Files} {container : String} (isRead : files.read container = .ok source) :
    artifact = Zip.write (partsIn files container) := by
  obtain ⟨early, archive, output, after, outcome, entries, parts, isList, copies, isArchive, passed,
    isOutput⟩ := compiled
  obtain ⟨_, _, shown⟩ := shown_of_read isOutput
  have something : after.shownLength output ≠ 0 := by
    rw [shownLength, shown]
    exact fun empty => filled (List.length_eq_zero_iff.mp empty)
  obtain ⟨content, _, _, isContent, _, shows, _⟩ := Compiler.passthrough_ok passed something
  obtain rfl := Except.ok.inj (isContent.symm.trans isArchive)
  rw [partsIn_of_copies isRead isList copies]
  exact Except.ok.inj (isOutput.symm.trans (read_of_shown shows))

/-- An archive that is bound is not empty. -/
theorem UnitContent.filled_of_bind {files : Files} {artifact : String} {content : UnitContent}
    (bound : bind .archive files artifact = .ok content) {location : Location} {bytes : Bytes}
    {modified : Int} (shown : files.shown? artifact = some (location, .file bytes modified)) :
    bytes ≠ [] := by
  rintro rfl
  unfold bind bindArchive at bound
  dsimp only at bound
  rw [artifactSize_of_shown shown] at bound
  cases bound

namespace Session

/-- No two containers that are listed have artifacts with one digest. -/
def Unlike (files : Files) (containers : List String) : Prop :=
  ∀ first ∈ containers, ∀ second ∈ containers, ∀ modified later,
    files.modified first = .ok modified → files.modified second = .ok later →
      Staging.digest (Staging.durableMessage first modified) =
        Staging.digest (Staging.durableMessage second later) → first = second

/-- The path of the artifact of a container is that of its digest. -/
theorem durable_of_durablePath {files : Files}
    (path : resolver.staging.durablePath container files = .ok output) :
    ∃ modified, files.modified container = .ok modified ∧
      output = durable resolver (Staging.durableMessage container modified) := by
  unfold Staging.durablePath at path
  split at path
  · cases path
  · next modified isModified => exact ⟨modified, isModified, (Except.ok.inj path).symm⟩

section

variable {tenancy : Tenancy} {containers : List String} (loaded : Loaded tenancy containers session)
  (unlike : Unlike session.files containers)
include loaded unlike

/-- Different containers have units with different names. -/
theorem Loaded.unitFor_inj {first second : String} (left : first ∈ containers)
    (right : second ∈ containers) (same : unitFor tenancy.resolver.staging session.files first =
      unitFor tenancy.resolver.staging session.files second) : first = second := by
  obtain ⟨ledger, kept⟩ := loaded.kept
  have told : ∀ listed ∈ containers, ∃ modified, session.files.modified listed = .ok modified ∧
      (unitFor tenancy.resolver.staging session.files listed).toList.takeWhile (· ≠ '.') =
        (Staging.digest (Staging.durableMessage listed modified)).toList := by
    intro listed member
    obtain ⟨output, _, _, _, path, shown⟩ := loaded.artifacts listed member
    obtain ⟨modified, isModified, rfl⟩ := durable_of_durablePath path
    refine ⟨modified, isModified, ?_⟩
    rw [unitFor, path]
    exact digest_of_unitName kept.tended.filled.housed tenancy.layout tenancy.direct
      (stands_of_shown shown).1
  obtain ⟨modified, isModified, leftDigest⟩ := told first left
  obtain ⟨later, isLater, rightDigest⟩ := told second right
  refine unlike first left second right modified later isModified isLater ?_
  rw [same] at leftDigest
  exact String.toList_injective (leftDigest.symm.trans rightDigest)

/-- A unit that was made of the artifact of a container holds the parts of the container. -/
theorem Loaded.artifact (passes : tenancy.resolver.compiler = Compiler.passthrough)
    (archive : tenancy.resolver.platform = .archive) (listed : container ∈ containers)
    (path : tenancy.resolver.staging.durablePath container session.files = .ok output)
    {unit : LoadedUnit} (made : MadeOf tenancy.resolver session.files output unit) :
    session.files.read output = .ok (Zip.write (partsIn session.files container)) := by
  obtain ⟨seen, loading, sighted⟩ := loaded.sighted
  have faithful : Faithful tenancy.resolver.compiler := passes ▸ Compiler.passthrough_through
  obtain ⟨modified, isModified, rfl⟩ := durable_of_durablePath path
  obtain ⟨_, bytes, _, shown⟩ := UnitContent.shown_of_bind made.bound
  have isRead := read_of_shown shown
  have filled := UnitContent.filled_of_bind (archive ▸ made.bound) shown
  -- The artifact comes from what some load has seen, and that is the container.
  obtain ⟨sighting, found, same, compiled⟩ :=
    (loading.sourced faithful).2 _ bytes isRead filled
  obtain ⟨member, _, seenShown⟩ := sighted sighting found
  have isContainer : sighting.container = container :=
    unlike _ member _ listed _ _ (modified_of_shown seenShown) isModified same
  rw [isContainer] at seenShown
  rw [passes] at compiled
  rw [isRead, compiled.write filled (read_of_shown seenShown)]

end

end Session

end Hotload
