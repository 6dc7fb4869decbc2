import Hotload.Proofs.Definitions
import Hotload.Proofs.StagedNames
import Hotload.Proofs.SymbolArchives

/-!
# What definitions under way have

Definitions under way share the directory for staged files, the list of live files, the registry and
the set of busy threads, and no lock keeps them apart. What keeps them apart is that every staged
file is called by a token of its own. `UnderWay` says what each definition has there and that
nothing else has changed. It does not depend on the order of the definitions, so one step is a
change of the first one.
-/

namespace Hotload

open Files

/-- A name that is new to a registry is added at its end. -/
theorem Registry.register_new {α : Type} {registry : Registry α} {name : String}
    (new : name ∉ registry.map (·.1)) (unit : α) :
    registry.register name unit = registry ++ [(name, unit)] := by
  have kept : registry.without name = registry := by
    refine List.filter_eq_self.mpr fun entry listed => ?_
    exact decide_eq_true fun same => new (same ▸ List.mem_map_of_mem listed)
  rw [Registry.register, kept]

namespace Session

variable {start session before after : Session} {id : Nat} {resolver : Resolver} {place : Location}

/-! ## Names of staged files -/

/-- A session in which definitions can begin: nothing is left over, the directory for staged files
is there, and no token that is still to be drawn is in use. -/
structure Equipped (start : Session) (id : Nat) (resolver : Resolver) (place : Location) :
    Prop where
  hosted : Hosted start
  present : start.resolvers.get? id = some resolver
  platform : resolver.platform = .archive
  compiler : resolver.compiler = Compiler.passthrough
  reaper : start.reapers.has resolver.reaper = true
  reached : start.files.locate true resolver.staging.layout.staging = .ok (.taken place .directory)
  undrawn : Undrawn start
  unlisted : ∀ name ∈ resolver.registry.map (·.1), ∀ number, start.fresh ≤ number →
    ¬ Bears number name

/-- The name of a file that was staged since the start. -/
structure OwnName (start : Session) (resolver : Resolver) (place : Location) (limit : Nat)
    (name : String) : Prop where
  available : Available start.files resolver.staging.layout.staging place name
  bears : ∃ number, start.fresh ≤ number ∧ number < limit ∧ Bears number name

theorem OwnName.mono {limit later : Nat} {name : String}
    (own : OwnName start resolver place limit name) (le : limit ≤ later) :
    OwnName start resolver place later name where
  available := own.available
  bears := by
    obtain ⟨number, from_, below, bears⟩ := own.bears
    exact ⟨number, from_, Nat.lt_of_lt_of_le below le, bears⟩

/-- Staging with the next token gives a new name. -/
theorem Equipped.ownName (equipped : Equipped start id resolver place) {number : Nat}
    (stageable : Stageable resolver (number + 1)) (later : start.fresh ≤ number) (key : String)
    {extension : Option String} (known : extension = some resolver.staging.archiveExtension ∨
      extension = resolver.staging.artifactExtension) :
    OwnName start resolver place (number + 1)
      (Staging.withExtension (stagedStem key number) extension) := by
  obtain ⟨single, usable⟩ := stageable key number extension (Nat.lt_succ_self _) known
  have bears : Bears number (Staging.withExtension (stagedStem key number) extension) :=
    ⟨key, extension, [], single.parts⟩
  exact ⟨⟨equipped.reached, single, usable, equipped.undrawn _ _ later bears place⟩,
    number, later, Nat.lt_succ_self _, bears⟩

/-- The path of a name among staged files. -/
def stagedPath (resolver : Resolver) (name : String) : String :=
  Path.join resolver.staging.layout.staging name

theorem OwnName.unitName {limit : Nat} {name : String}
    (own : OwnName start resolver place limit name) :
    Path.unitName (stagedPath resolver name) = name :=
  Path.unitName_join _ own.available.single

/-! ## What a definition has -/

namespace Definition

/-- The archive of a definition. -/
def packed (definition : Definition) : Bytes :=
  Zip.ofSymbol definition.name definition.content

/-- The staged files of a definition, by name and content. -/
def files (definition : Definition) : List (String × Bytes) :=
  match definition.phase with
  | .packaged archive => [(Path.unitName archive, definition.packed)]
  | .tracking archive output | .compiling archive output _ =>
    [(Path.unitName output, []), (Path.unitName archive, definition.packed)]
  | .compiled archive output _ _ | .registering archive output _ =>
    [(Path.unitName output, definition.packed), (Path.unitName archive, definition.packed)]
  | .finished archive _ (.ok handle) | .discarding archive (.ok handle) =>
    [(Path.unitName archive, definition.packed), (Path.unitName handle.artifact, definition.packed)]
  | .reading handle => [(Path.unitName handle.artifact, definition.packed)]
  | .ended (.ok symbol) => [(symbol.unit, definition.packed)]
  | _ => []

/-- The names that were given to a definition, also that of an archive still to be written. -/
def names (definition : Definition) : List String :=
  match definition.phase with
  | .packaging archive => [Path.unitName archive]
  | _ => definition.files.map (·.1)

/-- The artifact of a definition, once it is tracked. -/
def tracked (definition : Definition) : List String :=
  match definition.phase with
  | .compiling _ output _ | .compiled _ output _ _ | .registering _ output _ =>
    [Path.unitName output]
  | .finished _ _ (.ok handle) | .discarding _ (.ok handle) | .reading handle =>
    [Path.unitName handle.artifact]
  | .ended (.ok symbol) => [symbol.unit]
  | _ => []

/-- The unit of a definition, once it is registered. -/
def registered (definition : Definition) : List String :=
  match definition.phase with
  | .finished _ _ (.ok handle) | .discarding _ (.ok handle) | .reading handle =>
    [Path.unitName handle.artifact]
  | .ended (.ok symbol) => [symbol.unit]
  | _ => []

/-- The files are called by the names. -/
theorem files_named (definition : Definition) :
    definition.files.map (·.1) ⊆ definition.names := by
  obtain ⟨thread, name, content, phase⟩ := definition
  cases phase <;> simp [names, files]

/-- The unit of a definition is called by one of its names. -/
theorem registered_named (definition : Definition) : definition.registered ⊆ definition.names := by
  obtain ⟨thread, name, content, phase⟩ := definition
  cases phase with
  | finished archive temporary result => cases result <;> simp [names, files, registered]
  | discarding archive result => cases result <;> simp [names, files, registered]
  | ended result => cases result <;> simp [names, files, registered]
  | _ => simp [names, files, registered]

end Definition

/-- The unit behind a handle is registered, and it has just the symbol that was asked for. -/
structure Supplies (session : Session) (resolver : Resolver) (gained : Registry Nat) (name : String)
    (content : Bytes) (handle : Handle) (output : String) : Prop where
  artifact : handle.artifact = stagedPath resolver output
  listed : (output, handle.unit) ∈ gained
  unit : ∃ entry unit, Zip.Lists name content entry ∧
    session.units.get? handle.unit = some unit ∧ unit.name = output ∧
      unit.artifact = stagedPath resolver output ∧
        unit.content = .archive (UnitContent.indexOf [entry]) ∧ unit.resolved = []

section

variable (start session : Session) (resolver : Resolver) (place : Location) (gained : Registry Nat)
  (name : String) (content : Bytes)

/-- A definition that has come to a phase without a failure. -/
inductive Healthy : DefinePhase → Prop
  | asked : Healthy .asked
  | packaging {archive : String} (ownArchive : OwnName start resolver place session.fresh archive) :
      Healthy (.packaging (stagedPath resolver archive))
  | packaged {archive : String} (ownArchive : OwnName start resolver place session.fresh archive) :
      Healthy (.packaged (stagedPath resolver archive))
  | tracking {archive output : String}
      (ownArchive : OwnName start resolver place session.fresh archive)
      (ownOutput : OwnName start resolver place session.fresh output) :
      Healthy (.tracking (stagedPath resolver archive) (stagedPath resolver output))
  | compiling {archive output : String} (temporary : Nat)
      (ownArchive : OwnName start resolver place session.fresh archive)
      (ownOutput : OwnName start resolver place session.fresh output) :
      Healthy (.compiling (stagedPath resolver archive) (stagedPath resolver output) temporary)
  | compiled {archive output : String} (temporary : Nat) (outcome : CompileOutcome)
      (ownArchive : OwnName start resolver place session.fresh archive)
      (ownOutput : OwnName start resolver place session.fresh output) :
      Healthy (.compiled (stagedPath resolver archive) (stagedPath resolver output) temporary
        (.ok outcome))
  | registering {archive output : String} (temporary : Nat)
      (ownArchive : OwnName start resolver place session.fresh archive)
      (ownOutput : OwnName start resolver place session.fresh output) :
      Healthy (.registering (stagedPath resolver archive) (stagedPath resolver output) temporary)
  | finished {archive output : String} (temporary : Nat) (handle : Handle)
      (ownArchive : OwnName start resolver place session.fresh archive)
      (ownOutput : OwnName start resolver place session.fresh output)
      (supplies : Supplies session resolver gained name content handle output) :
      Healthy (.finished (stagedPath resolver archive) temporary (.ok handle))
  | discarding {archive output : String} (handle : Handle)
      (ownArchive : OwnName start resolver place session.fresh archive)
      (ownOutput : OwnName start resolver place session.fresh output)
      (supplies : Supplies session resolver gained name content handle output) :
      Healthy (.discarding (stagedPath resolver archive) (.ok handle))
  | reading {output : String} (handle : Handle)
      (ownOutput : OwnName start resolver place session.fresh output)
      (supplies : Supplies session resolver gained name content handle output) :
      Healthy (.reading handle)
  | ended (symbol : Symbol) (ownUnit : OwnName start resolver place session.fresh symbol.unit)
      (named : symbol.name = name) (body : symbol.body = .bytecode content) :
      Healthy (.ended (.ok symbol))

end

/-- A session with definitions under way. It does not matter in which order they are listed. -/
structure UnderWay (start : Session) (id : Nat) (resolver : Resolver) (place : Location)
    (gained : Registry Nat) (session : Session) (definitions : List Definition) : Prop where
  tidy : Tidy (session.lent (targetsOf definitions))
  wired : Wired session
  numbers : Distinct session
  given : ∀ temporary, session.temporaries.has temporary = true → temporary < session.fresh
  later : start.fresh ≤ session.fresh
  /-- The staged files of the definitions are there, and nothing else in the tree has changed. -/
  holding : Holding start.files resolver.staging.layout.staging place
    (definitions.flatMap Definition.files) session.files
  distinct : (definitions.flatMap Definition.names).Nodup
  opened : ∃ busy, session.resolvers.get? id =
    some { resolver with registry := resolver.registry ++ gained, busy }
  listed : (gained.map (·.1)).Perm (definitions.flatMap Definition.registered)
  units : ∀ entry ∈ gained, ∃ unit, session.units.get? entry.2 = some unit ∧ unit.name = entry.1 ∧
    unit.artifact = stagedPath resolver entry.1
  healthy : ∀ definition ∈ definitions, Healthy start session resolver place gained definition.name
    definition.content definition.phase
  reaper : session.reapers.has resolver.reaper = true
  live : (session.liveNames resolver.reaper).Perm
    (start.liveNames resolver.reaper ++ definitions.flatMap Definition.tracked)

variable {gained : Registry Nat} {definition : Definition} {definitions others : List Definition}

/-! ## Laws of the invariant -/

/-- All names of a definition are its own. -/
theorem Healthy.own (healthy : Healthy start session resolver place gained definition.name
    definition.content definition.phase) {name : String} (member : name ∈ definition.names) :
    OwnName start resolver place session.fresh name := by
  obtain ⟨thread, asked, content, phase⟩ := definition
  cases healthy with
  | asked => simp [Definition.names, Definition.files] at member
  | packaging ownArchive | packaged ownArchive =>
    simp only [Definition.names, Definition.files, ownArchive.unitName, List.map_cons, List.map_nil,
      List.mem_singleton] at member
    exact member ▸ ownArchive
  | tracking ownArchive ownOutput | compiling _ ownArchive ownOutput
  | compiled _ _ ownArchive ownOutput | registering _ ownArchive ownOutput =>
    simp only [Definition.names, Definition.files, ownArchive.unitName, ownOutput.unitName,
      List.map_cons, List.map_nil, List.mem_cons, List.not_mem_nil, or_false] at member
    rcases member with rfl | rfl
    · exact ownOutput
    · exact ownArchive
  | finished _ _ ownArchive ownOutput supplies | discarding _ ownArchive ownOutput supplies =>
    simp only [Definition.names, Definition.files, ownArchive.unitName, supplies.artifact,
      ownOutput.unitName, List.map_cons, List.map_nil, List.mem_cons, List.not_mem_nil,
      or_false] at member
    rcases member with rfl | rfl
    · exact ownArchive
    · exact ownOutput
  | reading _ ownOutput supplies =>
    simp only [Definition.names, Definition.files, supplies.artifact, ownOutput.unitName,
      List.map_cons, List.map_nil, List.mem_singleton] at member
    exact member ▸ ownOutput
  | ended symbol ownUnit =>
    simp only [Definition.names, Definition.files, List.map_cons, List.map_nil,
      List.mem_singleton] at member
    exact member ▸ ownUnit

/-- A unit that is registered still and has learnt nothing supplies its symbol. -/
theorem Supplies.later {more : Registry Nat} {name output : String} {content : Bytes}
    {handle : Handle} (supplies : Supplies session resolver gained name content handle output)
    (registry : gained ⊆ more)
    (units : ∀ unit, unit.name = output → session.units.get? handle.unit = some unit →
      after.units.get? handle.unit = some unit) :
    Supplies after resolver more name content handle output where
  artifact := supplies.artifact
  listed := registry supplies.listed
  unit := by
    obtain ⟨entry, unit, lists, present, named, rest⟩ := supplies.unit
    exact ⟨entry, unit, lists, units unit named present, named, rest⟩

/-- A definition stays without failure as long as its unit does not change. -/
theorem Healthy.later {more : Registry Nat} (healthy : Healthy start session resolver place gained
      definition.name definition.content definition.phase)
    (fresh : session.fresh ≤ after.fresh) (registry : gained ⊆ more)
    (units : ∀ number unit, unit.name ∈ definition.registered →
      session.units.get? number = some unit → after.units.get? number = some unit) :
    Healthy start after resolver place more definition.name definition.content
      definition.phase := by
  obtain ⟨thread, asked, content, phase⟩ := definition
  cases healthy with
  | asked => exact .asked
  | packaging ownArchive => exact .packaging (ownArchive.mono fresh)
  | packaged ownArchive => exact .packaged (ownArchive.mono fresh)
  | tracking ownArchive ownOutput => exact .tracking (ownArchive.mono fresh) (ownOutput.mono fresh)
  | compiling temporary ownArchive ownOutput =>
    exact .compiling temporary (ownArchive.mono fresh) (ownOutput.mono fresh)
  | compiled temporary outcome ownArchive ownOutput =>
    exact .compiled temporary outcome (ownArchive.mono fresh) (ownOutput.mono fresh)
  | registering temporary ownArchive ownOutput =>
    exact .registering temporary (ownArchive.mono fresh) (ownOutput.mono fresh)
  | finished temporary handle ownArchive ownOutput supplies =>
    refine .finished temporary handle (ownArchive.mono fresh) (ownOutput.mono fresh)
      (supplies.later registry fun unit named => units _ unit ?_)
    simp [Definition.registered, supplies.artifact, ownOutput.unitName, named]
  | discarding handle ownArchive ownOutput supplies =>
    refine .discarding handle (ownArchive.mono fresh) (ownOutput.mono fresh)
      (supplies.later registry fun unit named => units _ unit ?_)
    simp [Definition.registered, supplies.artifact, ownOutput.unitName, named]
  | reading handle ownOutput supplies =>
    refine .reading handle (ownOutput.mono fresh)
      (supplies.later registry fun unit named => units _ unit ?_)
    simp [Definition.registered, supplies.artifact, ownOutput.unitName, named]
  | ended symbol ownUnit named body => exact .ended symbol (ownUnit.mono fresh) named body

theorem targetsOf_perm (same : definitions.Perm others) (target : Target) :
    target ∈ targetsOf definitions ↔ target ∈ targetsOf others :=
  (same.flatMap_right _).mem_iff

namespace UnderWay

/-- The order of the definitions does not matter. -/
theorem perm (underWay : UnderWay start id resolver place gained session definitions)
    (same : definitions.Perm others) : UnderWay start id resolver place gained session others where
  tidy := by
    refine underWay.tidy.grow (fun target referred => ?_) (fun _ present => .inl present)
      (fun _ present => present) fun _ present => .inl present
    rw [mem_targets_lent] at referred ⊢
    exact referred.imp_right (targetsOf_perm same target).mp
  wired := underWay.wired
  numbers := underWay.numbers
  given := underWay.given
  later := underWay.later
  holding := underWay.holding.perm (same.flatMap_right _)
  distinct := (same.flatMap_right _).nodup_iff.mp underWay.distinct
  opened := underWay.opened
  listed := underWay.listed.trans (same.flatMap_right _)
  units := underWay.units
  healthy definition member := underWay.healthy definition (same.mem_iff.mpr member)
  reaper := underWay.reaper
  live := underWay.live.trans ((same.flatMap_right _).append_left _)

/-- Before the first definition. -/
theorem nil (equipped : Equipped start id resolver place) :
    UnderWay start id resolver place [] start [] where
  tidy := by
    refine equipped.hosted.clean.toTidy.grow (fun target referred => ?_)
      (fun _ present => .inl present) (fun _ present => present) fun _ present => .inl present
    exact mem_targets_lent.mpr (.inl referred)
  wired := equipped.hosted.reachable.wired
  numbers := equipped.hosted.reachable.distinct
  given := equipped.hosted.clean.numbered.temporaries
  later := Nat.le_refl _
  holding := holding_nil _ _ _
  distinct := List.nodup_nil
  opened := ⟨resolver.busy, by rw [List.append_nil]; exact equipped.present⟩
  listed := .refl _
  units _ impossible := by cases impossible
  healthy _ impossible := by cases impossible
  reaper := equipped.reaper
  live := by simp

/-- One more definition begins. -/
theorem ask (underWay : UnderWay start id resolver place gained session definitions)
    (thread : Thread) (name : String) (content : Bytes) :
    UnderWay start id resolver place gained session
      (⟨thread, name, content, .asked⟩ :: definitions) where
  tidy := underWay.tidy
  wired := underWay.wired
  numbers := underWay.numbers
  given := underWay.given
  later := underWay.later
  holding := underWay.holding
  distinct := underWay.distinct
  opened := underWay.opened
  listed := underWay.listed
  units := underWay.units
  healthy definition member := by
    rcases List.mem_cons.mp member with rfl | member
    · exact .asked
    · exact underWay.healthy definition member
  reaper := underWay.reaper
  live := underWay.live

/-- No definition uses a name with a token that is still to be drawn. -/
theorem unused (underWay : UnderWay start id resolver place gained session definitions)
    {number : Nat} (undrawn : session.fresh ≤ number) {name : String} (bears : Bears number name) :
    name ∉ definitions.flatMap Definition.names := by
  intro member
  obtain ⟨definition, listed, named⟩ := List.mem_flatMap.mp member
  obtain ⟨earlier, _, below, bearsEarlier⟩ := ((underWay.healthy definition listed).own named).bears
  have same := bearsEarlier.number bears
  omega

/-- The files of definitions are called by their names. -/
theorem files_named (definitions : List Definition) :
    (definitions.flatMap Definition.files).map (·.1) ⊆ definitions.flatMap Definition.names := by
  rw [List.map_flatMap]
  intro name member
  obtain ⟨definition, listed, named⟩ := List.mem_flatMap.mp member
  exact List.mem_flatMap.mpr ⟨definition, listed, definition.files_named named⟩

/-- A name that is used once is neither that of another file nor that of a file of a definition. -/
theorem not_mem_files {name other : String} {content : Bytes} {definitions : List Definition}
    (distinct : (name :: other :: definitions.flatMap Definition.names).Nodup) :
    name ∉ ((other, content) :: definitions.flatMap Definition.files).map (·.1) := by
  rw [List.map_cons]
  intro member
  refine (List.nodup_cons.mp distinct).1 ?_
  rcases List.mem_cons.mp member with same | member
  · exact same ▸ List.mem_cons_self
  · exact List.mem_cons_of_mem _ (files_named _ member)

/-- A name of one definition is none of the others. -/
theorem away (underWay : UnderWay start id resolver place gained session (definition :: others))
    {name : String} (own : name ∈ definition.names) : name ∉ others.flatMap Definition.names := by
  have distinct := underWay.distinct
  rw [List.flatMap_cons] at distinct
  exact fun other => (List.nodup_append'.mp distinct).2.2 own other

/-- A definition goes on by a step that changes no references, while neither its artifact is tracked
nor its unit registered by it. -/
theorem goesOn (underWay : UnderWay start id resolver place gained session (definition :: others))
    {phase : DefinePhase} (kept : KeepsLinks session after) (units : after.units = session.units)
    (temporaries : after.temporaries = session.temporaries)
    (reapers : after.reapers = session.reapers)
    (opened : ∃ busy, after.resolvers.get? id =
      some { resolver with registry := resolver.registry ++ gained, busy })
    (targets : phase.targets = definition.phase.targets)
    (tracked : Definition.tracked { definition with phase } = definition.tracked)
    (registered : Definition.registered { definition with phase } = definition.registered)
    (holding : Holding start.files resolver.staging.layout.staging place
      (Definition.files { definition with phase } ++ others.flatMap Definition.files) after.files)
    (distinct : (Definition.names { definition with phase } ++
      others.flatMap Definition.names).Nodup)
    (healthy : Healthy start after resolver place gained definition.name definition.content phase) :
    UnderWay start id resolver place gained after ({ definition with phase } :: others) where
  tidy := by
    have same :
        targetsOf ({ definition with phase } :: others) = targetsOf (definition :: others) := by
      simp only [targetsOf, List.flatMap_cons, targets]
    rw [same]
    exact underWay.tidy.same (kept.lent _) temporaries
  wired := underWay.wired.keeps kept
  numbers := underWay.numbers.keeps kept
  given temporary present :=
    Nat.lt_of_lt_of_le (underWay.given temporary (temporaries ▸ present)) kept.fresh
  later := Nat.le_trans underWay.later kept.fresh
  holding := holding
  distinct := distinct
  opened := opened
  listed := by
    rw [List.flatMap_cons, registered, ← List.flatMap_cons]
    exact underWay.listed
  units := units ▸ underWay.units
  healthy other member := by
    rcases List.mem_cons.mp member with rfl | member
    · exact healthy
    · exact (underWay.healthy other (List.mem_cons_of_mem _ member)).later kept.fresh
        (List.Subset.refl _) fun number unit _ present => units ▸ present
  reaper := reapers ▸ underWay.reaper
  live := by
    have same : after.liveNames resolver.reaper = session.liveNames resolver.reaper := by
      have isLive : after.isLive = session.isLive := by
        funext temporary
        rw [isLive, isLive, temporaries]
      rw [liveNames, liveNames, reapers, isLive]
    rw [same, List.flatMap_cons, tracked, ← List.flatMap_cons]
    exact underWay.live

end UnderWay

end Session

end Hotload
