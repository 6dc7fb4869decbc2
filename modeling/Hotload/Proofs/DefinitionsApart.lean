import Hotload.Proofs.DefinitionsUnderWay

/-!
# Definitions do not disturb each other

Every step of a definition succeeds and keeps what the definitions under way have. So every
definition comes to its own symbol with its own bytecode, whatever names were asked for and however
the steps interleave. In the end the registry has one more unit for each of them, the directory for
staged files has the artifact of each of them and no more, and each artifact is listed once among
the live files.
-/

namespace Hotload

open Files

namespace Session

variable {start session after : Session} {id : Nat} {resolver : Resolver} {place : Location}
variable {gained : Registry Nat} {definition : Definition} {definitions others : List Definition}

/-! ## The steps -/

/-- A path that has nothing to be cleared away is staged for an archive. -/
theorem stage_clear {staging : Staging} {key : String} {extension : Option String}
    (clear : session.files.removeIfExists
      (staging.pathFor key extension (tokenText session.fresh)) = (session.files, .ok false)) :
    session.stage staging key extension false =
      ({ session with fresh := session.fresh + 1 },
        .ok (staging.pathFor key extension (tokenText session.fresh))) := by
  unfold Session.stage token number Staging.stage
  dsimp only
  rw [clear]
  rfl

/-- A path at which a file can be created is staged for an artifact. -/
theorem stage_create {staging : Staging} {key : String} {extension : Option String} {files : Files}
    (created : session.files.createNew (staging.pathFor key extension (tokenText session.fresh)) =
      .ok files) :
    session.stage staging key extension true =
      ({ session with files, fresh := session.fresh + 1 },
        .ok (staging.pathFor key extension (tokenText session.fresh))) := by
  unfold Session.stage token number Staging.stage
  dsimp only
  rw [created]
  rfl

/-- The files of passing use after one more was tracked. -/
theorem track_has {reaper : Nat} {path : String} {temporary : Nat} :
    (session.track reaper path).1.temporaries.has temporary = true ↔
      session.temporaries.has temporary = true ∨ temporary = session.fresh := by
  have added : (session.track reaper path).1.temporaries =
      session.temporaries.add session.fresh ⟨path, false⟩ := rfl
  rw [added, Table.has, Table.get?_add, Option.isSome_or, Bool.or_eq_true, Table.has]
  by_cases new : temporary = session.fresh <;> simp [new]

/-- The list of a reaper after it tracked a file: the live ones, and that file last. -/
theorem track_entries {reaper : Nat} {entries : Reaper}
    (present : session.reapers.get? reaper = some entries) (path : String) :
    (session.track reaper path).1.reapers.get? reaper =
      some (entries.live session.isLive ++ [(trackedName path, session.fresh)]) := by
  have updated := Table.get?_update session.reapers reaper reaper
    (Reaper.track session.isLive (trackedName path) session.fresh)
  rw [if_pos rfl, present] at updated
  exact updated

/-- Tracking a file adds its name to the live ones. -/
theorem liveNames_track {reaper : Nat} (reaped : session.reapers.has reaper = true)
    (path : String) :
    (session.track reaper path).1.liveNames reaper =
      session.liveNames reaper ++ [trackedName path] := by
  obtain ⟨entries, present⟩ := Option.isSome_iff_exists.mp reaped
  have still : (entries.live session.isLive).filter
      (fun entry => (session.track reaper path).1.isLive entry.2) = entries.live session.isLive :=
    List.filter_eq_self.mpr fun entry member =>
      track_has.mpr (.inl (List.mem_filter.mp member).2)
  have new : (session.track reaper path).1.isLive session.fresh = true := track_has.mpr (.inr rfl)
  rw [liveNames, liveNames, track_entries present, present]
  simp only [Option.getD_some, Reaper.liveNames]
  rw [Reaper.live, List.filter_append, still, List.map_append]
  simp [new]

/-- An artifact that can be bound is registered. -/
theorem register_bound {artifact : String} {size : Nat} {bound : UnitContent}
    (present : session.resolvers.get? id = some resolver)
    (sized : UnitContent.artifactSize session.files artifact = .ok size)
    (binds : UnitContent.bind resolver.platform session.files artifact = .ok bound) (name : String)
    (temporary : Option Nat) :
    session.register id name artifact temporary =
      ((session.enlisted id (unitOf resolver name artifact temporary bound)).settle,
        .ok session.fresh) := by
  unfold Session.register
  rw [present]
  dsimp only
  rw [sized]
  dsimp only
  rw [binds]
  dsimp only
  rw [enlist_eq]

/-- A unit under a new name takes no references away. -/
theorem enlisted_targets (wired : Wired session) (numbers : Distinct session)
    (present : session.resolvers.get? id = some resolver) {unit : LoadedUnit}
    (new : unit.name ∉ resolver.registry.map (·.1)) {target : Target}
    (referred : target ∈ session.targets) : target ∈ (session.enlisted id unit).targets := by
  have replacing : Replacing session id resolver unit (session.enlisted id unit) :=
    ⟨rfl, rfl, fun entry listed _ => List.mem_append_left _ listed⟩
  have noneReplaced (number : Nat) : ¬ Replaced resolver unit.name number :=
    fun replaced => new (List.mem_map_of_mem replaced)
  refine replacing.targets present wired numbers referred (fun number _ => noneReplaced number)
    fun temporary _ => ?_
  rintro ⟨number, _, replaced, _⟩
  exact noneReplaced number replaced

/-- The new unit stands under the next number. -/
theorem enlisted_unit (wired : Wired session) (id : Nat) (unit : LoadedUnit) :
    (session.enlisted id unit).units.get? session.fresh = some unit :=
  wired.addUnit_present unit

/-- The other units stay. -/
theorem enlisted_stays (id : Nat) (unit : LoadedUnit) {number : Nat} {early : LoadedUnit}
    (present : session.units.get? number = some early) :
    (session.enlisted id unit).units.get? number = some early := by
  refine (Table.get?_add session.units session.fresh number unit).trans ?_
  rw [present, Option.some_or]

/-- The new one is at the recent end of the registry. -/
theorem enlisted_resolver (present : session.resolvers.get? id = some resolver)
    (unit : LoadedUnit) :
    (session.enlisted id unit).resolvers.get? id = some { resolver with
      registry := Registry.register resolver.registry unit.name session.fresh } := by
  have updated := Table.get?_update session.resolvers id id fun resolver =>
    { resolver with registry := Registry.register resolver.registry unit.name session.fresh }
  rw [if_pos rfl, present] at updated
  exact updated

/-- A unit that was just registered is referred to. -/
theorem enlisted_referred (present : session.resolvers.get? id = some resolver)
    (unit : LoadedUnit) :
    .loader (.unit session.fresh) ∈ (session.enlisted id unit).targets :=
  registered_mem_targets (enlisted_resolver present unit) (by simp [Registry.register])

/-- The file of passing use of a unit is referred to. -/
theorem unit_temporary_mem_targets {number temporary : Nat} {unit : LoadedUnit}
    (present : session.units.get? number = some unit) (keeps : unit.temporary = some temporary) :
    .temporary temporary ∈ session.targets := by
  refine List.mem_append_left _ (List.mem_append_right _ (List.mem_flatMap.mpr
    ⟨(number, unit), Table.mem_of_get? present, ?_⟩))
  simp [LoadedUnit.targets, keeps]

/-- A unit under a new name takes over a file of passing use, and nothing is left over. -/
theorem Tidy.enlisted_lent {temporary : Nat} {targets : List Target}
    (tidy : Tidy (session.lent (.temporary temporary :: targets))) (wired : Wired session)
    (numbers : Distinct session) (present : session.resolvers.get? id = some resolver)
    {unit : LoadedUnit} (new : unit.name ∉ resolver.registry.map (·.1))
    (keeps : unit.temporary = some temporary) : Tidy ((session.enlisted id unit).lent targets) := by
  refine tidy.grow (fun target early => ?_) (fun number there => ?_) (fun number there => ?_)
    fun _ there => .inl there
  · rw [mem_targets_lent] at early ⊢
    refine early.elim (.inl <| enlisted_targets wired numbers present new ·) fun lent => ?_
    rcases List.mem_cons.mp lent with rfl | other
    · exact .inl (unit_temporary_mem_targets (enlisted_unit wired id unit) keeps)
    · exact .inr other
  · have added := Table.get?_add session.units session.fresh number unit
    by_cases isNew : number = session.fresh
    · subst isNew
      exact .inr (mem_targets_lent.mpr (.inl (enlisted_referred present unit)))
    · rw [if_neg isNew, Option.or_none] at added
      exact .inl ((congrArg Option.isSome added).symm.trans there)
  · have updated := Table.get?_update session.resolvers id number fun resolver =>
      { resolver with registry := Registry.register resolver.registry unit.name session.fresh }
    have same :
        (session.enlisted id unit).resolvers.has number = session.resolvers.has number := by
      refine (congrArg Option.isSome updated).trans ?_
      split <;> simp [Table.has]
    exact same.symm.trans there

/-- What a step of a definition comes to while others are under way. -/
structure Takes (session : Session) (id : Nat) (resolver : Resolver) (definition : Definition)
    (others : List Definition) (after : Session) (phase : DefinePhase) : Prop where
  goes : definition.goOn id resolver (targetsOf others) session = (after, phase)
  draws : after.fresh ≤ session.fresh + 1

/-- The step is taken while references are lent, and then they are given back. -/
theorem takes_of_advance {phase : DefinePhase} (held : after.held = session.held)
    (draws : after.fresh ≤ session.fresh + 1)
    (goes : definition.advance id resolver
        (session.lent (definition.phase.kept ++ targetsOf others)) =
      (after.lent (definition.phase.kept ++ targetsOf others), phase)) :
    Takes session id resolver definition others after phase := by
  refine ⟨?_, draws⟩
  unfold Definition.goOn lending
  rw [goes]
  dsimp only
  rw [← held]
  rfl

/-- A step of a definition succeeds and keeps what the definitions have, with the units that are
registered then. -/
abbrev Proceeds (start : Session) (id : Nat) (resolver : Resolver) (place : Location)
    (gained : Registry Nat) (session : Session) (definition : Definition)
    (others : List Definition) : Prop :=
  ∃ after phase, Takes session id resolver definition others after phase ∧
    UnderWay start id resolver place gained after ({ definition with phase } :: others)

variable {thread : Thread} {name archive output : String} {content : Bytes} {temporary : Nat}

namespace UnderWay

/-- The next token is used by no definition. -/
theorem next_unused (underWay : UnderWay start id resolver place gained session definitions)
    (key : String) (extension : Option String) (single : Path.Single
      (Staging.withExtension (stagedStem key session.fresh) extension)
      (Staging.withExtension (stagedStem key session.fresh) extension)) :
    Staging.withExtension (stagedStem key session.fresh) extension ∉
      definitions.flatMap Definition.names :=
  underWay.unused (Nat.le_refl _) ⟨key, extension, [], single.parts⟩

/-- The archive is staged. -/
theorem stagesArchive (equipped : Equipped start id resolver place)
    (underWay : UnderWay start id resolver place gained session (definition :: others))
    (stands : definition.phase = .asked)
    (stageable : Stageable resolver (session.fresh + 1)) :
    Proceeds start id resolver place gained session definition others := by
  obtain ⟨thread, name, content, phase⟩ := definition
  cases stands
  have own := equipped.ownName stageable underWay.later name (.inl rfl)
  have unused := underWay.next_unused name _ own.available.single
  have isPath : resolver.staging.pathFor name (some resolver.staging.archiveExtension)
      (tokenText session.fresh) = stagedPath resolver (Staging.withExtension
        (stagedStem name session.fresh) (some resolver.staging.archiveExtension)) := rfl
  generalize Staging.withExtension (stagedStem name session.fresh)
    (some resolver.staging.archiveExtension) = archive at own unused isPath
  have clear := underWay.holding.cleared own.available fun member => unused (files_named _ member)
  have staged : (session.lent (targetsOf others)).stage resolver.staging name
      (some resolver.staging.archiveExtension) false =
        ({ session.lent (targetsOf others) with fresh := session.fresh + 1 },
          .ok (stagedPath resolver archive)) := by
    rw [← isPath]
    exact stage_clear (isPath ▸ clear)
  refine ⟨{ session with fresh := session.fresh + 1 }, .packaging (stagedPath resolver archive),
    takes_of_advance rfl (Nat.le_refl _) ?_, ?_⟩
  · change (session.lent (targetsOf others)).stageForBytes resolver name = _
    unfold stageForBytes
    rw [staged]
    rfl
  · refine underWay.goesOn ⟨rfl, Nat.le_succ _⟩ rfl rfl rfl underWay.opened rfl rfl rfl
      underWay.holding ?_ (.packaging own)
    simp only [Definition.names, own.unitName, List.singleton_append, List.nodup_cons]
    exact ⟨unused, underWay.distinct⟩

/-- The bytecode is packaged. -/
theorem packages (underWay : UnderWay start id resolver place gained session (definition :: others))
    (stands : definition.phase = .packaging (stagedPath resolver archive))
    (ownArchive : OwnName start resolver place session.fresh archive) :
    Proceeds start id resolver place gained session definition others := by
  obtain ⟨thread, name, content, phase⟩ := definition
  cases stands
  have apart : archive ∉ others.flatMap Definition.names :=
    underWay.away (by simp [Definition.names, ownArchive.unitName])
  have fresh : archive ∉ (others.flatMap Definition.files).map (·.1) :=
    fun member => apart (files_named _ member)
  obtain ⟨files, written, holding⟩ := underWay.holding.written ownArchive.available
    (Zip.ofSymbol name content) fresh fun _ _ => Iff.rfl
  refine ⟨{ session with files }, .packaged (stagedPath resolver archive),
    takes_of_advance rfl (Nat.le_succ _) ?_, ?_⟩
  · have packaged : Packaging.packageBytes (stagedPath resolver archive) (Symbol.entryPath name)
        content session.files = (files, .ok ()) := by
      unfold Packaging.packageBytes
      rw [show session.files.write (stagedPath resolver archive)
        (Zip.write [(Symbol.entryPath name, content)]) = .ok files from written]
    change (session.lent (targetsOf others)).packageContent name content _ = _
    unfold packageContent
    rw [show (session.lent (targetsOf others)).files = session.files from rfl, packaged]
    rfl
  · refine underWay.goesOn ⟨rfl, Nat.le_refl _⟩ rfl rfl rfl underWay.opened rfl rfl rfl ?_ ?_
      (.packaged ownArchive)
    · simpa [Definition.files, Definition.packed, ownArchive.unitName] using holding
    · exact underWay.distinct

/-- An empty artifact is staged. -/
theorem stagesArtifact (equipped : Equipped start id resolver place)
    (underWay : UnderWay start id resolver place gained session (definition :: others))
    (stands : definition.phase = .packaged (stagedPath resolver archive))
    (ownArchive : OwnName start resolver place session.fresh archive)
    (stageable : Stageable resolver (session.fresh + 1)) :
    Proceeds start id resolver place gained session definition others := by
  obtain ⟨thread, name, content, phase⟩ := definition
  cases stands
  generalize isKey : "unit-" ++ stagedPath resolver archive = key
  have own := equipped.ownName stageable underWay.later key (.inr rfl)
  have unused := underWay.next_unused key _ own.available.single
  have isPath : resolver.staging.pathFor key resolver.staging.artifactExtension
      (tokenText session.fresh) = stagedPath resolver (Staging.withExtension
        (stagedStem key session.fresh) resolver.staging.artifactExtension) := rfl
  generalize Staging.withExtension (stagedStem key session.fresh)
    resolver.staging.artifactExtension = output at own unused isPath
  obtain ⟨files, created, holding⟩ :=
    underWay.holding.created own.available fun member => unused (files_named _ member)
  have staged : (session.lent (targetsOf others)).stage resolver.staging key
      resolver.staging.artifactExtension true =
        ({ session.lent (targetsOf others) with files, fresh := session.fresh + 1 },
          .ok (stagedPath resolver output)) := by
    rw [← isPath]
    exact stage_create (isPath ▸ created)
  refine ⟨{ session with files, fresh := session.fresh + 1 },
    .tracking (stagedPath resolver archive) (stagedPath resolver output),
    takes_of_advance rfl (Nat.le_refl _) ?_, ?_⟩
  · change (session.lent (targetsOf others)).stageArtifact resolver _ = _
    unfold stageArtifact
    rw [isKey, staged]
    rfl
  · refine underWay.goesOn ⟨rfl, Nat.le_succ _⟩ rfl rfl rfl underWay.opened rfl rfl rfl ?_ ?_
      (.tracking (ownArchive.mono (Nat.le_succ _)) own)
    · simpa [Definition.files, Definition.packed, ownArchive.unitName, own.unitName] using holding
    · simp only [Definition.names, Definition.files, own.unitName, List.map_cons, List.map_nil,
        List.cons_append, List.nodup_cons]
      exact ⟨unused, List.nodup_cons.mp underWay.distinct⟩

/-- The artifact is tracked. -/
theorem tracks (underWay : UnderWay start id resolver place gained session (definition :: others))
    (stands : definition.phase =
      .tracking (stagedPath resolver archive) (stagedPath resolver output))
    (ownArchive : OwnName start resolver place session.fresh archive)
    (ownOutput : OwnName start resolver place session.fresh output) :
    Proceeds start id resolver place gained session definition others := by
  obtain ⟨thread, name, content, phase⟩ := definition
  cases stands
  have kept := session.track_keepsLinks resolver.reaper (stagedPath resolver output)
  have stood (number : Nat) (present : (session.track resolver.reaper
      (stagedPath resolver output)).1.temporaries.has number = true) :
      session.temporaries.has number = true ∨ number = session.fresh := track_has.mp present
  refine ⟨(session.track resolver.reaper (stagedPath resolver output)).1,
    .compiling (stagedPath resolver archive) (stagedPath resolver output) session.fresh,
    takes_of_advance rfl (Nat.le_refl _) rfl, ?_⟩
  exact {
    tidy := by
      refine underWay.tidy.grow (fun target referred => ?_) (fun _ present => .inl present)
        (fun _ present => present) fun temporary present => ?_
      · rw [mem_targets_lent] at referred ⊢
        exact referred.elim (.inl <| kept.targets ▸ ·) fun lent =>
          .inr (List.mem_append_right _ lent)
      · rcases stood temporary present with early | rfl
        · exact .inl early
        · exact .inr (mem_targets_lent.mpr (.inr List.mem_cons_self))
    wired := underWay.wired.keeps kept
    numbers := underWay.numbers.keeps kept
    given := by
      intro temporary present
      rcases stood temporary present with early | rfl
      · exact Nat.lt_succ_of_lt (underWay.given temporary early)
      · exact Nat.lt_succ_self _
    later := Nat.le_trans underWay.later kept.fresh
    holding := underWay.holding
    distinct := underWay.distinct
    opened := underWay.opened
    listed := underWay.listed
    units := underWay.units
    healthy := by
      intro definition member
      rcases List.mem_cons.mp member with rfl | member
      · exact .compiling session.fresh (ownArchive.mono kept.fresh) (ownOutput.mono kept.fresh)
      · exact (underWay.healthy definition (List.mem_cons_of_mem _ member)).later kept.fresh
          (List.Subset.refl _) fun _ _ _ present => present
    reaper := by
      have updated := Table.get?_update session.reapers resolver.reaper resolver.reaper
        (Reaper.track session.isLive (trackedName (stagedPath resolver output)) session.fresh)
      refine (congrArg Option.isSome updated).trans ?_
      rw [if_pos rfl, Option.isSome_map]
      exact underWay.reaper
    live := by
      have named : trackedName (stagedPath resolver output) = output := by
        rw [trackedName, stagedPath, Path.fileName?_join _ ownOutput.available.single,
          Option.getD_some]
      rw [liveNames_track underWay.reaper, named]
      have before := underWay.live
      simp only [List.flatMap_cons, Definition.tracked, ownOutput.unitName, List.nil_append]
        at before ⊢
      refine (before.append_right [output]).trans ?_
      rw [List.append_assoc]
      exact List.perm_append_comm.append_left _ }

/-- The compiler copies the archive to the artifact. -/
theorem compiles (equipped : Equipped start id resolver place)
    (underWay : UnderWay start id resolver place gained session (definition :: others))
    (stands : definition.phase =
      .compiling (stagedPath resolver archive) (stagedPath resolver output) temporary)
    (ownArchive : OwnName start resolver place session.fresh archive)
    (ownOutput : OwnName start resolver place session.fresh output) :
    Proceeds start id resolver place gained session definition others := by
  obtain ⟨thread, name, content, phase⟩ := definition
  cases stands
  have holding := underWay.holding
  simp only [List.flatMap_cons, Definition.files, Definition.packed, ownArchive.unitName,
    ownOutput.unitName, List.cons_append, List.nil_append] at holding
  have distinct := underWay.distinct
  simp only [List.flatMap_cons, Definition.names, Definition.files, ownArchive.unitName,
    ownOutput.unitName, List.map_cons, List.map_nil, List.cons_append, List.nil_append] at distinct
  obtain ⟨files, copied, holding⟩ := holding.copied List.mem_cons_self (not_mem_files distinct)
  have passed : ∃ outcome, resolver.compiler
      ⟨stagedPath resolver archive, stagedPath resolver output, true⟩ session.files =
        (files, .ok outcome) := by
    rw [equipped.compiler, Compiler.passthrough]
    dsimp only
    rw [show session.files.copy (stagedPath resolver archive) (stagedPath resolver output) = _ from
      copied]
    exact ⟨_, rfl⟩
  obtain ⟨outcome, passed⟩ := passed
  have kept := (session.markBusy_quiet id thread).toKeepsLinks.trans
    ((session.markBusy id thread).invoke_keepsLinks id resolver thread
      ⟨stagedPath resolver archive, stagedPath resolver output, true⟩)
  refine ⟨((session.markBusy id thread).invoke id resolver thread
      ⟨stagedPath resolver archive, stagedPath resolver output, true⟩).1,
    .compiled (stagedPath resolver archive) (stagedPath resolver output) temporary (.ok outcome),
    takes_of_advance kept.keepsHeld.held (Nat.le_succ _) ?_, ?_⟩
  · change (session.lent (targetsOf others)).callCompiler id resolver thread _ _ _ = _
    unfold callCompiler Session.invoke
    have filesSame : ((session.lent (targetsOf others)).markBusy id thread).files = session.files :=
      rfl
    have filesMarked : (session.markBusy id thread).files = session.files := rfl
    rw [filesSame, filesMarked, passed]
    rfl
  · refine underWay.goesOn kept rfl rfl rfl ?_ rfl rfl rfl ?_ ?_
      (.compiled temporary outcome ownArchive ownOutput)
    · obtain ⟨busy, opened⟩ := underWay.opened
      refine ⟨busy.enter thread, ?_⟩
      simp only [invoke, noteInvocation, markBusy, updateResolver, Table.get?_update, ↓reduceIte,
        opened, Option.map_some]
    · unfold Session.invoke
      rw [show (session.markBusy id thread).files = session.files from rfl, passed]
      simpa [Definition.files, Definition.packed, ownArchive.unitName, ownOutput.unitName]
        using holding
    · simpa only [Definition.names, Definition.files, ownArchive.unitName, ownOutput.unitName,
        List.map_cons, List.map_nil, List.cons_append, List.nil_append] using distinct

/-- The artifact is there. -/
theorem judges {outcome : CompileOutcome}
    (underWay : UnderWay start id resolver place gained session (definition :: others))
    (stands : definition.phase =
      .compiled (stagedPath resolver archive) (stagedPath resolver output) temporary (.ok outcome))
    (ownArchive : OwnName start resolver place session.fresh archive)
    (ownOutput : OwnName start resolver place session.fresh output) :
    Proceeds start id resolver place gained session definition others := by
  obtain ⟨thread, name, content, phase⟩ := definition
  cases stands
  have filled : (session.lent (targetsOf others)).outputSize (stagedPath resolver output) ≠ 0 := by
    obtain ⟨modified, shown⟩ : ∃ modified, session.files.shown? (stagedPath resolver output) =
        some (place ++ [output], .file (Zip.ofSymbol name content) modified) :=
      underWay.holding.shown (by
        simp [Definition.files, Definition.packed, ownOutput.unitName])
    rw [outputSize_eq, shownLength, show (session.lent (targetsOf others)).files.shown?
      (stagedPath resolver output) = _ from shown]
    exact Zip.ofSymbol_filled name content
  refine ⟨session,
    .registering (stagedPath resolver archive) (stagedPath resolver output) temporary,
    takes_of_advance rfl (Nat.le_succ _) ?_, ?_⟩
  · change (session.lent (targetsOf others)).judgeArtifact id resolver _ _ _ (.ok outcome) = _
    simp only [judgeArtifact, if_neg filled]
    rfl
  · exact underWay.goesOn (.refl _) rfl rfl rfl underWay.opened rfl rfl rfl underWay.holding
      underWay.distinct (.registering temporary ownArchive ownOutput)

/-- No unit is registered yet under the name of an artifact that is still to be registered. -/
theorem unlisted (equipped : Equipped start id resolver place)
    (underWay : UnderWay start id resolver place gained session (definition :: others))
    (own : OwnName start resolver place session.fresh output) (named : output ∈ definition.names)
    (new : definition.registered = []) : output ∉ (resolver.registry ++ gained).map (·.1) := by
  rw [List.map_append]
  intro member
  rcases List.mem_append.mp member with early | late
  · obtain ⟨number, from_, _, bears⟩ := own.bears
    exact equipped.unlisted output early number from_ bears
  · have registered := underWay.listed.mem_iff.mp late
    rw [List.flatMap_cons, new, List.nil_append] at registered
    obtain ⟨other, listed, same⟩ := List.mem_flatMap.mp registered
    exact underWay.away named
      (List.mem_flatMap.mpr ⟨other, listed, other.registered_named same⟩)

/-- The artifact is registered, under a name that no unit has. -/
theorem registers (equipped : Equipped start id resolver place)
    (underWay : UnderWay start id resolver place gained session (definition :: others))
    (stands : definition.phase =
      .registering (stagedPath resolver archive) (stagedPath resolver output) temporary)
    (ownArchive : OwnName start resolver place session.fresh archive)
    (ownOutput : OwnName start resolver place session.fresh output)
    (readsBack : Zip.ReadsBack [(Symbol.entryPath definition.name, definition.content)]) :
    Proceeds start id resolver place (gained ++ [(output, session.fresh)]) session definition
      others := by
  obtain ⟨thread, name, content, phase⟩ := definition
  cases stands
  obtain ⟨entry, lists⟩ := Zip.exists_lists readsBack
  obtain ⟨busy, opened⟩ := underWay.opened
  generalize isNow : { resolver with registry := resolver.registry ++ gained, busy } = now at opened
  have registry : now.registry = resolver.registry ++ gained := by rw [← isNow]
  have new : output ∉ now.registry.map (·.1) := by
    rw [registry]
    exact underWay.unlisted equipped ownOutput
      (by simp [Definition.names, Definition.files, ownOutput.unitName]) rfl
  obtain ⟨modified, shown⟩ : ∃ modified, session.files.shown? (stagedPath resolver output) =
      some (place ++ [output], .file (Zip.ofSymbol name content) modified) :=
    underWay.holding.shown (by
      simp [Definition.files, Definition.packed, ownOutput.unitName])
  have bound : UnitContent.bind now.platform session.files (stagedPath resolver output) =
      .ok (.archive (UnitContent.indexOf [entry])) := by
    have platform : now.platform = .archive := by rw [← isNow]; exact equipped.platform
    rw [platform]
    exact UnitContent.bind_ofSymbol lists shown
  generalize isUnit : unitOf now output (stagedPath resolver output) (some temporary)
    (.archive (UnitContent.indexOf [entry])) = unit
  have unitName : unit.name = output := by rw [← isUnit]; rfl
  have registered : (session.lent (targetsOf others)).register id
      (Path.unitName (stagedPath resolver output)) (stagedPath resolver output) (some temporary) =
        (((session.lent (targetsOf others)).enlisted id unit).settle, .ok session.fresh) := by
    have there : (session.lent (targetsOf others)).resolvers.get? id = some now := opened
    rw [ownOutput.unitName, ← isUnit]
    exact register_bound there (UnitContent.artifactSize_of_shown shown) bound _ _
  have tidy : Tidy ((session.enlisted id unit).lent (targetsOf others)) :=
    underWay.tidy.enlisted_lent underWay.wired underWay.numbers opened (unitName ▸ new)
      (by rw [← isUnit]; rfl)
  refine ⟨session.enlisted id unit, .finished (stagedPath resolver archive) temporary
    (.ok ⟨session.fresh, stagedPath resolver output⟩), takes_of_advance rfl (Nat.le_refl _) ?_, ?_⟩
  · change (session.lent (targetsOf others)).registerArtifact id _ _ _ = _
    unfold registerArtifact
    rw [registered]
    dsimp only
    exact congrArg (·, _) tidy.settle_eq
  · have before := underWay.listed
    simp only [List.flatMap_cons, Definition.registered, List.nil_append] at before
    exact {
      tidy := by
        refine tidy.grow (fun target early => ?_) (fun _ present => .inl present)
          (fun _ present => present) fun _ present => .inl present
        exact mem_targets_lent.mpr ((mem_targets_lent.mp early).imp_right (List.mem_cons_of_mem _))
      wired := by
        refine underWay.wired.enlisted ?_
        rw [opened, ← isUnit]
        rfl
      numbers := (underWay.numbers.addUnit unit).updateResolver id _
      given temporary present := Nat.lt_succ_of_lt (underWay.given temporary present)
      later := Nat.le_succ_of_le underWay.later
      holding := by
        have holding := underWay.holding
        simp only [List.flatMap_cons, Definition.files, List.cons_append, List.nil_append]
          at holding ⊢
        exact holding.perm (.swap _ _ _)
      distinct := by
        have distinct := underWay.distinct
        simp only [List.flatMap_cons, Definition.names, Definition.files, List.map_cons,
          List.map_nil, List.cons_append, List.nil_append] at distinct ⊢
        exact (List.Perm.swap _ _ _).nodup_iff.mp distinct
      opened := by
        refine ⟨busy, (enlisted_resolver opened unit).trans ?_⟩
        rw [Registry.register_new (unitName ▸ new), ← isNow, unitName, List.append_assoc]
      listed := by
        simp only [List.flatMap_cons, Definition.registered, ownOutput.unitName, List.map_append,
          List.map_cons, List.map_nil]
        exact List.perm_append_singleton _ _ |>.trans (before.cons _)
      units := by
        intro listed member
        rcases List.mem_append.mp member with early | late
        · obtain ⟨there, present, rest⟩ := underWay.units listed early
          exact ⟨there, enlisted_stays id unit present, rest⟩
        · rw [List.mem_singleton.mp late]
          exact ⟨unit, enlisted_unit underWay.wired id unit, unitName, by rw [← isUnit]; rfl⟩
      healthy := by
        intro definition member
        rcases List.mem_cons.mp member with rfl | member
        · refine .finished temporary ⟨session.fresh, stagedPath resolver output⟩
            (ownArchive.mono (Nat.le_succ _)) (ownOutput.mono (Nat.le_succ _)) ⟨rfl, by simp, ?_⟩
          exact ⟨entry, unit, lists, enlisted_unit underWay.wired id unit, unitName,
            by rw [← isUnit]; exact ⟨rfl, rfl, rfl⟩⟩
        · exact (underWay.healthy definition (List.mem_cons_of_mem _ member)).later (Nat.le_succ _)
            (List.subset_append_left _ _) fun _ _ _ present => enlisted_stays id unit present
      reaper := underWay.reaper
      live := underWay.live }

/-- The unit of a handle stays referred to when the handle is let go of. -/
theorem registered_referred
    (underWay : UnderWay start id resolver place gained session definitions) {handle : Handle}
    (supplies : Supplies session resolver gained name content handle output) :
    .loader (.unit handle.unit) ∈ session.targets := by
  obtain ⟨busy, opened⟩ := underWay.opened
  refine registered_mem_targets opened (List.mem_map.mpr ⟨(output, handle.unit), ?_, rfl⟩)
  exact List.mem_append_right _ supplies.listed

/-- The mark of the thread is taken away, and nothing has to be let go of. -/
theorem leaves {handle : Handle}
    (underWay : UnderWay start id resolver place gained session (definition :: others))
    (stands : definition.phase = .finished (stagedPath resolver archive) temporary (.ok handle))
    (ownArchive : OwnName start resolver place session.fresh archive)
    (ownOutput : OwnName start resolver place session.fresh output)
    (supplies : Supplies session resolver gained definition.name definition.content handle output) :
    Proceeds start id resolver place gained session definition others := by
  obtain ⟨thread, name, content, phase⟩ := definition
  cases stands
  have kept := (session.unmarkBusy_quiet id thread).toKeepsLinks
  have tidy : Tidy ((session.unmarkBusy id thread).lent
      (.loader (.unit handle.unit) :: targetsOf others)) := underWay.tidy.same (kept.lent _) rfl
  refine ⟨session.unmarkBusy id thread, .discarding (stagedPath resolver archive) (.ok handle),
    takes_of_advance kept.keepsHeld.held (Nat.le_succ _) ?_, ?_⟩
  · change (((session.unmarkBusy id thread).lent
      (.loader (.unit handle.unit) :: targetsOf others)).settle, _) = _
    rw [tidy.settle_eq]
    rfl
  · refine underWay.goesOn kept rfl rfl rfl ?_ rfl rfl rfl underWay.holding underWay.distinct
      (.discarding handle ownArchive ownOutput (supplies.later (List.Subset.refl _)
        fun _ _ present => present))
    obtain ⟨busy, opened⟩ := underWay.opened
    refine ⟨busy.leave thread, ?_⟩
    simp only [unmarkBusy, updateResolver, Table.get?_update, ↓reduceIte, opened, Option.map_some]

/-- The archive is deleted. -/
theorem discards {handle : Handle}
    (underWay : UnderWay start id resolver place gained session (definition :: others))
    (stands : definition.phase = .discarding (stagedPath resolver archive) (.ok handle))
    (ownArchive : OwnName start resolver place session.fresh archive)
    (ownOutput : OwnName start resolver place session.fresh output)
    (supplies : Supplies session resolver gained definition.name definition.content handle output) :
    Proceeds start id resolver place gained session definition others := by
  obtain ⟨thread, name, content, phase⟩ := definition
  cases stands
  have holding := underWay.holding
  simp only [List.flatMap_cons, Definition.files, Definition.packed, ownArchive.unitName,
    supplies.artifact, ownOutput.unitName, List.cons_append, List.nil_append] at holding
  have distinct := underWay.distinct
  simp only [List.flatMap_cons, Definition.names, Definition.files, ownArchive.unitName,
    supplies.artifact, ownOutput.unitName, List.map_cons, List.map_nil, List.cons_append,
    List.nil_append] at distinct
  obtain ⟨files, removed, holding⟩ := holding.removed (not_mem_files distinct)
  have discarded (now : Session) (same : now.files = session.files) :
      now.discard (stagedPath resolver archive) = { now with files } := by
    unfold Session.discard
    rw [same, show session.files.removeIfExists (stagedPath resolver archive) = _ from removed]
  refine ⟨{ session with files }, .reading handle, takes_of_advance rfl (Nat.le_succ _) ?_, ?_⟩
  · change ((session.lent (targetsOf others)).discard _, _) = _
    rw [discarded (session.lent (targetsOf others)) rfl]
    rfl
  · have later : Supplies { session with files } resolver gained name content handle output :=
      supplies.later (List.Subset.refl _) fun _ _ present => present
    refine underWay.goesOn ⟨rfl, Nat.le_refl _⟩ rfl rfl rfl underWay.opened rfl rfl rfl ?_ ?_
      (.reading handle ownOutput later)
    · simpa [Definition.files, Definition.packed, supplies.artifact, ownOutput.unitName]
        using holding
    · simpa only [Definition.names, Definition.files, supplies.artifact, ownOutput.unitName,
        List.map_cons, List.map_nil, List.cons_append, List.nil_append]
        using (List.nodup_cons.mp distinct).2

/-- The symbol is read back: it is the one of the definition's own unit. -/
theorem reads {handle : Handle}
    (underWay : UnderWay start id resolver place gained session (definition :: others))
    (stands : definition.phase = .reading handle)
    (ownOutput : OwnName start resolver place session.fresh output)
    (supplies : Supplies session resolver gained definition.name definition.content handle output)
    (proper : Symbol.Proper definition.name) :
    Proceeds start id resolver place gained session definition others := by
  obtain ⟨thread, name, content, phase⟩ := definition
  cases stands
  obtain ⟨entry, unit, lists, present, named, isArtifact, indexed, unlearnt⟩ := supplies.unit
  obtain ⟨modified, shown⟩ : ∃ modified, session.files.shown? (stagedPath resolver output) =
      some (place ++ [output], .file (Zip.ofSymbol name content) modified) :=
    underWay.holding.shown (by
      simp [Definition.files, Definition.packed, supplies.artifact, ownOutput.unitName])
  have readable : UnitContent.readBody (session.lent (targetsOf others)).files unit.artifact
      entry.name = .body content :=
    UnitContent.readBody_ofSymbol lists (isArtifact ▸ Files.read_of_shown shown)
  have here : (session.lent (targetsOf others)).units.get? handle.unit = some unit := present
  have leads := UnitContent.lookup_ofSymbol proper lists
  have found := find_unlearnt here unlearnt indexed leads readable
  generalize isSymbol : (⟨name, unit.name, .bytecode content, session.fresh⟩ : Symbol) = symbol
  have kept : KeepsLinks session (session.number.1.rememberIn handle.unit symbol) :=
    ⟨(rememberIn_keepsLinks session.number.1 handle.unit symbol).links, Nat.le_succ _⟩
  have learns (number : Nat) :
      (session.number.1.rememberIn handle.unit symbol).units.get? number =
        if number = handle.unit then (session.units.get? number).map fun unit =>
          { unit with resolved := unit.resolved ++ [(symbol.name, symbol)] }
        else session.units.get? number :=
    Table.get?_update session.units handle.unit number fun unit =>
      { unit with resolved := unit.resolved ++ [(symbol.name, symbol)] }
  refine ⟨session.number.1.rememberIn handle.unit symbol, .ended (.ok symbol),
    takes_of_advance rfl (Nat.le_refl _) ?_, ?_⟩
  · change (session.lent (targetsOf others)).readSymbol name handle = _
    unfold readSymbol readBack
    rw [found, ← isSymbol]
    rfl
  have symbolUnit : symbol.unit = output := by rw [← isSymbol]; exact named
  exact {
    tidy := by
      have before := underWay.tidy.same (kept.lent _) rfl
      refine before.grow (fun target early => ?_) (fun _ present => .inl present)
        (fun _ present => present) fun _ present => .inl present
      rw [mem_targets_lent] at early ⊢
      refine early.elim .inl fun lent => ?_
      rcases List.mem_append.mp lent with own | other
      · refine .inl ?_
        rw [kept.targets, List.mem_singleton.mp own]
        exact underWay.registered_referred supplies
      · exact .inr other
    wired := underWay.wired.keeps kept
    numbers := underWay.numbers.keeps kept
    given temporary present := Nat.lt_succ_of_lt (underWay.given temporary present)
    later := Nat.le_succ_of_le underWay.later
    holding := by
      have holding := underWay.holding
      simp only [List.flatMap_cons, Definition.files, Definition.packed, supplies.artifact,
        ownOutput.unitName] at holding
      simp only [List.flatMap_cons, Definition.files, Definition.packed, symbolUnit]
      exact holding
    distinct := by
      have distinct := underWay.distinct
      simp only [List.flatMap_cons, Definition.names, Definition.files, supplies.artifact,
        ownOutput.unitName, List.map_cons, List.map_nil] at distinct
      simpa only [List.flatMap_cons, Definition.names, Definition.files, symbolUnit, List.map_cons,
        List.map_nil] using distinct
    opened := underWay.opened
    listed := by
      have listed := underWay.listed
      simp only [List.flatMap_cons, Definition.registered, supplies.artifact, ownOutput.unitName]
        at listed
      simpa only [List.flatMap_cons, Definition.registered, symbolUnit] using listed
    units := by
      intro listed member
      obtain ⟨there, stands, rest⟩ := underWay.units listed member
      rw [learns, stands]
      split
      · exact ⟨_, rfl, rest⟩
      · exact ⟨there, rfl, rest⟩
    healthy := by
      intro definition member
      rcases List.mem_cons.mp member with rfl | member
      · refine .ended symbol (symbolUnit ▸ ownOutput.mono (Nat.le_succ _)) ?_ ?_ <;> rw [← isSymbol]
      · refine (underWay.healthy definition (List.mem_cons_of_mem _ member)).later (Nat.le_succ _)
          (List.Subset.refl _) fun number there ofOther stands => ?_
        rw [learns, if_neg ?_, stands]
        rintro rfl
        obtain rfl := Option.some.inj (present.symm.trans stands)
        have away : output ∉ others.flatMap Definition.names := underWay.away (by
          simp [Definition.names, Definition.files, supplies.artifact, ownOutput.unitName])
        exact away (List.mem_flatMap.mpr
          ⟨definition, member, definition.registered_named (named ▸ ofOther)⟩)
    reaper := underWay.reaper
    live := by
      have live := underWay.live
      simp only [List.flatMap_cons, Definition.tracked, supplies.artifact, ownOutput.unitName]
        at live
      simp only [List.flatMap_cons, Definition.tracked, symbolUnit]
      exact live }

/-- Whatever comes next for a definition succeeds and keeps what the definitions have. It does not
matter what the name is, until the symbol is to be read back. -/
theorem proceeds {limit : Nat} (equipped : Equipped start id resolver place)
    (stageable : Stageable resolver limit)
    (underWay : UnderWay start id resolver place gained session (definition :: others))
    (below : session.fresh < limit)
    (readsBack : Zip.ReadsBack [(Symbol.entryPath definition.name, definition.content)])
    (proper : ∀ handle, definition.phase = .reading handle → Symbol.Proper definition.name) :
    ∃ more, Proceeds start id resolver place more session definition others := by
  have next : Stageable resolver (session.fresh + 1) := fun key number extension under =>
    stageable key number extension (Nat.lt_of_lt_of_le under below)
  have healthy := underWay.healthy definition List.mem_cons_self
  generalize stands : definition.phase = phase at healthy
  cases healthy with
  | asked => exact ⟨gained, underWay.stagesArchive equipped stands next⟩
  | packaging ownArchive => exact ⟨gained, underWay.packages stands ownArchive⟩
  | packaged ownArchive =>
    exact ⟨gained, underWay.stagesArtifact equipped stands ownArchive next⟩
  | tracking ownArchive ownOutput => exact ⟨gained, underWay.tracks stands ownArchive ownOutput⟩
  | compiling temporary ownArchive ownOutput =>
    exact ⟨gained, underWay.compiles equipped stands ownArchive ownOutput⟩
  | compiled temporary outcome ownArchive ownOutput =>
    exact ⟨gained, underWay.judges stands ownArchive ownOutput⟩
  | registering temporary ownArchive ownOutput =>
    exact ⟨_, underWay.registers equipped stands ownArchive ownOutput readsBack⟩
  | finished temporary handle ownArchive ownOutput supplies =>
    exact ⟨gained, underWay.leaves stands ownArchive ownOutput supplies⟩
  | discarding handle ownArchive ownOutput supplies =>
    exact ⟨gained, underWay.discards stands ownArchive ownOutput supplies⟩
  | reading handle ownOutput supplies =>
    exact ⟨gained, underWay.reads stands ownOutput supplies (proper handle stands)⟩
  | ended symbol =>
    refine ⟨gained, session, .ended (.ok symbol), takes_of_advance rfl (Nat.le_succ _) ?_, ?_⟩
    · rw [Definition.advance, stands]
    · rw [← stands]
      exact underWay

end UnderWay

/-! ## Whole runs -/

/-- All that is asked for can be packaged. -/
def AllPackable (definitions : List Definition) : Prop :=
  ∀ request ∈ requests definitions, Packable request.2.1 request.2.2

variable {limit : Nat} {state : Definitions}

namespace UnderWay

/-- Any definition can take its next step, and that draws one token at most. -/
theorem advanced (equipped : Equipped start id resolver place)
    (stageable : Stageable resolver limit)
    (underWay : UnderWay start id resolver place gained state.session state.definitions)
    (below : state.session.fresh < limit) (fit : AllPackable state.definitions) {number : Nat}
    (there : state.definitions[number]? = some definition) :
    ∃ more after phase, definition.goOn id resolver
        (targetsOf (state.definitions.eraseIdx number)) state.session = (after, phase) ∧
      after.fresh ≤ state.session.fresh + 1 ∧
        UnderWay start id resolver place more after
          (state.definitions.set number { definition with phase }) := by
  have fits := fit _ (List.mem_map_of_mem (List.mem_of_getElem? there))
  obtain ⟨more, after, phase, takes, next⟩ :=
    (underWay.perm (perm_of_there there)).proceeds equipped stageable below fits.readsBack
      fun _ _ => fits.proper
  exact ⟨more, after, phase, takes.goes, takes.draws, next.perm (perm_of_set there _).symm⟩

/-- However the definitions take their steps, each has what is its own. The induction is on the run:
a step changes one definition and what it alone refers to, and what it adds has a number that was
never given. -/
theorem of_run (equipped : Equipped start id resolver place) (stageable : Stageable resolver limit)
    (run : Relation.ReflTransGen (DefineStep id resolver) ⟨start, []⟩ state)
    (below : state.session.fresh < limit) (fit : AllPackable state.definitions) :
    ∃ gained, UnderWay start id resolver place gained state.session state.definitions := by
  induction run with
  | refl => exact ⟨[], nil equipped⟩
  | tail _ step inductionHypothesis =>
    obtain ⟨gained, underWay⟩ := inductionHypothesis
      (Nat.lt_of_le_of_lt step.keepsHeld.fresh below)
      fun request asked => fit request (step.requests_prefix.subset asked)
    cases step with
    | ask thread name content =>
      exact ⟨gained, (underWay.ask thread name content).perm (List.perm_append_singleton _ _).symm⟩
    | advance number definition there =>
      have earlier : AllPackable _ := fun request asked =>
        fit request ((requests_set there _).symm ▸ asked)
      obtain ⟨more, after, phase, goes, -, next⟩ := underWay.advanced equipped stageable
        (Nat.lt_of_le_of_lt (lending_keepsHeld _ _ (definition.advance_keepsHeld id resolver)).fresh
          below) earlier there
      rw [goes]
      exact ⟨more, next⟩

/-- The definitions can all be brought to their ends as long as there are tokens for that. -/
theorem ends (equipped : Equipped start id resolver place) (stageable : Stageable resolver limit)
    (underWay : UnderWay start id resolver place gained state.session state.definitions)
    (enough : state.session.fresh + stepsLeft state.definitions < limit)
    (fit : AllPackable state.definitions) :
    ∃ after, Relation.ReflTransGen (DefineStep id resolver) state after ∧
      requests after.definitions = requests state.definitions ∧
        (∀ definition ∈ after.definitions, definition.phase.left = 0) ∧
          after.session.fresh < limit := by
  let Kept (state : Definitions) : Prop :=
    (∃ gained, UnderWay start id resolver place gained state.session state.definitions) ∧
      state.session.fresh + stepsLeft state.definitions < limit ∧ AllPackable state.definitions
  have goes (state : Definitions) (kept : Kept state) (definition : Definition)
      (inside : definition ∈ state.definitions) (going : definition.phase.left ≠ 0) :
      ∃ after, DefineStep id resolver state after ∧
        requests after.definitions = requests state.definitions ∧
          stepsLeft after.definitions < stepsLeft state.definitions ∧ Kept after := by
    obtain ⟨⟨gained, underWay⟩, enough, fit⟩ := kept
    obtain ⟨number, there⟩ := List.getElem?_of_mem inside
    have below := Nat.lt_of_le_of_lt (Nat.le_add_right _ _) enough
    have step : DefineStep id resolver state _ := .advance state number definition there
    have fewer := definition.advance_left id resolver (state.session.lent
      (definition.phase.kept ++ targetsOf (state.definitions.eraseIdx number))) going
    obtain ⟨more, after, phase, goes, draws, next⟩ :=
      underWay.advanced equipped stageable below fit there
    rw [goes] at step
    have isPhase := congrArg Prod.snd goes
    rw [show (definition.advance id resolver _).2 = phase from isPhase] at fewer
    have less : stepsLeft (state.definitions.set number { definition with phase }) <
        stepsLeft state.definitions := stepsLeft_set there fewer
    have asked := requests_set there phase
    refine ⟨_, step, asked, less, ⟨more, next⟩, ?_,
      fun request member => fit request (asked ▸ member)⟩
    change after.fresh + stepsLeft (state.definitions.set number { definition with phase }) < limit
    omega
  obtain ⟨after, run, asked, ended, -, enough, -⟩ :=
    run_to_end_of_steps goes state ⟨⟨gained, underWay⟩, enough, fit⟩
  exact ⟨after, run, asked, ended, Nat.lt_of_le_of_lt (Nat.le_add_right _ _) enough⟩

end UnderWay

/-- What definitions that have all ended come to. -/
structure AllDefined (start : Session) (id : Nat) (resolver : Resolver) (place : Location)
    (state : Definitions) (symbols : List Symbol) : Prop where
  /-- Each comes to a symbol with the name and the bytecode asked for. -/
  each : List.Forall₂ (fun definition symbol => definition.phase = .ended (.ok symbol) ∧
    symbol.name = definition.name ∧ symbol.body = .bytecode definition.content)
      state.definitions symbols
  /-- No two of them have the same unit. -/
  distinct : (symbols.map (·.unit)).Nodup
  /-- The registry has gained the units of the symbols and no others. -/
  registry : ∃ gained busy, (gained.map (·.1)).Perm (symbols.map (·.unit)) ∧
    state.session.resolvers.get? id =
        some { resolver with registry := resolver.registry ++ gained, busy } ∧
      ∀ entry ∈ gained, ∃ unit, state.session.units.get? entry.2 = some unit ∧
        unit.name = entry.1 ∧ unit.artifact = stagedPath resolver entry.1
  /-- The directory for staged files has gained the artifacts. -/
  staged : ∀ symbol ∈ symbols, start.files.node? (place ++ [symbol.unit]) = none ∧
    ∃ content modified, symbol.body = .bytecode content ∧
      state.session.files.node? (place ++ [symbol.unit]) =
        some (.file (Zip.ofSymbol symbol.name content) modified)
  /-- All else in the file tree is as it was. -/
  untouched : ∀ location, (∀ symbol ∈ symbols, location ≠ place ++ [symbol.unit]) →
    state.session.files.node? location = start.files.node? location
  /-- The list of live files has gained each artifact once. -/
  live : (state.session.liveNames resolver.reaper).Perm
    (start.liveNames resolver.reaper ++ symbols.map (·.unit))

/-- Definitions that have ended without a failure have a symbol each, and nothing else. -/
theorem symbols_of_ended {definitions : List Definition}
    (healthy : ∀ definition ∈ definitions, Healthy start session resolver place gained
      definition.name definition.content definition.phase)
    (ended : ∀ definition ∈ definitions, definition.phase.left = 0) :
    ∃ symbols : List Symbol, List.Forall₂ (fun definition symbol =>
        definition.phase = .ended (.ok symbol) ∧ symbol.name = definition.name ∧
          symbol.body = .bytecode definition.content) definitions symbols ∧
      definitions.flatMap Definition.tracked = symbols.map (·.unit) ∧
      definitions.flatMap Definition.registered = symbols.map (·.unit) ∧
      definitions.flatMap Definition.names = symbols.map (·.unit) ∧
      (definitions.flatMap Definition.files).map (·.1) = symbols.map (·.unit) ∧
      ∀ symbol ∈ symbols, ∃ content, symbol.body = .bytecode content ∧
        (symbol.unit, Zip.ofSymbol symbol.name content) ∈ definitions.flatMap Definition.files := by
  induction definitions with
  | nil => exact ⟨[], .nil, rfl, rfl, rfl, rfl, by simp⟩
  | cons definition rest inductionHypothesis =>
    obtain ⟨symbols, each, tracked, registered, names, files, staged⟩ := inductionHypothesis
      (fun other member => healthy other (List.mem_cons_of_mem _ member))
      fun other member => ended other (List.mem_cons_of_mem _ member)
    have first := healthy definition List.mem_cons_self
    have isLast := ended definition List.mem_cons_self
    obtain ⟨thread, name, content, phase⟩ := definition
    cases first with
    | ended symbol _ named body =>
      have own : Definition.packed ⟨thread, name, content, .ended (.ok symbol)⟩ =
          Zip.ofSymbol symbol.name content := by rw [named]; rfl
      refine ⟨symbol :: symbols, .cons ⟨rfl, named, body⟩ each, ?_, ?_, ?_, ?_, ?_⟩
      · simp [Definition.tracked, tracked]
      · simp [Definition.registered, registered]
      · simp [Definition.names, Definition.files, names]
      · simpa [Definition.files] using files
      · intro other member
        rcases List.mem_cons.mp member with rfl | member
        · exact ⟨content, body, by simp [Definition.files, own]⟩
        · obtain ⟨text, isBody, listed⟩ := staged other member
          exact ⟨text, isBody, List.mem_append_right _ listed⟩
    | _ => exact absurd isLast (by simp [DefinePhase.left])

/-- Definitions do not disturb each other, whatever names are asked for and however their steps
interleave: one that has ended has come to its own symbol with its own bytecode; when all have
ended, the registry, the directory for staged files and the list of live files have each gained one
entry for each of them and no others; and they can always all be brought to their ends. Names of
staged files differ by their tokens, which are drawn once each; the bound on numbers is there
because a path that grows with them must stay usable. -/
theorem definitions_apart (equipped : Equipped start id resolver place)
    (stageable : Stageable resolver limit)
    (run : Relation.ReflTransGen (DefineStep id resolver) ⟨start, []⟩ state)
    (below : state.session.fresh < limit) (fit : AllPackable state.definitions) :
    (∀ definition ∈ state.definitions, ∀ result, definition.phase = .ended result →
      ∃ symbol, result = .ok symbol ∧ symbol.name = definition.name ∧
        symbol.body = .bytecode definition.content) ∧
    ((∀ definition ∈ state.definitions, definition.phase.left = 0) →
      ∃ symbols, AllDefined start id resolver place state symbols) ∧
    (state.session.fresh + stepsLeft state.definitions < limit →
      ∃ after, Relation.ReflTransGen (DefineStep id resolver) state after ∧
        requests after.definitions = requests state.definitions ∧
          (∀ definition ∈ after.definitions, definition.phase.left = 0) ∧
            after.session.fresh < limit) := by
  obtain ⟨gained, underWay⟩ := UnderWay.of_run equipped stageable run below fit
  refine ⟨fun definition member result isEnded => ?_, fun ended => ?_, fun enough => ?_⟩
  · have healthy := underWay.healthy definition member
    rw [isEnded] at healthy
    cases healthy with
    | ended symbol _ named body => exact ⟨symbol, rfl, named, body⟩
  · obtain ⟨symbols, each, tracked, registered, names, files, staged⟩ :=
      symbols_of_ended underWay.healthy ended
    obtain ⟨busy, opened⟩ := underWay.opened
    refine ⟨symbols, each, names ▸ underWay.distinct,
      ⟨gained, busy, registered ▸ underWay.listed, opened, underWay.units⟩, ?_, ?_,
      tracked ▸ underWay.live⟩
    · intro symbol member
      obtain ⟨content, body, listed⟩ := staged symbol member
      obtain ⟨modified, stands⟩ := underWay.holding.inside _ listed
      exact ⟨(underWay.holding.available _ listed).empty, content, modified, body, stands⟩
    · intro location apart
      refine underWay.holding.outside location fun entry listed => ?_
      have named : entry.1 ∈ symbols.map (·.unit) := files ▸ List.mem_map_of_mem listed
      obtain ⟨symbol, member, same⟩ := List.mem_map.mp named
      exact same ▸ apart symbol member
  · exact underWay.ends equipped stageable enough fit

/-! ### Two definitions of one name -/

/-- A session with a resolver that passes archives through and has defined nothing. -/
def definerOpened (config : Config) : Session :=
  perform { files := ⟨[(["tmp"], .directory), (["tmp", "work"], .directory)], 0⟩ }
    (.openResolver "loader" config Compiler.passthrough .archive none)

/-- The resolver of that session. -/
def definer (config : Config) : Resolver where
  staging := .ofConfig config
  platform := .archive
  compiler := Compiler.passthrough
  parent := none
  dumpsFailedInput := config.dumpsFailedInput
  patience := config.patience
  reaper := 0

/-- Definitions can begin with it. -/
theorem definerOpened_equipped :
    Equipped (definerOpened {}) 1 (definer {}) ["tmp", "kiln-cache", "staging"] where
  hosted := (Hosted.start _).perform trivial
  present := rfl
  platform := rfl
  compiler := rfl
  reaper := by decide +kernel
  reached := by decide +kernel
  undrawn := undrawnFrom_of_names (by decide +kernel) _
  unlisted _ impossible := by cases impossible

/-- Two threads define a symbol of the same name with different bytecode. Each gets its own, with an
artifact and a unit of its own. -/
theorem definitions_apart_namesakes :
    ∃ after symbols, Relation.ReflTransGen (DefineStep 1 (definer {})) ⟨definerOpened {}, []⟩ after ∧
      requests after.definitions = [("left", "A", [1]), ("right", "A", [2])] ∧
        AllDefined (definerOpened {}) 1 (definer {}) ["tmp", "kiln-cache", "staging"] after
          symbols := by
  have stageable : Stageable (definer {}) (10 ^ 12) :=
    stageable_of_short (Nat.le_refl _) ⟨by decide, by decide, by decide⟩
      (fun _ impossible => by cases impossible) (by decide +kernel) (by decide +kernel)
  have proper : Symbol.Proper "A" := ⟨by decide, by decide, by decide⟩
  have first : Packable "A" [1] :=
    ⟨proper, ⟨by decide, by decide, by decide, by decide, by decide +kernel⟩⟩
  have second : Packable "A" [2] :=
    ⟨proper, ⟨by decide, by decide, by decide, by decide, by decide +kernel⟩⟩
  have asks : Relation.ReflTransGen (DefineStep 1 (definer {})) ⟨definerOpened {}, []⟩
      ⟨definerOpened {}, [⟨"left", "A", [1], .asked⟩, ⟨"right", "A", [2], .asked⟩]⟩ :=
    .tail (.single (.ask _ "left" "A" [1])) (.ask _ "right" "A" [2])
  have fit (definitions : List Definition)
      (asked : requests definitions = [("left", "A", [1]), ("right", "A", [2])]) :
      AllPackable definitions := by
    intro request member
    rw [asked] at member
    simp only [List.mem_cons, List.not_mem_nil, or_false] at member
    rcases member with rfl | rfl
    · exact first
    · exact second
  have fresh : (definerOpened {}).fresh = 2 := by decide +kernel
  obtain ⟨-, -, ends⟩ := definitions_apart definerOpened_equipped stageable asks
    (by rw [fresh]; decide) (fit _ rfl)
  obtain ⟨after, run, asked, ended, below⟩ := ends (by rw [fresh]; decide)
  obtain ⟨-, all, -⟩ := definitions_apart definerOpened_equipped stageable (asks.trans run) below
    (fit _ asked)
  obtain ⟨symbols, defined⟩ := all ended
  exact ⟨after, symbols, asks.trans run, asked, defined⟩

/-- An extension with a separator is accepted, but then the path that is staged for an archive leads
through a directory that is missing, and a definition fails that is all alone. -/
theorem definitions_apart_separator :
    ∃ after path, Relation.ReflTransGen (DefineStep 1 (definer { archiveExtension := "x/y" }))
      ⟨definerOpened { archiveExtension := "x/y" }, []⟩
      ⟨after, [⟨"main", "A", [1], .ended (.error (.packaging path (.file .notFound)))⟩]⟩ := by
  have fails : ((definerOpened { archiveExtension := "x/y" }).define 1 "main" "A" [1]).2 =
      .error (.packaging
        "/tmp/kiln-cache/staging/559aead08264d579_00000000-0000-4000-8000-000000000002.x/y"
        (.file .notFound)) := by
    decide +kernel
  have present : (definerOpened { archiveExtension := "x/y" }).resolvers.get? 1 =
      some (definer { archiveExtension := "x/y" }) := rfl
  have alone : DefinesAlone 1 (definer { archiveExtension := "x/y" }) "main" "A" [1]
      (definerOpened { archiveExtension := "x/y" }) .asked _ _ := define_alone present
  rw [fails] at alone
  have asks : DefineStep 1 (definer { archiveExtension := "x/y" })
      ⟨definerOpened { archiveExtension := "x/y" }, []⟩
      ⟨definerOpened { archiveExtension := "x/y" }, [⟨"main", "A", [1], .asked⟩]⟩ :=
    .ask _ "main" "A" [1]
  exact ⟨_, _, .head asks alone.run⟩

end Session

end Hotload
