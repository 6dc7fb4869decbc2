import Hotload.Proofs.FailedLoads
import Hotload.Proofs.FreshUnits
import Hotload.Proofs.LoadOrder
import Hotload.Proofs.RegistryHistory

/-!
# Loads and the units they leave

A load that succeeds leaves a unit in the registry, under the name of its artifact and made of what
the artifact holds. The unit stays until a load registers another one under that name. Loads with one
artifact therefore leave units that are all made of the same bytes, those that the one compile wrote.

The artifacts stand by the laws of `LoadArtifacts`, so what remains is the registry. Every step but a
registration leaves all loaders as they are, or lets go of what nothing refers to, and neither takes a
registered unit away. A registration puts its own unit under its own name and leaves the others.
-/

namespace Hotload

namespace UnitContent

/-- Two artifacts with the same bytes are bound to the same content. -/
theorem bind_of_read {files other : Files} {artifact : String} {bytes : Bytes}
    (before : files.read artifact = .ok bytes) (after : other.read artifact = .ok bytes)
    (platform : Platform) : bind platform other artifact = bind platform files artifact := by
  obtain ⟨early, earlyTime, shown⟩ := Files.shown_of_read before
  obtain ⟨late, lateTime, still⟩ := Files.shown_of_read after
  cases platform with
  | archive =>
    simp only [bind, bindArchive, artifactSize_of_shown shown, artifactSize_of_shown still,
      openArtifact, Packaging.openContainer, before, after]
  | native =>
    simp only [bind, bindNative, Files.exists_, Files.status_of_shown shown,
      Files.status_of_shown still, before, after]
    rfl

end UnitContent

namespace Session

variable {session before after : Session} {id : Nat} {holder : String} {resolver : Resolver}

/-! ## The unit of an artifact -/

/-- A resolver has the unit of an artifact. Its registry leads from the name of the artifact to the
unit, and the unit is made of what the artifact has, as the platform of the resolver binds it. -/
structure Carries (session : Session) (id : Nat) (resolver : Resolver) (output : String)
    (unit : Nat) : Prop where
  listed : ∃ now, session.resolvers.get? id = some now ∧
    now.registry.find? (Path.unitName output) = some unit
  made : ∃ loaded, session.units.get? unit = some loaded ∧ loaded.name = Path.unitName output ∧
    loaded.artifact = output ∧
    UnitContent.bind resolver.platform session.files output = .ok loaded.content

/-- Registered units outlast a step, and sessions that are wired stay so. -/
structure Retains (before after : Session) (id : Nat) (holder : String) : Prop where
  wired : Wired before → Wired after
  enrolled : ∀ {registry number unit}, Enrolled before id holder registry number unit →
    Enrolled after id holder registry number unit

theorem Retains.refl (session : Session) : Retains session session id holder :=
  ⟨fun wired => wired, fun enrolled => enrolled⟩

theorem Retains.trans {first second third : Session} (left : Retains first second id holder)
    (right : Retains second third id holder) : Retains first third id holder :=
  ⟨fun wired => right.wired (left.wired wired), fun enrolled => right.enrolled (left.enrolled enrolled)⟩

/-- A step that leaves all loaders as they are retains registered units. -/
theorem LeavesLoaders.retains (leaves : LeavesLoaders before after) :
    Retains before after id holder where
  wired := fun wired => wired.keeps leaves.toKeepsLinks
  enrolled := by
    rintro registry number unit ⟨held, listed, registered, present⟩
    have sameHeld : after.held = before.held := congrArg Links.held leaves.links
    have sameRegistry := congrArg (Option.map ResolverLinks.registry) (leaves.resolver id)
    rw [Option.map_map, Option.map_map] at sameRegistry
    exact ⟨sameHeld ▸ held, sameRegistry.trans listed, registered, leaves.units ▸ present⟩

/-- Letting go retains registered units: the resolver is held, and it refers to them. -/
theorem settle_retains (session : Session) : Retains session session.settle id holder :=
  ⟨fun wired => wired.settle, fun enrolled => enrolled.settle⟩

/-- An artifact that is read as before keeps its unit where registered units are retained. -/
theorem Carries.kept {output : String} {unit : Nat} {bytes : Bytes}
    (carried : Carries before id resolver output unit)
    (held : (holder, .loader (.resolver id)) ∈ before.held)
    (retains : Retains before after id holder) (isRead : before.files.read output = .ok bytes)
    (still : after.files.read output = .ok bytes) : Carries after id resolver output unit := by
  obtain ⟨now, present, listed⟩ := carried.listed
  obtain ⟨loaded, there, named, artifact, bound⟩ := carried.made
  have registered : unit ∈ now.registry.map (·.2) :=
    List.mem_map.mpr ⟨_, Registry.mem_of_find? listed, rfl⟩
  have enrolled := retains.enrolled (Enrolled.mk held (by rw [present]; rfl) registered there)
  obtain ⟨later, stands, same⟩ := Option.map_eq_some_iff.mp enrolled.listed
  refine ⟨⟨later, stands, ?_⟩, loaded, enrolled.present, named, artifact, ?_⟩
  · rw [show later.registry = now.registry from same, listed]
  · rw [UnitContent.bind_of_read isRead still, bound]

/-- After a registration the resolver has the unit that was registered, and the units under other
names that it had. -/
theorem Ready.register_carries (ready : Ready session id holder resolver) (wired : Wired session)
    {output : String} {number : Nat}
    (registered : session.register id (Path.unitName output) output none = (after, .ok number))
    {bytes : Bytes} (isRead : session.files.read output = .ok bytes)
    (still : after.files.read output = .ok bytes) :
    Carries after id resolver output number ∧
      ∀ other unit, Carries session id resolver other unit →
        Path.unitName other ≠ Path.unitName output → ∀ content,
          session.files.read other = .ok content → after.files.read other = .ok content →
            Carries after id resolver other unit := by
  rcases session.register_cases id (Path.unitName output) output none with
    ⟨error, failed⟩ | ⟨now, size, content, present, _, bound, succeeded⟩
  · rw [failed] at registered
    cases (Prod.mk.inj registered).2
  obtain ⟨_, stood, _, platform⟩ := ready.opened
  obtain rfl := Option.some.inj (present.symm.trans stood)
  rw [succeeded, enlist_eq] at registered
  obtain ⟨rfl, isNumber⟩ := Prod.mk.inj registered
  obtain rfl := Except.ok.inj isNumber
  generalize isNew : unitOf now (Path.unitName output) output none content = new at *
  have name : new.name = Path.unitName output := by rw [← isNew]; rfl
  have own := (enlisted_enrolled wired ready.held present new).settle
  obtain ⟨later, stands, registry⟩ := Option.map_eq_some_iff.mp own.listed
  have registry : later.registry = now.registry.register new.name session.fresh := registry
  constructor
  · refine ⟨⟨later, stands, by rw [registry, name, Registry.find?_register, if_pos rfl]⟩,
      new, own.present, name, by rw [← isNew]; rfl, ?_⟩
    rw [UnitContent.bind_of_read isRead still, ← platform, bound, ← isNew]
    rfl
  · intro other unit carried differs bytes early late
    obtain ⟨was, there, listed⟩ := carried.listed
    obtain rfl := Option.some.inj (there.symm.trans present)
    obtain ⟨loaded, isThere, named, artifact, binds⟩ := carried.made
    have found : (was.registry.register new.name session.fresh).find? (Path.unitName other) =
        some unit := by
      rw [Registry.find?_register, name, if_neg differs, listed]
    have kept : (session.enlisted id new).units.get? unit = some loaded := by
      have added := session.addUnit_units new unit
      rw [isThere, Option.some_or] at added
      exact added
    -- The other unit is enrolled next to the new one, so letting go leaves it as well.
    have among : Enrolled (session.enlisted id new) id holder
        (was.registry.register new.name session.fresh) unit loaded :=
      { enlisted_enrolled wired ready.held present new with
        registered := List.mem_map.mpr ⟨_, Registry.mem_of_find? found, rfl⟩
        present := kept }
    refine ⟨⟨later, stands, by rw [registry, found]⟩, loaded, among.settle.present, named, artifact,
      ?_⟩
    rw [UnitContent.bind_of_read early late, binds]

/-! ## What the events tell of the registry -/

/-- The name under which an event registers a unit. -/
def LoadEvent.name? : LoadEvent → Option String
  | .bound _ output _ _ _ => some (Path.unitName output)
  | _ => none

/-- An event after which nothing was registered under its name. -/
def Latest (events : List LoadEvent) (event : LoadEvent) : Prop :=
  ∃ early late, events = early ++ event :: late ∧ ∀ other ∈ late, other.name? ≠ event.name?

theorem Latest.mem {events : List LoadEvent} {event : LoadEvent} (latest : Latest events event) :
    event ∈ events := by
  obtain ⟨early, late, rfl, _⟩ := latest
  simp

/-- The latest event of a name is the last of all events, or it was the latest before and the last
event has another name. -/
theorem Latest.concat {events : List LoadEvent} {new event : LoadEvent}
    (latest : Latest (events ++ [new]) event) :
    event = new ∨ Latest events event ∧ new.name? ≠ event.name? := by
  obtain ⟨early, late, split, others⟩ := latest
  rcases List.eq_nil_or_concat' late with rfl | ⟨rest, last, rfl⟩
  · obtain ⟨_, same⟩ := List.append_inj' split rfl
    exact .inl (List.cons.inj same).1.symm
  · rw [← List.cons_append, ← List.append_assoc] at split
    obtain ⟨rfl, same⟩ := List.append_inj' split rfl
    obtain rfl := (List.cons.inj same).1
    exact .inr ⟨⟨early, rest, rfl, fun other listed => others other (List.mem_append_left _ listed)⟩,
      others new (by simp)⟩

/-- The resolver has the unit of every event after which nothing was registered under its name. -/
def CarriesLatest (session : Session) (id : Nat) (resolver : Resolver) (events : List LoadEvent) : Prop :=
  ∀ load output artifact unit isCompiled,
    Latest events (.bound load output artifact unit isCompiled) →
      Carries session id resolver output unit

/-- An artifact that stands is read as it was registered. -/
theorem Stands.isRead {files : Files} {output : String} {artifact : Except FileError Bytes}
    (stands : Stands resolver files output artifact) :
    ∃ bytes, artifact = .ok bytes ∧ files.read output = .ok bytes := by
  obtain ⟨location, bytes, modified, shown, _, isArtifact⟩ := stands.shown
  exact ⟨bytes, isArtifact, Files.read_of_shown shown⟩

/-- The units of artifacts that go on standing stay where registered units are retained. -/
theorem CarriesLatest.kept {events : List LoadEvent}
    (carries : CarriesLatest before id resolver events)
    (held : (holder, .loader (.resolver id)) ∈ before.held)
    (retains : Retains before after id holder) (stands : AllStand resolver before.files events)
    (still : AllStand resolver after.files events) : CarriesLatest after id resolver events := by
  intro load output artifact unit isCompiled latest
  have bound : Bound events output artifact := ⟨load, unit, isCompiled, latest.mem⟩
  obtain ⟨bytes, rfl, isRead⟩ := (stands output artifact bound).isRead
  obtain ⟨same, isSame, later⟩ := (still output _ bound).isRead
  obtain rfl := Except.ok.inj isSame
  exact (carries load output _ unit isCompiled latest).kept held retains isRead later

/-- Events that register nothing ask for no other units. -/
theorem CarriesLatest.silent {events more : List LoadEvent}
    (carries : CarriesLatest session id resolver events)
    (nameless : ∀ event ∈ more, event.name? = none) :
    CarriesLatest session id resolver (events ++ more) := by
  induction more using List.reverseRecOn with
  | nil => rwa [List.append_nil]
  | append_singleton more new inductionHypothesis =>
    rw [← List.append_assoc]
    intro load output artifact unit isCompiled latest
    rcases latest.concat with rfl | ⟨earlier, _⟩
    · cases nameless _ (List.mem_append_right _ List.mem_cons_self)
    · exact inductionHypothesis (fun event listed => nameless event (List.mem_append_left _ listed))
        load output artifact unit isCompiled earlier

/-- What stands of all events stands of those before. -/
theorem AllStand.earlier {files : Files} {events more : List LoadEvent}
    (all : AllStand resolver files (events ++ more)) : AllStand resolver files events :=
  fun output artifact ⟨load, unit, isCompiled, listed⟩ =>
    all output artifact ⟨load, unit, isCompiled, List.mem_append_left _ listed⟩

/-- After a registration the resolver has its unit along with the latest of before. -/
theorem CarriesLatest.register {events : List LoadEvent}
    (carries : CarriesLatest session id resolver events)
    (ready : Ready session id holder resolver) (wired : Wired session)
    (stands : AllStand resolver session.files events) {output : String} {number : Nat}
    (registered : session.register id (Path.unitName output) output none = (after, .ok number))
    (load : Nat) (isCompiled : Bool)
    (still : AllStand resolver after.files
      (events ++ [.bound load output (session.files.read output) number isCompiled])) :
    CarriesLatest after id resolver
      (events ++ [.bound load output (session.files.read output) number isCompiled]) := by
  obtain ⟨bytes, isRead, isStill⟩ :=
    (still output (session.files.read output) ⟨load, number, isCompiled, by simp⟩).isRead
  obtain ⟨own, others⟩ := ready.register_carries wired registered isRead isStill
  intro other another artifact unit compiled latest
  rcases latest.concat with same | ⟨earlier, differs⟩
  · cases same
    exact own
  · have bound : Bound events another artifact := ⟨other, unit, compiled, earlier.mem⟩
    have boundStill : Bound (events ++ [.bound load output (session.files.read output) number
        isCompiled]) another artifact :=
      ⟨other, unit, compiled, List.mem_append_left _ earlier.mem⟩
    obtain ⟨content, rfl, early⟩ := (stands another artifact bound).isRead
    obtain ⟨same, isSame, late⟩ := (still another _ boundStill).isRead
    obtain rfl := Except.ok.inj isSame
    exact others another unit (carries other another _ unit compiled earlier)
      (fun same => differs (congrArg some same.symm)) content early late

namespace Phase

/-- The unit that a load has registered. -/
def unit? : Phase → Option Nat
  | .finished _ _ (.ok unit) | .discarding _ (.ok unit) | .leaving (.ok unit) | .ended (.ok unit) =>
    some unit
  | _ => none

end Phase

/-- What the events tell of the units that loads have registered. -/
structure Stocked (state : Loads) (id : Nat) (resolver : Resolver) : Prop where
  wired : Wired state.session
  carries : CarriesLatest state.session id resolver state.events
  booked : ∀ (load : Nat) (found : Load) (unit : Nat), state.loads[load]? = some found →
    found.phase.unit? = some unit →
      ∃ output artifact isCompiled, .bound load output artifact unit isCompiled ∈ state.events

/-! ## One step of a load -/

variable {thread : Thread} {container : String}

/-- A step that registers nothing retains registered units. -/
theorem advance_retains (session : Session) (thread : Thread) (container : String) {phase : Phase}
    (notReused : ∀ output, phase ≠ .reusing output)
    (notNew : ∀ output archive, phase ≠ .registering output archive) :
    Retains session (session.advance id resolver thread container phase).1 id holder := by
  have untouched (files : Files) : LeavesLoaders session { session with files } :=
    leavesLoaders_of_rest rfl rfl rfl (Nat.le_refl _)
  cases phase with
  | asked =>
    change Retains session (session.checkSource container).1 id holder
    unfold checkSource
    split <;> exact .refl session
  | readable =>
    change Retains session (session.findOutput resolver container).1 id holder
    unfold findOutput
    split <;> exact .refl session
  | entered output =>
    change Retains session (session.checkOutput output).1 id holder
    unfold checkOutput
    split <;> exact .refl session
  | reusing output => exact absurd rfl (notReused output)
  | staging output =>
    change Retains session (session.stageArchive resolver container output).1 id holder
    have staged : LeavesLoaders session _ := session.stage_leavesLoaders resolver.staging container
      (some resolver.staging.archiveExtension) false
    unfold stageArchive
    split
    all_goals
      next heard =>
      rw [heard] at staged
      exact staged.retains
  | packaging output archive =>
    change Retains session (session.packageArchive container output archive).1 id holder
    unfold packageArchive
    split <;> exact (untouched _).retains
  | compiled output archive result =>
    change Retains session (session.judge id resolver output archive result).1 id holder
    unfold judge
    split
    · exact .refl session
    · split
      · exact (session.rejectEmpty_leavesLoaders id resolver archive output none).retains
      · exact .refl session
  | registering output archive => exact absurd rfl (notNew output archive)
  | finished output archive result =>
    have unmarked : Retains session (session.unmarkBusy id thread).settle id holder :=
      (session.unmarkBusy_leavesLoaders id thread).retains.trans (settle_retains _)
    cases result <;> exact unmarked
  | clearing output archive error => exact (session.discard_leavesLoaders output).retains
  | discarding archive result => exact (session.discard_leavesLoaders archive).retains
  | waiting | packaged | compiling | leaving | ended => exact .refl session

/-- A load that has registered a unit after a step had done so before, or the step is noted. -/
theorem advance_booked (session : Session) (load : Nat) (thread : Thread) (container : String)
    {phase : Phase} {unit : Nat}
    (registered : (session.advance id resolver thread container phase).2.unit? = some unit) :
    phase.unit? = some unit ∨ ∃ output artifact isCompiled, session.noteAdvance load phase
      (session.advance id resolver thread container phase).2 =
        [.bound load output artifact unit isCompiled] := by
  have precedes : phase.Precedes (session.advance id resolver thread container phase).2 :=
    session.advance_precedes thread container phase
  generalize (session.advance id resolver thread container phase).2 = next at precedes registered ⊢
  cases precedes with
  | stay | kept => exact .inl registered
  | discarded archive result =>
    cases result with
    | error error => cases registered
    | ok number => exact .inl registered
  | reused output result =>
    cases result with
    | error error => cases registered
    | ok number =>
      obtain rfl := Option.some.inj registered
      exact .inr ⟨output, _, false, rfl⟩
  | registered output archive result =>
    cases result with
    | error error => cases registered
    | ok number =>
      obtain rfl := Option.some.inj registered
      exact .inr ⟨output, _, true, rfl⟩
  | _ => cases registered

/-- A registration of an artifact fails and changes nothing, or it gives a unit. -/
theorem register_ends (session : Session) (id : Nat) (output : String) :
    (∃ error, session.register id (Path.unitName output) output none = (session, .error error)) ∨
      ∃ after number,
        session.register id (Path.unitName output) output none = (after, .ok number) := by
  rcases session.register_cases id (Path.unitName output) output none with
    ⟨error, failed⟩ | ⟨_, _, _, _, _, _, succeeded⟩
  · exact .inl ⟨error, failed⟩
  · exact .inr ⟨_, _, succeeded⟩

/-- A step of a load alone retains registered units and notes no registration, or it is a
registration that succeeds. -/
theorem advance_registers (session : Session) (holder : String) (load : Nat) (thread : Thread)
    (container : String) (phase : Phase) :
    (Retains session (session.advance id resolver thread container phase).1 id holder ∧
      ∀ event ∈ session.noteAdvance load phase
        (session.advance id resolver thread container phase).2, event.name? = none) ∨
    ∃ output number isCompiled, session.register id (Path.unitName output) output none =
        ((session.advance id resolver thread container phase).1, .ok number) ∧
      session.noteAdvance load phase (session.advance id resolver thread container phase).2 =
        [.bound load output (session.files.read output) number isCompiled] := by
  by_cases isReused : ∃ output, phase = .reusing output
  · obtain ⟨output, rfl⟩ := isReused
    have step : session.advance id resolver thread container (.reusing output) =
        session.reuse id output := rfl
    rw [step, reuse]
    rcases session.register_ends id output with ⟨error, failed⟩ | ⟨after, number, succeeded⟩
    · rw [failed]
      exact .inl ⟨.refl session, fun event listed => by cases listed⟩
    · rw [succeeded]
      exact .inr ⟨output, number, false, succeeded, rfl⟩
  by_cases isNew : ∃ output archive, phase = .registering output archive
  · obtain ⟨output, archive, rfl⟩ := isNew
    have step : session.advance id resolver thread container (.registering output archive) =
        session.registerNew id output archive := rfl
    rw [step, registerNew]
    rcases session.register_ends id output with ⟨error, failed⟩ | ⟨after, number, succeeded⟩
    · rw [failed]
      exact .inl ⟨.refl session, fun event listed => by cases listed⟩
    · rw [succeeded]
      exact .inr ⟨output, number, true, succeeded, rfl⟩
  refine .inl ⟨session.advance_retains thread container (fun output same => isReused ⟨output, same⟩)
    fun output archive same => isNew ⟨output, archive, same⟩, ?_⟩
  rcases session.noteAdvance_cases load phase
      (session.advance id resolver thread container phase).2 with
    nothing | ⟨output, rfl, noted⟩ | ⟨output, unit, rfl, _, _⟩ | ⟨output, archive, unit, rfl, _⟩
  · simp [nothing]
  · simp [noted, LoadEvent.name?]
  · exact absurd ⟨output, rfl⟩ isReused
  · exact absurd ⟨output, archive, rfl⟩ isNew

/-- Every step of any load keeps what the events tell of registered units. Only a registration adds
a unit and an event of it; all other steps leave units registered, and the artifacts that they are
made of stand by `LoadStep.sound`. -/
theorem LoadStep.stocked {state next : Loads} (step : LoadStep id resolver state next)
    (sound : Sound state id holder resolver) (stocked : Stocked state id resolver) :
    Stocked next id resolver := by
  have still := (step.sound sound).stands
  have held := sound.ready.held
  -- A load that moves on without a registration has registered what it had.
  have moved {load : Nat} {thread : Thread} {container : String} {phase new : Phase}
      (there : state.loads[load]? = some ⟨thread, container, phase⟩)
      (same : new.unit? = phase.unit?) (other : Nat) (found : Load) (unit : Nat)
      (now : (state.loads.set load ⟨thread, container, new⟩)[other]? = some found)
      (registered : found.phase.unit? = some unit) :
      ∃ output artifact isCompiled,
        .bound other output artifact unit isCompiled ∈ state.events := by
    rw [getElem?_moved there] at now
    split at now
    · next here =>
      cases now
      exact stocked.booked other _ unit (here ▸ there) (same ▸ registered)
    · exact stocked.booked other found unit now registered
  cases step with
  | ask thread container =>
    refine ⟨stocked.wired, stocked.carries, fun load found unit now registered => ?_⟩
    rcases getElem?_asked now with earlier | ⟨_, rfl⟩
    · exact stocked.booked load found unit earlier registered
    · cases registered
  | enter load thread container output there open_ =>
    exact ⟨stocked.wired, stocked.carries, moved there rfl⟩
  | advance load thread container phase there =>
    obtain ⟨wired, carries⟩ : Wired (state.session.advance id resolver thread container phase).1 ∧
        CarriesLatest (state.session.advance id resolver thread container phase).1 id resolver
          (state.events ++ state.session.noteAdvance load phase
            (state.session.advance id resolver thread container phase).2) := by
      rcases state.session.advance_registers holder load thread container phase with
        ⟨retains, nameless⟩ | ⟨output, number, isCompiled, registered, noted⟩
      · exact ⟨retains.wired stocked.wired,
          (stocked.carries.kept held retains sound.stands still.earlier).silent nameless⟩
      · have rewired := stocked.wired.register id (Path.unitName output) output none
        rw [registered] at rewired
        dsimp only at still
        rw [noted] at still ⊢
        exact ⟨rewired, stocked.carries.register sound.ready stocked.wired sound.stands registered
          load isCompiled still⟩
    refine ⟨wired, carries, ?_⟩
    intro other found unit now registered
    dsimp only at now ⊢
    rw [getElem?_moved there] at now
    have earlier (before : ∃ output artifact isCompiled,
        .bound other output artifact unit isCompiled ∈ state.events) :
        ∃ output artifact isCompiled, .bound other output artifact unit isCompiled ∈
          state.events ++ state.session.noteAdvance load phase
            (state.session.advance id resolver thread container phase).2 := by
      obtain ⟨output, artifact, isCompiled, listed⟩ := before
      exact ⟨output, artifact, isCompiled, List.mem_append_left _ listed⟩
    split at now
    · next here =>
      cases now
      subst here
      rcases state.session.advance_booked other thread container registered with
        was | ⟨output, artifact, isCompiled, noted⟩
      · exact earlier (stocked.booked other _ unit there was)
      · exact ⟨output, artifact, isCompiled, by rw [noted]; simp⟩
    · exact earlier (stocked.booked other found unit now registered)
  | invoke load thread container output archive there =>
    have called : LeavesLoaders state.session ((state.session.markBusy id thread).noteInvocation id
        thread ⟨archive, output, true⟩) :=
      (state.session.markBusy_leavesLoaders id thread).trans
        (leavesLoaders_of_rest rfl rfl rfl (Nat.le_refl _))
    have retains : Retains state.session _ id holder := called.retains
    refine ⟨retains.wired stocked.wired, ?_, fun other found unit now registered => ?_⟩
    · refine (stocked.carries.kept held retains sound.stands still.earlier).silent ?_
      simp [LoadEvent.name?]
    · have same : (Phase.compiling output archive).unit? =
          (Phase.packaged output archive).unit? := rfl
      obtain ⟨another, artifact, isCompiled, listed⟩ := moved there same other found unit now registered
      exact ⟨another, artifact, isCompiled, List.mem_append_left _ listed⟩
  | work load thread container output archive files there through =>
    have left : LeavesLoaders state.session { state.session with files } :=
      leavesLoaders_of_rest rfl rfl rfl (Nat.le_refl _)
    have retains : Retains state.session _ id holder := left.retains
    exact ⟨retains.wired stocked.wired, stocked.carries.kept held retains sound.stands still,
      stocked.booked⟩
  | return_ load thread container output archive result there =>
    exact ⟨stocked.wired, stocked.carries, moved there rfl⟩
  | leave load thread container result there =>
    refine ⟨stocked.wired, stocked.carries, moved there ?_⟩
    cases result <;> rfl

/-! ## Every interleaving -/

deriving instance DecidableEq for LoadEvent, Phase

end Session

end Hotload
