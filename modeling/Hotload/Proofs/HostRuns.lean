import Hotload.Proofs.CacheRuns

/-!
# Runs of a careful host

A careful host holds at once whatever it was given, and it refers only to what it was given. In the
sessions of such a host, nothing is left over between two operations: every unit, every resolver and
every file of passing use is referred to, and no reference names a file that is still to be made.
Letting go then changes nothing, which is why an operation that fails can leave everything as it was.
-/

namespace Hotload

namespace Session

variable {session before after : Session}

/-! ## Nothing left over -/

/-- Every loader in the tables is referred to. -/
structure Rooted (session : Session) : Prop where
  units : ∀ id, session.units.has id = true → .loader (.unit id) ∈ session.targets
  resolvers : ∀ id, session.resolvers.has id = true → .loader (.resolver id) ∈ session.targets

/-- Every loader and every file of passing use is referred to. -/
structure Tidy (session : Session) : Prop extends Rooted session where
  settled : Settled session

/-- Steps that keep the links keep the loaders referred to. -/
theorem Rooted.keeps (rooted : Rooted before) (kept : KeepsLinks before after) : Rooted after where
  units := by
    intro id present
    rw [kept.targets]
    apply rooted.units
    have same := congrArg Option.isSome (kept.unit id)
    simp only [Option.isSome_map] at same
    exact same.symm.trans present
  resolvers := by
    intro id present
    rw [kept.targets]
    apply rooted.resolvers
    have same := congrArg Option.isSome (kept.resolver id)
    simp only [Option.isSome_map] at same
    exact same.symm.trans present

/-- A round lets go of nothing if every loader is referred to. -/
theorem Rooted.dropLoaders_eq (rooted : Rooted session) : session.dropLoaders = session := by
  have units : session.units.filter
      (fun entry => session.targets.contains (.loader (.unit entry.1))) = session.units := by
    refine List.filter_eq_self.mpr fun entry listed => ?_
    exact List.contains_iff_mem.mpr
      (rooted.units entry.1 (Table.has_iff.mpr (List.mem_map_of_mem listed)))
  have resolvers : session.resolvers.filter
      (fun entry => session.targets.contains (.loader (.resolver entry.1))) =
        session.resolvers := by
    refine List.filter_eq_self.mpr fun entry listed => ?_
    exact List.contains_iff_mem.mpr
      (rooted.resolvers entry.1 (Table.has_iff.mpr (List.mem_map_of_mem listed)))
  unfold dropLoaders
  simp only [units, resolvers]

/-- All rounds together let go of nothing if every loader is referred to. -/
theorem Rooted.keptLoaders_eq (rooted : Rooted session) : session.keptLoaders = session := by
  unfold keptLoaders
  cases session.units.length + session.resolvers.length with
  | zero => rfl
  | succ fuel => simp [dropAllLoaders, rooted.dropLoaders_eq]

/-- Where nothing is left over, there is nothing to let go of. -/
theorem Tidy.settle_eq (tidy : Tidy session) : session.settle = session := by
  have alive : session.deadTemporaries = [] := by
    refine List.filter_eq_nil_iff.mpr fun id listed => ?_
    obtain ⟨temporary, present⟩ := Option.isSome_iff_exists.mp (Table.has_iff.mpr listed)
    have referred := tidy.settled id temporary present
    simpa using referred
  rw [Session.settle_eq, tidy.toRooted.keptLoaders_eq, alive]
  rfl

/-- Letting go in rounds ends only when every loader is referred to: a round that lets go of none
finds them all referred to, and there are as many rounds as loaders. -/
theorem dropAllLoaders_rooted (fuel : Nat) (session : Session)
    (enough : session.units.length + session.resolvers.length ≤ fuel) :
    Rooted (dropAllLoaders fuel session) := by
  induction fuel generalizing session with
  | zero =>
    have noUnits : session.units = [] := List.length_eq_zero_iff.mp (by omega)
    have noResolvers : session.resolvers = [] := List.length_eq_zero_iff.mp (by omega)
    constructor
    · intro id present
      simp [dropAllLoaders, noUnits, Table.has] at present
    · intro id present
      simp [dropAllLoaders, noResolvers, Table.has] at present
  | succ fuel inductionHypothesis =>
    simp only [dropAllLoaders]
    split
    · exact inductionHypothesis _ (by omega)
    · next idle =>
      have units := List.length_filter_le
        (fun entry : Nat × LoadedUnit => session.targets.contains (.loader (.unit entry.1)))
        session.units
      have resolvers := List.length_filter_le
        (fun entry : Nat × Resolver => session.targets.contains (.loader (.resolver entry.1)))
        session.resolvers
      simp only [dropLoaders] at idle
      constructor
      · intro id present
        obtain ⟨entry, listed, rfl⟩ := List.mem_map.mp (Table.has_iff.mp present)
        have all := List.length_filter_eq_length_iff.mp
          (Nat.le_antisymm units (by omega)) entry listed
        exact List.contains_iff_mem.mp all
      · intro id present
        obtain ⟨entry, listed, rfl⟩ := List.mem_map.mp (Table.has_iff.mp present)
        have all := List.length_filter_eq_length_iff.mp
          (Nat.le_antisymm resolvers (by omega)) entry listed
        exact List.contains_iff_mem.mp all

/-- Letting go leaves nothing over. -/
theorem tidy_settle (session : Session) : Tidy session.settle where
  toRooted := Rooted.keeps (dropAllLoaders_rooted _ session (Nat.le_refl _))
    session.settle_keepsLinks
  settled := settled_settle session

/-- Steps that keep the links and make no files of passing use leave nothing over. -/
theorem Tidy.same (tidy : Tidy before) (kept : KeepsLinks before after)
    (temporaries : after.temporaries = before.temporaries) : Tidy after :=
  ⟨tidy.toRooted.keeps kept, tidy.settled.same kept temporaries⟩

theorem Tidy.register (tidy : Tidy session) (id : Nat) (name artifact : String)
    (temporary : Option Nat) : Tidy (session.register id name artifact temporary).1 := by
  rcases session.register_cases id name artifact temporary with
    ⟨error, failed⟩ | ⟨resolver, size, content, _, _, _, succeeded⟩
  · rw [failed]
    exact tidy
  · rw [succeeded, enlist_eq]
    exact tidy_settle _

/-! ## What letting go changes -/

/-- Releasing a file changes nothing but the tree, the file's state and the record. -/
theorem release_rest (session : Session) (id : Nat) :
    (session.release id).1 = { session with
      files := (session.release id).1.files,
      temporaries := (session.release id).1.temporaries,
      events := (session.release id).1.events } := by
  unfold release
  split
  · rfl
  · dsimp only
    split <;> rfl

theorem dropTemporary_rest (session : Session) (id : Nat) :
    session.dropTemporary id = { session with
      files := (session.dropTemporary id).files,
      temporaries := (session.dropTemporary id).temporaries,
      events := (session.dropTemporary id).events } := by
  unfold dropTemporary
  rw [session.release_rest id]

theorem dropTemporaries_rest (session : Session) (dead : List Nat) :
    dead.foldl dropTemporary session = { session with
      files := (dead.foldl dropTemporary session).files,
      temporaries := (dead.foldl dropTemporary session).temporaries,
      events := (dead.foldl dropTemporary session).events } := by
  induction dead generalizing session with
  | nil => rfl
  | cons first rest inductionHypothesis =>
    rw [List.foldl_cons, inductionHypothesis]
    rw [session.dropTemporary_rest first]

/-- The loaders that are left after letting go are those that were kept, as they were. -/
theorem settle_loaders (session : Session) :
    session.settle.units = session.keptLoaders.units ∧
      session.settle.resolvers = session.keptLoaders.resolvers := by
  rw [Session.settle_eq, dropTemporaries_rest]
  exact ⟨rfl, rfl⟩

/-- Letting go changes nothing but loaders, files of passing use, the tree and the record. -/
theorem settle_rest (session : Session) :
    session.settle = { session with
      files := session.settle.files, units := session.settle.units,
      resolvers := session.settle.resolvers, temporaries := session.settle.temporaries,
      events := session.settle.events } := by
  rw [Session.settle_eq, dropTemporaries_rest, session.keptLoaders_pruned.rest]

/-! ## Numbers that were given -/

/-- Steps that keep the links and track only what has been given a number. -/
theorem Numbered.keeps (numbered : Numbered before) (kept : KeepsLinks before after)
    (tracks : TracksGiven before after) : Numbered after where
  temporaries := by
    intro id present
    rcases tracks id present with early | given
    · exact Nat.lt_of_lt_of_le (numbered.temporaries id early) kept.fresh
    · exact given
  referred := by
    intro id referred
    rw [kept.targets] at referred
    exact Nat.lt_of_lt_of_le (numbered.referred id referred) kept.fresh

theorem Numbered.same (numbered : Numbered before) (kept : KeepsLinks before after)
    (temporaries : after.temporaries = before.temporaries) : Numbered after :=
  numbered.keeps kept fun _ tracked => .inl (temporaries ▸ tracked)

/-- Letting go refers to nothing new. -/
theorem Numbered.settle (numbered : Numbered session) : Numbered session.settle where
  temporaries := by
    intro id present
    obtain ⟨temporary, there⟩ := Option.isSome_iff_exists.mp present
    have listed := settle_mem (Table.mem_of_get? there)
    have tracked := Table.has_iff.mpr (List.mem_map.mpr ⟨_, listed, rfl⟩)
    exact Nat.lt_of_lt_of_le (numbered.temporaries id tracked) session.settle_fresh
  referred := by
    intro id referred
    rw [session.settle_keepsLinks.targets] at referred
    exact Nat.lt_of_lt_of_le
      (numbered.referred id (session.keptLoaders_pruned.targets_subset referred))
      session.settle_fresh

/-- A registered unit refers to a file that has been given its number. -/
theorem Numbered.register (numbered : Numbered session) (id : Nat) (name artifact : String)
    {temporary : Option Nat} (given : ∀ made ∈ temporary, made < session.fresh) :
    Numbered (session.register id name artifact temporary).1 := by
  rcases session.register_cases id name artifact temporary with
    ⟨error, failed⟩ | ⟨resolver, size, content, _, _, _, succeeded⟩
  · rw [failed]
    exact numbered
  · rw [succeeded, enlist_eq]
    refine Numbered.settle ⟨fun other present => Nat.lt_succ_of_lt
      (numbered.temporaries other present), fun other referred => Nat.lt_succ_of_lt ?_⟩
    rcases temporary_mem_targets.mp referred with held | ⟨entry, listed, refers⟩
    · exact numbered.referred other (temporary_mem_targets.mpr (.inl held))
    · rcases List.mem_append.mp listed with earlier | new
      · exact numbered.referred other (temporary_mem_targets.mpr (.inr ⟨entry, earlier, refers⟩))
      · rw [List.mem_singleton.mp new] at refers
        exact given other refers

/-- Releasing a file of passing use does not forget it. -/
theorem release_has (session : Session) (id other : Nat) :
    (session.release id).1.temporaries.has other = session.temporaries.has other := by
  unfold release Table.has
  split
  · rfl
  · dsimp only
    split
    all_goals
      simp only [log, Table.get?_update]
      split <;> simp

/-- Noting that a compile left nothing behind forgets no file of passing use. -/
theorem rejectEmpty_has (session : Session) (id : Nat) (resolver : Resolver)
    (archive output : String) (temporary : Option Nat) (other : Nat) :
    (session.rejectEmpty id resolver archive output temporary).temporaries.has other =
      session.temporaries.has other := by
  obtain ⟨noted, quiet, -, same⟩ := session.rejectEmpty_eq id resolver archive output
  rw [same temporary, ← quiet.temporaries]
  cases temporary with
  | some temporary => exact noted.release_has temporary other
  | none => rw [discard_temporaries]

/-- Compiling makes no numbers of files that were not given. -/
theorem Numbered.compile (numbered : Numbered session) (id : Nat) (resolver : Resolver)
    (thread : Thread) (archive output name : String) {temporary : Option Nat}
    (given : ∀ made ∈ temporary, made < session.fresh) :
    Numbered (session.compile id resolver thread archive output name temporary).1 := by
  have marked := markBusy_quiet session id thread
  have invoked := invoke_keepsLinks (session.markBusy id thread) id resolver thread
    ⟨archive, output, true⟩
  have called : Numbered ((session.markBusy id thread).invoke id resolver thread
      ⟨archive, output, true⟩).1 :=
    numbered.same (marked.toKeepsLinks.trans invoked) marked.temporaries
  have compiled : Numbered ((session.markBusy id thread).compileMarked id resolver thread archive
      output name temporary).1 := by
    unfold compileMarked
    split
    · next heard =>
      rw [heard] at called
      exact called
    · next later _ heard =>
      rw [heard] at called invoked
      have fresh : session.fresh ≤ later.fresh := invoked.fresh
      split
      · refine called.keeps (rejectEmpty_keepsLinks later id resolver archive output temporary) ?_
        intro other tracked
        exact .inl (rejectEmpty_has later id resolver archive output temporary other ▸ tracked)
      · exact called.register id name output fun made isGiven =>
          Nat.lt_of_lt_of_le (given made isGiven) fresh
  unfold Session.compile
  exact (compiled.same (unmarkBusy_quiet _ id thread).toKeepsLinks rfl).settle

/-- Loads and definitions make no numbers of files that were not given. -/
theorem numbered_lasting : Lasting Numbered where
  keeps := fun numbered left => numbered.same left.toKeepsLinks
  find := fun numbered loader name =>
    have quiet := quiet_follows.find _ loader name
    numbered.same quiet.toKeepsLinks quiet.temporaries
  compile := fun numbered left tracks id resolver thread archive output name _ given =>
    (numbered.keeps left.toKeepsLinks tracks).compile id resolver thread archive output name given
  register := fun numbered id name artifact => numbered.register id name artifact (by simp)

/-- Changes of resolvers and of what the host holds make no numbers of files that were not given. -/
theorem Numbered.relinked (numbered : Numbered before) (units : after.units = before.units)
    (temporaries : after.temporaries = before.temporaries) (fresh : before.fresh ≤ after.fresh)
    (held : ∀ holder id, (holder, .temporary id) ∈ after.held →
      (holder, .temporary id) ∈ before.held ∨ id < after.fresh) : Numbered after where
  temporaries := by
    intro id present
    rw [temporaries] at present
    exact Nat.lt_of_lt_of_le (numbered.temporaries id present) fresh
  referred := by
    intro id referred
    have known : .temporary id ∈ before.targets → id < after.fresh := fun early =>
      Nat.lt_of_lt_of_le (numbered.referred id early) fresh
    rcases temporary_mem_targets.mp referred with ⟨holder, holds⟩ | unit
    · rcases held holder id holds with early | given
      · exact known (temporary_mem_targets.mpr (.inl ⟨holder, early⟩))
      · exact given
    · rw [units] at unit
      exact known (temporary_mem_targets.mpr (.inr unit))

/-! ## Sessions between operations -/

/-- Nothing is left over, and only what was given is referred to. -/
structure Clean (session : Session) : Prop extends Tidy session where
  numbered : Numbered session

/-- After letting go, a session is clean. -/
theorem Numbered.settle_clean (numbered : Numbered session) : Clean session.settle :=
  ⟨tidy_settle session, numbered.settle⟩

theorem Clean.same (clean : Clean before) (kept : KeepsLinks before after)
    (temporaries : after.temporaries = before.temporaries) : Clean after :=
  ⟨clean.toTidy.same kept temporaries, clean.numbered.same kept temporaries⟩

/-- Quiet steps leave a session clean. -/
theorem Clean.quiet (clean : Clean before) (quiet : Quiet before after) : Clean after :=
  clean.same quiet.toKeepsLinks quiet.temporaries

/-- Loads and definitions leave a session clean. -/
theorem clean_lasting : Lasting Clean where
  keeps := fun clean left => clean.same left.toKeepsLinks
  find := fun clean loader name => clean.quiet (quiet_follows.find _ loader name)
  compile := fun clean kept tracks id resolver thread archive output name temporary given =>
    ⟨tidy_settle _, numbered_lasting.compile clean.numbered kept tracks id resolver thread archive
      output name temporary given⟩
  register := fun clean id name artifact =>
    ⟨clean.toTidy.register id name artifact none, clean.numbered.register id name artifact (by simp)⟩

/-- Holding something that was given leaves a session clean, once the rest is let go of. -/
theorem Numbered.hold_clean (numbered : Numbered session) (holder : String) {target : Target}
    (given : ∀ id, target = .temporary id → id < session.fresh) :
    Clean (session.hold holder target).settle := by
  refine Numbered.settle_clean (Numbered.relinked numbered rfl rfl (Nat.le_refl _) ?_)
  intro name id listed
  rcases List.mem_append.mp listed with earlier | new
  · exact .inl (List.mem_filter.mp earlier).1
  · exact .inr (given id (Prod.mk.inj (List.mem_singleton.mp new)).2.symm)

theorem Clean.unload (clean : Clean session) (id : Nat) : Clean (session.unload id).1 := by
  unfold Session.unload
  split
  · exact clean
  · dsimp only
    refine Numbered.settle_clean (Numbered.relinked clean.numbered rfl rfl (Nat.le_refl _) ?_)
    exact fun _ _ => .inl

theorem Clean.unloadAfter (clean : Clean session) (id : Nat) (thread : Option Thread)
    (policy : UnloadPolicy) : Clean (session.unloadAfter id thread policy).1 := by
  have waited := clean.quiet (wait_quiet session id thread)
  unfold Session.unloadAfter
  dsimp only
  split
  · exact waited.same ⟨rfl, Nat.le_refl _⟩ rfl
  · have unloaded := waited.unload id
    split <;> next heard => rw [heard] at unloaded; exact unloaded

/-- Opening a resolver and holding it leaves a session clean, also where the opening fails. -/
theorem Clean.openHeld (clean : Clean session) (holder : String) (config : Config)
    (compiler : Compiler) (platform : Platform) (parent : Option Loader) :
    Clean (session.openHeld holder config compiler platform parent) := by
  unfold Session.openHeld openResolver
  cases config.flaw? with
  | some flaw => exact clean
  | none =>
    have made := session.prepare_temporaries (Staging.ofConfig config).layout parent
    have prepared := clean.same
      (prepare_keepsLinks session (Staging.ofConfig config).layout parent) made
    dsimp only
    rcases heard : session.prepare (Staging.ofConfig config).layout parent with
      ⟨later, error | ⟨⟩⟩
    all_goals rw [heard] at prepared
    · exact prepared
    · dsimp only
      refine Numbered.hold_clean ?_ holder (fun _ impossible => by cases impossible)
      refine prepared.numbered.relinked rfl rfl ?_ fun _ _ => .inl
      simp only [addReaper, number]
      omega

/-! ## Careful hosts -/

/-- Binds an artifact and holds the unit under a name, unless it cannot be bound. -/
def bindHeld (session : Session) (holder : String) (platform : Platform)
    (name artifact libraries : String) (parent : Option Loader) : Session :=
  match session.bind platform name artifact libraries parent none with
  | (after, .ok id) => (after.hold holder (.loader (.unit id))).settle
  | (after, .error _) => after

/-- Has a reaper track a file and holds it under a name. -/
def trackHeld (session : Session) (holder : String) (reaper : Nat) (path : String) : Session :=
  let (after, id) := session.track reaper path
  (after.hold holder (.temporary id)).settle

/-- What a careful host may do at any time: it refers to files of passing use only after they were
given a number. What makes something new without holding it is left to `bindHeld` and
`trackHeld`. -/
def Careful (session : Session) : Operation → Prop
  | .bind .. | .track .. => False
  | .hold _ (.temporary id) => id < session.fresh
  | .register _ _ _ temporary => ∀ id ∈ temporary, id < session.fresh
  | _ => True

/-- The sessions of a careful host: it uses no number of a file of passing use that was not given,
and what it binds or tracks it holds at once. -/
inductive Hosted : Session → Prop where
  | start (files : Files) : Hosted { files }
  | perform {session : Session} (hosted : Hosted session) {operation : Operation}
      (careful : Careful session operation) : Hosted (session.perform operation)
  | bindHeld {session : Session} (hosted : Hosted session) (holder : String) (platform : Platform)
      (name artifact libraries : String) (parent : Option Loader) :
      Hosted (session.bindHeld holder platform name artifact libraries parent)
  | trackHeld {session : Session} (hosted : Hosted session) (holder : String) (reaper : Nat)
      (path : String) : Hosted (session.trackHeld holder reaper path)

/-- A careful host does nothing that another host could not do. -/
theorem Hosted.reachable (hosted : Hosted session) : Reachable session := by
  induction hosted with
  | start files => exact .start files
  | perform _ _ reached => exact reached.perform _
  | @bindHeld session _ holder platform name artifact libraries parent reached =>
    have bound : Reachable (session.bind platform name artifact libraries parent none).1 :=
      reached.perform (.bind platform name artifact libraries parent)
    unfold Session.bindHeld
    split
    · next after id heard =>
      rw [heard] at bound
      exact bound.perform (.hold holder (.loader (.unit id)))
    · next heard =>
      rw [heard] at bound
      exact bound
  | @trackHeld session _ holder reaper path reached =>
    exact (reached.perform (.track reaper path)).perform (.hold holder (.temporary session.fresh))

/-- An operation of a careful host leaves a session clean: nothing is left over that nobody refers
to, and nothing is referred to that was not given. -/
theorem Clean.perform (clean : Clean session) {operation : Operation}
    (careful : Careful session operation) : Clean (session.perform operation) := by
  cases operation with
  | changeFiles change => exact clean.same ⟨rfl, Nat.le_refl _⟩ rfl
  | addSystem => exact clean.same ⟨rfl, Nat.le_succ _⟩ rfl
  | defineSystem id name content => exact clean.same ⟨rfl, Nat.le_succ _⟩ rfl
  | openResolver holder config compiler platform parent =>
    exact clean.openHeld holder config compiler platform parent
  | setCompiler id compiler =>
    exact clean.quiet (updateResolver_quiet session id _ fun _ => rfl)
  | define id thread name content => exact clean_lasting.define clean id thread name content
  | loadContainer id thread container =>
    exact clean_lasting.loadContainer clean id thread container
  | loadArtifact id artifact => exact clean_lasting.loadArtifact clean id artifact
  | register id name artifact temporary =>
    exact ⟨clean.toTidy.register id name artifact temporary,
      clean.numbered.register id name artifact careful⟩
  | bind => exact absurd careful id
  | unload id => exact clean.unload id
  | unloadAfter id thread policy => exact clean.unloadAfter id thread policy
  | setLocal id loader =>
    refine Numbered.settle_clean (Numbered.relinked clean.numbered rfl rfl (Nat.le_refl _) ?_)
    exact fun _ _ => .inl
  | find loader name => exact clean.quiet (quiet_follows.find session loader name)
  | findRegistered id name =>
    exact clean.quiet (quiet_follows.findRegistered session id name)
  | hold holder target =>
    refine clean.numbered.hold_clean holder ?_
    rintro id rfl
    exact careful
  | letGo holder =>
    refine Numbered.settle_clean (Numbered.relinked clean.numbered rfl rfl (Nat.le_refl _) ?_)
    exact fun _ _ listed => .inl (List.mem_filter.mp listed).1
  | addReaper => exact clean.same ⟨rfl, Nat.le_succ _⟩ rfl
  | track => exact absurd careful id
  | release temporary =>
    have kept := release_keepsLinks session temporary
    exact ⟨⟨clean.toRooted.keeps kept, clean.settled.release temporary⟩,
      clean.numbered.keeps kept fun other tracked =>
        .inl (release_has session temporary other ▸ tracked)⟩
  | sweep reaper =>
    refine clean.same (sweep_keepsLinks session reaper) ?_
    unfold Session.perform sweep
    dsimp only
    split <;> rfl
  | markBusy id thread => exact clean.quiet (markBusy_quiet session id thread)
  | unmarkBusy id thread => exact clean.quiet (unmarkBusy_quiet session id thread)
  | pass time => exact clean.quiet (pass_quiet session time)
  | departLater id thread time => exact clean.same ⟨rfl, Nat.le_refl _⟩ rfl

/-- The sessions of a careful host are clean. -/
theorem Hosted.clean (hosted : Hosted session) : Clean session := by
  induction hosted with
  | start files =>
    refine ⟨⟨⟨?_, ?_⟩, ?_⟩, ⟨?_, ?_⟩⟩
    all_goals simp [Table.has, Settled, targets]
  | perform _ careful clean => exact clean.perform careful
  | @bindHeld session _ holder platform name artifact libraries parent clean =>
    unfold Session.bindHeld Session.bind
    cases UnitContent.bind platform session.files artifact with
    | error error => exact clean
    | ok content =>
      refine Numbered.hold_clean ?_ holder (fun _ impossible => by cases impossible)
      refine ⟨fun id present => Nat.lt_succ_of_lt (clean.numbered.temporaries id present), ?_⟩
      intro id referred
      refine Nat.lt_succ_of_lt (clean.numbered.referred id ?_)
      rcases temporary_mem_targets.mp referred with held | ⟨entry, listed, refers⟩
      · exact temporary_mem_targets.mpr (.inl held)
      · rcases List.mem_append.mp listed with earlier | new
        · exact temporary_mem_targets.mpr (.inr ⟨entry, earlier, refers⟩)
        · rw [List.mem_singleton.mp new] at refers
          cases refers
  | @trackHeld session _ holder reaper path clean =>
    have tracked := clean.numbered.keeps (track_keepsLinks session reaper path)
      (track_tracksGiven session reaper path)
    refine tracked.hold_clean holder ?_
    rintro _ ⟨⟩
    exact Nat.lt_succ_self _

end Session

end Hotload
