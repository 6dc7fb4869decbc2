import Hotload.Proofs.GivenNumbers
import Hotload.Proofs.LearntSymbols
import Hotload.Proofs.LoadFiles

/-!
# Resolvers opened below others

A resolver that is opened with another resolver as its parent may work in the directory of that
parent: opening it takes nothing away, whatever directory it is given. Its own work puts files at
names of its own and artifacts where nothing stood. So whatever part of the tree stood at the start
survives a run of such children, and what other loaders found at the start they find at the end.

There is one exception. A child that unloads empties its directory, also if that is the directory of
its parent. The part that survives may therefore have nothing in a directory that is emptied, and the
loaders that keep their answers may read no artifact from there.
-/

namespace Hotload

open Files

namespace Session

/-! ## Sessions in which nothing is disturbed -/

/-- The path of a file that was staged with a token drawn after the start. -/
def Later (start : Session) (path : String) : Prop :=
  ∃ staging key extension number, start.fresh ≤ number ∧
    path = Staging.pathFor staging key extension (tokenText number)

/-- What the host held at the start it holds, the loaders asked have learnt no more than they found
then, the part survives, and every file of passing use that is new has a name of its own. The tree
has the directories and links of a base. -/
structure Undisturbed (asked : Loader → Prop) (start : Session) (part base : Files)
    (session : Session) : Prop extends Informed asked start part session where
  fresh : start.fresh ≤ session.fresh
  held : ∀ entry ∈ start.held, entry ∈ session.held
  tracked : ∀ id temporary, session.temporaries.get? id = some temporary →
    start.temporaries.has id = true ∨ Later start temporary.path
  /-- At most files are called by a token that was drawn after the start. -/
  tokens : ∀ number, start.fresh ≤ number → ∀ name, Bears number name → OnlyFiles base name
  skeleton : SameSkeleton base session.files

/-- A part of the tree of a clean session in which no token is in use that is still to be drawn. -/
structure Begun (start : Session) (part : Files) : Prop where
  clean : Clean start
  distinct : Distinct start
  undrawn : Undrawn start
  survives : Survives part start.files

variable {asked : Loader → Prop} {start session : Session} {part base : Files}

theorem Begun.undisturbed (begun : Begun start part) :
    Undisturbed asked start part start.files start where
  learnt := Learnt.refl asked start
  files := begun.survives
  fresh := Nat.le_refl _
  held _ member := member
  tracked id temporary there := .inl (by simp [Table.has, there])
  tokens number after name bears directory := by
    unfold bone?
    rw [begun.undrawn number name after bears]
    rfl
  skeleton := SameSkeleton.refl start.files

/-- No token that was still to be drawn is in use in the part. -/
theorem Begun.part_undrawn (begun : Begun start part) : UndrawnFrom start.fresh part := by
  intro number name after bears directory
  refine Classical.byContradiction fun there => ?_
  obtain ⟨node, there⟩ := Option.ne_none_iff_exists'.mp there
  have stands := begun.survives _ _ there
  rw [begun.undrawn number name after bears] at stands
  cases stands

namespace Undisturbed

/-- Changes of anything else leave things undisturbed. -/
theorem same {after : Session} (now : Undisturbed asked start part base session)
    (units : after.units = session.units) (resolvers : after.resolvers = session.resolvers)
    (systems : after.systems = session.systems) (files : after.files = session.files)
    (held : after.held = session.held) (temporaries : after.temporaries = session.temporaries)
    (fresh : session.fresh ≤ after.fresh) : Undisturbed asked start part base after where
  learnt := now.learnt.same units resolvers systems
  files := files ▸ now.files
  fresh := Nat.le_trans now.fresh fresh
  held := held ▸ now.held
  tracked := temporaries ▸ now.tracked
  tokens := now.tokens
  skeleton := files ▸ now.skeleton

/-- Changes of the tree that the part survives make a new base, as long as no directory is called by
a token. -/
theorem rebase {files : Files} (now : Undisturbed asked start part base session)
    (survives : Survives part files)
    (tokens : ∀ number, start.fresh ≤ number → ∀ name, Bears number name → OnlyFiles files name) :
    Undisturbed asked start part files { session with files } where
  learnt := now.learnt.same rfl rfl rfl
  files := survives
  fresh := now.fresh
  held := now.held
  tracked := now.tracked
  tokens := tokens
  skeleton := SameSkeleton.refl files

/-- Work through a path that leads to nothing of the part. -/
theorem touched {files : Files} {path : String} (now : Undisturbed asked start part base session)
    (loose : Loose part base path) (touches : Touches path session.files files) :
    Undisturbed asked start part base { session with files } where
  learnt := now.learnt.same rfl rfl rfl
  files := now.files.touched (loose.of_skeleton now.skeleton) touches
  fresh := now.fresh
  held := now.held
  tracked := now.tracked
  tokens := now.tokens
  skeleton := now.skeleton.trans touches.skeleton

/-- Changes of a resolver that was opened after the start. -/
theorem updateResolver (now : Undisturbed asked start part base session) (begun : Begun start part)
    {id : Nat} (child : start.fresh ≤ id) (change : Resolver → Resolver) :
    Undisturbed asked start part base (session.updateResolver id change) where
  learnt :=
    { systems := now.learnt.systems
      units := now.learnt.units
      resolvers := fun other resolver there => by
        have given := begun.distinct.resolversGiven other
          (Table.has_iff.mp (by simp [Table.has, there]))
        obtain ⟨busy, learnt, here, sound⟩ := now.learnt.resolvers other resolver there
        refine ⟨busy, learnt, ?_, sound⟩
        simp only [Session.updateResolver, Table.get?_update]
        rw [if_neg (by omega), here] }
  files := now.files
  fresh := now.fresh
  held := now.held
  tracked := now.tracked
  tokens := now.tokens
  skeleton := now.skeleton

/-- Markers of threads, on whatever resolver. -/
theorem marked (now : Undisturbed asked start part base session) (id : Nat)
    (mark : BusySet → BusySet) :
    Undisturbed asked start part base
      (session.updateResolver id fun resolver => { resolver with busy := mark resolver.busy }) where
  learnt :=
    { systems := now.learnt.systems
      units := now.learnt.units
      resolvers := fun other resolver there => by
        obtain ⟨busy, learnt, here, sound⟩ := now.learnt.resolvers other resolver there
        simp only [Session.updateResolver, Table.get?_update, here]
        split
        · exact ⟨mark busy, learnt, rfl, sound⟩
        · exact ⟨busy, learnt, rfl, sound⟩ }
  files := now.files
  fresh := now.fresh
  held := now.held
  tracked := now.tracked
  tokens := now.tokens
  skeleton := now.skeleton

/-- A path that was staged after the start leads to nothing of the part. -/
theorem loose (now : Undisturbed asked start part base session) (begun : Begun start part)
    {path : String} (later : Later start path) : Loose part base path := by
  obtain ⟨staging, key, extension, number, after, rfl⟩ := later
  have undrawn : UndrawnFrom number part := fun other name from_ =>
    begun.part_undrawn other name (Nat.le_trans after from_)
  exact Survives.loose_of_token undrawn (now.tokens number after) staging key extension

/-- Removing such a path. -/
theorem removed (now : Undisturbed asked start part base session) {path : String}
    (loose : Loose part base path) :
    Undisturbed asked start part base
      { session with files := (session.files.removeIfExists path).1 } :=
  now.touched loose (removeIfExists_touches (loose.plain.of_skeleton now.skeleton))

theorem discard (now : Undisturbed asked start part base session) {path : String}
    (loose : Loose part base path) :
    Undisturbed asked start part base (session.discard path) := by
  have removed := now.removed loose
  unfold Session.discard
  split <;> next heard => rw [heard] at removed; exact removed.same rfl rfl rfl rfl rfl rfl (Nat.le_refl _)

/-- Releasing a file of passing use that is new. -/
theorem release (now : Undisturbed asked start part base session) (begun : Begun start part) {id : Nat}
    (new : start.temporaries.has id = false) :
    Undisturbed asked start part base (session.release id).1 := by
  unfold Session.release
  cases there : session.temporaries.get? id with
  | none => exact now
  | some temporary =>
    have later : Later start temporary.path := by
      rcases now.tracked id temporary there with early | later
      · rw [new] at early
        cases early
      · exact later
    have worked : Undisturbed asked start part base
        { session with files := (temporary.release session.files).2.1 } := by
      unfold TemporaryFile.release
      split
      · exact now
      · exact now.removed (now.loose begun later)
    have path : (temporary.release session.files).1.path = temporary.path := by
      unfold TemporaryFile.release
      split <;> rfl
    have tracked : ∀ other row,
        (session.temporaries.update id fun _ => (temporary.release session.files).1).get? other =
          some row → start.temporaries.has other = true ∨ Later start row.path := by
      intro other row found
      rw [Table.get?_update] at found
      split at found
      · next same =>
        subst same
        rw [there] at found
        obtain rfl := Option.some.inj found
        exact .inr (path ▸ later)
      · exact now.tracked other row found
    have released : Undisturbed asked start part base
        { session with
          files := (temporary.release session.files).2.1
          temporaries := session.temporaries.update id
            fun _ => (temporary.release session.files).1 } :=
      ⟨⟨now.learnt.same rfl rfl rfl, worked.files⟩, now.fresh, now.held, tracked, now.tokens,
        worked.skeleton⟩
    dsimp only
    split
    · exact released
    · exact released.same rfl rfl rfl rfl rfl rfl (Nat.le_refl _)

/-! ### Letting go -/

/-- What was referred to at the start is referred to still. -/
theorem targets (now : Undisturbed asked start part base session) (begun : Begun start part) :
    start.targets ⊆ session.targets := by
  intro target referred
  rcases List.mem_append.mp referred with early | ofResolver
  · rcases List.mem_append.mp early with held | ofUnit
    · obtain ⟨entry, listed, rfl⟩ := List.mem_map.mp held
      exact held_mem_targets (now.held entry listed)
    · obtain ⟨⟨id, unit⟩, listed, refers⟩ := List.mem_flatMap.mp ofUnit
      obtain ⟨learnt, here, _⟩ :=
        now.learnt.units id unit (get?_of_mem begun.distinct.units listed)
      exact List.mem_append_left _ (List.mem_append_right _
        (List.mem_flatMap.mpr ⟨_, Table.mem_of_get? here, refers⟩))
  · obtain ⟨⟨id, resolver⟩, listed, refers⟩ := List.mem_flatMap.mp ofResolver
    obtain ⟨busy, learnt, here, _⟩ :=
      now.learnt.resolvers id resolver (get?_of_mem begun.distinct.resolvers listed)
    exact List.mem_append_right _ (List.mem_flatMap.mpr ⟨_, Table.mem_of_get? here, refers⟩)

/-- A round lets go of no loader that was there at the start. -/
theorem dropLoaders (now : Undisturbed asked start part base session) (begun : Begun start part) :
    Undisturbed asked start part base session.dropLoaders where
  learnt :=
    { systems := now.learnt.systems
      units := fun id unit there => by
        obtain ⟨learnt, here, sound⟩ := now.learnt.units id unit there
        have referred := now.targets begun
          (begun.clean.units id (by simp [Table.has, there]))
        refine ⟨learnt, ?_, sound⟩
        simp only [Session.dropLoaders]
        rw [Table.get?_filter _ (fun id => session.targets.contains (.loader (.unit id))),
          if_pos (List.contains_iff_mem.mpr referred), here]
      resolvers := fun id resolver there => by
        obtain ⟨busy, learnt, here, sound⟩ := now.learnt.resolvers id resolver there
        have referred := now.targets begun
          (begun.clean.resolvers id (by simp [Table.has, there]))
        refine ⟨busy, learnt, ?_, sound⟩
        simp only [Session.dropLoaders]
        rw [Table.get?_filter _ (fun id => session.targets.contains (.loader (.resolver id))),
          if_pos (List.contains_iff_mem.mpr referred), here] }
  files := now.files
  fresh := now.fresh
  held := now.held
  tracked := now.tracked
  tokens := now.tokens
  skeleton := now.skeleton

theorem dropTemporary (now : Undisturbed asked start part base session) (begun : Begun start part)
    {id : Nat} (new : start.temporaries.has id = false) :
    Undisturbed asked start part base (session.dropTemporary id) := by
  have released := now.release begun new
  refine ⟨⟨released.learnt.same rfl rfl rfl, released.files⟩, released.fresh, released.held,
    fun other row found => ?_, released.tokens, released.skeleton⟩
  rw [dropTemporary_temporaries] at found
  have kept := Table.get?_filter session.temporaries (fun number => decide (number ≠ id)) other
  rw [found] at kept
  split at kept
  · exact now.tracked other row kept.symm
  · cases kept

/-- Letting go takes nothing that was there at the start. -/
theorem settle (now : Undisturbed asked start part base session) (begun : Begun start part) :
    Undisturbed asked start part base session.settle := by
  have rounds (fuel : Nat) (session : Session) (now : Undisturbed asked start part base session) :
      Undisturbed asked start part base (dropAllLoaders fuel session) := by
    induction fuel generalizing session with
    | zero => exact now
    | succ fuel inductionHypothesis =>
      rw [dropAllLoaders]
      split
      · exact inductionHypothesis _ (now.dropLoaders begun)
      · exact now
  have kept : Undisturbed asked start part base session.keptLoaders := rounds _ _ now
  have dead : ∀ id ∈ session.keptLoaders.deadTemporaries, start.temporaries.has id = false := by
    intro id listed
    have unreferred := (List.mem_filter.mp listed).2
    refine Bool.eq_false_iff.mpr fun early => ?_
    obtain ⟨temporary, there⟩ := Option.isSome_iff_exists.mp early
    have referred := kept.targets begun (begun.clean.settled id temporary there)
    simp [referred] at unreferred
  rw [settle_eq]
  generalize session.keptLoaders.deadTemporaries = ids at dead
  generalize session.keptLoaders = session at kept
  clear now
  induction ids generalizing session with
  | nil => exact kept
  | cons id rest inductionHypothesis =>
    exact inductionHypothesis (fun other member => dead other (List.mem_cons_of_mem id member)) _
      (kept.dropTemporary begun (dead id List.mem_cons_self))

/-! ### Registering and compiling -/

variable {id : Nat}

/-- A unit that is added leaves those that were there at the start. -/
theorem addUnit (now : Undisturbed asked start part base session) (unit : LoadedUnit) :
    Undisturbed asked start part base (session.addUnit unit).1 where
  learnt :=
    { systems := now.learnt.systems
      units := fun id early there => by
        obtain ⟨learnt, here, sound⟩ := now.learnt.units id early there
        exact ⟨learnt, by rw [addUnit_units, here, Option.some_or], sound⟩
      resolvers := now.learnt.resolvers }
  files := now.files
  fresh := Nat.le_succ_of_le now.fresh
  held := now.held
  tracked := now.tracked
  tokens := now.tokens
  skeleton := now.skeleton

theorem register (now : Undisturbed asked start part base session) (begun : Begun start part)
    (child : start.fresh ≤ id) (name artifact : String) (temporary : Option Nat) :
    Undisturbed asked start part base (session.register id name artifact temporary).1 := by
  rcases register_cases session id name artifact temporary with
    ⟨error, same⟩ | ⟨resolver, size, content, _, _, _, same⟩
  · rw [same]
    exact now
  · rw [same, enlist_eq]
    exact ((now.addUnit _).updateResolver begun child _).settle begun

variable {resolver : Resolver} {thread : Thread} {archive output name : String}
  {temporary : Option Nat}

theorem rejectEmpty (now : Undisturbed asked start part base session) (begun : Begun start part)
    (child : start.fresh ≤ id) (loose : Loose part base output)
    (new : ∀ number ∈ temporary, start.temporaries.has number = false) :
    Undisturbed asked start part base (session.rejectEmpty id resolver archive output temporary) := by
  have failed : Undisturbed asked start part base
      ((session.updateResolver id fun resolver => { resolver with hasFailed := true }).log
        [.emptyArtifact]) :=
    (now.updateResolver begun child fun resolver => { resolver with hasFailed := true }).same
      rfl rfl rfl rfl rfl rfl (Nat.le_refl _)
  unfold Session.rejectEmpty
  dsimp only
  generalize noted : (if resolver.dumpsFailedInput then _ else _ : Session) = dumped
  have quietly : Undisturbed asked start part base dumped := by
    subst noted
    split
    · unfold Session.dump
      split <;> exact failed.same rfl rfl rfl rfl rfl rfl (Nat.le_refl _)
    · exact failed
  cases temporary with
  | some number => exact quietly.release begun (new number rfl)
  | none => exact quietly.discard loose

theorem compile (now : Undisturbed asked start part base session) (begun : Begun start part)
    (child : start.fresh ≤ id) (faithful : Faithful resolver.compiler)
    (loose : Loose part base output)
    (new : ∀ number ∈ temporary, start.temporaries.has number = false) :
    Undisturbed asked start part base
      (session.compile id resolver thread archive output name temporary).1 := by
  have marked : Undisturbed asked start part base (session.markBusy id thread) :=
    now.marked id fun busy => busy.enter thread
  have touches : Touches output session.files
      (resolver.compiler ⟨archive, output, true⟩ session.files).1 :=
    (faithful ⟨archive, output, true⟩ session.files).touches (loose.plain.of_skeleton now.skeleton)
  have invoked : Undisturbed asked start part base
      ((session.markBusy id thread).invoke id resolver thread ⟨archive, output, true⟩).1 :=
    (marked.touched loose touches).same rfl rfl rfl rfl rfl rfl (Nat.le_refl _)
  have compiled : Undisturbed asked start part base ((session.markBusy id thread).compileMarked id
      resolver thread archive output name temporary).1 := by
    unfold compileMarked
    rcases heard : (session.markBusy id thread).invoke id resolver thread ⟨archive, output, true⟩
      with ⟨after, error | outcome⟩
    all_goals rw [heard] at invoked
    · exact invoked
    · dsimp only
      split
      · exact invoked.rejectEmpty begun child loose new
      · exact invoked.register begun child name output temporary
  exact (compiled.marked id fun busy => busy.leave thread).settle begun

/-- Staging draws a token and works on a path that is called by it. -/
theorem stage (now : Undisturbed asked start part base session) (begun : Begun start part)
    (staging : Staging) (key : String) (extension : Option String) (create : Bool) :
    Undisturbed asked start part base (session.stage staging key extension create).1 ∧
      ∀ path, (session.stage staging key extension create).2 = .ok path → Later start path := by
  have later : Later start (staging.pathFor key extension (tokenText session.fresh)) :=
    ⟨staging, key, extension, session.fresh, now.fresh, rfl⟩
  have loose := now.loose begun later
  have numbered : Undisturbed asked start part base session.number.1 :=
    now.same rfl rfl rfl rfl rfl rfl (Nat.le_succ _)
  cases create with
  | false =>
    rw [stage_archive session staging key extension rfl]
    refine ⟨numbered.removed loose, fun path same => ?_⟩
    dsimp only at same
    split at same
    · exact Except.ok.inj same ▸ later
    · cases same
  | true =>
    obtain ⟨files, result, staged, touches, _, named⟩ := stage_output session staging key extension rfl
      (loose.plain.of_skeleton now.skeleton)
    rw [staged]
    exact ⟨numbered.touched loose touches, fun path same => named path same ▸ later⟩

/-- Tracking a path that was staged after the start. -/
theorem track (now : Undisturbed asked start part base session) {path : String}
    (later : Later start path) (reaper : Nat) :
    Undisturbed asked start part base (session.track reaper path).1 where
  learnt := now.learnt.same rfl rfl rfl
  files := now.files
  fresh := Nat.le_succ_of_le now.fresh
  held := now.held
  tracked other row found := by
    rw [show (session.track reaper path).1.temporaries =
      session.temporaries.add session.fresh ⟨path, false⟩ from rfl, Table.get?_add] at found
    cases there : session.temporaries.get? other with
    | some earlier =>
      rw [there, Option.some_or] at found
      exact now.tracked other row (there.trans found)
    | none =>
      rw [there, Option.none_or] at found
      split at found
      · obtain rfl := Option.some.inj found
        exact .inr later
      · cases found
  tokens := now.tokens
  skeleton := now.skeleton

theorem compileTemporary (now : Undisturbed asked start part base session)
    (begun : Begun start part) (child : start.fresh ≤ id) (faithful : Faithful resolver.compiler) :
    Undisturbed asked start part base (session.compileTemporary id resolver thread archive).1 := by
  obtain ⟨staged, later⟩ := now.stage begun resolver.staging ("unit-" ++ archive)
    resolver.staging.artifactExtension true
  unfold Session.compileTemporary
  dsimp only
  rcases heard : session.stage resolver.staging ("unit-" ++ archive)
    resolver.staging.artifactExtension true with ⟨after, error | output⟩
  all_goals rw [heard] at staged later
  · exact staged
  · have named := later output rfl
    refine (staged.track named resolver.reaper).compile begun child faithful
      (staged.loose begun named) ?_
    rintro number ⟨⟩
    refine Bool.eq_false_iff.mpr fun early => ?_
    exact absurd (begun.clean.numbered.temporaries _ early) (Nat.not_lt.mpr staged.fresh)

theorem compileBytes (now : Undisturbed asked start part base session) (begun : Begun start part)
    (child : start.fresh ≤ id) (faithful : Faithful resolver.compiler) (content : Bytes) :
    Undisturbed asked start part base
      (session.compileBytes id resolver thread name content).1 := by
  obtain ⟨staged, later⟩ := now.stage begun resolver.staging name
    (some resolver.staging.archiveExtension) false
  unfold Session.compileBytes
  rcases heard : session.stage resolver.staging name (some resolver.staging.archiveExtension) false
    with ⟨after, error | archive⟩
  all_goals rw [heard] at staged later
  · exact staged
  · have loose := staged.loose begun (later archive rfl)
    have packaged := staged.touched loose
      (Packaging.packageBytes_touches archive (Symbol.entryPath name) content after.files)
    dsimp only
    rcases packed : Packaging.packageBytes archive (Symbol.entryPath name) content after.files with
      ⟨files, error | done⟩
    all_goals rw [packed] at packaged
    · exact packaged.discard loose
    · have compiled : Undisturbed asked start part base
          (Session.compileTemporary { after with files } id resolver thread archive).1 :=
        packaged.compileTemporary begun child faithful
      dsimp only
      generalize Session.compileTemporary _ id resolver thread archive = compiledTo at compiled ⊢
      exact compiled.discard loose

theorem compileContainer (now : Undisturbed asked start part base session)
    (begun : Begun start part) (child : start.fresh ≤ id) (faithful : Faithful resolver.compiler)
    (container : String) (loose : Loose part base output) :
    Undisturbed asked start part base
      (session.compileContainer id resolver thread container output name).1 := by
  obtain ⟨staged, later⟩ := now.stage begun resolver.staging container
    (some resolver.staging.archiveExtension) false
  unfold Session.compileContainer
  rcases heard : session.stage resolver.staging container (some resolver.staging.archiveExtension)
    false with ⟨after, error | archive⟩
  all_goals rw [heard] at staged later
  · exact staged
  · have looseArchive := staged.loose begun (later archive rfl)
    have packaged := staged.touched looseArchive
      (Packaging.packageContainer_touches archive container after.files)
    dsimp only
    rcases packed : Packaging.packageContainer archive container after.files with
      ⟨files, error | done⟩
    all_goals rw [packed] at packaged
    · exact packaged.discard looseArchive
    · have compiled : Undisturbed asked start part base (Session.compile { after with files } id
          resolver thread archive output name none).1 :=
        packaged.compile begun child faithful loose (by simp)
      dsimp only
      rcases made : Session.compile { after with files } id resolver thread archive output name none
        with ⟨compiledAfter, error | unit⟩
      all_goals rw [made] at compiled
      · exact (compiled.discard loose).discard looseArchive
      · exact compiled.discard looseArchive

/-! ### Look-ups and time -/

/-- A look-up through any loader disturbs nothing. -/
theorem find (now : Undisturbed asked start part base session) (begun : Begun start part)
    (intact : Intact start part asked) (loader : Loader) (name : String) :
    Undisturbed asked start part base (session.find loader name).1 := by
  have quiet := quiet_follows.find session loader name
  have held : (session.find loader name).1.held = session.held := congrArg Links.held quiet.links
  exact ⟨now.toInformed.find intact begun.survives loader name,
    Nat.le_trans now.fresh quiet.fresh, held ▸ now.held, quiet.temporaries ▸ now.tracked, now.tokens,
    quiet.files ▸ now.skeleton⟩

/-- Time that passes disturbs nothing, whoever gives up a marker. -/
theorem pass (now : Undisturbed asked start part base session) (time : Nat) :
    Undisturbed asked start part base (session.pass time) := by
  have later : Undisturbed asked start part base
      { session with
        elapsed := session.elapsed + time
        departures := session.departures.filter (session.elapsed + time < ·.due) } :=
    now.same rfl rfl rfl rfl rfl rfl (Nat.le_refl _)
  unfold Session.pass
  exact List.foldlRecOn _ _ later fun session now departure _ =>
    now.marked departure.resolver (·.leave departure.thread)

theorem wait (now : Undisturbed asked start part base session) (id : Nat)
    (thread : Option Thread) : Undisturbed asked start part base (session.wait id thread).1 := by
  unfold Session.wait
  split
  · next thread resolver _ =>
    have awaited := Quiescence.await_keeps (Undisturbed asked start part base)
      (fun session => (session.isBusy id thread, session))
      (·.pass resolver.patience.interval.toNat) (fun _ now => now)
      (fun later now => now.pass _) resolver.patience.attempts.toNat session now
    unfold awaitThread
    dsimp only
    split
    · exact awaited.same rfl rfl rfl rfl rfl rfl (Nat.le_refl _)
    · exact awaited
  · exact now

end Undisturbed

/-! ## What children do -/

/-- The compiler that a resolver has now writes and removes nothing but its output. -/
def FaithfulAt (session : Session) (id : Nat) : Prop :=
  ∀ now, session.resolvers.get? id = some now → Faithful now.compiler

/-- No directory of a layout is called by a token that is drawn after the start. -/
def Unmarked (start : Session) (layout : Layout) : Prop :=
  ∀ number, start.fresh ≤ number → ∀ name ∈ layout.names, ¬ Bears number name

/-- A resolver can empty its directory: nothing of the part is in it. -/
def Emptiable (start : Session) (part : Files) (session : Session) (id : Nat) : Prop :=
  ∀ now, session.resolvers.get? id = some now →
    Sheltered part now.layout.root session.files ∧ Unmarked start now.layout

/-- Where the artifact of a container is still to be compiled, there is no link, and no empty file of
the part. -/
def Unplanted (part : Files) (session : Session) (id : Nat) (container : String) : Prop :=
  ∀ now output, session.resolvers.get? id = some now →
    now.staging.durablePath container session.files = .ok output → session.outputSize output = 0 →
      Plain session.files output ∧ ∀ location modified,
        session.files.target? output = some location → part.node? location ≠ some (.file [] modified)

/-- What can be done with resolvers that were opened after the start below other resolvers. Anyone may
look up symbols meanwhile, and threads may come and go. -/
def ChildStep (start : Session) (part : Files) (session : Session) : Operation → Prop
  | .openResolver holder config _ _ parent =>
    parent.any isResolver = true ∧ (∀ entry ∈ start.held, entry.1 ≠ holder) ∧
      Unmarked start (Layout.ofConfig config)
  | .define id _ _ _ => start.fresh ≤ id ∧ FaithfulAt session id
  | .loadContainer id _ container =>
    start.fresh ≤ id ∧ FaithfulAt session id ∧ Unplanted part session id container
  | .loadArtifact id _ | .setLocal id _ | .setCompiler id _ => start.fresh ≤ id
  | .unload id => start.fresh ≤ id ∧ Emptiable start part session id
  | .unloadAfter id thread policy => start.fresh ≤ id ∧
    (((session.wait id thread).2.isQuiescent = false ∧ policy = .strict) ∨
      Emptiable start part session id)
  | .find _ _ | .markBusy _ _ | .unmarkBusy _ _ | .pass _ | .departLater _ _ _ => True
  | _ => False

/-- The sessions that children lead to, by steps that are theirs to take. -/
inductive ChildRun (start : Session) (part : Files) : Session → Prop where
  | start : ChildRun start part start
  | perform {session : Session} (run : ChildRun start part session) {operation : Operation}
      (step : ChildStep start part session operation) :
      ChildRun start part (session.perform operation)

namespace Undisturbed

variable {id : Nat} {thread : Thread} {name : String}

/-- No directory is called by a token that was drawn after the start. -/
theorem tokens_now (now : Undisturbed asked start part base session) (number : Nat)
    (after : start.fresh ≤ number) (name : String) (bears : Bears number name) :
    OnlyFiles session.files name := by
  intro directory
  rw [now.skeleton, now.tokens number after name bears]

theorem define (now : Undisturbed asked start part base session) (begun : Begun start part)
    (intact : Intact start part asked) (child : start.fresh ≤ id) (faithful : FaithfulAt session id)
    (content : Bytes) :
    Undisturbed asked start part base (session.define id thread name content).1 := by
  unfold Session.define
  cases there : session.resolvers.get? id with
  | none => exact now
  | some resolver =>
    have compiled : Undisturbed asked start part base
        (session.compileBytes id resolver thread name content).1 :=
      now.compileBytes begun child (faithful resolver there) content
    dsimp only
    rcases heard : session.compileBytes id resolver thread name content with ⟨after, error | unit⟩
    all_goals rw [heard] at compiled
    · exact compiled
    · have read := compiled.find begun intact (.unit unit) name
      dsimp only
      unfold Session.readBack
      split <;> next answered => rw [answered] at read; exact read

theorem loadContainer (now : Undisturbed asked start part base session)
    (begun : Begun start part) (child : start.fresh ≤ id) (faithful : FaithfulAt session id)
    {container : String} (unplanted : Unplanted part session id container) :
    Undisturbed asked start part base (session.loadContainer id thread container).1 := by
  unfold Session.loadContainer
  cases there : session.resolvers.get? id with
  | none => exact now
  | some resolver =>
    dsimp only
    split
    · exact now
    · split
      · exact now
      · next output found =>
        unfold compileOrReuse
        split
        · next empty =>
          obtain ⟨plain, filled⟩ := unplanted resolver output there found empty
          rw [outputSize_eq] at empty
          have loose := (now.files.loose plain empty filled).of_skeleton now.skeleton.symm
          exact now.compileContainer begun child (faithful resolver there) container loose
        · exact now.register begun child _ output none

theorem loadArtifact (now : Undisturbed asked start part base session) (begun : Begun start part)
    (child : start.fresh ≤ id) (artifact : String) :
    Undisturbed asked start part base (session.loadArtifact id artifact).1 := by
  unfold Session.loadArtifact
  split
  · exact now.register begun child _ artifact none
  · exact now

/-- Unloading empties a directory in which there is nothing of the part. -/
theorem unload (now : Undisturbed asked start part base session) (begun : Begun start part)
    (child : start.fresh ≤ id) (emptiable : Emptiable start part session id) :
    ∃ base, Undisturbed asked start part base (session.unload id).1 := by
  unfold Session.unload
  cases there : session.resolvers.get? id with
  | none => exact ⟨base, now⟩
  | some resolver =>
    obtain ⟨sheltered, unmarked⟩ := emptiable resolver there
    obtain ⟨survives, adds⟩ := now.files.purge sheltered
    have purged := now.rebase survives fun number after name bears =>
      adds.onlyFiles (now.tokens_now number after name bears)
        fun member => unmarked number after name member bears
    have noted : Undisturbed asked start part (resolver.layout.purge session.files).files
        (session.purge resolver.layout).1 := purged.same rfl rfl rfl rfl rfl rfl (Nat.le_refl _)
    exact ⟨_, (noted.updateResolver begun child _).settle begun⟩

theorem unloadAfter (now : Undisturbed asked start part base session) (begun : Begun start part)
    (child : start.fresh ≤ id) {thread : Option Thread} {policy : UnloadPolicy}
    (allowed : ((session.wait id thread).2.isQuiescent = false ∧ policy = .strict) ∨
      Emptiable start part session id) :
    ∃ base, Undisturbed asked start part base (session.unloadAfter id thread policy).1 := by
  have waited := now.wait id thread
  have quiet := wait_quiet session id thread
  unfold Session.unloadAfter
  dsimp only
  split
  · exact ⟨base, waited.same rfl rfl rfl rfl rfl rfl (Nat.le_refl _)⟩
  · next goesOn =>
    rcases allowed with ⟨busy, strict⟩ | emptiable
    · simp [busy, strict] at goesOn
    · have emptiableLater : Emptiable start part (session.wait id thread).1 id := by
        intro later there
        have links := quiet.toKeepsLinks.resolver id
        rw [there, Option.map_some] at links
        obtain ⟨resolver, before, same⟩ := Option.map_eq_some_iff.mp links.symm
        have layout : later.layout = resolver.layout :=
          congrArg Staging.layout (congrArg ResolverLinks.staging same).symm
        rw [layout, quiet.files]
        exact emptiable resolver before
      obtain ⟨base, unloaded⟩ := waited.unload begun child emptiableLater
      refine ⟨base, ?_⟩
      split <;> next heard => rw [heard] at unloaded; exact unloaded

/-- Opening a resolver below another one takes nothing away. -/
theorem openHeld (now : Undisturbed asked start part base session) (begun : Begun start part)
    {holder : String} {config : Config} {parent : Option Loader} (compiler : Compiler)
    (platform : Platform) (below : parent.any isResolver = true)
    (unheld : ∀ entry ∈ start.held, entry.1 ≠ holder)
    (unmarked : Unmarked start (Layout.ofConfig config)) :
    ∃ base, Undisturbed asked start part base
      (session.openHeld holder config compiler platform parent) := by
  unfold Session.openHeld openResolver prepare
  cases config.flaw? with
  | some flaw => exact ⟨base, now⟩
  | none =>
    obtain ⟨survives, adds⟩ := (Layout.ofConfig config).create_adds session.files
    have made := now.rebase (now.files.trans survives) fun number after name bears =>
      adds.onlyFiles (now.tokens_now number after name bears)
        fun member => unmarked number after name member bears
    simp only [below, Bool.not_true, Bool.and_false, Bool.false_eq_true, ↓reduceIte]
    rw [show (Staging.ofConfig config).layout = Layout.ofConfig config from rfl]
    refine ⟨((Layout.ofConfig config).create session.files).1, ?_⟩
    rcases created : (Layout.ofConfig config).create session.files with ⟨files, error | done⟩
    all_goals rw [created] at made
    · exact made
    · refine Undisturbed.settle ⟨⟨⟨made.learnt.systems, made.learnt.units, ?_⟩, made.files⟩, ?_, ?_,
        made.tracked, made.tokens, made.skeleton⟩ begun
      · intro id resolver there
        obtain ⟨busy, learnt, here, sound⟩ := made.learnt.resolvers id resolver there
        refine ⟨busy, learnt, ?_, sound⟩
        simp only [hold, addReaper, number]
        rw [Table.get?_add, here, Option.some_or]
      · exact Nat.le_trans made.fresh (by simp [hold, addReaper, number]; omega)
      · intro entry member
        refine List.mem_append_left _ (List.mem_filter.mpr ⟨made.held entry member, ?_⟩)
        simpa using unheld entry member

end Undisturbed

/-- A step of children leaves everything undisturbed. -/
theorem ChildStep.undisturbed {operation : Operation}
    (step : ChildStep start part session operation)
    (now : Undisturbed asked start part base session) (begun : Begun start part)
    (intact : Intact start part asked) :
    ∃ base, Undisturbed asked start part base (session.perform operation) := by
  cases operation with
  | openResolver holder config compiler platform parent =>
    obtain ⟨below, unheld, unmarked⟩ := step
    exact now.openHeld begun compiler platform below unheld unmarked
  | define id thread name content => exact ⟨base, now.define begun intact step.1 step.2 content⟩
  | loadContainer id thread container =>
    exact ⟨base, now.loadContainer begun step.1 step.2.1 step.2.2⟩
  | loadArtifact id artifact => exact ⟨base, now.loadArtifact begun step artifact⟩
  | setLocal id loader => exact ⟨base, (now.updateResolver begun step _).settle begun⟩
  | setCompiler id compiler => exact ⟨base, now.updateResolver begun step _⟩
  | unload id => exact now.unload begun step.1 step.2
  | unloadAfter id thread policy => exact now.unloadAfter begun step.1 step.2
  | find loader name => exact ⟨base, now.find begun intact loader name⟩
  | markBusy id thread => exact ⟨base, now.marked id (·.enter thread)⟩
  | unmarkBusy id thread => exact ⟨base, now.marked id (·.leave thread)⟩
  | pass time => exact ⟨base, now.pass time⟩
  | departLater id thread time =>
    exact ⟨base, now.same rfl rfl rfl rfl rfl rfl (Nat.le_refl _)⟩
  | _ => exact absurd step id

/-- Every run of children leaves everything undisturbed. -/
theorem ChildRun.undisturbed (run : ChildRun start part session) (begun : Begun start part)
    (intact : Intact start part asked) : ∃ base, Undisturbed asked start part base session := by
  induction run with
  | start => exact ⟨start.files, begun.undisturbed⟩
  | perform _ step inductionHypothesis =>
    obtain ⟨base, now⟩ := inductionHypothesis
    exact step.undisturbed now begun intact

/-- Whatever children do, a part of the tree of which nothing is in a directory that they empty
survives, and a resolver loads every symbol that it loaded before, provided that the loaders it asks
are there and their artifacts are in the part. Every step of a child leaves the part undisturbed,
and a resolver that has learnt no more answers from it as before. -/
theorem children_spare (hosted : Hosted start) (undrawn : Undrawn start)
    (survives : Survives part start.files) (run : ChildRun start part session) :
    Survives part session.files ∧
      ∀ asked, Intact start part asked → ∀ id, asked (.resolver id) → ∀ name symbol,
        (start.loadSymbol id name).2 = .ok symbol →
          ∃ other, (session.loadSymbol id name).2 = .ok other ∧ symbol.Matches other := by
  have begun : Begun start part :=
    ⟨hosted.clean, hosted.reachable.distinct, undrawn, survives⟩
  constructor
  · have nobody : Intact start part fun _ => False :=
      ⟨fun _ none => none.elim, fun _ none => none.elim, fun _ none => none.elim⟩
    obtain ⟨base, now⟩ := run.undisturbed begun nobody
    exact now.files
  · intro asked intact id member name symbol loaded
    obtain ⟨base, now⟩ := run.undisturbed begun intact
    exact now.toInformed.loadSymbol intact survives member loaded

/-! ### A child in the directory of its parent -/

/-- Beside a container with one symbol, a resolver is opened and loads the container. -/
def parentLoaded : Session :=
  (perform { files := ⟨[(["tmp"], .directory), (["tmp", "work"], .directory),
      (["tmp", "work", "a.zip"], .file (Zip.write [("A.class", [1])]) 1000)], 0⟩ }
    (.openResolver "parent" {} copying .archive none)).perform (.loadContainer 1 "main" "a.zip")

/-- A child is opened in the same directory. -/
def childOpened : Session :=
  (parentLoaded.perform (.openResolver "child" {} copying .archive (some (.resolver 1)))).perform
    (.setCompiler 5 copying)

/-- The child loads the same container. -/
def childLoaded : Session :=
  childOpened.perform (.loadContainer 5 "main" "a.zip")

/-- What these sessions come to, and what is left once the child unloads. -/
theorem parentLoaded_facts :
    (parentLoaded.asks (.resolver 1) = [.unit 3] ∧ parentLoaded.asks (.unit 3) = [] ∧
      (parentLoaded.resolvers.get? 1).isSome = true ∧ ((parentLoaded.units.get? 3).map fun unit =>
        (parentLoaded.files.shown? unit.artifact).isSome) = some true) ∧
    (parentLoaded.fresh = 4 ∧ parentLoaded.held.map (·.1) = ["parent"]) ∧
    (∀ entry ∈ parentLoaded.files.entries, ∀ name ∈ entry.1, '_' ∉ name.toList) ∧
    (parentLoaded.loadSymbol 1 "A").2.toOption.map (·.body) = some (.bytecode [1]) ∧
    (childOpened.resolvers.get? 5).map (fun now =>
      (now.staging.durablePath "a.zip" childOpened.files).toOption.map
        fun output => decide (childOpened.outputSize output = 0)) = some (some false) ∧
    ((childOpened.perform (.unload 5)).loadSymbol 1 "A").2 = .error (.notFound "A") := by
  decide +kernel

/-- The parent and its unit are all that the parent asks, and the artifact of the unit is there. -/
theorem parentLoaded_intact : Intact parentLoaded parentLoaded.files
    (fun loader => loader = .resolver 1 ∨ loader = .unit 3) := by
  obtain ⟨ofResolver, ofUnit, resolver, unit⟩ := parentLoaded_facts.1
  constructor
  · rintro loader (rfl | rfl) other member
    · rw [ofResolver] at member
      exact .inr (List.mem_singleton.mp member)
    · rw [ofUnit] at member
      cases member
  · rintro id (impossible | same)
    · cases impossible
    · cases same
      obtain ⟨there, isThere, shown⟩ := Option.map_eq_some_iff.mp unit
      exact ⟨there, isThere, fun _ _ => Option.isSome_iff_exists.mp shown⟩
  · rintro id (same | impossible)
    · cases same
      exact Option.isSome_iff_exists.mp resolver
    · cases impossible

/-- The child's load is such a run. -/
theorem childLoaded_run : ChildRun parentLoaded parentLoaded.files childLoaded := by
  obtain ⟨fresh, held⟩ := parentLoaded_facts.2.1
  have unmarked : Unmarked parentLoaded (Layout.ofConfig {}) := by
    intro number _ name member bears
    have plain : ∀ name ∈ (Layout.ofConfig {}).names, '_' ∉ name.toList := by decide
    exact plain name member bears.underscore
  have opening : ChildStep parentLoaded parentLoaded.files parentLoaded
      (.openResolver "child" {} copying .archive (some (.resolver 1))) := by
    refine ⟨rfl, fun entry member same => ?_, unmarked⟩
    have named : entry.1 ∈ parentLoaded.held.map (·.1) := List.mem_map_of_mem member
    rw [held, List.mem_singleton, same] at named
    exact absurd named (by decide)
  have setting : ChildStep parentLoaded parentLoaded.files (parentLoaded.perform
      (.openResolver "child" {} copying .archive (some (.resolver 1)))) (.setCompiler 5 copying) := by
    change parentLoaded.fresh ≤ 5
    omega
  have filled := parentLoaded_facts.2.2.2.2.1
  have loading : ChildStep parentLoaded parentLoaded.files childOpened
      (.loadContainer 5 "main" "a.zip") := by
    refine ⟨by omega, fun now present => ?_, fun now output present found empty => ?_⟩
    · rw [childOpened] at present
      exact setCompiler_faithful _ 5 now present
    rw [present, Option.map_some, found] at filled
    simp [empty, Except.toOption] at filled
  exact .perform (.perform (.perform .start opening) setting) loading

/-- A child over the directory of its parent loads the container that the parent has loaded, and
unloads nothing. The parent gives its symbol as before. -/
theorem children_spare_shared :
    ∃ symbol other, (parentLoaded.loadSymbol 1 "A").2 = .ok symbol ∧
      (childLoaded.loadSymbol 1 "A").2 = .ok other ∧ symbol.Matches other := by
  obtain ⟨_, _, names, body, _⟩ := parentLoaded_facts
  have hosted : Hosted parentLoaded := .perform
    (.perform (.start _) (show Careful _ (.openResolver "parent" {} copying .archive none) from
      trivial))
    (show Careful _ (.loadContainer 1 "main" "a.zip") from trivial)
  obtain ⟨symbol, loaded⟩ : ∃ symbol, (parentLoaded.loadSymbol 1 "A").2 = .ok symbol := by
    generalize (parentLoaded.loadSymbol 1 "A").2 = result at body
    cases result with
    | error error => cases body
    | ok symbol => exact ⟨symbol, rfl⟩
  obtain ⟨other, again, matching⟩ :=
    (children_spare hosted (undrawnFrom_of_names names _) (Survives.refl _) childLoaded_run).2 _
      parentLoaded_intact 1 (.inl rfl) "A" symbol loaded
  exact ⟨symbol, other, loaded, again, matching⟩

/-- A child over the directory of its parent unloads. The parent loaded its symbol before and does
not find it afterwards, because its artifact is gone. -/
theorem child_empties_shared :
    (parentLoaded.loadSymbol 1 "A").2.toOption.map (·.body) = some (.bytecode [1]) ∧
    ((childOpened.perform (.unload 5)).loadSymbol 1 "A").2 = .error (.notFound "A") :=
  ⟨parentLoaded_facts.2.2.2.1, parentLoaded_facts.2.2.2.2.2⟩

end Session

end Hotload
