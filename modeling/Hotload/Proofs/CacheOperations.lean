import Hotload.Proofs.CacheCompiles

/-!
# Operations on the cache directory

What each operation of a resolver that has its directory to itself does to the directory is told by
the ledger: a load of a container that compiles adds an artifact, emptying the directory starts a
new account, and all other operations leave the account as it is. `Tended.perform` says that the
directory follows the ledger, whether the operation succeeds or fails.
-/

namespace Hotload

open Files

variable {home : Home} {files other : Files} {claims : String → Prop}

/-- Two trees in which the directory is housed have one skeleton if they are the same outside of
it. -/
theorem Housed.skeleton (housed : Housed home files) (otherHoused : Housed home other)
    (same : SameOutside home.place files other) : SameSkeleton files other := by
  intro location
  rcases Classical.em (Inside home.place location) with inside | outside
  · rw [otherHoused.bones location inside, housed.bones location inside]
  · unfold bone?
    rw [same location outside]

/-- Where claims are only laid to places of staged files and lasting artifacts, the directory is
regular. -/
theorem Filled.regular (filled : Filled home files claims)
    (places : ∀ path location, claims path → files.target? path = some location →
      (∃ name, location = home.place ++ [name] ∧ Path.Single name name) ∨
        ∃ name, location = home.stagingPlace ++ [name]) : Regular home.place files where
  names := by
    intro name stands
    rcases filled.only _ (inside_append home.place (by simp)) stands with
      isStaging | isLibraries | ⟨path, claimed, leads⟩
    · have same : name = home.staging := by simpa [Home.stagingPlace] using isStaging
      rw [same]
      exact filled.housed.staging
    · have same : name = home.libraries := by simpa [Home.librariesPlace] using isLibraries
      rw [same]
      exact filled.housed.libraries
    · rcases places path _ claimed leads with ⟨found, same, single⟩ | ⟨found, same⟩
      · have names : name = found := by simpa using same
        rw [names]
        exact single
      · have lengths := congrArg List.length same
        simp [Home.stagingPlace] at lengths
  below := by
    intro name rest deeper stands
    have staging : home.place ++ name :: rest = home.place ++ [home.staging] ++ rest →
        files.node? (home.place ++ [name]) = some .directory := by
      intro same
      have names : name = home.staging := by
        rw [List.append_assoc] at same
        exact (List.cons.inj (List.append_cancel_left same)).1
      rw [names]
      exact node?_of_bone filled.housed.staging_bone
    obtain ⟨second, others, rfl⟩ := List.exists_cons_of_ne_nil deeper
    rcases filled.only _ (inside_append home.place (by simp)) stands with
      isStaging | isLibraries | ⟨path, claimed, leads⟩
    · simp [Home.stagingPlace] at isStaging
    · simp [Home.librariesPlace] at isLibraries
    · rcases places path _ claimed leads with ⟨found, same, _⟩ | ⟨found, same⟩
      · simp at same
      · refine staging ?_
        rw [Home.stagingPlace, List.append_assoc] at same
        have parts := List.cons.inj (List.append_cancel_left same)
        rw [parts.1]
        simp

/-- The account after a load that had an artifact to compile, or none. -/
def Ledger.afterLoad (ledger : Ledger) : Option String → Except LoadError Nat → Ledger
  | some output, .ok _ => ledger.add output
  | _, _ => ledger

/-- A load that fails adds nothing. -/
theorem Ledger.afterLoad_error (ledger : Ledger) (output : Option String) (error : LoadError) :
    ledger.afterLoad output (.error error) = ledger := by
  cases output <;> rfl

namespace Session

variable {tenancy : Tenancy} {ledger : Ledger} {busy : List String} {pending : Option Nat}
  {session after : Session}

/-- The artifact that a load of a container has to compile first, if it is not there. -/
def artifactToCompile (session : Session) (resolver : Resolver) (container : String) :
    Option String :=
  match resolver.staging.durablePath container session.files with
  | .ok output => if session.outputSize output = 0 then some output else none
  | .error _ => none

namespace Tended

/-- A change of a resolver that leaves its settings alone. -/
theorem updated (tended : Tended tenancy ledger busy pending session) {id : Nat}
    {change : Resolver → Resolver} (wired : Wired (session.updateResolver id change))
    (settings : ∀ resolver, (change resolver).staging = resolver.staging ∧
      (change resolver).platform = resolver.platform) :
    Tended tenancy ledger busy pending (session.updateResolver id change) := by
  refine tended.relinked wired tended.held ?_ rfl rfl (Nat.le_refl _) ?_
  · obtain ⟨now, there, staging, platform⟩ := tended.opened
    by_cases same : tenancy.id = id
    · refine ⟨change now, ?_, (settings now).1.trans staging, (settings now).2.trans platform⟩
      simp only [updateResolver, Table.get?_update, if_pos same, there, Option.map_some]
    · refine ⟨now, ?_, staging, platform⟩
      simp only [updateResolver, Table.get?_update, if_neg same, there]
  · intro other referred
    rw [temporary_mem_targets] at referred
    exact .inl (temporary_mem_targets.mpr referred)

/-- Registering an artifact that lasts, from outside or not. -/
theorem loadArtifact (tended : Tended tenancy ledger busy none session) (artifact : String) :
    Tended tenancy ledger busy none (session.loadArtifact tenancy.id artifact).1 := by
  unfold Session.loadArtifact
  split
  · exact tended.register _ artifact
  · exact tended

/-- Choosing the local unit leaves the directory as it is. -/
theorem setLocal (tended : Tended tenancy ledger busy none session) (id : Nat)
    (loader : Option Loader) : Tended tenancy ledger busy none (session.setLocal id loader) := by
  have wired : Wired (session.updateResolver id fun resolver =>
      { resolver with localUnit := loader, defined := [] }) := by
    refine tended.wired.updateResolver id _ (fun _ => rfl) ?_
    exact fun resolver present => tended.wired.joined id resolver present
  exact (tended.updated wired fun _ => ⟨rfl, rfl⟩).settle

/-- A load of a container adds the artifact that it compiled to the account, or it adds nothing. -/
theorem loadContainer (tended : Tended tenancy ledger [] none session) (thread : Thread)
    (container : String)
    (faithful : ∀ now, session.resolvers.get? tenancy.id = some now → Faithful now.compiler) :
    Tended tenancy
      (ledger.afterLoad (session.artifactToCompile tenancy.resolver container)
        (session.loadContainer tenancy.id thread container).2) [] none
      (session.loadContainer tenancy.id thread container).1 := by
  obtain ⟨now, there, staging, _⟩ := tended.opened
  unfold Session.loadContainer artifactToCompile
  rw [there]
  dsimp only
  rw [staging]
  by_cases isFile : session.files.isFile container = true
  · rw [isFile]
    simp only [Bool.not_true, Bool.false_eq_true, ↓reduceIte]
    rcases path : tenancy.resolver.staging.durablePath container session.files with error | output
    · exact tended
    · obtain ⟨text, rfl⟩ := durable_of_path path
      dsimp only
      unfold compileOrReuse
      dsimp only
      by_cases empty : session.outputSize (durable tenancy.resolver text) = 0
      · rw [if_pos empty, if_pos empty]
        rcases compiled : session.compileContainer tenancy.id now thread container
          (durable tenancy.resolver text) (Path.unitName (durable tenancy.resolver text)) with
            ⟨after, result⟩
        rcases tended.compileContainer staging (faithful now there) empty compiled with
          ⟨error, rfl, failed⟩ | ⟨unit, rfl, completed⟩
        · exact failed
        · exact completed
      · rw [if_neg empty, if_neg empty]
        exact tended.register _ _
  · rw [Bool.not_eq_true] at isFile
    rw [isFile]
    simp only [Bool.not_false, ↓reduceIte, Ledger.afterLoad_error]
    exact tended

/-- The directory is regular between operations. -/
theorem regular (tended : Tended tenancy ledger [] pending session) :
    Regular tenancy.home.place session.files := by
  have housed := tended.filled.housed
  refine tended.filled.regular ?_
  rintro path location (impossible | compiled | ⟨id, temporary, counts, rfl⟩) target
  · cases impossible
  · obtain ⟨artifact, stands⟩ := tended.stand path compiled
    obtain ⟨text, rfl⟩ := stands.isDurable
    exact .inl (durable_place housed tenancy.layout tenancy.direct (place_of_target target))
  · obtain ⟨number, _, staged⟩ := tended.own id temporary counts.present
      (Nat.le_trans tended.since.1 counts.since)
    exact .inr (staged.place tenancy.layout housed (place_of_target target))

/-- Unloading empties the directory, if every entry can be removed, and starts a new account. -/
theorem unload (tended : Tended tenancy ledger [] none session)
    (removed : (tenancy.home.layout.purge session.files).refusals = []) :
    Tended tenancy ⟨session.fresh, []⟩ [] none (session.unload tenancy.id).1 ∧
      (session.unload tenancy.id).2 = .ok () := by
  obtain ⟨now, there, staging, platform⟩ := tended.opened
  have layout : now.layout = tenancy.home.layout := by
    unfold Resolver.layout
    rw [staging]
    exact tenancy.layout
  have housed := tended.filled.housed
  obtain ⟨vacant, outside, done⟩ :=
    Home.purge_vacant tended.proper housed.anchored tended.regular removed
  have skeleton := housed.skeleton vacant.housed outside
  have purged : Tended tenancy ⟨session.fresh, []⟩ [] none
      { session with files := (tenancy.home.layout.purge session.files).files } :=
    { tended with
      wired := tended.wired.keeps ⟨rfl, Nat.le_refl _⟩
      filled := vacant.filled
      foreign := fun id temporary present early unreleased =>
        (tended.foreign id temporary present early unreleased).of_skeleton skeleton
      remain := by
        intro id temporary counts _
        exact absurd counts.since (Nat.not_le_of_lt (tended.drawn id temporary counts.present))
      stand := fun _ impossible => by cases impossible
      since := ⟨Nat.le_trans tended.since.1 tended.since.2, Nat.le_refl _⟩
      clear := fun _ impossible => by cases impossible }
  unfold Session.unload
  rw [there]
  dsimp only
  rw [layout]
  have noted : Tended tenancy ⟨session.fresh, []⟩ [] none
      (session.purge tenancy.home.layout).1 := purged.keeps ⟨rfl, Nat.le_refl _⟩ rfl rfl
  have wired : Wired ((session.purge tenancy.home.layout).1.updateResolver tenancy.id
      fun resolver => { resolver with registry := [] }) := by
    refine noted.wired.updateResolver tenancy.id _ (fun _ => rfl) ?_
    intro resolver present member registered
    simp at registered
  exact ⟨(noted.updated wired fun _ => ⟨rfl, rfl⟩).settle, done⟩

end Tended

/-- Files change, but not in the directory: the path of the directory still leads to it, and no file
of passing use that was made before comes to lead into it. -/
structure Elsewhere (tenancy : Tenancy) (session : Session) (files : Files) : Prop where
  inside : ∀ location, Inside tenancy.home.place location →
    files.node? location = session.files.node? location
  anchored : Anchored files tenancy.home.root tenancy.home.place
  foreign : ∀ id temporary, session.temporaries.get? id = some temporary → id < tenancy.opened →
    temporary.isReleased = false → Aloof tenancy.home files temporary.path

/-- A change of files elsewhere leaves the directory as it is. -/
theorem Tended.changeFiles (tended : Tended tenancy ledger [] none session) {files : Files}
    (elsewhere : Elsewhere tenancy session files) :
    Tended tenancy ledger [] none { session with files } := by
  have before := tended.filled.housed
  have housed : Housed tenancy.home files :=
    { before with
      anchored := elsewhere.anchored
      bones := by
        intro location inside
        unfold bone?
        rw [elsewhere.inside location inside]
        exact before.bones location inside }
  have temporaryFixed : ∀ id temporary, Counts ledger session.temporaries id temporary →
      Fixed tenancy.home temporary.path := by
    intro id temporary counts
    obtain ⟨number, _, staged⟩ := tended.own id temporary counts.present
      (Nat.le_trans tended.since.1 counts.since)
    exact staged.fixed tenancy.layout
  have compiledFixed : ∀ output ∈ ledger.compiled, Fixed tenancy.home output := by
    intro output listed
    obtain ⟨artifact, stands⟩ := tended.stand output listed
    obtain ⟨text, rfl⟩ := stands.isDurable
    exact durable_fixed tenancy.layout tenancy.direct text
  have fixed : ∀ path, claims ledger [] session.temporaries path → Fixed tenancy.home path := by
    rintro path (impossible | compiled | ⟨id, temporary, counts, rfl⟩)
    · cases impossible
    · exact compiledFixed path compiled
    · exact temporaryFixed id temporary counts
  exact
    { tended with
      wired := tended.wired.keeps ⟨rfl, Nat.le_refl _⟩
      filled :=
        { housed := housed
          only := by
            intro location inside stands
            change files.node? location ≠ none at stands
            rw [elsewhere.inside location inside] at stands
            rcases tended.filled.only location inside stands with
              isStaging | isLibraries | ⟨path, claimed, leads⟩
            · exact .inl isStaging
            · exact .inr (.inl isLibraries)
            · exact .inr (.inr ⟨path, claimed,
                ((fixed path claimed).target before housed).trans leads⟩) }
      foreign := elsewhere.foreign
      remain := by
        intro id temporary counts away
        obtain ⟨location, target, stands⟩ := tended.remain id temporary counts away
        refine ⟨location, ((temporaryFixed id temporary counts).target before housed).trans target,
          ?_⟩
        obtain ⟨number, _, staged⟩ := tended.own id temporary counts.present
          (Nat.le_trans tended.since.1 counts.since)
        obtain ⟨name, rfl⟩ := staged.place tenancy.layout before (place_of_target target)
        rw [elsewhere.inside _ (by
          rw [Home.stagingPlace, List.append_assoc]
          exact inside_append tenancy.home.place (by simp))]
        exact stands
      stand := by
        intro output listed
        obtain ⟨artifact, stands⟩ := tended.stand output listed
        exact ⟨artifact, stands.of_shown
          ((compiledFixed output listed).shown before housed elsewhere.inside)⟩
      clear := fun _ impossible => by cases impossible }

/-! ## What is referred to between operations -/

/-- Every file of passing use is referred to. -/
def Settled (session : Session) : Prop :=
  ∀ id temporary, session.temporaries.get? id = some temporary →
    .temporary id ∈ session.targets

/-- After letting go, only what is referred to is left. -/
theorem settled_settle (session : Session) : Settled session.settle :=
  fun _ _ present => settle_referred present

/-- Steps that keep the links and make no files of passing use leave them all referred to. -/
theorem Settled.keeps (settled : Settled session) (kept : KeepsLinks session after)
    (made : ∀ id temporary, after.temporaries.get? id = some temporary →
      (session.temporaries.get? id).isSome) : Settled after := by
  intro id temporary present
  obtain ⟨before, early⟩ := Option.isSome_iff_exists.mp (made id temporary present)
  rw [kept.targets]
  exact settled id before early

theorem Settled.same (settled : Settled session) (kept : KeepsLinks session after)
    (temporaries : after.temporaries = session.temporaries) : Settled after := by
  refine settled.keeps kept ?_
  intro id temporary present
  rw [← temporaries, present]
  rfl

theorem Settled.release (settled : Settled session) (id : Nat) :
    Settled (session.release id).1 := by
  refine settled.keeps (release_keepsLinks session id) ?_
  intro other temporary present
  have updated : ∀ change : TemporaryFile → TemporaryFile,
      ((session.temporaries.update id change).get? other).isSome →
        (session.temporaries.get? other).isSome := by
    intro change found
    rw [Table.get?_update] at found
    split at found
    · simpa using found
    · exact found
  unfold Session.release at present
  split at present
  · rw [present]
    rfl
  · next was _ =>
    have found := Option.isSome_iff_exists.mpr ⟨temporary, present⟩
    refine updated (fun _ => (was.release session.files).1) ?_
    dsimp only at found
    split at found <;> exact found

/-- After registering, only what is referred to is left. -/
theorem Settled.register (settled : Settled session) (id : Nat) (name artifact : String)
    (temporary : Option Nat) : Settled (session.register id name artifact temporary).1 := by
  rcases session.register_cases id name artifact temporary with
    ⟨error, failed⟩ | ⟨resolver, size, content, _, _, _, succeeded⟩
  · rw [failed]
    exact settled
  · rw [succeeded, enlist_eq]
    exact settled_settle _

/-- Compiles let go at their end, so loads and definitions leave all files of passing use referred
to. -/
theorem settled_lasting : Lasting Settled where
  keeps := fun settled left => settled.same left.toKeepsLinks
  find := fun settled loader name =>
    have quiet := quiet_follows.find _ loader name
    settled.same quiet.toKeepsLinks quiet.temporaries
  compile := fun _ _ _ _ _ _ _ _ _ _ _ => settled_settle _
  register := fun settled id name artifact => settled.register id name artifact none

theorem Settled.unload (settled : Settled session) (id : Nat) :
    Settled (session.unload id).1 := by
  unfold Session.unload
  split
  · exact settled
  · exact settled_settle _

end Session

end Hotload
