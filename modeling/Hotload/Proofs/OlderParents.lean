import Hotload.Proofs.GivenNumbers
import Hotload.Proofs.SearchOrder

/-!
# Older parents

A loader gets its parent when it is made, and keeps it. So when every parent that is handed over was
there before, parents are older than who has them in every session, whatever is loaded, unloaded or
let go: a resolver is given its number after its parent, and a registered unit, which has the parent
of its resolver, after both. Local units are no part of this: they can be chosen at any time.
-/

namespace Hotload

/-- The first number that is free once a loader is made. -/
def Loader.nextNumber : Loader → Nat
  | .failing => 0
  | .system id | .unit id | .resolver id => id + 1

/-- A loader was made before a number was given. -/
def Loader.IsBefore (loader : Loader) (id : Nat) : Prop :=
  loader.nextNumber ≤ id

instance (loader : Loader) (id : Nat) : Decidable (loader.IsBefore id) :=
  inferInstanceAs (Decidable (_ ≤ _))

theorem Loader.IsBefore.later {loader : Loader} {id later : Nat} (before : loader.IsBefore id)
    (less : id ≤ later) : loader.IsBefore later :=
  Nat.le_trans before less

namespace Session

variable {session before after : Session} {name : String}

/-- Every parent was there before who has it. -/
structure Grounded (session : Session) : Prop where
  given : ∀ id, (session.resolvers.get? id).isSome → id < session.fresh
  units : ∀ id parent, (session.units.get? id).bind (·.parent) = some parent → parent.IsBefore id
  resolvers : ∀ id parent, (session.resolvers.get? id).bind (·.parent) = some parent →
    parent.IsBefore id

theorem Grounded.keeps (grounded : Grounded before) (kept : KeepsLinks before after) :
    Grounded after where
  given id present := by
    have same := congrArg Option.isSome (kept.resolver id)
    simp only [Option.isSome_map] at same
    exact Nat.lt_of_lt_of_le (grounded.given id (same.symm.trans present)) kept.fresh
  units id parent above := by
    refine grounded.units id parent (Eq.trans ?_ above)
    have same := congrArg (·.bind UnitLinks.parent) (kept.unit id)
    simpa [Option.bind_map, Function.comp_def, LoadedUnit.links] using same.symm
  resolvers id parent above := by
    refine grounded.resolvers id parent (Eq.trans ?_ above)
    have same := congrArg (·.bind ResolverLinks.parent) (kept.resolver id)
    simpa [Option.bind_map, Function.comp_def, Resolver.links] using same.symm

/-- Letting go of loaders leaves those that are kept as they were. -/
theorem Grounded.pruned (grounded : Grounded before) (pruned : Pruned before after) :
    Grounded after where
  given id present := by
    obtain ⟨resolver, there⟩ := Option.isSome_iff_exists.mp present
    have fresh : after.fresh = before.fresh := by rw [pruned.rest]
    rw [fresh]
    exact grounded.given id (by rw [pruned.resolver_before there]; rfl)
  units id parent above := by
    obtain ⟨unit, there, same⟩ := Option.bind_eq_some_iff.mp above
    exact grounded.units id parent (by rw [pruned.unit_before there, Option.bind_some, same])
  resolvers id parent above := by
    obtain ⟨resolver, there, same⟩ := Option.bind_eq_some_iff.mp above
    exact grounded.resolvers id parent
      (by rw [pruned.resolver_before there, Option.bind_some, same])

theorem Grounded.settle (grounded : Grounded session) : Grounded session.settle :=
  (grounded.pruned session.keptLoaders_pruned).keeps session.settle_keepsLinks

/-- A resolver never gets another parent. -/
theorem Grounded.updateResolver (grounded : Grounded session) (id : Nat)
    (change : Resolver → Resolver)
    (parents : ∀ resolver, (change resolver).parent = resolver.parent) :
    Grounded (session.updateResolver id change) where
  given other present := by
    refine grounded.given other ?_
    simp only [Session.updateResolver, Table.get?_update] at present
    split at present
    · simpa using present
    · exact present
  units := grounded.units
  resolvers other parent above := by
    refine grounded.resolvers other parent ?_
    simp only [Session.updateResolver, Table.get?_update] at above
    split at above
    · simpa [Option.bind_map, Function.comp_def, parents] using above
    · exact above

theorem Grounded.addUnit (grounded : Grounded session) {unit : LoadedUnit}
    (known : ∀ parent ∈ unit.parent, parent.IsBefore session.fresh) :
    Grounded (session.addUnit unit).1 where
  given id present := Nat.lt_succ_of_lt (grounded.given id present)
  units id parent above := by
    obtain ⟨found, there, same⟩ := Option.bind_eq_some_iff.mp above
    rw [addUnit_units] at there
    rcases Option.or_eq_some_iff.mp there with early | ⟨-, new⟩
    · exact grounded.units id parent (by rw [early, Option.bind_some, same])
    · split at new
      · next here =>
        obtain rfl := Option.some.inj new
        rw [here]
        exact known parent same
      · cases new
  resolvers := grounded.resolvers

/-- A registered unit has the parent of its resolver, which is older than both. -/
theorem Grounded.register (grounded : Grounded session) (id : Nat) (name artifact : String)
    (temporary : Option Nat) : Grounded (session.register id name artifact temporary).1 := by
  rcases session.register_cases id name artifact temporary with
    ⟨error, failed⟩ | ⟨resolver, size, content, present, -, -, succeeded⟩
  · rw [failed]
    exact grounded
  · rw [succeeded, enlist_eq]
    refine Grounded.settle (Grounded.updateResolver ?_ id _ fun _ => rfl)
    refine grounded.addUnit fun parent above => ?_
    have older := grounded.resolvers id parent (by rw [present, Option.bind_some]; exact above)
    exact older.later (Nat.le_of_lt (grounded.given id (by rw [present]; rfl)))

theorem Grounded.unload (grounded : Grounded session) (id : Nat) :
    Grounded (session.unload id).1 := by
  unfold Session.unload
  split
  · exact grounded
  · next resolver _ =>
    have purged := grounded.keeps (purge_keepsLinks session resolver.layout)
    refine Grounded.settle (Grounded.updateResolver purged id _ ?_)
    exact fun _ => rfl

/-- A new resolver has a parent that was there before. -/
theorem Grounded.openResolver (grounded : Grounded session) (config : Config) (compiler : Compiler)
    (platform : Platform) {parent : Option Loader}
    (known : ∀ loader ∈ parent, loader.IsBefore session.fresh) :
    Grounded (session.openResolver config compiler platform parent).1 := by
  unfold Session.openResolver
  split
  · exact grounded
  · have kept := prepare_keepsLinks session (Staging.ofConfig config).layout parent
    have prepared := grounded.keeps kept
    dsimp only
    split
    · next heard =>
      rw [heard] at prepared
      exact prepared
    · next later heard =>
      rw [heard] at prepared kept
      have reaped : Grounded later.addReaper.1 := prepared.keeps ⟨rfl, Nat.le_succ _⟩
      have fresh : session.fresh ≤ later.addReaper.1.fresh := Nat.le_succ_of_le kept.fresh
      constructor
      · intro id present
        simp only [number, Table.get?_add, Option.isSome_or, Bool.or_eq_true] at present
        rcases present with early | new
        · exact Nat.lt_succ_of_lt (reaped.given id early)
        · split at new
          · next here =>
            rw [here]
            exact Nat.lt_succ_self _
          · cases new
      · exact reaped.units
      · intro id above isAbove
        simp only [number, Table.get?_add] at isAbove
        obtain ⟨found, there, same⟩ := Option.bind_eq_some_iff.mp isAbove
        rcases Option.or_eq_some_iff.mp there with early | ⟨-, new⟩
        · exact reaped.resolvers id above (by rw [early, Option.bind_some, same])
        · split at new
          · next here =>
            obtain rfl := Option.some.inj new
            rw [here]
            exact (known above same).later fresh
          · cases new

theorem Grounded.setLocal (grounded : Grounded session) (id : Nat) (loader : Option Loader) :
    Grounded (session.setLocal id loader) := by
  refine Grounded.settle (Grounded.updateResolver grounded id _ ?_)
  exact fun _ => rfl

/-- Loads and definitions leave every parent older than who has it. -/
theorem grounded_lasting : Lasting Grounded where
  keeps := fun grounded left _ => grounded.keeps left.toKeepsLinks
  find := fun grounded loader name =>
    grounded.keeps (quiet_follows.find _ loader name).toKeepsLinks
  compile := fun grounded left _ id resolver thread archive output name temporary _ =>
    compile_keeps Grounded (fun now kept => now.keeps kept.toKeepsLinks) Grounded.settle
      Grounded.register (grounded.keeps left.toKeepsLinks) id resolver thread archive output name
      temporary
  register := fun grounded id name artifact => grounded.register id name artifact none

end Session

/-- Parents are loaders that were there before. -/
def Operation.Known (session : Session) : Operation → Prop
  | .openResolver _ _ _ _ parent | .bind _ _ _ _ parent =>
    ∀ loader ∈ parent, loader.IsBefore session.fresh
  | _ => True

namespace Session

variable {session before after : Session} {name : String}

/-- The sessions that operations lead to, when parents are loaders that were there before. -/
inductive Built : Session → Prop where
  | start (files : Files) : Built { files }
  | perform {session : Session} (built : Built session) {operation : Operation}
      (known : operation.Known session) : Built (session.perform operation)

theorem Built.reachable (built : Built session) : Reachable session := by
  induction built with
  | start files => exact .start files
  | perform _ _ reached => exact reached.perform _

/-- A run of operations that ask nothing of the session builds on what was built. -/
theorem Built.performAll (built : Built session) {operations : List Operation}
    (known : ∀ operation ∈ operations, ∀ session : Session, operation.Known session) :
    Built (session.performAll operations) := by
  induction operations generalizing session with
  | nil => exact built
  | cons operation rest inductionHypothesis =>
    exact inductionHypothesis (built.perform (known operation List.mem_cons_self session))
      fun later listed => known later (List.mem_cons_of_mem _ listed)

theorem Grounded.perform (grounded : Grounded session) {operation : Operation}
    (known : operation.Known session) : Grounded (session.perform operation) := by
  cases operation with
  | changeFiles | departLater => exact grounded.keeps ⟨rfl, Nat.le_refl _⟩
  | addSystem | defineSystem | addReaper => exact grounded.keeps ⟨rfl, Nat.le_succ _⟩
  | openResolver holder config compiler platform parent =>
    have opened := grounded.openResolver config compiler platform known
    unfold Session.perform Session.openHeld
    dsimp only
    split
    · next heard =>
      rw [heard] at opened
      exact Grounded.settle ⟨opened.given, opened.units, opened.resolvers⟩
    · next heard =>
      rw [heard] at opened
      exact opened
  | setCompiler id => exact grounded.updateResolver id _ fun _ => rfl
  | define id thread name content => exact grounded_lasting.define grounded id thread name content
  | loadContainer id thread container =>
    exact grounded_lasting.loadContainer grounded id thread container
  | loadArtifact id artifact => exact grounded_lasting.loadArtifact grounded id artifact
  | register id name artifact temporary => exact grounded.register id name artifact temporary
  | bind platform name artifact libraries parent =>
    unfold Session.perform Session.bind
    dsimp only
    split
    · exact grounded
    · exact grounded.addUnit known
  | unload id => exact grounded.unload id
  | unloadAfter id thread policy =>
    have waited := grounded.keeps (wait_leavesLoaders session id thread).toKeepsLinks
    unfold Session.perform Session.unloadAfter
    dsimp only
    split
    · exact waited.keeps ⟨rfl, Nat.le_refl _⟩
    · have unloaded := waited.unload id
      split <;> next heard => rw [heard] at unloaded; exact unloaded
  | setLocal id loader => exact grounded.setLocal id loader
  | find loader name => exact grounded.keeps (quiet_follows.find _ loader name).toKeepsLinks
  | findRegistered id name =>
    exact grounded.keeps (quiet_follows.findRegistered _ id name).toKeepsLinks
  | hold | letGo => exact Grounded.settle ⟨grounded.given, grounded.units, grounded.resolvers⟩
  | track reaper path => exact grounded.keeps (track_keepsLinks session reaper path)
  | release temporary => exact grounded.keeps (release_keepsLinks session temporary)
  | sweep reaper => exact grounded.keeps (sweep_keepsLinks session reaper)
  | markBusy id thread => exact grounded.keeps (markBusy_quiet session id thread).toKeepsLinks
  | unmarkBusy id thread => exact grounded.keeps (unmarkBusy_quiet session id thread).toKeepsLinks
  | pass time => exact grounded.keeps (pass_quiet session time).toKeepsLinks

theorem Built.grounded (built : Built session) : Grounded session := by
  induction built with
  | start files => exact ⟨by simp, by simp, by simp⟩
  | perform _ known grounded => exact grounded.perform known

end Session

end Hotload
