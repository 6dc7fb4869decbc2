import Hotload.Proofs.Lifetimes

/-!
# How registered units are wired

A registered unit asks whom its resolver asks: when a resolver binds an artifact it passes its own
parent on. `Wired` says so of a whole session, and every operation that callers have keeps it.
-/

namespace Hotload

namespace Session

/-- Every registered unit is there and has the parent of its resolver. -/
structure Wired (session : Session) : Prop where
  numbered : ∀ id, (session.units.get? id).isSome → id < session.fresh
  joined : ∀ id resolver, session.resolvers.get? id = some resolver →
    ∀ unit ∈ resolver.registry.map (·.2), ∃ there, session.units.get? unit = some there ∧
      there.parent = resolver.parent

/-- A session without loaders is wired. -/
theorem wired_start (files : Files) : Wired { files } :=
  ⟨fun _ present => by simp at present, fun _ _ present => by simp at present⟩

/-- Steps that keep the links keep sessions wired. -/
theorem Wired.keeps {before after : Session} (wired : Wired before)
    (kept : KeepsLinks before after) : Wired after where
  numbered := by
    intro id present
    have same := kept.unit id
    have early : (before.units.get? id).isSome := by
      rw [← Option.isSome_map, ← same, Option.isSome_map]
      exact present
    exact Nat.lt_of_lt_of_le (wired.numbered id early) kept.fresh
  joined := by
    intro id resolver present unit registered
    have same := kept.resolver id
    rw [present, Option.map_some] at same
    obtain ⟨early, was, linked⟩ := Option.map_eq_some_iff.mp same.symm
    have parents : early.parent = resolver.parent := congrArg ResolverLinks.parent linked
    have registries : early.registry = resolver.registry := congrArg ResolverLinks.registry linked
    rw [← registries] at registered
    obtain ⟨there, stood, parent⟩ := wired.joined id early was unit registered
    have unitSame := kept.unit unit
    rw [stood, Option.map_some] at unitSame
    obtain ⟨now, stands, unitLinked⟩ := Option.map_eq_some_iff.mp unitSame
    have unitParents : now.parent = there.parent := congrArg UnitLinks.parent unitLinked
    exact ⟨now, stands, by rw [unitParents, parent, parents]⟩

/-- Letting go of loaders keeps sessions wired: registered units are referred to. -/
theorem Wired.pruned {before after : Session} (wired : Wired before)
    (pruned : Pruned before after) : Wired after where
  numbered := by
    intro id present
    obtain ⟨unit, stands⟩ := Option.isSome_iff_exists.mp present
    have fresh : after.fresh = before.fresh := by rw [pruned.rest]
    rw [fresh]
    exact wired.numbered id (by rw [pruned.unit_before stands]; rfl)
  joined := by
    intro id resolver present unit registered
    obtain ⟨there, stood, parent⟩ :=
      wired.joined id resolver (pruned.resolver_before present) unit registered
    exact ⟨there, by rw [pruned.unit (registered_mem_targets present registered), stood], parent⟩

/-- Letting go keeps sessions wired. -/
theorem Wired.settle {session : Session} (wired : Wired session) : Wired session.settle :=
  (wired.pruned session.keptLoaders_pruned).keeps session.settle_keepsLinks

/-- A change of resolvers that leaves their parents alone and registers nothing that is not wired. -/
theorem Wired.updateResolver {session : Session} (wired : Wired session) (id : Nat)
    (change : Resolver → Resolver)
    (parents : ∀ resolver, (change resolver).parent = resolver.parent)
    (joined : ∀ resolver, session.resolvers.get? id = some resolver →
      ∀ unit ∈ (change resolver).registry.map (·.2), ∃ there,
        session.units.get? unit = some there ∧ there.parent = resolver.parent) :
    Wired (session.updateResolver id change) where
  numbered := wired.numbered
  joined := by
    intro other resolver present unit registered
    simp only [Session.updateResolver, Table.get?_update] at present
    by_cases here : other = id
    · subst here
      rw [if_pos rfl] at present
      obtain ⟨early, was, rfl⟩ := Option.map_eq_some_iff.mp present
      obtain ⟨there, stands, parent⟩ := joined early was unit registered
      exact ⟨there, stands, parent.trans (parents early).symm⟩
    · rw [if_neg here] at present
      exact wired.joined other resolver present unit registered

/-- The number of a new unit was not given before. -/
theorem Wired.vacant {session : Session} (wired : Wired session) :
    session.units.get? session.fresh = none := by
  rw [← Option.not_isSome_iff_eq_none]
  intro present
  exact Nat.lt_irrefl _ (wired.numbered _ present)

/-- Adding a unit leaves those alone that were there. -/
theorem addUnit_units (session : Session) (unit : LoadedUnit) (id : Nat) :
    (session.addUnit unit).1.units.get? id =
      (session.units.get? id).or (if id = session.fresh then some unit else none) :=
  Table.get?_add session.units session.fresh id unit

/-- A new unit stands under its number. -/
theorem Wired.addUnit_present {session : Session} (wired : Wired session) (unit : LoadedUnit) :
    (session.addUnit unit).1.units.get? (session.addUnit unit).2 = some unit := by
  have number : (session.addUnit unit).2 = session.fresh := rfl
  rw [addUnit_units, number, wired.vacant, Option.none_or, if_pos rfl]

/-- Adding a unit keeps sessions wired. -/
theorem Wired.addUnit {session : Session} (wired : Wired session) (unit : LoadedUnit) :
    Wired (session.addUnit unit).1 where
  numbered := by
    intro id present
    rw [addUnit_units, Option.isSome_or, Bool.or_eq_true] at present
    rcases present with early | new
    · exact Nat.lt_succ_of_lt (wired.numbered id early)
    · split at new
      · next same =>
        subst same
        exact Nat.lt_succ_self _
      · cases new
  joined := by
    intro id resolver present member registered
    obtain ⟨there, stood, parents⟩ := wired.joined id resolver present member registered
    exact ⟨there, by rw [addUnit_units, stood, Option.some_or], parents⟩

/-- The registered units after one more registration are the new one and some that were there. -/
theorem mem_register {registry : Registry Nat} {name : String} {unit member : Nat}
    (registered : member ∈ (registry.register name unit).map (·.2)) :
    member ∈ registry.map (·.2) ∨ member = unit := by
  simp only [Registry.register, Registry.without, List.map_append, List.mem_append] at registered
  rcases registered with earlier | new
  · obtain ⟨entry, kept, rfl⟩ := List.mem_map.mp earlier
    exact .inl (List.mem_map.mpr ⟨entry, (List.mem_filter.mp kept).1, rfl⟩)
  · exact .inr (by simpa using new)

/-- The session in which a new unit is registered, before anything is let go of. -/
def enlisted (session : Session) (id : Nat) (unit : LoadedUnit) : Session :=
  (session.addUnit unit).1.updateResolver id fun resolver =>
    { resolver with registry := Registry.register resolver.registry unit.name session.fresh }

/-- A registry is changed and then what is no longer needed is let go of. -/
theorem enlist_eq (session : Session) (id : Nat) (unit : LoadedUnit) :
    session.enlist id unit = ((session.enlisted id unit).settle, session.fresh) :=
  rfl

/-- Registering a unit that has the parent of the resolver keeps sessions wired. -/
theorem Wired.enlisted {session : Session} (wired : Wired session) {id : Nat} {unit : LoadedUnit}
    (parent : (session.resolvers.get? id).map (·.parent) = some unit.parent) :
    Wired (session.enlisted id unit) := by
  have added := wired.addUnit unit
  refine Wired.updateResolver added id _ ?_ ?_
  · exact fun _ => rfl
  · intro resolver present member registered
    rcases mem_register registered with earlier | rfl
    · exact added.joined id resolver present member earlier
    · refine ⟨unit, wired.addUnit_present unit, ?_⟩
      have same : session.resolvers.get? id = some resolver := present
      rw [same, Option.map_some] at parent
      exact (Option.some.inj parent).symm

/-- Registering changes nothing, or it adds and registers the unit that was bound. -/
theorem register_cases (session : Session) (id : Nat) (name artifact : String)
    (temporary : Option Nat) :
    (∃ error, session.register id name artifact temporary = (session, .error error)) ∨
      ∃ resolver size content, session.resolvers.get? id = some resolver ∧
        UnitContent.artifactSize session.files artifact = .ok size ∧
        UnitContent.bind resolver.platform session.files artifact = .ok content ∧
        session.register id name artifact temporary =
          ((session.enlist id (unitOf resolver name artifact temporary content)).1,
            .ok (session.enlist id (unitOf resolver name artifact temporary content)).2) := by
  unfold Session.register
  cases present : session.resolvers.get? id with
  | none => exact .inl ⟨_, rfl⟩
  | some resolver =>
    dsimp only
    cases sized : UnitContent.artifactSize session.files artifact with
    | error error => exact .inl ⟨_, rfl⟩
    | ok size =>
      dsimp only
      cases bound : UnitContent.bind resolver.platform session.files artifact with
      | error error => exact .inl ⟨_, rfl⟩
      | ok content => exact .inr ⟨resolver, size, content, rfl, rfl, bound, rfl⟩

/-- Registering keeps sessions wired. -/
theorem Wired.register {session : Session} (wired : Wired session) (id : Nat)
    (name artifact : String) (temporary : Option Nat) :
    Wired (session.register id name artifact temporary).1 := by
  rcases session.register_cases id name artifact temporary with
    ⟨error, failed⟩ | ⟨resolver, size, content, present, _, _, succeeded⟩
  · rw [failed]
    exact wired
  · rw [succeeded]
    exact (wired.enlisted (by rw [present]; rfl)).settle

/-- Unloading keeps sessions wired. -/
theorem Wired.unload {session : Session} (wired : Wired session) (id : Nat) :
    Wired (session.unload id).1 := by
  unfold Session.unload
  split
  · exact wired
  · next resolver present =>
    have purged := wired.keeps (purge_keepsLinks session resolver.layout)
    refine Wired.settle (Wired.updateResolver purged id _ ?_ ?_)
    · exact fun _ => rfl
    · intro now found member registered
      simp at registered

/-- Opening a resolver keeps sessions wired: its registry is empty. -/
theorem Wired.openResolver {session : Session} (wired : Wired session) (config : Config)
    (compiler : Compiler) (platform : Platform) (parent : Option Loader) :
    Wired (session.openResolver config compiler platform parent).1 := by
  unfold Session.openResolver
  split
  · exact wired
  · have prepared := wired.keeps
      (prepare_keepsLinks session (Staging.ofConfig config).layout parent)
    dsimp only
    split
    · next heard =>
      rw [heard] at prepared
      exact prepared
    · next after heard =>
      rw [heard] at prepared
      have reaped : Wired after.addReaper.1 := prepared.keeps ⟨rfl, Nat.le_succ _⟩
      constructor
      · exact fun id present => Nat.lt_succ_of_lt (reaped.numbered id present)
      · intro id resolver present unit registered
        simp only [number, Table.get?_add] at present
        cases early : after.addReaper.1.resolvers.get? id with
        | some was =>
          rw [early, Option.some_or] at present
          obtain rfl := Option.some.inj present
          exact reaped.joined id was early unit registered
        | none =>
          rw [early, Option.none_or] at present
          split at present
          · obtain rfl := Option.some.inj present
            simp at registered
          · cases present

/-- Choosing the local unit keeps sessions wired. -/
theorem Wired.setLocal {session : Session} (wired : Wired session) (id : Nat)
    (loader : Option Loader) : Wired (session.setLocal id loader) := by
  refine Wired.settle (Wired.updateResolver wired id _ ?_ ?_)
  · exact fun _ => rfl
  · exact fun resolver present unit registered => wired.joined id resolver present unit registered

end Session

end Hotload
