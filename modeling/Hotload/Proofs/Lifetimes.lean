import Hotload.Proofs.Links

/-!
# What letting go leaves

Letting go removes loaders in rounds and then the files of passing use. However many rounds there
are, they remove nothing that what remains refers to: a round keeps everything that was referred to
when it began, and afterwards no more is referred to than that.
-/

namespace Hotload

/-- Everything that something refers to. -/
def Links.targets (links : Links) : List Target :=
  links.held.map (·.2)
    ++ links.units.flatMap (fun entry =>
      entry.2.parent.toList.map .loader ++ entry.2.temporary.toList.map .temporary)
    ++ links.resolvers.flatMap (fun entry =>
      entry.2.parent.toList.map .loader ++ entry.2.localUnit.toList.map .loader
        ++ entry.2.registry.map fun unit => .loader (.unit unit.2))

namespace Session

/-- What is referred to can be told from the links. -/
theorem targets_eq (session : Session) : session.targets = session.links.targets := by
  simp [targets, Links.targets, links, Table.mapValues, List.flatMap_map, LoadedUnit.targets,
    Resolver.targets, LoadedUnit.links, Resolver.links]

/-- Steps that keep the links keep what is referred to. -/
theorem KeepsLinks.targets {before after : Session} (kept : KeepsLinks before after) :
    after.targets = before.targets := by
  rw [targets_eq, targets_eq, kept.links]

/-- What the host holds is referred to. -/
theorem held_mem_targets {session : Session} {name : String} {target : Target}
    (held : (name, target) ∈ session.held) : target ∈ session.targets := by
  simp only [targets, List.mem_append]
  exact .inl (.inl (List.mem_map.mpr ⟨(name, target), held, rfl⟩))

/-- A registered unit is referred to. -/
theorem registered_mem_targets {session : Session} {id : Nat} {resolver : Resolver}
    (present : session.resolvers.get? id = some resolver) {unit : Nat}
    (registered : unit ∈ resolver.registry.map (·.2)) :
    .loader (.unit unit) ∈ session.targets := by
  obtain ⟨entry, listed, rfl⟩ := List.mem_map.mp registered
  simp only [targets, List.mem_append]
  refine .inr (List.mem_flatMap.mpr ⟨(id, resolver), Table.mem_of_get? present, ?_⟩)
  simp only [Resolver.targets, List.mem_append]
  exact .inr (List.mem_map.mpr ⟨entry, listed, rfl⟩)

/-- Loaders were let go of, and none that what remains refers to. -/
structure Pruned (before after : Session) : Prop where
  rest : after = { before with units := after.units, resolvers := after.resolvers }
  units : ∃ keep : Nat → Bool, after.units = before.units.filter (fun entry => keep entry.1) ∧
    ∀ id, .loader (.unit id) ∈ after.targets → keep id = true
  resolvers : ∃ keep : Nat → Bool,
    after.resolvers = before.resolvers.filter (fun entry => keep entry.1) ∧
      ∀ id, .loader (.resolver id) ∈ after.targets → keep id = true

/-- Letting go of nothing. -/
theorem Pruned.refl (session : Session) : Pruned session session where
  rest := rfl
  units := ⟨fun _ => true, (List.filter_eq_self.mpr fun _ _ => rfl).symm, fun _ _ => rfl⟩
  resolvers := ⟨fun _ => true, (List.filter_eq_self.mpr fun _ _ => rfl).symm, fun _ _ => rfl⟩

/-- What remains refers to no more than was referred to before. -/
theorem Pruned.targets_subset {before after : Session} (pruned : Pruned before after) :
    after.targets ⊆ before.targets := by
  obtain ⟨keepUnit, units, _⟩ := pruned.units
  obtain ⟨keepResolver, resolvers, _⟩ := pruned.resolvers
  have held : after.held = before.held := by rw [pruned.rest]
  intro target referred
  simp only [targets, List.mem_append, List.mem_flatMap, held, units, resolvers,
    List.mem_filter] at referred ⊢
  rcases referred with (holds | ⟨entry, ⟨present, _⟩, refers⟩) | ⟨entry, ⟨present, _⟩, refers⟩
  · exact .inl (.inl holds)
  · exact .inl (.inr ⟨entry, present, refers⟩)
  · exact .inr ⟨entry, present, refers⟩

/-- Letting go twice lets go of nothing that what remains in the end refers to. -/
theorem Pruned.trans {first second third : Session} (left : Pruned first second)
    (right : Pruned second third) : Pruned first third := by
  have subset := right.targets_subset
  obtain ⟨keepEarly, early, earlyKept⟩ := left.units
  obtain ⟨keepLate, late, lateKept⟩ := right.units
  obtain ⟨holdEarly, before, beforeKept⟩ := left.resolvers
  obtain ⟨holdLate, behind, behindKept⟩ := right.resolvers
  refine ⟨?_, ⟨fun id => keepLate id && keepEarly id, ?_, ?_⟩,
    ⟨fun id => holdLate id && holdEarly id, ?_, ?_⟩⟩
  · rw [right.rest, left.rest]
  · rw [late, early, List.filter_filter]
  · intro id referred
    exact Bool.and_eq_true_iff.mpr ⟨lateKept id referred, earlyKept id (subset referred)⟩
  · rw [behind, before, List.filter_filter]
  · intro id referred
    exact Bool.and_eq_true_iff.mpr ⟨behindKept id referred, beforeKept id (subset referred)⟩

/-- One round lets go of nothing that what remains refers to. -/
theorem dropLoaders_pruned (session : Session) : Pruned session session.dropLoaders := by
  have subset : session.dropLoaders.targets ⊆ session.targets := by
    intro target referred
    simp only [targets, dropLoaders, List.mem_append, List.mem_flatMap, List.mem_filter]
      at referred ⊢
    rcases referred with (holds | ⟨entry, ⟨present, _⟩, refers⟩) | ⟨entry, ⟨present, _⟩, refers⟩
    · exact .inl (.inl holds)
    · exact .inl (.inr ⟨entry, present, refers⟩)
    · exact .inr ⟨entry, present, refers⟩
  refine ⟨rfl, ⟨fun id => session.targets.contains (.loader (.unit id)), rfl, ?_⟩,
    ⟨fun id => session.targets.contains (.loader (.resolver id)), rfl, ?_⟩⟩
  · intro id referred
    exact List.contains_iff_mem.mpr (subset referred)
  · intro id referred
    exact List.contains_iff_mem.mpr (subset referred)

/-- Any number of rounds lets go of nothing that what remains refers to. -/
theorem dropAllLoaders_pruned (fuel : Nat) (session : Session) :
    Pruned session (dropAllLoaders fuel session) := by
  induction fuel generalizing session with
  | zero => exact Pruned.refl session
  | succ fuel inductionHypothesis =>
    simp only [dropAllLoaders]
    split
    · exact (dropLoaders_pruned session).trans (inductionHypothesis _)
    · exact Pruned.refl session

/-- A unit that what remains refers to is what it was. -/
theorem Pruned.unit {before after : Session} (pruned : Pruned before after) {id : Nat}
    (referred : .loader (.unit id) ∈ after.targets) :
    after.units.get? id = before.units.get? id := by
  obtain ⟨keep, units, kept⟩ := pruned.units
  rw [units, Table.get?_filter, kept id referred, if_pos rfl]

/-- A resolver that what remains refers to is what it was. -/
theorem Pruned.resolver {before after : Session} (pruned : Pruned before after) {id : Nat}
    (referred : .loader (.resolver id) ∈ after.targets) :
    after.resolvers.get? id = before.resolvers.get? id := by
  obtain ⟨keep, resolvers, kept⟩ := pruned.resolvers
  rw [resolvers, Table.get?_filter, kept id referred, if_pos rfl]

/-- A unit that remains is what it was. -/
theorem Pruned.unit_before {before after : Session} (pruned : Pruned before after) {id : Nat}
    {unit : LoadedUnit} (remains : after.units.get? id = some unit) :
    before.units.get? id = some unit := by
  obtain ⟨keep, units, _⟩ := pruned.units
  rw [units, Table.get?_filter] at remains
  split at remains
  · exact remains
  · cases remains

/-- A resolver that remains is what it was. -/
theorem Pruned.resolver_before {before after : Session} (pruned : Pruned before after) {id : Nat}
    {resolver : Resolver} (remains : after.resolvers.get? id = some resolver) :
    before.resolvers.get? id = some resolver := by
  obtain ⟨keep, resolvers, _⟩ := pruned.resolvers
  rw [resolvers, Table.get?_filter] at remains
  split at remains
  · exact remains
  · cases remains

theorem dropTemporary_keepsLinks (session : Session) (id : Nat) :
    KeepsLinks session (session.dropTemporary id) :=
  (release_keepsLinks session id).trans ⟨rfl, Nat.le_refl _⟩

/-- The loaders that are left when nothing more can be let go of. -/
def keptLoaders (session : Session) : Session :=
  dropAllLoaders (session.units.length + session.resolvers.length) session

/-- The files of passing use that nothing refers to. -/
def deadTemporaries (session : Session) : List Nat :=
  (session.temporaries.map (·.1)).filter fun id => !session.targets.contains (.temporary id)

/-- Letting go is letting go of loaders and then of the files that nothing refers to. -/
theorem settle_eq (session : Session) :
    session.settle =
      session.keptLoaders.deadTemporaries.foldl dropTemporary session.keptLoaders :=
  rfl

theorem keptLoaders_pruned (session : Session) : Pruned session session.keptLoaders :=
  dropAllLoaders_pruned _ session

/-- Letting go of files keeps the links among loaders. -/
theorem dropTemporaries_keepsLinks (session : Session) (dead : List Nat) :
    KeepsLinks session (dead.foldl dropTemporary session) := by
  induction dead generalizing session with
  | nil => exact KeepsLinks.refl session
  | cons first rest inductionHypothesis =>
    exact (dropTemporary_keepsLinks session first).trans (inductionHypothesis _)

/-- What is referred to after letting go is what the loaders kept refer to. -/
theorem settle_keepsLinks (session : Session) : KeepsLinks session.keptLoaders session.settle := by
  rw [settle_eq]
  exact dropTemporaries_keepsLinks _ _

/-- Letting go leaves what the host holds. -/
theorem settle_held (session : Session) : session.settle.held = session.held := by
  have kept : session.settle.held = session.keptLoaders.held :=
    congrArg Links.held session.settle_keepsLinks.links
  rw [kept, session.keptLoaders_pruned.rest]

/-- Letting go gives no number again. -/
theorem settle_fresh (session : Session) : session.fresh ≤ session.settle.fresh := by
  have kept := session.settle_keepsLinks.fresh
  rw [session.keptLoaders_pruned.rest] at kept
  exact kept

/-- Letting go leaves a unit alone that what remains refers to. -/
theorem settle_unit (session : Session) {id : Nat}
    (referred : .loader (.unit id) ∈ session.settle.targets) :
    (session.settle.units.get? id).map LoadedUnit.links =
      (session.units.get? id).map LoadedUnit.links := by
  rw [session.settle_keepsLinks.targets] at referred
  rw [session.settle_keepsLinks.unit, session.keptLoaders_pruned.unit referred]

/-- Letting go leaves a resolver alone that what remains refers to. -/
theorem settle_resolver (session : Session) {id : Nat}
    (referred : .loader (.resolver id) ∈ session.settle.targets) :
    (session.settle.resolvers.get? id).map Resolver.links =
      (session.resolvers.get? id).map Resolver.links := by
  rw [session.settle_keepsLinks.targets] at referred
  rw [session.settle_keepsLinks.resolver, session.keptLoaders_pruned.resolver referred]

end Session

end Hotload
