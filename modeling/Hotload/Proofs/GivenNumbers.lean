import Hotload.Proofs.Operations
import Mathlib.Data.List.Nodup

/-!
# Numbers given once

Units and resolvers are kept under numbers, and a number is given once. So a table never has two rows
under one number, and a row is what is found under its number. Like every invariant of sessions, it
is kept because steps either keep the links, or let go of rows, or add one row under the next number.
-/

namespace Hotload

namespace Session

/-- Every number stands for one unit or one resolver, and was given before. -/
structure Distinct (session : Session) : Prop where
  units : (session.units.map (·.1)).Nodup
  resolvers : (session.resolvers.map (·.1)).Nodup
  unitsGiven : ∀ id ∈ session.units.map (·.1), id < session.fresh
  resolversGiven : ∀ id ∈ session.resolvers.map (·.1), id < session.fresh

variable {session before after : Session}

/-- A session without loaders has no numbers. -/
theorem distinct_start (files : Files) : Distinct { files } :=
  ⟨List.nodup_nil, List.nodup_nil, by simp, by simp⟩

/-- What stands in a table with distinct numbers is found. -/
theorem get?_of_mem {α : Type} {table : Table α} (once : (table.map (·.1)).Nodup) {id : Nat}
    {value : α} (listed : (id, value) ∈ table) : table.get? id = some value := by
  obtain ⟨found, present⟩ := Option.isSome_iff_exists.mp
    (Table.has_iff.mpr (List.mem_map_of_mem listed) : table.has id = true)
  have same := List.inj_on_of_nodup_map once (Table.mem_of_get? present) listed rfl
  rw [present, (Prod.mk.inj same).2]

/-- Steps with the same rows keep numbers distinct. -/
theorem Distinct.rows (distinct : Distinct before)
    (units : after.units.map (·.1) = before.units.map (·.1))
    (resolvers : after.resolvers.map (·.1) = before.resolvers.map (·.1))
    (fresh : before.fresh ≤ after.fresh) : Distinct after where
  units := units ▸ distinct.units
  resolvers := resolvers ▸ distinct.resolvers
  unitsGiven id listed := Nat.lt_of_lt_of_le (distinct.unitsGiven id (units ▸ listed)) fresh
  resolversGiven id listed :=
    Nat.lt_of_lt_of_le (distinct.resolversGiven id (resolvers ▸ listed)) fresh

/-- Steps that keep the links keep the rows. -/
theorem Distinct.keeps (distinct : Distinct before) (kept : KeepsLinks before after) :
    Distinct after := by
  have units := congrArg (fun links => links.units.map (·.1)) kept.links
  have resolvers := congrArg (fun links => links.resolvers.map (·.1)) kept.links
  refine distinct.rows ?_ ?_ kept.fresh
  · simpa [links, Table.mapValues, Function.comp_def] using units
  · simpa [links, Table.mapValues, Function.comp_def] using resolvers

/-- Changes of resolvers keep the rows. -/
theorem Distinct.updateResolver (distinct : Distinct session) (id : Nat)
    (change : Resolver → Resolver) : Distinct (session.updateResolver id change) := by
  refine distinct.rows rfl ?_ (Nat.le_refl _)
  simp only [Session.updateResolver, Table.update, List.map_map]
  refine List.map_congr_left fun entry _ => ?_
  simp only [Function.comp_apply]
  split
  · next same => exact same.symm
  · rfl

/-- Letting go of rows keeps the others apart. -/
theorem Distinct.pruned (distinct : Distinct before) (pruned : Pruned before after) :
    Distinct after := by
  have fresh : after.fresh = before.fresh := by rw [pruned.rest]
  obtain ⟨keepUnit, units, _⟩ := pruned.units
  obtain ⟨keepResolver, resolvers, _⟩ := pruned.resolvers
  have fewerUnits : (after.units.map (·.1)).Sublist (before.units.map (·.1)) :=
    units ▸ List.filter_sublist.map _
  have fewerResolvers : (after.resolvers.map (·.1)).Sublist (before.resolvers.map (·.1)) :=
    resolvers ▸ List.filter_sublist.map _
  exact ⟨distinct.units.sublist fewerUnits, distinct.resolvers.sublist fewerResolvers,
    fun id listed => fresh ▸ distinct.unitsGiven id (fewerUnits.subset listed),
    fun id listed => fresh ▸ distinct.resolversGiven id (fewerResolvers.subset listed)⟩

theorem Distinct.settle (distinct : Distinct session) : Distinct session.settle :=
  (distinct.pruned session.keptLoaders_pruned).keeps session.settle_keepsLinks

/-- A row under the next number is apart from all others. -/
theorem nodup_add {α : Type} {table : Table α} {fresh : Nat} (once : (table.map (·.1)).Nodup)
    (given : ∀ id ∈ table.map (·.1), id < fresh) (value : α) :
    ((table.add fresh value).map (·.1)).Nodup ∧
      ∀ id ∈ (table.add fresh value).map (·.1), id < fresh + 1 := by
  have rows : (table.add fresh value).map (·.1) = table.map (·.1) ++ [fresh] := by
    simp [Table.add]
  rw [rows]
  constructor
  · refine List.nodup_append'.mpr ⟨once, List.nodup_singleton _, fun id listed new => ?_⟩
    have same := List.mem_singleton.mp new
    exact Nat.lt_irrefl _ (same ▸ given id listed)
  · intro id listed
    rcases List.mem_append.mp listed with early | new
    · exact Nat.lt_succ_of_lt (given id early)
    · exact Nat.lt_succ_of_le (Nat.le_of_eq (List.mem_singleton.mp new))

theorem Distinct.addUnit (distinct : Distinct session) (unit : LoadedUnit) :
    Distinct (session.addUnit unit).1 where
  units := (nodup_add distinct.units distinct.unitsGiven unit).1
  resolvers := distinct.resolvers
  unitsGiven := (nodup_add distinct.units distinct.unitsGiven unit).2
  resolversGiven id listed := Nat.lt_succ_of_lt (distinct.resolversGiven id listed)

theorem Distinct.register (distinct : Distinct session) (id : Nat) (name artifact : String)
    (temporary : Option Nat) : Distinct (session.register id name artifact temporary).1 := by
  rcases session.register_cases id name artifact temporary with
    ⟨error, failed⟩ | ⟨resolver, size, content, _, _, _, succeeded⟩
  · rw [failed]
    exact distinct
  · rw [succeeded, enlist_eq]
    exact ((distinct.addUnit _).updateResolver id _).settle

theorem Distinct.unload (distinct : Distinct session) (id : Nat) :
    Distinct (session.unload id).1 := by
  unfold Session.unload
  split
  · exact distinct
  · next resolver _ =>
    exact ((distinct.keeps (purge_keepsLinks session resolver.layout)).updateResolver id _).settle

theorem Distinct.openResolver (distinct : Distinct session) (config : Config) (compiler : Compiler)
    (platform : Platform) (parent : Option Loader) :
    Distinct (session.openResolver config compiler platform parent).1 := by
  unfold Session.openResolver
  split
  · exact distinct
  · have prepared := distinct.keeps
      (prepare_keepsLinks session (Staging.ofConfig config).layout parent)
    dsimp only
    split
    · next heard =>
      rw [heard] at prepared
      exact prepared
    · next after heard =>
      rw [heard] at prepared
      have reaped : Distinct after.addReaper.1 := prepared.rows rfl rfl (Nat.le_succ _)
      have added := fun resolver => nodup_add reaped.resolvers reaped.resolversGiven resolver
      exact ⟨reaped.units, (added _).1, fun id listed => Nat.lt_succ_of_lt (reaped.unitsGiven id listed),
        (added _).2⟩

/-- Numbers stay distinct. -/
theorem distinct_persistent : Persistent Distinct where
  keeps := fun distinct left => distinct.keeps left.toKeepsLinks
  find := fun distinct loader name =>
    distinct.keeps (quiet_follows.find _ loader name).toKeepsLinks
  findRegistered := fun distinct id name =>
    distinct.keeps (quiet_follows.findRegistered _ id name).toKeepsLinks
  settle := Distinct.settle
  hold := fun distinct _ => distinct.rows rfl rfl (Nat.le_refl _)
  addUnit := fun distinct unit _ => distinct.addUnit unit
  register := Distinct.register
  setLocal := fun distinct id _ => (distinct.updateResolver id _).settle
  openResolver := Distinct.openResolver

/-- In every session that operations lead to, numbers are distinct. -/
theorem Reachable.distinct (reached : Reachable session) : Distinct session :=
  distinct_persistent.reachable Distinct.unload distinct_start reached

end Session

end Hotload
