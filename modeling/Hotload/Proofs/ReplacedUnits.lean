import Hotload.Proofs.GivenNumbers
import Hotload.Proofs.HostRuns

/-!
# Units that are replaced

A unit that is registered takes the place of the units with its name. They are let go of, and with
them only what nothing else refers to: their parent is that of their resolver, which still refers to
it. So nothing is deleted but files of passing use that one of them kept alive, and as long as there
are none, registering leaves the file tree alone. If there is one, its path may be that of the very
artifact that was registered.
-/

namespace Hotload

namespace Session

variable {session : Session} {id : Nat} {resolver : Resolver} {unit : LoadedUnit}

/-- A unit that a resolver has registered under a name. -/
def Replaced (resolver : Resolver) (name : String) (number : Nat) : Prop :=
  (name, number) ∈ resolver.registry

/-- A file of passing use is kept alive by a unit registered under a name. -/
def KeptByReplaced (session : Session) (resolver : Resolver) (name : String) (temporary : Nat) :
    Prop :=
  ∃ number there, Replaced resolver name number ∧ session.units.get? number = some there ∧
    there.temporary = some temporary

/-- No unit registered under a name keeps a file of passing use alive. -/
def Untied (session : Session) (resolver : Resolver) (name : String) : Prop :=
  ∀ number there, Replaced resolver name number → session.units.get? number = some there →
    there.temporary = none

theorem Untied.notKept {name : String} (untied : Untied session resolver name) (temporary : Nat) :
    ¬ KeptByReplaced session resolver name temporary := by
  rintro ⟨number, there, replaced, found, keeps⟩
  rw [untied number there replaced found] at keeps
  cases keeps

/-- While loaders are let go of, all of those that were registered before stay but for units that
were replaced. -/
structure Replacing (session : Session) (id : Nat) (resolver : Resolver) (unit : LoadedUnit)
    (now : Session) : Prop where
  held : now.held = session.held
  resolvers : now.resolvers = (session.enlisted id unit).resolvers
  units : ∀ entry ∈ session.units, ¬ Replaced resolver unit.name entry.1 → entry ∈ now.units

section

variable {now : Session} (replacing : Replacing session id resolver unit now)
  (present : session.resolvers.get? id = some resolver)
include replacing present

/-- The resolver refers to what it referred to and to the new unit, but not to the units replaced. -/
theorem Replacing.resolver_targets {target : Target} (referred : target ∈ resolver.targets)
    (other : ∀ number, target = .loader (.unit number) → ¬ Replaced resolver unit.name number) :
    target ∈ now.targets := by
  have row : (id, { resolver with registry := resolver.registry.register unit.name session.fresh }) ∈
      now.resolvers := by
    rw [replacing.resolvers]
    exact List.mem_map.mpr ⟨(id, resolver), Table.mem_of_get? present, if_pos rfl⟩
  refine List.mem_append_right _ (List.mem_flatMap.mpr ⟨_, row, ?_⟩)
  simp only [Resolver.targets, List.mem_append, List.mem_map] at referred ⊢
  rcases referred with loaders | ⟨⟨name, number⟩, registered, rfl⟩
  · exact .inl loaders
  · have kept : name ≠ unit.name := by
      rintro rfl
      exact other number rfl registered
    refine .inr ⟨(name, number), ?_, rfl⟩
    exact List.mem_append_left _ (List.mem_filter.mpr ⟨registered, by simpa using kept⟩)

variable (wired : Wired session) (distinct : Distinct session)
include wired distinct

/-- What was referred to is referred to still, but for the units replaced and the files that they
kept alive. -/
theorem Replacing.targets {target : Target} (referred : target ∈ session.targets)
    (other : ∀ number, target = .loader (.unit number) → ¬ Replaced resolver unit.name number)
    (free : ∀ temporary, target = .temporary temporary →
      ¬ KeptByReplaced session resolver unit.name temporary) :
    target ∈ now.targets := by
  rcases List.mem_append.mp referred with early | ofResolver
  · rcases List.mem_append.mp early with held | ofUnit
    · refine List.mem_append_left _ (List.mem_append_left _ ?_)
      rw [replacing.held]
      exact held
    · obtain ⟨⟨number, there⟩, listed, refers⟩ := List.mem_flatMap.mp ofUnit
      by_cases replaced : Replaced resolver unit.name number
      · -- But for files, a unit that is replaced refers to nothing but the parent of its resolver.
        have found := get?_of_mem distinct.units listed
        obtain ⟨same, stands, parent⟩ := wired.joined id resolver present number
          (List.mem_map.mpr ⟨_, replaced, rfl⟩)
        obtain rfl := Option.some.inj (stands.symm.trans found)
        simp only [LoadedUnit.targets, List.mem_append, List.mem_map] at refers
        rcases refers with ⟨loader, passes, rfl⟩ | ⟨temporary, keeps, rfl⟩
        · refine replacing.resolver_targets present ?_ other
          rw [parent] at passes
          simp only [Resolver.targets, List.mem_append, List.mem_map]
          exact .inl (.inl ⟨loader, passes, rfl⟩)
        · exact absurd ⟨number, same, replaced, found, Option.mem_toList.mp keeps⟩ (free temporary rfl)
      · have row := replacing.units _ listed replaced
        exact List.mem_append_left _
          (List.mem_append_right _ (List.mem_flatMap.mpr ⟨_, row, refers⟩))
  · obtain ⟨⟨number, there⟩, listed, refers⟩ := List.mem_flatMap.mp ofResolver
    by_cases here : number = id
    · subst here
      obtain rfl := Option.some.inj (present.symm.trans (get?_of_mem distinct.resolvers listed))
      exact replacing.resolver_targets present refers other
    · have row : (number, there) ∈ now.resolvers := by
        rw [replacing.resolvers]
        exact List.mem_map.mpr ⟨_, listed, if_neg here⟩
      exact List.mem_append_right _ (List.mem_flatMap.mpr ⟨_, row, refers⟩)

/-- A round lets go of no others than the units replaced. -/
theorem Replacing.dropLoaders (rooted : Rooted session) : Replacing session id resolver unit now.dropLoaders where
  held := replacing.held
  resolvers := by
    have kept : now.resolvers.filter
        (fun entry => now.targets.contains (.loader (.resolver entry.1))) = now.resolvers := by
      refine List.filter_eq_self.mpr fun entry listed => List.contains_iff_mem.mpr ?_
      rw [replacing.resolvers] at listed
      obtain ⟨row, early, rfl⟩ := List.mem_map.mp listed
      have number : (if row.1 = id then (id, { row.2 with
          registry := row.2.registry.register unit.name session.fresh }) else row).1 = row.1 := by
        split
        · next same => exact same.symm
        · rfl
      have referred := rooted.resolvers row.1 (Table.has_iff.mpr (List.mem_map_of_mem early))
      simp only [number]
      exact replacing.targets present wired distinct referred (by simp) (by simp)
    exact kept.trans replacing.resolvers
  units entry listed standing := by
    have row := replacing.units entry listed standing
    have referred := rooted.units entry.1 (Table.has_iff.mpr (List.mem_map_of_mem listed))
    refine List.mem_filter.mpr ⟨row, List.contains_iff_mem.mpr ?_⟩
    refine replacing.targets present wired distinct referred ?_ (by simp)
    rintro number same
    cases same
    exact standing

end

section

variable (clean : Clean session) (wired : Wired session) (distinct : Distinct session)
  (present : session.resolvers.get? id = some resolver)
include clean wired distinct present

/-- All rounds together let go of no others than the units replaced. -/
theorem Clean.enlisted_replacing (unit : LoadedUnit) :
    Replacing session id resolver unit (session.enlisted id unit).keptLoaders := by
  have rounds (fuel : Nat) (now : Session) (replacing : Replacing session id resolver unit now) :
      Replacing session id resolver unit (dropAllLoaders fuel now) := by
    induction fuel generalizing now with
    | zero => exact replacing
    | succ fuel inductionHypothesis =>
      rw [dropAllLoaders]
      split
      · exact inductionHypothesis _ (replacing.dropLoaders present wired distinct clean.toRooted)
      · exact replacing
  exact rounds _ _ ⟨rfl, rfl, fun entry listed _ => List.mem_append_left _ listed⟩

/-- The files of passing use that are let go of are some that units replaced kept alive. -/
theorem Clean.enlisted_dead {temporary : Nat}
    (dead : temporary ∈ (session.enlisted id unit).keptLoaders.deadTemporaries) :
    KeptByReplaced session resolver unit.name temporary := by
  have replacing := clean.enlisted_replacing wired distinct present unit
  obtain ⟨listed, unreferred⟩ := List.mem_filter.mp dead
  rw [(session.enlisted id unit).keptLoaders_pruned.rest] at listed
  obtain ⟨file, tracked⟩ := Option.isSome_iff_exists.mp
    (Table.has_iff.mpr listed : session.temporaries.has temporary = true)
  by_contra free
  have referred := replacing.targets present wired distinct (clean.settled temporary file tracked)
    (by simp) fun other same => by cases same; exact free
  simp [referred] at unreferred

/-- Registering deletes no file if no unit that is replaced keeps one alive. -/
theorem Clean.enlisted_settle (untied : Untied session resolver unit.name) :
    (session.enlisted id unit).settle.files = session.files ∧
      (session.enlisted id unit).settle.temporaries = session.temporaries := by
  have alive : (session.enlisted id unit).keptLoaders.deadTemporaries = [] :=
    List.eq_nil_iff_forall_not_mem.mpr fun temporary dead =>
      untied.notKept temporary (clean.enlisted_dead wired distinct present dead)
  rw [settle_eq, alive, List.foldl_nil, (session.enlisted id unit).keptLoaders_pruned.rest]
  exact ⟨rfl, rfl⟩

end

end Session

end Hotload
