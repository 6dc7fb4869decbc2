import Hotload.Proofs.Operations
import Hotload.Proofs.RegistryHistory
import Hotload.Proofs.SearchDepth
import Mathlib.Logic.Relation

/-!
# Registrations under way

Several registrations with one resolver may be under way at once, next to unloads, look-ups and
changes of files. Each first asks for the length of its artifact, then binds it, and at last changes
the registry in one step. `Step` takes any of them a little further, whichever it is, so a run is
any interleaving; a registration that nothing interrupts is a step of its own. The law is that the
registry is always the outcome of the registrations that succeeded since the last unload, in the
order in which they changed the registry. When they began, and what failed meanwhile, leaves no
trace.
-/

namespace Hotload

namespace Session

/-- How far a registration has come. -/
inductive Stage where
  | asked
  /-- The artifact is there. -/
  | sized
  /-- The artifact is bound. -/
  | bound (content : UnitContent)

/-- A registration under way. -/
structure Registering where
  name : String
  artifact : String
  temporary : Option Nat
  stage : Stage

/-- A session with registrations under way, and the registrations since the last unload, in the
order in which they changed the registry. -/
structure Registrations where
  session : Session
  underWay : List Registering
  history : List (String × Nat)

/-- What a result adds to the history. -/
def noted (name : String) : Except LoadError Nat → List (String × Nat)
  | .ok unit => [(name, unit)]
  | .error _ => []

/-- One step of whatever goes on around the registry of a resolver, which is held under a name. A
registration looks for its artifact, binds it and changes the registry, in three steps between which
others may take theirs; an unload is one step. The history is that of the registry: only a
registration adds to it, and an unload ends it. -/
inductive Step (id : Nat) (holder : String) : Registrations → Registrations → Prop
  /-- A registration that nothing interrupts. -/
  | register (session : Session) (underWay : List Registering) (history : List (String × Nat))
      (name artifact : String) (temporary : Option Nat) :
      Step id holder ⟨session, underWay, history⟩
        ⟨(session.register id name artifact temporary).1, underWay,
          history ++ noted name (session.register id name artifact temporary).2⟩
  | begin (session : Session) (underWay : List Registering) (history : List (String × Nat))
      (name artifact : String) (temporary : Option Nat) :
      Step id holder ⟨session, underWay, history⟩
        ⟨session, ⟨name, artifact, temporary, .asked⟩ :: underWay, history⟩
  | size (session : Session) (before after : List Registering) (history : List (String × Nat))
      (name artifact : String) (temporary : Option Nat) (size : Nat)
      (there : UnitContent.artifactSize session.files artifact = .ok size) :
      Step id holder ⟨session, before ++ ⟨name, artifact, temporary, .asked⟩ :: after, history⟩
        ⟨session, before ++ ⟨name, artifact, temporary, .sized⟩ :: after, history⟩
  | sizeFails (session : Session) (before after : List Registering)
      (history : List (String × Nat)) (name artifact : String) (temporary : Option Nat)
      (error : UnitError)
      (missing : UnitContent.artifactSize session.files artifact = .error error) :
      Step id holder ⟨session, before ++ ⟨name, artifact, temporary, .asked⟩ :: after, history⟩
        ⟨session, before ++ after, history⟩
  | bind (session : Session) (before after : List Registering) (history : List (String × Nat))
      (name artifact : String) (temporary : Option Nat) (resolver : Resolver)
      (content : UnitContent) (present : session.resolvers.get? id = some resolver)
      (opened : UnitContent.bind resolver.platform session.files artifact = .ok content) :
      Step id holder ⟨session, before ++ ⟨name, artifact, temporary, .sized⟩ :: after, history⟩
        ⟨session, before ++ ⟨name, artifact, temporary, .bound content⟩ :: after, history⟩
  | bindFails (session : Session) (before after : List Registering)
      (history : List (String × Nat)) (name artifact : String) (temporary : Option Nat)
      (resolver : Resolver) (error : UnitError)
      (present : session.resolvers.get? id = some resolver)
      (refused : UnitContent.bind resolver.platform session.files artifact = .error error) :
      Step id holder ⟨session, before ++ ⟨name, artifact, temporary, .sized⟩ :: after, history⟩
        ⟨session, before ++ after, history⟩
  | swap (session : Session) (before after : List Registering) (history : List (String × Nat))
      (name artifact : String) (temporary : Option Nat) (resolver : Resolver)
      (content : UnitContent) (present : session.resolvers.get? id = some resolver) :
      Step id holder
        ⟨session, before ++ ⟨name, artifact, temporary, .bound content⟩ :: after, history⟩
        ⟨(session.enlist id (unitOf resolver name artifact temporary content)).1, before ++ after,
          history ++
            [(name, (session.enlist id (unitOf resolver name artifact temporary content)).2)]⟩
  | unload (session : Session) (underWay : List Registering) (history : List (String × Nat)) :
      Step id holder ⟨session, underWay, history⟩ ⟨(session.unload id).1, underWay, []⟩
  | changeFiles (session : Session) (underWay : List Registering)
      (history : List (String × Nat)) (change : Files → Files) :
      Step id holder ⟨session, underWay, history⟩
        ⟨session.perform (.changeFiles change), underWay, history⟩
  | find (session : Session) (underWay : List Registering) (history : List (String × Nat))
      (loader : Loader) (name : String) :
      Step id holder ⟨session, underWay, history⟩
        ⟨session.perform (.find loader name), underWay, history⟩
  | findRegistered (session : Session) (underWay : List Registering)
      (history : List (String × Nat)) (name : String) :
      Step id holder ⟨session, underWay, history⟩
        ⟨session.perform (.findRegistered id name), underWay, history⟩
  | hold (session : Session) (underWay : List Registering) (history : List (String × Nat))
      (other : String) (target : Target) (another : other ≠ holder) :
      Step id holder ⟨session, underWay, history⟩
        ⟨session.perform (.hold other target), underWay, history⟩
  | letGo (session : Session) (underWay : List Registering) (history : List (String × Nat))
      (other : String) (another : other ≠ holder) :
      Step id holder ⟨session, underWay, history⟩
        ⟨session.perform (.letGo other), underWay, history⟩

/-- A resolver that is held has the given registry, and the registered units are there under their
names. -/
structure Lists (session : Session) (id : Nat) (holder : String) (registry : Registry Nat) :
    Prop where
  wired : Wired session
  held : (holder, .loader (.resolver id)) ∈ session.held
  registered : (session.resolvers.get? id).map (·.registry) = some registry
  named : ∀ entry ∈ registry, (session.units.get? entry.2).map (·.name) = some entry.1

variable {session : Session} {id : Nat} {holder : String} {registry : Registry Nat}

/-- Sessions with the links of one that lists a registry list it too. -/
theorem Lists.of_links {after : Session} (lists : Lists session id holder registry)
    (wired : Wired after) (held : (holder, .loader (.resolver id)) ∈ after.held)
    (resolver : (after.resolvers.get? id).map Resolver.links =
      (session.resolvers.get? id).map Resolver.links)
    (units : ∀ entry ∈ registry, (after.units.get? entry.2).map LoadedUnit.links =
      (session.units.get? entry.2).map LoadedUnit.links) :
    Lists after id holder registry where
  wired := wired
  held := held
  registered := by
    have same := congrArg (Option.map ResolverLinks.registry) resolver
    rw [Option.map_map, Option.map_map] at same
    exact same.trans lists.registered
  named := by
    intro entry listed
    have same := congrArg (Option.map UnitLinks.name) (units entry listed)
    rw [Option.map_map, Option.map_map] at same
    exact same.trans (lists.named entry listed)

/-- Steps that keep the links leave the registry. -/
theorem Lists.keeps {after : Session} (lists : Lists session id holder registry)
    (kept : KeepsLinks session after) : Lists after id holder registry := by
  have held : after.held = session.held := congrArg Links.held kept.links
  refine lists.of_links (lists.wired.keeps kept) (held ▸ lists.held) (kept.resolver id) ?_
  exact fun entry _ => kept.unit entry.2

/-- Letting go leaves the registry: the resolver is held, and it refers to its units. -/
theorem Lists.settle (lists : Lists session id holder registry) :
    Lists session.settle id holder registry := by
  have held : (holder, .loader (.resolver id)) ∈ session.settle.held := by
    rw [settle_held]
    exact lists.held
  have same := session.settle_resolver (held_mem_targets held)
  refine lists.of_links lists.wired.settle held same ?_
  intro entry listed
  have registries := congrArg (Option.map ResolverLinks.registry) same
  rw [Option.map_map, Option.map_map] at registries
  obtain ⟨resolver, present, current⟩ :=
    Option.map_eq_some_iff.mp (registries.trans lists.registered)
  have current : resolver.registry = registry := current
  refine session.settle_unit (registered_mem_targets present ?_)
  rw [current]
  exact List.mem_map.mpr ⟨entry, listed, rfl⟩

/-- A swap registers the unit under its name. -/
theorem Lists.enlist (lists : Lists session id holder registry) {unit : LoadedUnit}
    (parent : (session.resolvers.get? id).map (·.parent) = some unit.parent) :
    Lists (session.enlist id unit).1 id holder
      (registry.register unit.name (session.enlist id unit).2) := by
  rw [enlist_eq]
  suffices changed : Lists (session.enlisted id unit) id holder
      (registry.register unit.name session.fresh) from changed.settle
  refine ⟨lists.wired.enlisted parent, lists.held, ?_, ?_⟩
  · obtain ⟨resolver, present, rfl⟩ := Option.map_eq_some_iff.mp lists.registered
    have there : (session.addUnit unit).1.resolvers.get? id = some resolver := present
    simp only [enlisted, updateResolver, Table.get?_update, ↓reduceIte, there, Option.map_some]
  · intro entry listed
    have units : (session.enlisted id unit).units = (session.addUnit unit).1.units := rfl
    rw [units]
    rcases List.mem_append.mp listed with earlier | new
    · have stood := lists.named entry (List.mem_filter.mp earlier).1
      obtain ⟨there, present, name⟩ := Option.map_eq_some_iff.mp stood
      rw [addUnit_units, present, Option.some_or, Option.map_some, name]
    · obtain rfl := List.mem_singleton.mp new
      have added := lists.wired.addUnit_present unit
      exact congrArg (Option.map (·.name)) added

/-- An unload empties the registry. -/
theorem Lists.unload (lists : Lists session id holder registry) :
    Lists (session.unload id).1 id holder [] := by
  obtain ⟨resolver, present, _⟩ := Option.map_eq_some_iff.mp lists.registered
  have purged := lists.keeps (purge_keepsLinks session resolver.layout)
  have there : (session.purge resolver.layout).1.resolvers.get? id = some resolver := present
  suffices emptied : Lists ((session.purge resolver.layout).1.updateResolver id
      fun resolver => { resolver with registry := [] }) id holder [] by
    have settled := emptied.settle
    simpa only [Session.unload, present] using settled
  refine ⟨?_, purged.held, ?_, by simp⟩
  · refine Wired.updateResolver purged.wired id _ ?_ ?_
    · exact fun _ => rfl
    · intro _ _ _ registered
      simp at registered
  · simp [updateResolver, Table.get?_update, there]

/-- Registering adds to the registry what it notes in the history. -/
theorem Lists.register (lists : Lists session id holder registry) (name artifact : String)
    (temporary : Option Nat) :
    Lists (session.register id name artifact temporary).1 id holder
      ((noted name (session.register id name artifact temporary).2).foldl
        (fun registry entry => Registry.register registry entry.1 entry.2) registry) := by
  rcases session.register_cases id name artifact temporary with
    ⟨error, failed⟩ | ⟨resolver, size, content, present, _, _, succeeded⟩
  · rw [failed]
    exact lists
  · rw [succeeded]
    exact lists.enlist (by rw [present]; rfl)

/-- Holding something else under another name leaves the registry. -/
theorem Lists.hold (lists : Lists session id holder registry) {other : String}
    (another : other ≠ holder) (target : Target) :
    Lists (session.hold other target) id holder registry where
  wired := ⟨lists.wired.numbered, lists.wired.joined⟩
  held := List.mem_append_left _
    (List.mem_filter.mpr ⟨lists.held, by simpa using another.symm⟩)
  registered := lists.registered
  named := lists.named

/-- Letting go of what another name holds leaves the registry. -/
theorem Lists.letGo (lists : Lists session id holder registry) {other : String}
    (another : other ≠ holder) : Lists (session.letGo other) id holder registry := by
  suffices dropped : Lists { session with
      held := session.held.filter fun entry => entry.1 ≠ other } id holder registry from
    dropped.settle
  exact ⟨⟨lists.wired.numbered, lists.wired.joined⟩,
    List.mem_filter.mpr ⟨lists.held, by simpa using another.symm⟩, lists.registered, lists.named⟩

/-- Every step leaves the registry the outcome of the history. A registration that succeeds adds to
both, at the step in which it changes the registry, and an unload empties both. No other step takes
a registered unit away. -/
theorem Step.lists {state next : Registrations} (step : Step id holder state next)
    (lists : Lists state.session id holder (Registry.ofHistory state.history)) :
    Lists next.session id holder (Registry.ofHistory next.history) := by
  cases step with
  | register session underWay history name artifact temporary =>
    simp only [Registry.ofHistory, List.foldl_append]
    exact lists.register name artifact temporary
  | begin => exact lists
  | size => exact lists
  | sizeFails => exact lists
  | bind => exact lists
  | bindFails => exact lists
  | swap session before after history name artifact temporary resolver content present =>
    rw [Registry.ofHistory_concat]
    exact lists.enlist (by rw [present]; rfl)
  | unload => exact lists.unload
  | changeFiles session underWay history change => exact lists.keeps ⟨rfl, Nat.le_refl _⟩
  | find session underWay history loader name =>
    exact lists.keeps (quiet_follows.find session loader name).toKeepsLinks
  | findRegistered session underWay history name =>
    exact lists.keeps (quiet_follows.findRegistered session id name).toKeepsLinks
  | hold session underWay history other target another => exact (lists.hold another target).settle
  | letGo session underWay history other another => exact lists.letGo another

/-- Every run leaves the registry the outcome of the history, by induction on its steps. -/
theorem run_lists {state last : Registrations}
    (run : Relation.ReflTransGen (Step id holder) state last)
    (lists : Lists state.session id holder (Registry.ofHistory state.history)) :
    Lists last.session id holder (Registry.ofHistory last.history) := by
  induction run with
  | refl => exact lists
  | tail _ step inductionHypothesis => exact step.lists inductionHypothesis

/-- A look-up among registered units asks them one by one, the most recent first, and passes over
those that miss. -/
theorem findRegistered_eq {resolver : Resolver} (present : session.resolvers.get? id = some resolver)
    (name : String) :
    (session.findRegistered id name).2 =
      Answer.firstHit (resolver.registry.recentFirst.map fun unit =>
        (session.find (.unit unit) name).2) := by
  unfold findRegistered
  rw [present]
  exact (askUnits_comes (askWithin_orderly _) session name _).gives

/-- A registration that fails changes nothing. -/
theorem register_error {name artifact : String} {temporary : Option Nat} {error : LoadError}
    (failed : (session.register id name artifact temporary).2 = .error error) :
    (session.register id name artifact temporary).1 = session := by
  rcases session.register_cases id name artifact temporary with
    ⟨_, unchanged⟩ | ⟨_, _, _, _, _, _, succeeded⟩
  · rw [unchanged]
  · rw [succeeded] at failed
    cases failed

/-- Whatever registrations and unloads a run interleaves, the registry tells of the registrations
that succeeded since the last unload: their names once each, by their last registration; under every
name the unit of its last registration, which is there; the units from the most recent on in exactly
the opposite order; and a look-up among them that takes the first hit in that order. A registration
that fails changes nothing. -/
theorem registrations_ordered {start : Session} {state : Registrations} (reached : Reachable start)
    (empty : (start.resolvers.get? id).map (·.registry) = some [])
    (held : (holder, .loader (.resolver id)) ∈ start.held)
    (run : Relation.ReflTransGen (Step id holder) ⟨start, [], []⟩ state) :
    ∃ resolver, state.session.resolvers.get? id = some resolver ∧
      resolver.registry.names = (state.history.map (·.1)).dedup ∧
      resolver.registry.names.Nodup ∧
      (∀ name, resolver.registry.find? name = state.history.reverse.lookup name) ∧
      (∀ name unit, resolver.registry.find? name = some unit →
        (state.session.units.get? unit).map (·.name) = some name) ∧
      resolver.registry.recentFirst.map some =
        resolver.registry.names.reverse.map resolver.registry.find? ∧
      (∀ symbol, (state.session.findRegistered id symbol).2 =
        Answer.firstHit (resolver.registry.recentFirst.map fun unit =>
          (state.session.find (.unit unit) symbol).2)) ∧
      ∀ name artifact temporary error,
        (state.session.register id name artifact temporary).2 = .error error →
          (state.session.register id name artifact temporary).1 = state.session := by
  have first : Lists start id holder (Registry.ofHistory []) :=
    ⟨reached.wired, held, empty, by simp [Registry.ofHistory]⟩
  have lists := run_lists run first
  obtain ⟨resolver, present, current⟩ := Option.map_eq_some_iff.mp lists.registered
  have current : resolver.registry = Registry.ofHistory state.history := current
  have once : resolver.registry.names.Nodup := by
    rw [current]
    exact Registry.names_ofHistory_nodup _
  refine ⟨resolver, present, ?_, once, ?_, ?_, Registry.recentFirst_eq once,
    findRegistered_eq present, fun name artifact temporary error => register_error⟩
  · rw [current]
    exact Registry.names_ofHistory _
  · intro name
    rw [current]
    exact Registry.find?_ofHistory _ name
  · intro name unit found
    rw [current] at found
    exact lists.named (name, unit) (Registry.mem_of_find? found)

/-! ### Registrations that cross an unload and each other -/

/-- A registration that nothing interrupts, of a name with its artifact. -/
def registerNow (id : Nat) (state : Registrations) (entry : String × String) : Registrations :=
  let registered := state.session.register id entry.1 entry.2 none
  ⟨registered.1, state.underWay, state.history ++ noted entry.1 registered.2⟩

/-- The first registration under way goes on by one stage, or comes to its end. -/
def goOnFirst (id : Nat) (state : Registrations) : Registrations :=
  match state.underWay, state.session.resolvers.get? id with
  | ⟨name, artifact, temporary, .asked⟩ :: rest, _ =>
    match UnitContent.artifactSize state.session.files artifact with
    | .error _ => { state with underWay := rest }
    | .ok _ => { state with underWay := ⟨name, artifact, temporary, .sized⟩ :: rest }
  | ⟨name, artifact, temporary, .sized⟩ :: rest, some resolver =>
    match UnitContent.bind resolver.platform state.session.files artifact with
    | .error _ => { state with underWay := rest }
    | .ok content => { state with underWay := ⟨name, artifact, temporary, .bound content⟩ :: rest }
  | ⟨name, artifact, temporary, .bound content⟩ :: rest, some resolver =>
    let swapped := state.session.enlist id (unitOf resolver name artifact temporary content)
    ⟨swapped.1, rest, state.history ++ [(name, swapped.2)]⟩
  | _, _ => state

/-- Registrations that nothing interrupts are steps, one after the other. -/
theorem registerNow_steps (entries : List (String × String)) (state : Registrations) :
    Relation.ReflTransGen (Step id holder) state (entries.foldl (registerNow id) state) := by
  induction entries generalizing state with
  | nil => exact .refl
  | cons first rest inductionHypothesis =>
    exact .head (.register state.session state.underWay state.history first.1 first.2 none)
      (inductionHypothesis _)

/-- For the first registration under way to go on is one step, or none. -/
theorem goOnFirst_steps (state : Registrations) :
    Relation.ReflTransGen (Step id holder) state (goOnFirst id state) := by
  obtain ⟨session, underWay, history⟩ := state
  unfold goOnFirst
  dsimp only
  split
  · next name artifact temporary rest =>
    split
    · next error missing =>
      exact .single (.sizeFails session [] rest history name artifact temporary error missing)
    · next size there => exact .single (.size session [] rest history name artifact temporary size there)
  · next name artifact temporary rest resolver present =>
    split
    · next error refused =>
      exact .single
        (.bindFails session [] rest history name artifact temporary resolver error present refused)
    · next content opened =>
      exact .single
        (.bind session [] rest history name artifact temporary resolver content present opened)
  · next name artifact temporary content rest resolver present =>
    exact .single (.swap session [] rest history name artifact temporary resolver content present)
  · exact .refl

/-- The beginning of one more registration is a step. -/
theorem begin_step (state : Registrations) (name artifact : String) :
    Step id holder state
      { state with underWay := ⟨name, artifact, none, .asked⟩ :: state.underWay } :=
  .begin state.session state.underWay state.history name artifact none

/-- Three archives next to a resolver that was just opened. Two of them have a symbol of one name. -/
def besideArchives : Session :=
  perform
    { files := ⟨[(["tmp"], .directory), (["tmp", "work"], .directory),
        (["tmp", "work", "a.zip"], .file (Zip.write [("A.class", [1])]) 0),
        (["tmp", "work", "b.zip"], .file (Zip.write [("A.class", [2])]) 0),
        (["tmp", "work", "c.zip"], .file (Zip.write [("C.class", [3])]) 0)], 0⟩ }
    (.openResolver "loader" { cacheDirectory := "cache" }
      (fun _ files => (files, .ok ⟨some 0, ""⟩)) .archive none)

/-- One archive is registered and unloaded. -/
def unloadedFirst : Registrations :=
  ⟨((besideArchives.register 1 "old" "a.zip" none).1.unload 1).1, [], []⟩

/-- After `unloadedFirst`, the registration of "c" begins and binds its archive. -/
def boundFirst : Registrations :=
  goOnFirst 1 (goOnFirst 1 { unloadedFirst with underWay := [⟨"c", "c.zip", none, .asked⟩] })

/-- What is registered before "c" goes on: "a", then "b", then "a" again with another artifact, and
"lost" without any, which fails. -/
def crowd : List (String × String) :=
  [("a", "a.zip"), ("b", "b.zip"), ("a", "b.zip"), ("lost", "lost.zip")]

/-- After the registrations of `crowd`, the one of "c" goes on and changes the registry. -/
def swappedLast : Registrations :=
  goOnFirst 1 (crowd.foldl (registerNow 1) boundFirst)

/-- After `swappedLast`, the registration of "d" begins and finds its archive. -/
def crossing : Registrations :=
  goOnFirst 1
    { swappedLast with underWay := ⟨"d", "a.zip", none, .asked⟩ :: swappedLast.underWay }

/-- Steps around the registry lead from the opened resolver to `crossing`. -/
theorem crossing_steps :
    Relation.ReflTransGen (Step 1 "loader") ⟨besideArchives, [], []⟩ crossing := by
  have unloaded : Relation.ReflTransGen (Step 1 "loader") ⟨besideArchives, [], []⟩ unloadedFirst :=
    (registerNow_steps [("old", "a.zip")] ⟨besideArchives, [], []⟩).tail (.unload _ _ _)
  have began := unloaded.tail (begin_step unloadedFirst "c" "c.zip")
  have bound := (began.trans (goOnFirst_steps _)).trans (goOnFirst_steps _)
  have swapped := (bound.trans (registerNow_steps crowd boundFirst)).trans (goOnFirst_steps _)
  exact (swapped.tail (begin_step swappedLast "d" "a.zip")).trans (goOnFirst_steps _)

/-- In `crossing` the registry has the names registered since the unload, "a" by its second
registration, and last "c", which began before "a" and "b" and changed the registry after them. The
name "old" that was unloaded is gone, and "lost", whose registration failed, was never there. A
look-up passes over "c", which does not have the symbol, and gives what "a" has. All the while "d" is
under way, and one more registration that fails changes nothing. -/
theorem registrations_crossing : crossing.underWay.map (·.name) = ["d"] ∧
    ∃ resolver, crossing.session.resolvers.get? 1 = some resolver ∧
      resolver.registry.names = ["b", "a", "c"] ∧
      resolver.registry.find? "a" = some 5 ∧ resolver.registry.find? "old" = none ∧
      resolver.registry.find? "lost" = none ∧
      resolver.registry.recentFirst = [6, 5, 4] ∧
      (crossing.session.findRegistered 1 "A").2 = .found ⟨"A", "a", .bytecode [2], 7⟩ ∧
      (crossing.session.register 1 "lost" "lost.zip" none).1 = crossing.session := by
  have reached : Reachable besideArchives := (Reachable.start _).perform _
  obtain ⟨resolver, present, names, -, found, -, recent, scanned, unchanged⟩ :=
    registrations_ordered reached (by decide +kernel) (by decide +kernel) crossing_steps
  obtain ⟨underWay, history⟩ : crossing.underWay.map (·.name) = ["d"] ∧
      crossing.history = [("a", 3), ("b", 4), ("a", 5), ("c", 6)] := by decide +kernel
  rw [history] at names found
  have names : resolver.registry.names = ["b", "a", "c"] := names
  have recent : resolver.registry.recentFirst = [6, 5, 4] := by
    rw [names] at recent
    simp only [List.reverse_cons, List.reverse_nil, List.nil_append, List.cons_append, List.map_cons,
      List.map_nil, found] at recent
    exact List.map_injective_iff.mpr (Option.some_injective _) recent
  refine ⟨underWay, resolver, present, names, found "a", found "old", found "lost", recent, ?_, ?_⟩
  · rw [scanned, recent]
    decide +kernel
  · have missing : (crossing.session.register 1 "lost" "lost.zip" none).2.toOption = none := by
      decide +kernel
    cases failed : (crossing.session.register 1 "lost" "lost.zip" none).2 with
    | error error => exact unchanged "lost" "lost.zip" none error failed
    | ok unit =>
      rw [failed] at missing
      cases missing

end Session

end Hotload
