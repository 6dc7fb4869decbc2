import Hotload.Proofs.FreshUnits
import Hotload.Proofs.SearchSteps

/-!
# Symbols of registered units

A unit that has made a symbol remembers it for good. So a resolver without parent gives that very
object as long as the unit is registered and no unit that was registered since has the symbol as
well, whatever else happens in between. The table that is asked before the registry, of the symbols
which the local unit had, does not get in the way: the local unit is asked only where no registered
unit had the symbol.

What a unit has is what its index lists. `Indexed` says so of all units of a session, together with
the fact that a resolver for archives registers archives only. `Serving` says what keeps a symbol
served. Every operation leaves both.
-/

namespace Hotload

/-- What a unit remembers, its index lists. -/
def LoadedUnit.Sound (unit : LoadedUnit) : Prop :=
  ∀ index, unit.content = .archive index → unit.resolved.map (·.1) ⊆ index.map (·.1)

/-- An archive has the symbols that its index lists. -/
theorem LoadedUnit.mem_symbolNames_of_index {unit : LoadedUnit} {index : List (String × String)}
    (content : unit.content = .archive index) (name : String) :
    name ∈ unit.symbolNames ↔ name ∈ index.map (·.1) := by
  rw [symbolNames, content]
  exact List.mem_mergeSort

/-- A resolver later on, when it may have forgotten units and symbols but has got no new ones. -/
structure Resolver.Descends (earlier later : Resolver) : Prop where
  platform : later.platform = earlier.platform
  parent : later.parent = earlier.parent
  registry : later.registry.Sublist earlier.registry
  defined : later.defined = earlier.defined ∨ later.defined = []

theorem Resolver.Descends.refl (resolver : Resolver) : resolver.Descends resolver :=
  ⟨rfl, rfl, List.Sublist.refl _, .inl rfl⟩

theorem Resolver.Descends.trans {first second third : Resolver} (left : first.Descends second)
    (right : second.Descends third) : first.Descends third where
  platform := right.platform.trans left.platform
  parent := right.parent.trans left.parent
  registry := right.registry.trans left.registry
  defined := right.defined.elim (fun same => same ▸ left.defined) .inr

/-- One with the same references that has learnt nothing. -/
theorem Resolver.descends_of_links {earlier later : Resolver} (links : later.links = earlier.links)
    (defined : later.defined = earlier.defined) : earlier.Descends later where
  platform := congrArg ResolverLinks.platform links
  parent := congrArg ResolverLinks.parent links
  registry := by
    have same : later.registry = earlier.registry := congrArg ResolverLinks.registry links
    exact same ▸ List.Sublist.refl _
  defined := .inl defined

/-- A resolver in so far as it gives the symbol of a unit: it asks no parent, units with higher numbers
are such as were registered since, and it has learnt nothing for the name while the unit is
registered. -/
structure Resolver.Gives (resolver : Resolver) (number since : Nat) (name : String) : Prop where
  platform : resolver.platform = .archive
  parent : resolver.parent = none
  newer : ∀ entry ∈ resolver.registry, number < entry.2 → since ≤ entry.2
  unlearnt : number ∈ resolver.registry.map (·.2) → resolver.defined.lookup name = none

/-- A resolver gives the symbol of a unit also when it has forgotten something. -/
theorem Resolver.Gives.descends {earlier later : Resolver} {number since : Nat} {name : String}
    (gives : earlier.Gives number since name) (above : earlier.Descends later) :
    later.Gives number since name where
  platform := above.platform.trans gives.platform
  parent := above.parent.trans gives.parent
  newer entry listed := gives.newer entry (above.registry.subset listed)
  unlearnt registered := by
    rcases above.defined with same | empty
    · rw [same]
      exact gives.unlearnt ((above.registry.map _).subset registered)
    · rw [empty]
      rfl

/-- A resolver gives the symbol of a unit also when one more unit was registered. -/
theorem Resolver.Gives.register {resolver : Resolver} {number since : Nat} {name : String}
    (gives : resolver.Gives number since name) (given : number < since) (unit : String) {new : Nat}
    (later : since ≤ new) :
    Resolver.Gives { resolver with registry := resolver.registry.register unit new } number since
      name where
  platform := gives.platform
  parent := gives.parent
  newer entry listed := by
    rcases List.mem_append.mp listed with early | isNew
    · exact gives.newer entry (List.mem_filter.mp early).1
    · rw [List.mem_singleton.mp isNew]
      exact fun _ => later
  unlearnt registered := by
    refine gives.unlearnt ((Session.mem_register registered).resolve_right fun isNew => ?_)
    omega

namespace Session

variable {session before after : Session} {id number : Nat} {name : String}

/-! ## Loaders that stay -/

/-- The loaders of the second session are loaders of the first. Nothing is new about them but what
resolvers forgot. -/
structure Descends (before after : Session) : Prop where
  fresh : before.fresh ≤ after.fresh
  unit : ∀ number unit, after.units.get? number = some unit →
    before.units.get? number = some unit
  resolver : ∀ id later, after.resolvers.get? id = some later →
    ∃ earlier, before.resolvers.get? id = some earlier ∧ earlier.Descends later

theorem Descends.trans {first second third : Session} (left : Descends first second)
    (right : Descends second third) : Descends first third where
  fresh := Nat.le_trans left.fresh right.fresh
  unit number unit there := left.unit number unit (right.unit number unit there)
  resolver id later there := by
    obtain ⟨middle, stands, down⟩ := right.resolver id later there
    obtain ⟨earlier, stood, above⟩ := left.resolver id middle stands
    exact ⟨earlier, stood, above.trans down⟩

/-- A resolver was there with the same references, if these were kept. -/
theorem KeepsLinks.resolver_before (kept : KeepsLinks before after) {later : Resolver}
    (present : after.resolvers.get? id = some later) :
    ∃ earlier, before.resolvers.get? id = some earlier ∧ later.links = earlier.links := by
  have same := kept.resolver id
  rw [present, Option.map_some] at same
  obtain ⟨earlier, stood, linked⟩ := Option.map_eq_some_iff.mp same.symm
  exact ⟨earlier, stood, linked.symm⟩

/-- A resolver was there with the same references and had learnt the same, if loaders were left
alone. -/
theorem LeavesLoaders.resolver_same (left : LeavesLoaders before after) {later : Resolver}
    (present : after.resolvers.get? id = some later) :
    ∃ earlier, before.resolvers.get? id = some earlier ∧ later.links = earlier.links ∧
      later.defined = earlier.defined := by
  obtain ⟨earlier, stood, linked⟩ := left.resolver_before present
  have defined := left.defined id
  rw [present, stood] at defined
  exact ⟨earlier, stood, linked, Option.some.inj defined⟩

theorem LeavesLoaders.descends (left : LeavesLoaders before after) : Descends before after where
  fresh := left.fresh
  unit number unit there := left.units ▸ there
  resolver id later there := by
    obtain ⟨earlier, stood, linked, defined⟩ := left.resolver_same there
    exact ⟨earlier, stood, Resolver.descends_of_links linked defined⟩

theorem settle_descends (session : Session) : Descends session session.settle where
  fresh := session.settle_fresh
  unit number unit there := by
    rw [session.settle_loaders.1] at there
    exact session.keptLoaders_pruned.unit_before there
  resolver id later there := by
    rw [session.settle_loaders.2] at there
    exact ⟨later, session.keptLoaders_pruned.resolver_before there, .refl later⟩

/-- A change by which a resolver only forgets. -/
theorem updateResolver_descends (session : Session) (id : Nat) {change : Resolver → Resolver}
    (forgets : ∀ resolver : Resolver, resolver.Descends (change resolver)) :
    Descends session (session.updateResolver id change) where
  fresh := Nat.le_refl _
  unit _ _ there := there
  resolver other later there := by
    rw [updateResolver, Table.get?_update] at there
    split at there
    · obtain ⟨earlier, stood, rfl⟩ := Option.map_eq_some_iff.mp there
      exact ⟨earlier, stood, forgets earlier⟩
    · exact ⟨later, there, .refl later⟩

/-- Choosing a local unit forgets symbols. -/
theorem setLocal_descends (session : Session) (id : Nat) (loader : Option Loader) :
    Descends session (session.setLocal id loader) := by
  refine (updateResolver_descends session id ?_).trans (settle_descends _)
  exact fun _ => ⟨rfl, rfl, List.Sublist.refl _, .inr rfl⟩

/-- An unload forgets units. -/
theorem unload_descends (session : Session) (id : Nat) :
    Descends session (session.unload id).1 := by
  unfold unload
  split
  · exact (LeavesLoaders.refl session).descends
  · next resolver _ =>
    refine ((purge_leavesLoaders session resolver.layout).descends.trans
      (updateResolver_descends _ id ?_)).trans (settle_descends _)
    exact fun _ => ⟨rfl, rfl, List.nil_sublist _, .inl rfl⟩

/-- Opening a resolver adds one under a new number, which has registered nothing. -/
theorem openResolver_resolver (session : Session) (config : Config) (compiler : Compiler)
    (platform : Platform) (parent : Option Loader) {later : Resolver}
    (present : (session.openResolver config compiler platform parent).1.resolvers.get? id =
      some later) :
    (∃ earlier, session.resolvers.get? id = some earlier ∧ later.links = earlier.links ∧
        later.defined = earlier.defined) ∨
      session.fresh ≤ id ∧ later.registry = [] := by
  have prepared := session.prepare_leavesLoaders (Staging.ofConfig config).layout parent
  unfold openResolver at present
  split at present
  · exact .inl ⟨later, present, rfl, rfl⟩
  · dsimp only at present
    split at present
    · next heard =>
      rw [heard] at prepared
      exact .inl (prepared.resolver_same present)
    · next after heard =>
      rw [heard] at prepared
      simp only [number, Table.get?_add] at present
      rcases Option.or_eq_some_iff.mp present with early | ⟨_, new⟩
      · exact .inl (prepared.resolver_same early)
      · split at new
        · next isNew =>
          obtain rfl := Option.some.inj new
          exact .inr ⟨isNew ▸ Nat.le_succ_of_le prepared.fresh, rfl⟩
        · cases new

/-- Opening a resolver leaves the units as they are, and gives no number again. -/
theorem openResolver_units (session : Session) (config : Config) (compiler : Compiler)
    (platform : Platform) (parent : Option Loader) :
    (session.openResolver config compiler platform parent).1.units = session.units ∧
      session.fresh ≤ (session.openResolver config compiler platform parent).1.fresh := by
  have prepared := session.prepare_leavesLoaders (Staging.ofConfig config).layout parent
  unfold openResolver
  split
  · exact ⟨rfl, Nat.le_refl _⟩
  · dsimp only
    split
    · next heard =>
      rw [heard] at prepared
      exact ⟨prepared.units, prepared.fresh⟩
    · next heard =>
      rw [heard] at prepared
      exact ⟨prepared.units, Nat.le_trans prepared.fresh (Nat.le_add_right _ 2)⟩

/-! ## Units and what they remember -/

/-- A unit after one has made a symbol: it remembers what it did, or it is that one and remembers
the symbol as well. -/
theorem makeSymbol_unit {unit : String} {body : SymbolBody} {later : LoadedUnit}
    (present : (session.makeSymbol id name unit body).1.units.get? number = some later) :
    ∃ earlier, session.units.get? number = some earlier ∧ later.content = earlier.content ∧
      (later.resolved = earlier.resolved ∨ number = id ∧
        later.resolved = earlier.resolved ++ [(name, ⟨name, unit, body, session.fresh⟩)]) := by
  have learns := Table.get?_update session.units id number fun earlier =>
    { earlier with resolved := earlier.resolved ++ [(name, ⟨name, unit, body, session.fresh⟩)] }
  have shown := learns.symm.trans present
  split at shown
  · next here =>
    obtain ⟨earlier, stood, rfl⟩ := Option.map_eq_some_iff.mp shown
    exact ⟨earlier, stood, rfl, .inr ⟨here, rfl⟩⟩
  · exact ⟨later, shown, rfl, .inl rfl⟩

theorem remember_units (session : Session) (id : Nat) (name : String) (symbol : Symbol) :
    (session.remember id name symbol).1.units = session.units := by
  unfold remember
  split
  · rfl
  · split <;> rfl

/-- A unit whose index does not list a symbol does not have it. -/
theorem ownReply_unlisted {unit : LoadedUnit} (present : session.units.get? number = some unit)
    (sound : unit.Sound) {index : List (String × String)} (content : unit.content = .archive index)
    (unlisted : name ∉ index.map (·.1)) : session.ownReply name number = .absent := by
  have lacks (known : List (String × Symbol)) (among : known.map (·.1) ⊆ index.map (·.1)) :
      known.lookup name = none :=
    List.lookup_eq_none_iff.mpr fun entry listed =>
      bne_iff_ne.mpr fun same => unlisted (same ▸ among (List.mem_map_of_mem listed))
  have unindexed : index.lookup name = none :=
    List.lookup_eq_none_iff.mpr fun entry listed =>
      bne_iff_ne.mpr fun same => unlisted (same ▸ List.mem_map_of_mem listed)
  simp only [ownReply, present, lacks unit.resolved (sound index content), content, unindexed]

/-- Units remember only what they have. The units of a registry are ordered by their numbers, and they
are archives where the resolver is for archives. -/
structure Indexed (session : Session) : Prop extends Wired session where
  sound : ∀ number unit, session.units.get? number = some unit → unit.Sound
  ordered : ∀ id resolver, session.resolvers.get? id = some resolver →
    resolver.registry.Pairwise fun earlier later => earlier.2 < later.2
  archives : ∀ id resolver, session.resolvers.get? id = some resolver →
    resolver.platform = .archive → ∀ number ∈ resolver.registry.map (·.2), ∀ unit,
      session.units.get? number = some unit → ∃ index, unit.content = .archive index

/-- A session without loaders is indexed. -/
theorem indexed_start (files : Files) : Indexed { files } :=
  ⟨wired_start files, fun _ _ impossible => by simp at impossible,
    fun _ _ impossible => by simp at impossible, fun _ _ impossible => by simp at impossible⟩

/-- A session is indexed also where loaders were forgotten and nothing is new. -/
theorem Indexed.descends (indexed : Indexed before) (down : Descends before after)
    (wired : Wired after) : Indexed after where
  toWired := wired
  sound number unit there := indexed.sound number unit (down.unit number unit there)
  ordered id later there := by
    obtain ⟨earlier, stood, above⟩ := down.resolver id later there
    exact (indexed.ordered id earlier stood).sublist above.registry
  archives id later there archive number registered unit present := by
    obtain ⟨earlier, stood, above⟩ := down.resolver id later there
    exact indexed.archives id earlier stood (above.platform ▸ archive) number
      ((above.registry.map _).subset registered) unit (down.unit number unit present)

/-- Look-ups leave it: a unit makes only symbols that its index lists. -/
theorem indexed_steady : Steady Indexed where
  log indexed _ := ⟨indexed.toWired.keeps ⟨rfl, Nat.le_refl _⟩, indexed.sound, indexed.ordered,
    indexed.archives⟩
  makeSymbol {session} indexed {id name unit body} own := by
    refine ⟨indexed.toWired.keeps (quiet_follows.makeSymbol session id name unit body).toKeepsLinks,
      fun number later present => ?_, indexed.ordered, fun other resolver there archive member
        registered later present => ?_⟩
    · obtain ⟨earlier, stood, content, same | ⟨rfl, learnt⟩⟩ := makeSymbol_unit present
      · intro index isIndex
        rw [same]
        exact indexed.sound number earlier stood index (content ▸ isIndex)
      · intro index isIndex
        have isEarlier : earlier.content = .archive index := content ▸ isIndex
        have sound := indexed.sound number earlier stood
        rw [learnt, List.map_append, List.append_subset]
        refine ⟨sound index isEarlier, ?_⟩
        simp only [List.map_cons, List.map_nil, List.cons_subset, List.nil_subset, and_true]
        by_contra unlisted
        have absent := ownReply_unlisted stood sound isEarlier unlisted
        rw [absent] at own
        cases own
    · obtain ⟨earlier, stood, content, _⟩ := makeSymbol_unit present
      rw [content]
      exact indexed.archives other resolver there archive member registered earlier stood
  remember {start session} _ indexed {id resolver name symbol depth} _ _ _ := by
    have kept := (quiet_follows.remember session id name symbol).toKeepsLinks
    refine ⟨indexed.toWired.keeps kept, ?_, fun other later there => ?_,
      fun other later there archive number registered => ?_⟩
    · rw [remember_units]
      exact indexed.sound
    · obtain ⟨earlier, stood, linked⟩ := kept.resolver_before there
      have registry : later.registry = earlier.registry := congrArg ResolverLinks.registry linked
      rw [registry]
      exact indexed.ordered other earlier stood
    · obtain ⟨earlier, stood, linked⟩ := kept.resolver_before there
      have registry : later.registry = earlier.registry := congrArg ResolverLinks.registry linked
      have platform : later.platform = earlier.platform := congrArg ResolverLinks.platform linked
      rw [remember_units]
      exact indexed.archives other earlier stood (platform ▸ archive) number (registry ▸ registered)

/-- Units that have remembered nothing leave it. -/
theorem Indexed.addUnit (indexed : Indexed session) {unit : LoadedUnit}
    (unlearnt : unit.resolved = []) : Indexed (session.addUnit unit).1 where
  toWired := indexed.toWired.addUnit unit
  sound number later present := by
    rw [addUnit_units] at present
    rcases Option.or_eq_some_iff.mp present with early | ⟨_, new⟩
    · exact indexed.sound number later early
    · split at new
      · obtain rfl := Option.some.inj new
        intro index _
        simp [unlearnt]
      · cases new
  ordered := indexed.ordered
  archives id resolver there archive number registered later present := by
    obtain ⟨unit, stood, _⟩ := indexed.joined id resolver there number registered
    rw [addUnit_units, stood, Option.some_or] at present
    exact indexed.archives id resolver there archive number registered later
      (stood.trans present)

/-- Registrations leave it: archives bind to an index. -/
theorem Indexed.register (indexed : Indexed session) (id : Nat) (name artifact : String)
    (temporary : Option Nat) : Indexed (session.register id name artifact temporary).1 := by
  rcases session.register_cases id name artifact temporary with
    ⟨error, failed⟩ | ⟨resolver, size, content, there, _, bound, succeeded⟩
  · rw [failed]
    exact indexed
  · rw [succeeded, enlist_eq]
    generalize isUnit : unitOf resolver name artifact temporary content = unit
    have added : Indexed (session.addUnit unit).1 := indexed.addUnit (by rw [← isUnit]; rfl)
    have wired : Wired (session.enlisted id unit) :=
      indexed.toWired.enlisted (by rw [there, ← isUnit]; rfl)
    have enlisted : Indexed (session.enlisted id unit) := by
      refine ⟨wired, added.sound, fun other later present => ?_,
        fun other later present archive member registered => ?_⟩
      all_goals rw [Session.enlisted, updateResolver, Table.get?_update] at present
      all_goals split at present
      · obtain ⟨earlier, stood, rfl⟩ := Option.map_eq_some_iff.mp present
        refine List.pairwise_append.mpr ⟨(indexed.ordered other earlier stood).filter _,
          List.pairwise_singleton _ _, fun entry listed new isNew => ?_⟩
        obtain ⟨made, stands, _⟩ := indexed.joined other earlier stood entry.2
          (List.mem_map_of_mem (List.mem_filter.mp listed).1)
        rw [List.mem_singleton.mp isNew]
        exact indexed.numbered entry.2 (by rw [stands]; rfl)
      · exact indexed.ordered other later present
      · next here =>
        subst here
        obtain ⟨earlier, stood, rfl⟩ := Option.map_eq_some_iff.mp present
        obtain rfl := Option.some.inj (there.symm.trans stood)
        rcases mem_register registered with early | rfl
        · exact added.archives other resolver there archive member early
        · intro now isNow
          obtain rfl := Option.some.inj (isNow.symm.trans (indexed.addUnit_present unit))
          rw [show resolver.platform = .archive from archive] at bound
          obtain ⟨index, rfl⟩ := index_of_bind bound
          exact ⟨index, by rw [← isUnit]; rfl⟩
      · exact added.archives other later present archive member registered
    exact enlisted.descends (settle_descends _) wired.settle

/-- Every operation leaves a session indexed. -/
theorem indexed_persistent : Persistent Indexed where
  keeps indexed left := indexed.descends left.descends (indexed.toWired.keeps left.toKeepsLinks)
  find indexed loader name := indexed_steady.find indexed loader name
  findRegistered indexed id name := indexed_steady.findRegistered indexed id name
  settle indexed := indexed.descends (settle_descends _) indexed.toWired.settle
  hold indexed _ :=
    ⟨⟨indexed.numbered, indexed.joined⟩, indexed.sound, indexed.ordered, indexed.archives⟩
  addUnit indexed _ := indexed.addUnit
  register := Indexed.register
  setLocal indexed id loader :=
    indexed.descends (setLocal_descends _ id loader) (indexed.toWired.setLocal id loader)
  openResolver {session} indexed config compiler platform parent := by
    refine ⟨indexed.toWired.openResolver config compiler platform parent, ?_, ?_, ?_⟩
    · rw [(openResolver_units ..).1]
      exact indexed.sound
    · intro id later present
      rcases session.openResolver_resolver config compiler platform parent present with
        ⟨earlier, stood, linked, -⟩ | ⟨-, empty⟩
      · have registry : later.registry = earlier.registry := congrArg ResolverLinks.registry linked
        rw [registry]
        exact indexed.ordered id earlier stood
      · rw [empty]
        exact List.Pairwise.nil
    · intro id later present archive number registered
      rw [(openResolver_units ..).1]
      rcases session.openResolver_resolver config compiler platform parent present with
        ⟨earlier, stood, linked, -⟩ | ⟨-, empty⟩
      · have registry : later.registry = earlier.registry := congrArg ResolverLinks.registry linked
        have kind : later.platform = earlier.platform := congrArg ResolverLinks.platform linked
        exact indexed.archives id earlier stood (kind ▸ archive) number (registry ▸ registered)
      · rw [empty] at registered
        cases registered

theorem Indexed.unload (indexed : Indexed session) (id : Nat) : Indexed (session.unload id).1 :=
  indexed.descends (unload_descends session id) (indexed.toWired.unload id)

/-- Every session that operations lead to is indexed. -/
theorem Reachable.indexed (reached : Reachable session) : Indexed session :=
  indexed_persistent.reachable Indexed.unload indexed_start reached

/-! ## Symbols that are served -/

/-- A unit that has made a symbol remembers it, and the resolver gives it if the unit is registered
and no unit behind it has the symbol as well. -/
structure Serving (id number since : Nat) (name : String) (symbol : Symbol) (session : Session) :
    Prop extends Wired session where
  given : number < since
  later : since ≤ session.fresh
  opened : id < since
  known : ∀ unit, session.units.get? number = some unit → unit.resolved.lookup name = some symbol
  gives : ∀ resolver, session.resolvers.get? id = some resolver → resolver.Gives number since name

section

variable {since : Nat} {symbol : Symbol}

/-- A unit serves its symbol also where loaders were forgotten and nothing is new. -/
theorem Serving.descends (serving : Serving id number since name symbol before)
    (down : Descends before after) (wired : Wired after) :
    Serving id number since name symbol after where
  toWired := wired
  given := serving.given
  later := Nat.le_trans serving.later down.fresh
  opened := serving.opened
  known unit there := serving.known unit (down.unit number unit there)
  gives later there := by
    obtain ⟨earlier, stood, above⟩ := down.resolver id later there
    exact (serving.gives earlier stood).descends above

/-- A registered unit does not miss its symbol at any depth of a search. -/
theorem Serving.found (serving : Serving id number since name symbol session) {resolver : Resolver}
    (present : session.resolvers.get? id = some resolver)
    (registered : number ∈ resolver.registry.map (·.2)) (depth : Nat) :
    (session.replyWithin name depth (.unit number)).isMiss = false := by
  obtain ⟨unit, there, _⟩ := serving.joined id resolver present number registered
  cases depth with
  | zero => rfl
  | succ depth =>
    simp only [replyWithin_succ, replyOf, ownReply, there, serving.known unit there]
    rfl

/-- Look-ups leave it: they add to what is remembered, and the local unit is asked for the name only
where no registered unit has it. -/
theorem serving_steady (origin : Session) :
    Steady fun session => Quiet origin session ∧ Serving id number since name symbol session where
  log now events := ⟨now.1.trans ⟨⟨rfl, Nat.le_refl _⟩, rfl, rfl⟩,
    ⟨now.2.toWired.keeps ⟨rfl, Nat.le_refl _⟩, now.2.given, now.2.later, now.2.opened, now.2.known,
      now.2.gives⟩⟩
  makeSymbol {session} now {maker asked unit body} _ := by
    have quiet := quiet_follows.makeSymbol session maker asked unit body
    obtain ⟨before, serving⟩ := now
    refine ⟨before.trans quiet, serving.toWired.keeps quiet.toKeepsLinks, serving.given,
      Nat.le_succ_of_le serving.later, serving.opened, fun later present => ?_, serving.gives⟩
    obtain ⟨earlier, stood, -, same | ⟨-, learnt⟩⟩ := makeSymbol_unit present
    · rw [same]
      exact serving.known earlier stood
    · rw [learnt, List.lookup_append, serving.known earlier stood, Option.some_or]
  remember {start session} began now {asked resolver sought found depth} there missed _ := by
    have quiet := quiet_follows.remember session asked sought found
    obtain ⟨before, serving⟩ := now
    refine ⟨before.trans quiet, serving.toWired.keeps quiet.toKeepsLinks, serving.given,
      Nat.le_trans serving.later quiet.fresh, serving.opened, ?_, ?_⟩
    · rw [remember_units]
      exact serving.known
    · intro later present
      unfold Session.remember at present
      split at present
      · exact serving.gives later present
      · next known _ =>
        split at present
        · exact serving.gives later present
        · rw [updateResolver, Table.get?_update] at present
          split at present
          · next here =>
            subst here
            obtain ⟨earlier, stood, rfl⟩ := Option.map_eq_some_iff.mp present
            have gives := serving.gives earlier stood
            refine ⟨gives.platform, gives.parent, gives.newer, fun registered => ?_⟩
            rw [List.lookup_append, gives.unlearnt registered, Option.none_or]
            by_contra known
            have same : sought = name := by
              by_contra other
              exact known (by simp [List.lookup_cons, beq_eq_false_iff_ne.mpr (Ne.symm other)])
            subst same
            obtain ⟨first, opened, linked⟩ := before.resolver_before stood
            obtain ⟨last, stands, relinked⟩ := began.1.resolver_before there
            obtain rfl := Option.some.inj (opened.symm.trans stands)
            have registry : resolver.registry = earlier.registry :=
              (congrArg ResolverLinks.registry relinked).trans
                (congrArg ResolverLinks.registry linked).symm
            have among : number ∈ resolver.registry.map (·.2) := registry ▸ registered
            have hit := began.2.found there among depth
            rw [missed number among] at hit
            cases hit
          · exact serving.gives later present

theorem Serving.addUnit (serving : Serving id number since name symbol session)
    (unit : LoadedUnit) : Serving id number since name symbol (session.addUnit unit).1 where
  toWired := serving.toWired.addUnit unit
  given := serving.given
  later := Nat.le_succ_of_le serving.later
  opened := serving.opened
  known later present := by
    have old : number ≠ session.fresh :=
      Nat.ne_of_lt (Nat.lt_of_lt_of_le serving.given serving.later)
    rw [addUnit_units, if_neg old, Option.or_none] at present
    exact serving.known later present
  gives := serving.gives

/-- Registrations leave it. -/
theorem Serving.register (serving : Serving id number since name symbol session) (other : Nat)
    (unit artifact : String) (temporary : Option Nat) :
    Serving id number since name symbol (session.register other unit artifact temporary).1 := by
  rcases session.register_cases other unit artifact temporary with
    ⟨error, failed⟩ | ⟨resolver, size, content, there, _, _, succeeded⟩
  · rw [failed]
    exact serving
  · rw [succeeded, enlist_eq]
    generalize isUnit : unitOf resolver unit artifact temporary content = made
    have added := serving.addUnit made
    have wired : Wired (session.enlisted other made) :=
      serving.toWired.enlisted (by rw [there, ← isUnit]; rfl)
    have enlisted : Serving id number since name symbol (session.enlisted other made) := by
      refine ⟨wired, serving.given, added.later, serving.opened, added.known,
        fun later present => ?_⟩
      rw [Session.enlisted, updateResolver, Table.get?_update] at present
      split at present
      · obtain ⟨earlier, stood, rfl⟩ := Option.map_eq_some_iff.mp present
        exact (serving.gives earlier stood).register serving.given made.name serving.later
      · exact serving.gives later present
    exact enlisted.descends (settle_descends _) wired.settle

/-- Every operation leaves a unit serving its symbol. -/
theorem serving_persistent : Persistent (Serving id number since name symbol) where
  keeps serving left := serving.descends left.descends (serving.toWired.keeps left.toKeepsLinks)
  find {session} serving loader asked :=
    ((serving_steady session).find ⟨.refl session, serving⟩ loader asked).2
  findRegistered {session} serving other asked :=
    ((serving_steady session).findRegistered ⟨.refl session, serving⟩ other asked).2
  settle serving := serving.descends (settle_descends _) serving.toWired.settle
  hold serving _ := ⟨⟨serving.numbered, serving.joined⟩, serving.given, serving.later,
    serving.opened, serving.known, serving.gives⟩
  addUnit serving unit _ := serving.addUnit unit
  register := Serving.register
  setLocal serving other loader :=
    serving.descends (setLocal_descends _ other loader) (serving.toWired.setLocal other loader)
  openResolver {session} serving config compiler platform parent := by
    have wired := serving.toWired.openResolver config compiler platform parent
    have rest := session.openResolver_units config compiler platform parent
    refine ⟨wired, serving.given, Nat.le_trans serving.later rest.2, serving.opened, ?_,
      fun later present => ?_⟩
    · rw [rest.1]
      exact serving.known
    · rcases session.openResolver_resolver config compiler platform parent present with
        ⟨earlier, stood, linked, defined⟩ | ⟨isNew, -⟩
      · exact (serving.gives earlier stood).descends (Resolver.descends_of_links linked defined)
      · exact absurd (Nat.lt_of_lt_of_le serving.opened (Nat.le_trans serving.later isNew))
          (Nat.lt_irrefl _)

theorem Serving.unload (serving : Serving id number since name symbol session) (other : Nat) :
    Serving id number since name symbol (session.unload other).1 :=
  serving.descends (unload_descends session other) (serving.toWired.unload other)

/-- A unit is registered, and no unit that was registered since has the symbol. -/
def Foremost (session : Session) (id since : Nat) (entry : String × Nat) (name : String) : Prop :=
  ∃ resolver, session.resolvers.get? id = some resolver ∧ entry ∈ resolver.registry ∧
    ∀ other ∈ resolver.registry, since ≤ other.2 → ∀ rival,
      session.units.get? other.2 = some rival → name ∉ rival.symbolNames

/-- A registered unit that serves a symbol answers with the symbol that it remembers. -/
theorem Serving.reply_unit (serving : Serving id number since name symbol session)
    {resolver : Resolver} (there : session.resolvers.get? id = some resolver)
    (registered : number ∈ resolver.registry.map (·.2)) :
    session.reply name (.unit number) = .found symbol := by
  obtain ⟨unit, present, _⟩ := serving.joined id resolver there number registered
  simp only [reply_eq, replyOf, ownReply, present, serving.known unit present]

/-- A registered unit that does not list the symbol has nothing to answer: there is no parent. -/
theorem Serving.reply_other (serving : Serving id number since name symbol session)
    (indexed : Indexed session) {resolver : Resolver}
    (there : session.resolvers.get? id = some resolver) {entry : String × Nat}
    (registered : entry ∈ resolver.registry)
    (lacks : ∀ rival, session.units.get? entry.2 = some rival → name ∉ rival.symbolNames) :
    session.reply name (.unit entry.2) = .absent := by
  have gives := serving.gives resolver there
  have among : entry.2 ∈ resolver.registry.map (·.2) := List.mem_map_of_mem registered
  obtain ⟨unit, present, inherits⟩ := serving.joined id resolver there entry.2 among
  obtain ⟨index, content⟩ :=
    indexed.archives id resolver there gives.platform entry.2 among unit present
  have absent := ownReply_unlisted present (indexed.sound _ _ present) content fun listed =>
    lacks unit present ((LoadedUnit.mem_symbolNames_of_index content name).mpr listed)
  rw [reply_eq, replyOf, absent, present, Option.bind_some, inherits, gives.parent]
  rfl

/-- A resolver gives the symbol of a unit that serves it and is foremost. -/
theorem Serving.loads (serving : Serving id number since name symbol session)
    (indexed : Indexed session) {unit : String}
    (foremost : Foremost session id since (unit, number) name) :
    (session.loadSymbol id name).2 = .ok symbol := by
  obtain ⟨resolver, there, registered, others⟩ := foremost
  have gives := serving.gives resolver there
  have among : number ∈ resolver.registry.map (·.2) := List.mem_map_of_mem registered
  obtain ⟨early, late, split⟩ := List.append_of_mem registered
  -- The units that are asked before the one have higher numbers, so they were registered since.
  have missed : ∀ answer ∈ late.reverse.map fun entry => session.reply name (.unit entry.2),
      answer = .absent := by
    intro answer listed
    obtain ⟨entry, behind, rfl⟩ := List.mem_map.mp listed
    have inside : entry ∈ resolver.registry := by
      rw [split]
      exact List.mem_append_right _ (List.mem_cons_of_mem _ (List.mem_reverse.mp behind))
    have ordered := indexed.ordered id resolver there
    rw [split] at ordered
    have higher := (List.pairwise_cons.mp (List.pairwise_append.mp ordered).2.1).1 entry
      (List.mem_reverse.mp behind)
    exact serving.reply_other indexed there inside
      (others entry inside (gives.newer entry inside higher))
  have behind : Answer.firstHit (late.reverse.map fun entry => session.reply name (.unit entry.2)) =
      .absent :=
    (Answer.firstHit_eq_absent_iff _).mpr fun answer listed => by rw [missed answer listed]; rfl
  have recent : resolver.registry.recentFirst.map (fun unit => session.reply name (.unit unit)) =
      late.reverse.map (fun entry => session.reply name (.unit entry.2)) ++ .found symbol ::
        early.reverse.map fun entry => session.reply name (.unit entry.2) := by
    simp [split, Registry.recentFirst, Function.comp_def, serving.reply_unit there among]
  rw [loadSymbol_result, reply_eq]
  simp only [replyOf, there, definedReply, gives.unlearnt among, gives.parent, recent, replyOf?,
    List.cons_append, List.append_assoc, Answer.firstHit, Answer.isMiss, ↓reduceIte]
  rw [Answer.firstHit_append, behind]
  rfl

/-! ## Names that stay registered -/

/-- A name is registered, for the same unit as at some time or for one that was registered since. -/
structure Enduring (id : Nat) (entry : String × Nat) (since : Nat) (session : Session) : Prop where
  opened : id < since
  later : since ≤ session.fresh
  listed : ∀ resolver, session.resolvers.get? id = some resolver → ∃ number,
    (entry.1, number) ∈ resolver.registry ∧ (number = entry.2 ∨ since ≤ number)

variable {entry : String × Nat}

/-- A name endures where the registry is left as it is. -/
theorem Enduring.of_registry (enduring : Enduring id entry since before)
    (fresh : before.fresh ≤ after.fresh)
    (same : ∀ later, after.resolvers.get? id = some later → ∃ earlier,
      before.resolvers.get? id = some earlier ∧ later.registry = earlier.registry) :
    Enduring id entry since after where
  opened := enduring.opened
  later := Nat.le_trans enduring.later fresh
  listed later present := by
    obtain ⟨earlier, stood, registry⟩ := same later present
    rw [registry]
    exact enduring.listed earlier stood

theorem Enduring.keeps (enduring : Enduring id entry since before) (kept : KeepsLinks before after) :
    Enduring id entry since after := by
  refine enduring.of_registry kept.fresh fun later present => ?_
  obtain ⟨earlier, stood, linked⟩ := kept.resolver_before present
  exact ⟨earlier, stood, congrArg ResolverLinks.registry linked⟩

theorem Enduring.settle (enduring : Enduring id entry since session) :
    Enduring id entry since session.settle := by
  refine enduring.of_registry session.settle_fresh fun later present => ?_
  rw [session.settle_loaders.2] at present
  exact ⟨later, session.keptLoaders_pruned.resolver_before present, rfl⟩

/-- A change of a registry that leaves the others as they are. -/
theorem Enduring.updateResolver (enduring : Enduring id entry since session) (other : Nat)
    {change : Resolver → Resolver}
    (same : other = id → ∀ resolver : Resolver, (change resolver).registry = resolver.registry) :
    Enduring id entry since (session.updateResolver other change) := by
  refine enduring.of_registry (Nat.le_refl _) fun later present => ?_
  rw [Session.updateResolver, Table.get?_update] at present
  split at present
  · next here =>
    obtain ⟨earlier, stood, rfl⟩ := Option.map_eq_some_iff.mp present
    exact ⟨earlier, stood, same here.symm earlier⟩
  · exact ⟨later, present, rfl⟩

/-- A registration leaves other names as they are, and leads its own to the unit that is registered
now. -/
theorem Enduring.register (enduring : Enduring id entry since session) (other : Nat)
    (unit artifact : String) (temporary : Option Nat) :
    Enduring id entry since (session.register other unit artifact temporary).1 := by
  rcases session.register_cases other unit artifact temporary with
    ⟨error, failed⟩ | ⟨resolver, size, content, _, _, _, succeeded⟩
  · rw [failed]
    exact enduring
  · rw [succeeded, enlist_eq]
    refine Enduring.settle ⟨enduring.opened, Nat.le_succ_of_le enduring.later, ?_⟩
    intro later present
    rw [Session.enlisted, Session.updateResolver, Table.get?_update] at present
    split at present
    · obtain ⟨earlier, stood, rfl⟩ := Option.map_eq_some_iff.mp present
      obtain ⟨number, among, kept⟩ := enduring.listed earlier stood
      by_cases again : entry.1 = unit
      · exact ⟨session.fresh, by simp [Registry.register, again, unitOf], .inr enduring.later⟩
      · refine ⟨number, List.mem_append_left _ (List.mem_filter.mpr ⟨among, ?_⟩), kept⟩
        exact decide_eq_true again
    · exact enduring.listed later present

/-- Every operation that does not unload the resolver leaves a name registered that was. -/
theorem enduring_persistent : Persistent (Enduring id entry since) where
  keeps enduring left := enduring.keeps left.toKeepsLinks
  find {session} enduring loader name :=
    enduring.keeps (quiet_follows.find session loader name).toKeepsLinks
  findRegistered {session} enduring other name :=
    enduring.keeps (quiet_follows.findRegistered session other name).toKeepsLinks
  settle := Enduring.settle
  hold enduring _ := ⟨enduring.opened, enduring.later, enduring.listed⟩
  addUnit enduring _ _ := ⟨enduring.opened, Nat.le_succ_of_le enduring.later, enduring.listed⟩
  register := Enduring.register
  setLocal enduring other _ := by
    refine (enduring.updateResolver other ?_).settle
    exact fun _ _ => rfl
  openResolver {session} enduring config compiler platform parent := by
    refine enduring.of_registry (session.openResolver_units config compiler platform parent).2
      fun later present => ?_
    rcases session.openResolver_resolver config compiler platform parent present with
      ⟨earlier, stood, linked, -⟩ | ⟨isNew, -⟩
    · exact ⟨earlier, stood, congrArg ResolverLinks.registry linked⟩
    · exact absurd (Nat.lt_of_lt_of_le enduring.opened (Nat.le_trans enduring.later isNew))
        (Nat.lt_irrefl _)

theorem Enduring.unload (enduring : Enduring id entry since session) {other : Nat}
    (apart : other ≠ id) : Enduring id entry since (session.unload other).1 := by
  unfold Session.unload
  split
  · exact enduring
  · next resolver _ =>
    refine Enduring.settle (Enduring.updateResolver
      (enduring.keeps (purge_keepsLinks session resolver.layout)) other ?_)
    exact fun same => absurd same apart

end

end Session

end Hotload
