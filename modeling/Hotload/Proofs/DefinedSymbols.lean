import Hotload.Proofs.DefinitionsApart
import Hotload.Proofs.RegisteredSymbols

/-!
# Defined symbols

A definition packages the bytecode under the path that the name stands for, and the new unit is
indexed by the names that its paths stand for. Which names come back from their paths is told by
`Symbol.Proper`. A resolver without parent has nothing but its new unit to read the symbol back from,
so it defines exactly the symbols of proper names, and reports the others missing.

What was defined is served from then on, until its unit is no longer registered or another unit with
the symbol is registered.
-/

namespace Hotload

/-- The names that come back from their paths are the proper ones. -/
theorem Symbol.symbolName?_entryPath_iff {name : String} :
    symbolName? (entryPath name) = some name ↔ Proper name := by
  refine ⟨fun back => ?_, symbolName?_entryPath⟩
  rw [symbolName?_entryPath_eq, Option.ite_none_left_eq_some, Option.some.injEq,
    dotted_eq_self_iff] at back
  obtain ⟨comesBack, whole⟩ := back
  exact ⟨fun empty => comesBack (.inl (.inl empty)), whole, fun ends => comesBack (.inr ends)⟩

namespace Session

variable {start session after : Session} {id : Nat} {resolver : Resolver} {place : Location}
variable {gained : Registry Nat} {thread : Thread} {name : String} {content : Bytes} {limit : Nat}

/-! ## A definition that is alone -/

/-- A symbol is given only by the last step, that of reading back. -/
theorem Definition.advance_ended {definition : Definition} {symbol : Symbol}
    (going : definition.phase.left ≠ 0)
    (ends : (definition.advance id resolver session).2 = .ended (.ok symbol)) :
    ∃ handle, definition.phase = .reading handle := by
  obtain ⟨thread, name, content, phase⟩ := definition
  cases phase with
  | asked =>
    change (session.stageForBytes resolver name).2 = _ at ends
    unfold stageForBytes at ends
    split at ends <;> cases ends
  | packaging archive =>
    simp only [advance, packageContent] at ends
    split at ends <;> cases ends
  | packaged archive =>
    change (session.stageArtifact resolver archive).2 = _ at ends
    unfold stageArtifact at ends
    split at ends <;> cases ends
  | compiled archive output temporary result =>
    cases result with
    | error error => cases ends
    | ok outcome =>
      simp only [advance, judgeArtifact] at ends
      split at ends <;> cases ends
  | registering archive output temporary =>
    simp only [advance, registerArtifact] at ends
    split at ends <;> cases ends
  | discarding archive result => cases result <;> cases ends
  | tracking | compiling | finished => cases ends
  | reading handle => exact ⟨handle, rfl⟩
  | ended => exact absurd rfl going

/-- A definition that has ended stays as it is. -/
theorem DefinesAlone.of_ended {result : Except LoadError Symbol} {next : DefinePhase}
    (goes : DefinesAlone id resolver thread name content session (.ended result) after next) :
    (after, next) = (session, .ended result) := by
  unfold DefinesAlone at goes
  generalize (after, next) = last at goes
  induction goes with
  | refl => rfl
  | tail _ step inductionHypothesis =>
    rw [← step, inductionHypothesis]
    exact lending_nil session rfl

/-- There is one end to which a definition comes that is alone. -/
theorem DefinesAlone.end_unique {phase : DefinePhase} {other : Session}
    {first second : Except LoadError Symbol}
    (left : DefinesAlone id resolver thread name content session phase after (.ended first))
    (right : DefinesAlone id resolver thread name content session phase other (.ended second)) :
    after = other ∧ first = second := by
  have unique : Relator.RightUnique fun (stand other : Session × DefinePhase) =>
      Definition.goOn ⟨thread, name, content, stand.2⟩ id resolver [] stand.1 = other :=
    fun _ _ _ one another => one.symm.trans another
  rcases Relation.ReflTransGen.total_of_right_unique unique left right with onward | onward
  · have same := DefinesAlone.of_ended onward
    simp_all
  · have same := DefinesAlone.of_ended onward
    simp_all

/-- A definition that is alone comes to the point where its symbol is read back, whatever its name
is. -/
theorem UnderWay.toReading (equipped : Equipped start id resolver place)
    (stageable : Stageable resolver limit)
    (readsBack : Zip.ReadsBack [(Symbol.entryPath name, content)]) {phase : DefinePhase}
    (underWay : UnderWay start id resolver place gained session [⟨thread, name, content, phase⟩])
    (going : phase.left ≠ 0) (enough : session.fresh + phase.left < limit) :
    ∃ ready more handle,
      DefinesAlone id resolver thread name content session phase ready (.reading handle) ∧
        UnderWay start id resolver place more ready [⟨thread, name, content, .reading handle⟩] := by
  induction bound : phase.left using Nat.strong_induction_on generalizing session gained phase with
  | _ left inductionHypothesis =>
    by_cases isReading : ∃ handle, phase = .reading handle
    · obtain ⟨handle, rfl⟩ := isReading
      exact ⟨session, gained, handle, .refl, underWay⟩
    · obtain ⟨more, after, next, takes, later⟩ := underWay.proceeds equipped stageable
        (Nat.lt_of_le_of_lt (Nat.le_add_right _ _) enough) readsBack
        fun handle reads => absurd ⟨handle, reads⟩ isReading
      have isNext : (Definition.advance ⟨thread, name, content, phase⟩ id resolver
          (session.lent (phase.kept ++ targetsOf []))).2 = next := congrArg Prod.snd takes.goes
      have fewer : next.left < phase.left := by
        rw [← isNext]
        exact Definition.advance_left _ id resolver _ going
      have still : next.left ≠ 0 := by
        have healthy := later.healthy _ List.mem_cons_self
        cases healthy with
        | ended symbol =>
          exact absurd (Definition.advance_ended going isNext) isReading
        | _ => simp [DefinePhase.left]
      have draws := takes.draws
      obtain ⟨ready, gained, handle, goes, underWay⟩ :=
        inductionHypothesis next.left (bound ▸ fewer) later still (by omega) rfl
      exact ⟨ready, gained, handle, .head takes.goes goes, underWay⟩

/-! ## Reading back -/

variable {handle : Handle}

/-- What has come about when the symbol can be read back: one more unit is registered, which has the
symbol that its path stands for and nothing else. -/
structure Supplied (id : Nat) (resolver : Resolver) (name : String) (content : Bytes)
    (ready : Session) (number : Nat) (unit : LoadedUnit) (entry : Zip.Entry) : Prop where
  wired : Wired ready
  numbers : Distinct ready
  present : ready.units.get? number = some unit
  registered : ∃ busy, ready.resolvers.get? id = some { resolver with
    registry := resolver.registry ++ [(unit.name, number)], busy }
  new : unit.name ∉ resolver.registry.map (·.1)
  lists : Zip.Lists name content entry
  indexed : unit.content = .archive (UnitContent.indexOf [entry])
  unlearnt : unit.resolved = []
  readable : UnitContent.readBody ready.files unit.artifact entry.name = .body content

/-- A definition that is alone comes to that, and what remains is to read the symbol back. -/
theorem define_supplied (equipped : Equipped start id resolver place)
    (stageable : Stageable resolver limit) (enough : start.fresh + 10 < limit)
    (readsBack : Zip.ReadsBack [(Symbol.entryPath name, content)]) (thread : Thread) :
    ∃ ready number unit entry, Supplied id resolver name content ready number unit entry ∧
      start.define id thread name content = ready.readBack number name := by
  obtain ⟨ready, gained, handle, goes, underWay⟩ := UnderWay.toReading equipped stageable readsBack
    ((UnderWay.nil equipped).ask thread name content) (by simp [DefinePhase.left]) enough
  have healthy := underWay.healthy _ List.mem_cons_self
  cases healthy with
  | reading handle ownOutput supplies =>
    rename_i output
    obtain ⟨entry, unit, lists, present, rfl, isArtifact, indexed, unlearnt⟩ := supplies.unit
    have only : gained = [(unit.name, handle.unit)] := by
      have listed := underWay.listed
      simp only [List.flatMap_cons, List.flatMap_nil, Definition.registered, supplies.artifact,
        ownOutput.unitName, List.append_nil] at listed
      have single := List.perm_singleton.mp listed
      obtain ⟨entry, rfl⟩ : ∃ entry, gained = [entry] := List.length_eq_one_iff.mp (by
        rw [← List.length_map, single]; rfl)
      rw [List.mem_singleton.mp supplies.listed]
    obtain ⟨modified, shown⟩ : ∃ modified, ready.files.shown? (stagedPath resolver unit.name) =
        some (place ++ [unit.name], .file (Zip.ofSymbol name content) modified) :=
      underWay.holding.shown (by
        simp [Definition.files, Definition.packed, supplies.artifact, ownOutput.unitName])
    refine ⟨ready, handle.unit, unit, entry, ⟨underWay.wired, underWay.numbers, present,
      only ▸ underWay.opened, ?_, lists, indexed, unlearnt, ?_⟩, ?_⟩
    · intro listed
      obtain ⟨number, since, _, bears⟩ := ownOutput.bears
      exact equipped.unlisted unit.name listed number since bears
    · exact UnitContent.readBody_ofSymbol lists (isArtifact ▸ Files.read_of_shown shown)
    · have last : DefinesAlone id resolver thread name content ready (.reading handle)
          (ready.readBack handle.unit name).1 (.ended (ready.readBack handle.unit name).2) :=
        .advance rfl rfl
      obtain ⟨same, result⟩ := (define_alone equipped.present).end_unique (goes.trans last)
      exact Prod.ext same result

variable {ready : Session} {number : Nat} {unit : LoadedUnit} {entry : Zip.Entry}

/-- The new unit has the name asked for if it is a proper one. -/
theorem Supplied.mem_index (supplied : Supplied id resolver name content ready number unit entry) :
    name ∈ (UnitContent.indexOf [entry]).map (·.1) ↔ Symbol.Proper name := by
  rw [UnitContent.mem_indexOf, ← Symbol.symbolName?_entryPath_iff]
  simp [supplied.lists.restores.name]

/-- If the name is proper, the definition makes a new symbol with the name and the bytecode asked
for. -/
theorem Supplied.makes (supplied : Supplied id resolver name content ready number unit entry)
    (proper : Symbol.Proper name) :
    ready.readBack number name =
      ((ready.makeSymbol number name unit.name (.bytecode content)).1,
        .ok ⟨name, unit.name, .bytecode content, ready.fresh⟩) := by
  unfold readBack
  rw [find_unlearnt supplied.present supplied.unlearnt supplied.indexed
    (UnitContent.lookup_ofSymbol proper supplied.lists) supplied.readable]
  rfl

/-- The new unit remembers the symbol that was made. -/
theorem Supplied.learns (supplied : Supplied id resolver name content ready number unit entry) :
    (ready.makeSymbol number name unit.name (.bytecode content)).1.units.get? number =
      some { unit with resolved := [(name, ⟨name, unit.name, .bytecode content, ready.fresh⟩)] } := by
  have updated := Table.get?_update ready.units number number fun maker =>
    { maker with resolved :=
        maker.resolved ++ [(name, ⟨name, unit.name, .bytecode content, ready.fresh⟩)] }
  rw [if_pos rfl, supplied.present, Option.map_some, supplied.unlearnt] at updated
  exact updated

/-- The new unit has no other name than the one asked for, if that is proper. -/
theorem Supplied.symbolNames (supplied : Supplied id resolver name content ready number unit entry)
    (proper : Symbol.Proper name) : unit.symbolNames = [name] := by
  have named : Symbol.symbolName? entry.name = some name := by
    rw [supplied.lists.restores.name]
    exact Symbol.symbolName?_entryPath proper
  have index : UnitContent.indexOf [entry] = [(name, entry.name)] := by
    rw [UnitContent.indexOf, List.foldl_cons, List.foldl_nil, UnitContent.indexEntry_eq, named]
    rfl
  rw [LoadedUnit.symbolNames, supplied.indexed, index]
  exact List.mergeSort_singleton _

/-- Otherwise there is nobody to ask. -/
theorem Supplied.misses (supplied : Supplied id resolver name content ready number unit entry)
    (orphan : resolver.parent = none) (improper : ¬ Symbol.Proper name) :
    (ready.readBack number name).2 = .error (.symbolMissing name) := by
  have absent := ownReply_unlisted supplied.present
    (fun _ _ => by rw [supplied.unlearnt]; exact List.nil_subset _) supplied.indexed
    fun listed => improper (supplied.mem_index.mp listed)
  obtain ⟨busy, there⟩ := supplied.registered
  obtain ⟨same, stands, inherits⟩ := supplied.wired.joined id _ there number (by simp)
  obtain rfl := Option.some.inj (supplied.present.symm.trans stands)
  have parent : unit.parent = none := inherits.trans orphan
  rw [readBack_result supplied.present, reply_eq, replyOf, absent, supplied.present,
    Option.bind_some, parent]
  rfl

/-- A definition is an operation. -/
theorem Reachable.define (reached : Reachable session) (id : Nat) (thread : Thread) (name : String)
    (content : Bytes) : Reachable (session.define id thread name content).1 :=
  reached.perform (.define id thread name content)

/-- What a definition has brought about when it gives a symbol. -/
structure Defines (id : Nat) (resolver : Resolver) (name : String) (content : Bytes)
    (after : Session) (symbol : Symbol) (number : Nat) : Prop where
  named : symbol.name = name
  body : symbol.body = .bytecode content
  /-- The symbol is that of the most recent unit. -/
  registered : (after.resolvers.get? id).map (·.registry) =
    some (resolver.registry ++ [(symbol.unit, number)])
  unit : ∃ unit, after.units.get? number = some unit ∧ unit.name = symbol.unit ∧
    unit.symbolNames = [name]
  /-- Neither the unit nor its name was registered before. -/
  new : number ∉ resolver.registry.map (·.2) ∧ symbol.unit ∉ resolver.registry.map (·.1)
  /-- Whatever is done then, the resolver gives this very object for the name as long as the unit is
  registered and no unit that was registered since has the symbol. -/
  loads : resolver.defined.lookup name = none → ∀ operations : List Operation,
    Foremost (after.performAll operations) id after.fresh (symbol.unit, number) name →
      ((after.performAll operations).loadSymbol id name).2 = .ok symbol
  /-- The unit is registered as long as the resolver is not unloaded and no other unit is registered
  under its name. -/
  stays : ∀ operations : List Operation, (∀ operation ∈ operations, operation.unloads ≠ some id) →
    ∀ later, (after.performAll operations).resolvers.get? id = some later →
      (∀ entry ∈ later.registry, after.fresh ≤ entry.2 → entry.1 ≠ symbol.unit) →
        (symbol.unit, number) ∈ later.registry

/-- The resolver was opened before. -/
theorem Supplied.opened (supplied : Supplied id resolver name content ready number unit entry) :
    id < ready.fresh + 1 := by
  obtain ⟨busy, there⟩ := supplied.registered
  exact Nat.lt_succ_of_lt
    (supplied.numbers.resolversGiven id (List.mem_map_of_mem (Table.mem_of_get? there)))

/-- As long as no references change, the unit of the definition is foremost. -/
theorem Defines.foremost {symbol : Symbol} {later : Session}
    (defines : Defines id resolver name content after symbol number) (reached : Reachable after)
    (kept : KeepsLinks after later) :
    Foremost later id after.fresh (symbol.unit, number) name := by
  obtain ⟨unit, present, -⟩ := defines.unit
  have given := reached.wired.numbered number (by rw [present]; rfl)
  obtain ⟨now, there, registry⟩ := Option.map_eq_some_iff.mp defines.registered
  have same := kept.resolver id
  rw [there, Option.map_some] at same
  obtain ⟨last, stands, linked⟩ := Option.map_eq_some_iff.mp same
  have listed : last.registry = resolver.registry ++ [(symbol.unit, number)] :=
    (congrArg ResolverLinks.registry linked).trans registry
  refine ⟨last, stands, listed ▸ List.mem_append_right _ List.mem_cons_self,
    fun other among since => ?_⟩
  obtain ⟨rival, present, -⟩ := reached.wired.joined id now there other.2
    (registry ▸ listed ▸ List.mem_map_of_mem among)
  exact absurd (reached.wired.numbered other.2 (by rw [present]; rfl)) (Nat.not_lt.mpr since)

section

variable (supplied : Supplied id resolver name content ready number unit entry)
  (reached : Reachable (ready.makeSymbol number name unit.name (.bytecode content)).1)
  (platform : resolver.platform = .archive) (orphan : resolver.parent = none)
include supplied reached

/-- The units that were registered before have lower numbers. -/
theorem Supplied.newest {earlier : String × Nat} (listed : earlier ∈ resolver.registry) :
    earlier.2 < number := by
  obtain ⟨busy, there⟩ := supplied.registered
  exact (List.pairwise_append.mp (reached.indexed.ordered id _ there)).2.2 earlier listed _
    List.mem_cons_self

include platform orphan

/-- A symbol that was just made is served. -/
theorem Supplied.serving (unlearnt : resolver.defined.lookup name = none) :
    Serving id number (ready.fresh + 1) name ⟨name, unit.name, .bytecode content, ready.fresh⟩
      (ready.makeSymbol number name unit.name (.bytecode content)).1 := by
  obtain ⟨busy, there⟩ := supplied.registered
  have given : number < ready.fresh :=
    supplied.wired.numbered number (by rw [supplied.present]; rfl)
  refine ⟨reached.wired, Nat.lt_succ_of_lt given, Nat.le_refl _, supplied.opened,
    fun later present => ?_, fun later present => ?_⟩
  · obtain rfl := Option.some.inj (supplied.learns.symm.trans present)
    simp
  · obtain rfl := Option.some.inj (there.symm.trans present)
    refine ⟨platform, orphan, fun earlier listed later => ?_, fun _ => unlearnt⟩
    rcases List.mem_append.mp listed with early | isNew
    · exact absurd later (Nat.lt_asymm (supplied.newest reached early))
    · rw [List.mem_singleton.mp isNew] at later
      exact absurd later (Nat.lt_irrefl _)

/-- A definition of a proper name has brought about all that it should. -/
theorem Supplied.defines (proper : Symbol.Proper name) :
    Defines id resolver name content
      (ready.makeSymbol number name unit.name (.bytecode content)).1
      ⟨name, unit.name, .bytecode content, ready.fresh⟩ number := by
  obtain ⟨busy, there⟩ := supplied.registered
  have registered : (ready.makeSymbol number name unit.name (.bytecode content)).1.resolvers.get? id =
    some { resolver with registry := resolver.registry ++ [(unit.name, number)], busy } := there
  refine ⟨rfl, rfl, by rw [registered]; rfl, ⟨_, supplied.learns, rfl, supplied.symbolNames proper⟩,
    ⟨fun listed => ?_, supplied.new⟩, fun unlearnt operations foremost => ?_,
    fun operations spared later there others => ?_⟩
  · obtain ⟨earlier, among, same⟩ := List.mem_map.mp listed
    exact Nat.ne_of_lt (supplied.newest reached among) same
  · have serving := serving_persistent.performAll
      (supplied.serving reached platform orphan unlearnt) operations
        fun _ _ other _ _ serving => serving.unload other
    exact serving.loads (reached.performAll operations).indexed foremost
  · have listed : Enduring id (unit.name, number) (ready.fresh + 1)
        (ready.makeSymbol number name unit.name (.bytecode content)).1 := by
      refine ⟨supplied.opened, Nat.le_refl _, fun now present => ?_⟩
      obtain rfl := Option.some.inj (registered.symm.trans present)
      exact ⟨number, List.mem_append_right _ List.mem_cons_self, .inl rfl⟩
    have enduring := enduring_persistent.performAll listed operations
      fun operation member other unloaded _ enduring => enduring.unload fun same =>
        spared operation member (same ▸ unloaded)
    obtain ⟨still, among, rfl | renewed⟩ := enduring.listed later there
    · exact among
    · exact absurd rfl (others _ among renewed)

end

/-- A definition with a resolver without parent that passes archives through gives a symbol exactly
if the name is proper: it is not empty, has no separator, and does not end in a dot. Otherwise the
symbol is reported missing. A symbol that is given has the name and the bytecode asked for, and it
is that of the unit which was just registered as the most recent one. Unless a symbol was learnt for
the name from a local unit, the resolver gives this very object from then on, until another unit
with the symbol is registered or the unit is registered no longer.

A definition comes as far as the read-back in any case; the archive of a single entry lists the name
that the path of the entry stands for, and that is the name asked for just if it is proper. -/
theorem define_serves (equipped : Equipped start id resolver place)
    (orphan : resolver.parent = none) (stageable : Stageable resolver limit)
    (enough : start.fresh + 10 < limit)
    (readsBack : Zip.ReadsBack [(Symbol.entryPath name, content)]) (thread : Thread) :
    ((∃ symbol, (start.define id thread name content).2 = .ok symbol) ↔ Symbol.Proper name) ∧
      (¬ Symbol.Proper name →
        (start.define id thread name content).2 = .error (.symbolMissing name)) ∧
      ∀ symbol, (start.define id thread name content).2 = .ok symbol → ∃ number,
        Defines id resolver name content (start.define id thread name content).1 symbol number := by
  obtain ⟨ready, number, unit, entry, supplied, defined⟩ :=
    define_supplied equipped stageable enough readsBack thread
  have reached := equipped.hosted.reachable.define id thread name content
  rw [defined] at reached ⊢
  have improper (improper : ¬ Symbol.Proper name) := supplied.misses orphan improper
  refine ⟨⟨?_, fun proper => ⟨_, congrArg Prod.snd (supplied.makes proper)⟩⟩, improper, ?_⟩
  · rintro ⟨symbol, gives⟩
    by_contra missing
    rw [improper missing] at gives
    cases gives
  · intro symbol gives
    have proper : Symbol.Proper name := by
      by_contra missing
      rw [improper missing] at gives
      cases gives
    rw [supplied.makes proper] at gives reached ⊢
    cases gives
    exact ⟨number, supplied.defines reached equipped.platform orphan proper⟩

/-- A symbol is defined whose name has two dots in a row, and it is still loaded after a look-up of
something else. A name with the separator of paths is not that of a symbol. -/
theorem define_serves_dots : ∃ symbol,
    ((definerOpened {}).define 1 "main" "a..B" [1]).2 = .ok symbol ∧
      symbol.name = "a..B" ∧ symbol.body = .bytecode [1] ∧
      ((((definerOpened {}).define 1 "main" "a..B" [1]).1.performAll
        [.find (.resolver 1) "c"]).loadSymbol 1 "a..B").2 = .ok symbol ∧
      ((definerOpened {}).define 1 "main" "a/B" [1]).2 = .error (.symbolMissing "a/B") := by
  have stageable : Stageable (definer {}) (10 ^ 12) :=
    stageable_of_short (Nat.le_refl _) ⟨by decide, by decide, by decide⟩
      (fun _ impossible => by cases impossible) (by decide +kernel) (by decide +kernel)
  have enough : (definerOpened {}).fresh + 10 < 10 ^ 12 := by decide +kernel
  have stored : Zip.ReadsBack [(Symbol.entryPath "a..B", [1])] :=
    readsBack_of_storable ⟨by decide, by decide, by decide, by decide, by decide +kernel⟩
  have alsoStored : Zip.ReadsBack [(Symbol.entryPath "a/B", [1])] :=
    readsBack_of_storable ⟨by decide, by decide, by decide, by decide, by decide +kernel⟩
  have improper : ¬ Symbol.Proper "a/B" := fun proper => proper.whole (by decide)
  obtain ⟨-, missing, -⟩ :=
    define_serves definerOpened_equipped rfl stageable enough alsoStored "main"
  obtain ⟨gives, -, serves⟩ :=
    define_serves definerOpened_equipped rfl stageable enough stored "main"
  have reached := definerOpened_equipped.hosted.reachable.define 1 "main" "a..B" [1]
  rcases opened : (definerOpened {}).define 1 "main" "a..B" [1] with ⟨after, result⟩
  rw [opened] at gives serves reached
  obtain ⟨symbol, given⟩ := gives.mpr ⟨by decide, by decide, by decide⟩
  obtain ⟨number, defines⟩ := serves symbol given
  exact ⟨symbol, given, defines.named, defines.body, defines.loads rfl _
    (defines.foremost reached (quiet_follows.find after (.resolver 1) "c").toKeepsLinks),
      missing improper⟩

end Session

end Hotload
