import Hotload.Proofs.RegisteredSymbols
import Hotload.Proofs.SharedSymbols

/-!
# Listed symbols

A resolver lists the symbols of its registered units and of its local unit, and it finds symbols by
a search that also goes through its parent and through what it remembers. Listing and finding are
two walks through the same loaders. This module shows how they agree: what is listed is found, as
long as the search in the parent comes back, and what is found is listed unless it was remembered or
came from the parent.

The listing has a bound on its depth as the search has. It is not felt either: a listing only goes
from a resolver to its local unit, so one that ends passes each resolver once.
-/

namespace Hotload

namespace Session

/-! ## Sorted texts -/

/-- Sorted texts are in strict order, and they are the texts that were sorted. -/
theorem sorted_spec (names : List String) :
    (sorted names).Pairwise (· < ·) ∧ ∀ name, name ∈ sorted names ↔ name ∈ names := by
  have ordered := List.pairwise_mergeSort' (· ≤ ·) names
  have same (name : String) :
      name ∈ names.mergeSort (fun left right => decide (left ≤ right)) ↔ name ∈ names :=
    List.mem_mergeSort
  unfold sorted
  simp only [← same]
  generalize names.mergeSort (fun left right => decide (left ≤ right)) = inOrder at ordered
  -- Each text is put in front of later ones, unless it is the first of them.
  induction inOrder with
  | nil => simp
  | cons name rest inductionHypothesis =>
    obtain ⟨low, above⟩ := List.pairwise_cons.mp ordered
    obtain ⟨ascending, members⟩ := inductionHypothesis above
    simp only [List.foldr_cons]
    split
    · next next others begins =>
      rw [begins] at ascending members ⊢
      split
      · next repeated =>
        refine ⟨ascending, fun other => ?_⟩
        rw [members, List.mem_cons, or_iff_right_of_imp]
        rintro rfl
        exact (members other).mp (repeated ▸ List.mem_cons_self)
      · next differs =>
        have less : name < next :=
          Std.lt_of_le_of_ne (low next ((members next).mp List.mem_cons_self)) differs
        refine ⟨List.pairwise_cons.mpr ⟨fun other later => ?_, ascending⟩, fun other => ?_⟩
        · rcases List.mem_cons.mp later with rfl | behind
          · exact less
          · exact String.lt_trans less ((List.pairwise_cons.mp ascending).1 other behind)
        · rw [List.mem_cons, members, List.mem_cons]
    · next ends =>
      rw [ends] at members
      refine ⟨List.pairwise_singleton _ _, fun other => ?_⟩
      rw [List.mem_singleton, List.mem_cons, ← members]
      simp

/-! ## Listing without a bound -/

variable {session : Session} {id : Nat} {resolver : Resolver} {name : String}

/-- What the registered units of a resolver list, the most recent one first. -/
def registryNames (session : Session) (resolver : Resolver) : List String :=
  resolver.registry.recentFirst.flatMap fun unit =>
    ((session.units.get? unit).map (·.symbolNames)).getD []

/-- What a loader lists, given what all loaders list. -/
def listOf (session : Session) (list : Loader → Option (List String)) :
    Loader → Option (List String)
  | .failing => some []
  | .system id => some (sorted (((session.systems.get? id).getD []).map (·.1)))
  | .unit id => some (((session.units.get? id).map (·.symbolNames)).getD [])
  | .resolver id =>
    match session.resolvers.get? id with
    | none => some []
    | some resolver =>
      match resolver.localUnit with
      | none => some (sorted (session.registryNames resolver))
      | some loader =>
        (list loader).map fun names => sorted (session.registryNames resolver ++ names)

/-- One level more lists by what is listed within the level. -/
theorem symbolNamesWithin_succ (session : Session) (depth : Nat) (loader : Loader) :
    session.symbolNamesWithin (depth + 1) loader =
      session.listOf (session.symbolNamesWithin depth) loader := by
  cases loader <;> rfl

/-- More depth keeps every list that was reached. -/
theorem symbolNamesWithin_later (session : Session) {depth : Nat} {loader : Loader}
    {names : List String} (listed : session.symbolNamesWithin depth loader = some names) :
    session.symbolNamesWithin (depth + 1) loader = some names := by
  induction depth generalizing loader names with
  | zero => cases listed
  | succ depth inductionHypothesis =>
    rw [symbolNamesWithin_succ] at listed ⊢
    cases loader with
    | failing => exact listed
    | system id => exact listed
    | unit id => exact listed
    | resolver id =>
      simp only [listOf] at listed ⊢
      cases present : session.resolvers.get? id with
      | none => rwa [present] at listed
      | some resolver =>
        rw [present] at listed
        dsimp only at listed ⊢
        cases localUnit : resolver.localUnit with
        | none => rwa [localUnit] at listed
        | some loader =>
          rw [localUnit] at listed
          obtain ⟨inner, reached, rfl⟩ := Option.map_eq_some_iff.mp listed
          simp only [inductionHypothesis reached, Option.map_some]

/-- A loader whose list is reached at some depth first has passed one resolver at each level before,
and all of them are different: the list of each is reached first at another depth. -/
theorem exists_passed (session : Session) (depth : Nat) (loader : Loader)
    (late : session.symbolNamesWithin (depth + 1) loader ≠ none)
    (early : session.symbolNamesWithin depth loader = none) :
    ∃ ids : List Nat, ids.length = depth ∧ ids.Nodup ∧
      ∀ id ∈ ids, id ∈ session.resolvers.map (·.1) ∧
        session.symbolNamesWithin (depth + 1) (.resolver id) ≠ none := by
  induction depth generalizing loader with
  | zero => exact ⟨[], rfl, List.nodup_nil, fun _ impossible => by cases impossible⟩
  | succ depth inductionHypothesis =>
    rw [symbolNamesWithin_succ] at early
    cases loader with
    | failing => cases early
    | system id => cases early
    | unit id => cases early
    | resolver id =>
      have later := late
      rw [symbolNamesWithin_succ] at later
      simp only [listOf] at early later
      cases present : session.resolvers.get? id with
      | none => simp [present] at early
      | some resolver =>
        cases localUnit : resolver.localUnit with
        | none => simp [present, localUnit] at early
        | some loader =>
          simp only [present, localUnit, Option.map_eq_none_iff, ne_eq] at early later
          obtain ⟨ids, length, distinct, passed⟩ := inductionHypothesis loader later early
          have unfinished : session.symbolNamesWithin (depth + 1) (.resolver id) = none := by
            rw [symbolNamesWithin_succ]
            simp [listOf, present, localUnit, early]
          have new : id ∉ ids := fun again => (passed id again).2 unfinished
          refine ⟨id :: ids, by rw [List.length_cons, length], List.nodup_cons.mpr ⟨new, distinct⟩,
            fun other member => ?_⟩
          rcases List.mem_cons.mp member with rfl | member
          · exact ⟨Table.has_iff.mp (by rw [Table.has, present]; rfl), late⟩
          · obtain ⟨there, reached⟩ := passed other member
            obtain ⟨names, lists⟩ := Option.ne_none_iff_exists'.mp reached
            exact ⟨there, by rw [session.symbolNamesWithin_later lists]; simp⟩

/-- The equation of a listing without any bound: a loader lists by what the loaders list that it
asks. -/
theorem symbolNames?_eq (session : Session) (loader : Loader) :
    session.symbolNames? loader = session.listOf session.symbolNames? loader := by
  have enough (other : Loader) :
      session.symbolNamesWithin session.loaderCount other = session.symbolNames? other := by
    unfold symbolNames?
    cases reached : session.symbolNamesWithin session.loaderCount other with
    | some names => exact (session.symbolNamesWithin_later reached).symm
    | none =>
      by_contra ended
      obtain ⟨ids, length, distinct, passed⟩ :=
        session.exists_passed session.loaderCount other (fun never => ended never.symm) reached
      have few := (distinct.subperm fun id member => (passed id member).1).length_le
      rw [length, List.length_map] at few
      unfold loaderCount at few
      omega
  have bounded : session.symbolNamesWithin session.loaderCount = session.symbolNames? :=
    funext enough
  conv_lhs => rw [symbolNames?, symbolNamesWithin_succ, bounded]

end Session

/-! ## What a registered unit has itself -/

/-- The keys of a list of pairs are the texts that a search in it finds something for. -/
theorem mem_keys_iff_lookup {Value : Type} (pairs : List (String × Value)) (key : String) :
    key ∈ pairs.map (·.1) ↔ ∃ value, pairs.lookup key = some value := by
  rw [← Option.isSome_iff_exists, List.lookup_isSome_iff]
  simp only [List.mem_map, beq_iff_eq]
  exact exists_congr fun pair => and_congr_right fun _ => eq_comm

/-- A unit lists the symbols that it has an entry for. -/
theorem LoadedUnit.mem_symbolNames_iff (unit : LoadedUnit) (name : String) :
    name ∈ unit.symbolNames ↔ unit.entry? name ≠ none := by
  cases content : unit.content with
  | native exports => simp [symbolNames, entry?, content]
  | archive index =>
    rw [mem_symbolNames_of_index content, entry?, content, mem_keys_iff_lookup,
      Option.ne_none_iff_exists']

instance (read : UnitContent.BodyRead) : Decidable (∃ body, read = .body body) :=
  match read with
  | .body content => .isTrue ⟨content, rfl⟩
  | .failed _ => .isFalse fun ⟨_, impossible⟩ => nomatch impossible
  | .crashed _ => .isFalse fun ⟨_, impossible⟩ => nomatch impossible

/-- An archive of which every body was read before or can be read. -/
def LoadedUnit.Readable (files : Files) (unit : LoadedUnit) : Prop :=
  match unit.content with
  | .native _ => False
  | .archive index => ∀ entry ∈ index, unit.resolved.lookup entry.1 ≠ none ∨
      ∃ body, UnitContent.readBody files unit.artifact entry.2 = .body body

instance (files : Files) (unit : LoadedUnit) : Decidable (unit.Readable files) := by
  unfold LoadedUnit.Readable
  cases unit.content <;> dsimp only <;> infer_instance

namespace Answer

/-- A search finds what its first step finds, or else what the rest finds behind a miss. -/
theorem firstHit_cons_eq_found_iff (answer : Answer) (rest : List Answer) (symbol : Symbol) :
    firstHit (answer :: rest) = .found symbol ↔
      answer = .found symbol ∨ answer.isMiss = true ∧ firstHit rest = .found symbol := by
  cases answer <;> simp [firstHit, isMiss]

theorem firstHit_singleton_eq_found_iff (answer : Answer) (symbol : Symbol) :
    firstHit [answer] = .found symbol ↔ answer = .found symbol := by
  rw [firstHit_cons_eq_found_iff]
  simp [firstHit]

/-- A search finds what its first steps find, or else what the rest finds behind misses of them all.
-/
theorem firstHit_append_eq_found_iff (before after : List Answer) (symbol : Symbol) :
    firstHit (before ++ after) = .found symbol ↔ firstHit before = .found symbol ∨
      (∀ answer ∈ before, answer.isMiss = true) ∧ firstHit after = .found symbol := by
  induction before with
  | nil => simp [firstHit]
  | cons answer rest inductionHypothesis =>
    rw [List.cons_append, firstHit_cons_eq_found_iff, inductionHypothesis,
      firstHit_cons_eq_found_iff, List.forall_mem_cons, and_or_left, or_assoc, and_assoc]

/-- A search finds a symbol exactly if one of its steps does and every step before that misses. -/
theorem firstHit_eq_found_iff (answers : List Answer) (symbol : Symbol) :
    firstHit answers = .found symbol ↔
      ∃ before after, answers = before ++ .found symbol :: after ∧
        ∀ answer ∈ before, answer.isMiss = true := by
  constructor
  · intro found
    induction answers with
    | nil => cases found
    | cons answer rest inductionHypothesis =>
      rcases (firstHit_cons_eq_found_iff answer rest symbol).mp found with rfl | ⟨missed, later⟩
      · exact ⟨[], rest, rfl, by simp⟩
      · obtain ⟨before, after, rfl, passed⟩ := inductionHypothesis later
        exact ⟨answer :: before, after, rfl, List.forall_mem_cons.mpr ⟨missed, passed⟩⟩
  · rintro ⟨before, after, rfl, passed⟩
    exact (firstHit_append_eq_found_iff before _ symbol).mpr (.inr ⟨passed, rfl⟩)

/-- A search whose steps find or pass finds something as soon as one of them does. -/
theorem exists_firstHit_found {answers : List Answer} {symbol : Symbol}
    (clean : ∀ answer ∈ answers, answer = .absent ∨ ∃ other, answer = .found other)
    (hit : .found symbol ∈ answers) : ∃ other, firstHit answers = .found other := by
  induction answers with
  | nil => cases hit
  | cons answer rest inductionHypothesis =>
    rcases clean answer List.mem_cons_self with rfl | ⟨other, rfl⟩
    · have later : .found symbol ∈ rest := by simpa using hit
      exact inductionHypothesis (fun answer member => clean answer (List.mem_cons_of_mem _ member))
        later
    · exact ⟨other, rfl⟩

end Answer

namespace Session

variable {session : Session} {id number : Nat} {resolver : Resolver} {unit : LoadedUnit}
variable {name : String}

/-- A unit that is readable finds the symbols that it has an entry for, and no others. -/
theorem ownReply_readable (present : session.units.get? number = some unit) (sound : unit.Sound)
    (readable : unit.Readable session.files) :
    unit.entry? name ≠ none ∧ (∃ symbol, session.ownReply name number = .found symbol) ∨
      unit.entry? name = none ∧ session.ownReply name number = .absent := by
  obtain ⟨index, content, bodies⟩ : ∃ index, unit.content = .archive index ∧
      ∀ entry ∈ index, unit.resolved.lookup entry.1 ≠ none ∨
        ∃ body, UnitContent.readBody session.files unit.artifact entry.2 = .body body := by
    unfold LoadedUnit.Readable at readable
    split at readable
    · exact readable.elim
    · next index content => exact ⟨index, content, readable⟩
  have indexed : unit.entry? name = index.lookup name := by rw [LoadedUnit.entry?, content]
  rw [indexed]
  cases lists : index.lookup name with
  | none =>
    have unlisted : name ∉ index.map (·.1) := by simp [mem_keys_iff_lookup, lists]
    exact .inr ⟨rfl, ownReply_unlisted present sound content unlisted⟩
  | some entry =>
    refine .inl ⟨by simp, ?_⟩
    obtain ⟨before, after, rfl, _⟩ := List.lookup_eq_some_iff.mp lists
    cases known : unit.resolved.lookup name with
    | some symbol => exact ⟨symbol, by simp only [ownReply, present, known]⟩
    | none =>
      obtain ⟨body, reads⟩ := (bodies (name, entry) (by simp)).resolve_left fun made => made known
      exact ⟨_, by simp only [ownReply, present, known, content, lists, reads]; rfl⟩

/-! ## Listing and finding -/

/-- A loader finds every symbol that it lists. -/
def FindsListed (session : Session) (loader : Loader) : Prop :=
  ∃ names, session.symbolNames? loader = some names ∧
    ∀ name ∈ names, ∃ symbol, (session.find loader name).2 = .found symbol

/-- A loader lists every symbol that it finds. -/
def ListsFound (session : Session) (loader : Loader) : Prop :=
  ∀ name symbol, (session.find loader name).2 = .found symbol →
    ∃ names, session.symbolNames? loader = some names ∧ name ∈ names

/-- The registered units of a resolver are archives only, all of them readable. -/
def ReadsAll (session : Session) (resolver : Resolver) : Prop :=
  ∀ number ∈ resolver.registry.map (·.2), ∀ unit ∈ session.units.get? number,
    unit.Readable session.files

instance (session : Session) (resolver : Resolver) : Decidable (session.ReadsAll resolver) :=
  inferInstanceAs (Decidable (∀ number ∈ resolver.registry.map (·.2),
    ∀ unit ∈ session.units.get? number, unit.Readable session.files))

/-- Some registered unit has an entry for the symbol. -/
def HasEntry (session : Session) (resolver : Resolver) (name : String) : Prop :=
  ∃ number ∈ resolver.registry.map (·.2), ∃ unit ∈ session.units.get? number,
    unit.entry? name ≠ none

instance (session : Session) (resolver : Resolver) (name : String) :
    Decidable (session.HasEntry resolver name) :=
  inferInstanceAs (Decidable (∃ number ∈ resolver.registry.map (·.2),
    ∃ unit ∈ session.units.get? number, unit.entry? name ≠ none))

/-- The local unit lists the symbol. -/
def LocalLists (session : Session) (resolver : Resolver) (name : String) : Prop :=
  ∃ loader names, resolver.localUnit = some loader ∧ session.symbolNames? loader = some names ∧
    name ∈ names

/-- What the registered units list is what they have entries for. -/
theorem mem_registryNames :
    name ∈ session.registryNames resolver ↔ session.HasEntry resolver name := by
  unfold registryNames HasEntry Registry.recentFirst
  simp only [List.mem_flatMap, List.mem_reverse]
  refine exists_congr fun number => and_congr_right fun _ => ?_
  cases session.units.get? number with
  | none => simp
  | some unit => simp [LoadedUnit.mem_symbolNames_iff]

/-- A resolver lists in strict order what its units and its local unit list. -/
theorem exists_symbolNames (present : session.resolvers.get? id = some resolver)
    (lists : ∀ loader, resolver.localUnit = some loader → session.symbolNames? loader ≠ none) :
    ∃ names, session.symbolNames? (.resolver id) = some names ∧ names.Pairwise (· < ·) ∧
      ∀ name, name ∈ names ↔ session.HasEntry resolver name ∨ session.LocalLists resolver name := by
  rw [symbolNames?_eq]
  simp only [listOf, present]
  cases localUnit : resolver.localUnit with
  | none =>
    refine ⟨_, rfl, (sorted_spec _).1, fun name => ?_⟩
    rw [(sorted_spec _).2, mem_registryNames]
    simp [LocalLists, localUnit]
  | some loader =>
    obtain ⟨inner, reached⟩ := Option.ne_none_iff_exists'.mp (lists loader localUnit)
    simp only [reached, Option.map_some]
    refine ⟨_, rfl, (sorted_spec _).1, fun name => ?_⟩
    rw [(sorted_spec _).2, List.mem_append, mem_registryNames]
    simp [LocalLists, localUnit, reached]

/-- The registered units answer by what they have entries for: the search among them finds such a
symbol and no other. -/
theorem firstHit_readable (indexed : Indexed session)
    (present : session.resolvers.get? id = some resolver) (readable : session.ReadsAll resolver)
    (name : String) :
    (session.HasEntry resolver name ∧ ∃ symbol, Answer.firstHit
        (resolver.registry.recentFirst.map (session.ownReply name)) = .found symbol) ∨
      ¬ session.HasEntry resolver name ∧
        Answer.firstHit (resolver.registry.recentFirst.map (session.ownReply name)) = .absent := by
  have each (number : Nat) (registered : number ∈ resolver.registry.map (·.2)) :
      ∃ unit, session.units.get? number = some unit ∧
        (unit.entry? name ≠ none ∧ (∃ symbol, session.ownReply name number = .found symbol) ∨
          unit.entry? name = none ∧ session.ownReply name number = .absent) := by
    obtain ⟨unit, there, _⟩ := indexed.joined id resolver present number registered
    exact ⟨unit, there, ownReply_readable there (indexed.sound number unit there)
      (readable number registered unit there)⟩
  have clean : ∀ answer ∈ resolver.registry.recentFirst.map (session.ownReply name),
      answer = .absent ∨ ∃ symbol, answer = .found symbol := by
    intro answer member
    obtain ⟨number, listed, rfl⟩ := List.mem_map.mp member
    obtain ⟨unit, there, ⟨_, found⟩ | ⟨_, absent⟩⟩ := each number (List.mem_reverse.mp listed)
    · exact .inr found
    · exact .inl absent
  by_cases has : session.HasEntry resolver name
  · obtain ⟨number, registered, unit, there, entry⟩ := has
    obtain ⟨other, stands, ⟨_, symbol, found⟩ | ⟨without, _⟩⟩ := each number registered
    · have member : .found symbol ∈ resolver.registry.recentFirst.map (session.ownReply name) :=
        List.mem_map.mpr ⟨number, List.mem_reverse.mpr registered, found⟩
      exact .inl ⟨⟨number, registered, unit, there, entry⟩,
        Answer.exists_firstHit_found clean member⟩
    · obtain rfl := Option.some.inj (there.symm.trans stands)
      exact absurd without entry
  · refine .inr ⟨has, (Answer.firstHit_eq_absent_iff _).mpr fun answer member => ?_⟩
    obtain ⟨number, listed, rfl⟩ := List.mem_map.mp member
    have registered := List.mem_reverse.mp listed
    obtain ⟨unit, there, ⟨entry, _⟩ | ⟨_, absent⟩⟩ := each number registered
    · exact absurd ⟨number, registered, unit, there, entry⟩ has
    · rw [absent]
      rfl

/-- A system loader finds what it lists and lists what it finds. -/
theorem system_agrees (session : Session) (id : Nat) :
    session.FindsListed (.system id) ∧ session.ListsFound (.system id) := by
  have listed : session.symbolNames? (.system id) =
      some (sorted (((session.systems.get? id).getD []).map (·.1))) := by
    rw [symbolNames?_eq]
    rfl
  have given (name : String) : (session.find (.system id) name).2 =
      replyOf session name (session.reply name) (.system id) := reply_eq session name (.system id)
  constructor
  · refine ⟨_, listed, fun name member => ?_⟩
    rw [(sorted_spec _).2, mem_keys_iff_lookup] at member
    obtain ⟨symbol, known⟩ := member
    exact ⟨symbol, by simp only [given, replyOf, known]⟩
  · intro name symbol found
    refine ⟨_, listed, ?_⟩
    rw [(sorted_spec _).2, mem_keys_iff_lookup]
    rw [given, replyOf] at found
    split at found
    · next symbol known => exact ⟨symbol, known⟩
    · cases found

/-! ## Where a symbol comes from -/

/-- The places where a resolver's search can come to a symbol. -/
inductive Source where
  | remembered
  | parent
  | registered (number : Nat)
  | localUnit (loader : Loader)

/-- The resolver's search for the name comes to the symbol at the source: all that it asks before
misses. -/
def ComesFrom (session : Session) (resolver : Resolver) (name : String) (symbol : Symbol) :
    Source → Prop
  | .remembered => resolver.defined.lookup name = some symbol
  | .parent => resolver.defined.lookup name = none ∧
      replyOf? (session.reply name) resolver.parent = .found symbol
  | .registered number => resolver.defined.lookup name = none ∧
      (replyOf? (session.reply name) resolver.parent).isMiss = true ∧
        ∃ later earlier, resolver.registry.recentFirst = later ++ number :: earlier ∧
          (∀ other ∈ later, (session.ownReply name other).isMiss = true) ∧
            session.ownReply name number = .found symbol
  | .localUnit loader => resolver.defined.lookup name = none ∧
      (replyOf? (session.reply name) resolver.parent).isMiss = true ∧
        (∀ number ∈ resolver.registry.recentFirst, (session.ownReply name number).isMiss = true) ∧
          resolver.localUnit = some loader ∧ session.reply name loader = .found symbol

/-- A search of the units in turn finds a symbol exactly if one of them has it and those that were
registered later miss. -/
theorem firstHit_units_iff (name : String) (symbol : Symbol) (numbers : List Nat) :
    Answer.firstHit (numbers.map (session.ownReply name)) = .found symbol ↔
      ∃ number later earlier, numbers = later ++ number :: earlier ∧
        (∀ other ∈ later, (session.ownReply name other).isMiss = true) ∧
          session.ownReply name number = .found symbol := by
  rw [Answer.firstHit_eq_found_iff]
  constructor
  · rintro ⟨before, after, same, passed⟩
    obtain ⟨later, others, rfl, rfl, rest⟩ := List.map_eq_append_iff.mp same
    obtain ⟨number, earlier, rfl, found, rfl⟩ := List.map_eq_cons_iff.mp rest
    exact ⟨number, later, earlier, rfl, by simpa using passed, found⟩
  · rintro ⟨number, later, earlier, rfl, passed, found⟩
    exact ⟨later.map (session.ownReply name), earlier.map (session.ownReply name), by simp [found],
      by simpa using passed⟩

/-- A resolver loads a symbol exactly if its search comes to it at one of the sources. -/
theorem loadSymbol_eq_ok_iff (wired : Wired session)
    (present : session.resolvers.get? id = some resolver) (name : String) (symbol : Symbol) :
    (session.loadSymbol id name).2 = .ok symbol ↔
      ∃ source, session.ComesFrom resolver name symbol source := by
  have result : (session.loadSymbol id name).2 = .ok symbol ↔
      session.reply name (.resolver id) = .found symbol := by
    rw [loadSymbol_result]
    cases session.reply name (.resolver id) <;> simp [Answer.toResult]
  have opened : (session.resolvers.get? id).map (·.parent) = some resolver.parent := by
    rw [present]
    rfl
  rw [result, reply_resolver wired name opened]
  have remembered : definedReply resolver name = .found symbol ↔
      resolver.defined.lookup name = some symbol := by
    unfold definedReply
    cases resolver.defined.lookup name <;> simp
  have forgotten : (definedReply resolver name).isMiss = true ↔
      resolver.defined.lookup name = none := by
    unfold definedReply
    cases resolver.defined.lookup name <;> simp [Answer.isMiss]
  have last : Answer.firstHit [replyOf? (session.reply name) resolver.localUnit] = .found symbol ↔
      ∃ loader, resolver.localUnit = some loader ∧ session.reply name loader = .found symbol := by
    rw [Answer.firstHit_singleton_eq_found_iff]
    cases resolver.localUnit <;> simp [replyOf?]
  simp only [rememberedReply, levelReplies, present]
  rw [Answer.firstHit_cons_eq_found_iff, Answer.firstHit_cons_eq_found_iff,
    Answer.firstHit_append_eq_found_iff, firstHit_units_iff, remembered, forgotten, last,
    List.forall_mem_map]
  constructor
  · rintro (known | ⟨unknown, given | ⟨missed, ⟨number, shape⟩ | ⟨passed, loader, chosen, given⟩⟩⟩)
    · exact ⟨.remembered, known⟩
    · exact ⟨.parent, unknown, given⟩
    · exact ⟨.registered number, unknown, missed, shape⟩
    · exact ⟨.localUnit loader, unknown, missed, passed, chosen, given⟩
  · rintro ⟨source, comes⟩
    cases source with
    | remembered => exact .inl comes
    | parent =>
      obtain ⟨unknown, given⟩ := comes
      exact .inr ⟨unknown, .inl given⟩
    | registered number =>
      obtain ⟨unknown, missed, shape⟩ := comes
      exact .inr ⟨unknown, .inr ⟨missed, .inl ⟨number, shape⟩⟩⟩
    | localUnit loader =>
      obtain ⟨unknown, missed, passed, chosen, given⟩ := comes
      exact .inr ⟨unknown, .inr ⟨missed, .inr ⟨passed, loader, chosen, given⟩⟩⟩

/-! ## Listing and loading -/

/-- Whether a source lists what it gives: registered units do, and a local unit does if it lists all
that it finds. -/
def Source.Lists (session : Session) : Source → Prop
  | .remembered | .parent => False
  | .registered _ => True
  | .localUnit loader => session.ListsFound loader

/-- A listed symbol that the resolver has not learnt is loaded exactly if the search in the parent
comes back. -/
theorem loads_listed (reached : Reachable session)
    (present : session.resolvers.get? id = some resolver) (readable : session.ReadsAll resolver)
    (complete : ∀ loader, resolver.localUnit = some loader → session.FindsListed loader)
    (listed : session.HasEntry resolver name ∨ session.LocalLists resolver name) :
    (∃ symbol, (session.loadSymbol id name).2 = .ok symbol) ↔
      resolver.defined.lookup name ≠ none ∨
        ∀ crash, replyOf? (session.reply name) resolver.parent ≠ .crashed crash := by
  simp only [loadSymbol_eq_ok_iff reached.wired present]
  constructor
  · rintro ⟨symbol, source, comes⟩
    cases source with
    | remembered =>
      have learnt : resolver.defined.lookup name = some symbol := comes
      exact .inl (by simp [learnt])
    | parent =>
      obtain ⟨_, given⟩ := comes
      exact .inr (by simp [given])
    | registered number =>
      obtain ⟨_, missed, _⟩ := comes
      exact .inr fun crash crashed => by cases crashed ▸ missed
    | localUnit loader =>
      obtain ⟨_, missed, _⟩ := comes
      exact .inr fun crash crashed => by cases crashed ▸ missed
  · intro back
    cases known : resolver.defined.lookup name with
    | some symbol => exact ⟨symbol, .remembered, known⟩
    | none =>
      have returns := back.resolve_left fun learnt => learnt known
      by_cases missed : (replyOf? (session.reply name) resolver.parent).isMiss = true
      · rcases firstHit_readable reached.indexed present readable name with
          ⟨_, symbol, found⟩ | ⟨without, absent⟩
        · obtain ⟨number, shape⟩ := (firstHit_units_iff name symbol _).mp found
          exact ⟨symbol, .registered number, known, missed, shape⟩
        · obtain ⟨loader, names, chosen, lists, member⟩ := listed.resolve_left without
          obtain ⟨others, same, finds⟩ := complete loader chosen
          obtain rfl := Option.some.inj (lists.symm.trans same)
          obtain ⟨symbol, found⟩ := finds name member
          have passed := (Answer.firstHit_eq_absent_iff _).mp absent
          simp only [List.mem_map, forall_exists_index, and_imp, forall_apply_eq_imp_iff₂] at passed
          exact ⟨symbol, .localUnit loader, known, missed, passed, chosen, found⟩
      · cases answered : replyOf? (session.reply name) resolver.parent with
        | found symbol => exact ⟨symbol, .parent, known, answered⟩
        | crashed crash => exact absurd answered (returns crash)
        | absent => exact absurd (answered ▸ rfl) missed
        | failed error => exact absurd (answered ▸ rfl) missed

/-- What a resolver loads from a source that lists, its registered units have an entry for or its
local unit lists. -/
theorem ComesFrom.listed (indexed : Indexed session)
    (present : session.resolvers.get? id = some resolver) (readable : session.ReadsAll resolver)
    {symbol : Symbol} {source : Source} (comes : session.ComesFrom resolver name symbol source)
    (lists : source.Lists session) :
    session.HasEntry resolver name ∨ session.LocalLists resolver name := by
  cases source with
  | remembered => cases lists
  | parent => cases lists
  | registered number =>
    obtain ⟨_, _, shape⟩ := comes
    have found := (firstHit_units_iff name symbol _).mpr ⟨number, shape⟩
    rcases firstHit_readable indexed present readable name with ⟨has, _⟩ | ⟨_, absent⟩
    · exact .inl has
    · rw [absent] at found
      cases found
  | localUnit loader =>
    obtain ⟨_, _, _, chosen, given⟩ := comes
    obtain ⟨names, listed, member⟩ := lists name symbol given
    exact .inr ⟨loader, names, chosen, listed, member⟩

/-- Listing and loading agree, for a resolver in any state whose units are readable archives and
whose local unit finds what it lists. The list is in strict order and has what the units have
entries for and what the local unit lists, and nothing else; every listed symbol is loaded, unless
the resolver has not learnt it and the search in its parent does not come back; and a symbol that is
loaded is listed, unless it was learnt, came from the parent or from a local unit that does not list
all that it finds. -/
theorem symbolNames?_agrees (reached : Reachable session)
    (present : session.resolvers.get? id = some resolver) (readable : session.ReadsAll resolver)
    (complete : ∀ loader, resolver.localUnit = some loader → session.FindsListed loader) :
    ∃ names, session.symbolNames? (.resolver id) = some names ∧ names.Pairwise (· < ·) ∧
      (∀ name, name ∈ names ↔
        session.HasEntry resolver name ∨ session.LocalLists resolver name) ∧
      (∀ name ∈ names, (∃ symbol, (session.loadSymbol id name).2 = .ok symbol) ↔
        resolver.defined.lookup name ≠ none ∨
          ∀ crash, replyOf? (session.reply name) resolver.parent ≠ .crashed crash) ∧
      (∀ name symbol, (session.loadSymbol id name).2 = .ok symbol ↔
        ∃ source, session.ComesFrom resolver name symbol source) ∧
      ∀ name symbol source, session.ComesFrom resolver name symbol source →
        source.Lists session → name ∈ names := by
  obtain ⟨names, lists, ascending, members⟩ := exists_symbolNames present fun loader chosen => by
    obtain ⟨inner, listed, _⟩ := complete loader chosen
    simp [listed]
  refine ⟨names, lists, ascending, members, fun name listed => ?_,
    loadSymbol_eq_ok_iff reached.wired present, fun name symbol source comes willing => ?_⟩
  · exact loads_listed reached present readable complete ((members name).mp listed)
  · exact (members name).mpr (comes.listed reached.indexed present readable willing)

/-- An archive with two symbols. -/
def twoSymbols : Files :=
  ⟨[(["tmp"], .directory), (["tmp", "work"], .directory),
    (["tmp", "work", "a.zip"], .file (Zip.write [("A.class", [1]), ("B.class", [2])]) 0)], 0⟩

/-- A resolver with the archive registered and a system loader as its local unit; both have `B`. -/
def overlapping : Session :=
  (perform { files := twoSymbols } .addSystem).performAll
    [.defineSystem 0 "B" [3], .defineSystem 0 "C" [4],
      .openResolver "loader" {} (fun _ files => (files, .ok ⟨some 0, ""⟩)) .archive none,
      .register 4 "a" "a.zip" none, .setLocal 4 (some (.system 0))]

/-- A resolver has an archive with `A` and `B`, and a local unit with `B` and `C`. All three are
listed, and what is listed is loaded. -/
theorem symbolNames?_agrees_overlapping :
    ∃ names, overlapping.symbolNames? (.resolver 4) = some names ∧ names.Pairwise (· < ·) ∧
      "A" ∈ names ∧ "B" ∈ names ∧ "C" ∈ names ∧
        ∀ name ∈ names, ∃ symbol, (overlapping.loadSymbol 4 name).2 = .ok symbol := by
  have reached : Reachable overlapping := ((Reachable.start _).perform _).performAll _
  obtain ⟨resolver, present⟩ := Option.isSome_iff_exists.mp
    (show (overlapping.resolvers.get? 4).isSome by decide +kernel)
  have shape : ∀ resolver ∈ overlapping.resolvers.get? 4,
      overlapping.ReadsAll resolver ∧ resolver.localUnit = some (.system 0) ∧
        resolver.parent = none ∧ overlapping.HasEntry resolver "A" ∧
          overlapping.HasEntry resolver "B" := by decide +kernel
  obtain ⟨readable, chosen, orphan, first, second⟩ := shape resolver present
  have complete : ∀ loader, resolver.localUnit = some loader → overlapping.FindsListed loader := by
    intro loader isLocal
    obtain rfl := Option.some.inj (chosen.symm.trans isLocal)
    exact (overlapping.system_agrees 0).1
  obtain ⟨names, listed, ascending, members, loads, _⟩ :=
    symbolNames?_agrees reached present readable complete
  have third : overlapping.LocalLists resolver "C" := by
    obtain ⟨others, lists, member⟩ := (overlapping.system_agrees 0).2 "C"
      ⟨"C", "<system>", .bytecode [4], 2⟩ (by decide +kernel)
    exact ⟨.system 0, others, chosen, lists, member⟩
  exact ⟨names, listed, ascending, (members "A").mpr (.inl first), (members "B").mpr (.inl second),
    (members "C").mpr (.inr third),
    fun name member => (loads name member).mpr (.inr (by simp [orphan, replyOf?]))⟩

/-- A resolver with the archive registered, whose parent is its own local unit. -/
def belowCircle : Session :=
  (perform { files := twoSymbols }
    (.openResolver "outer" {} (fun _ files => (files, .ok ⟨some 0, ""⟩)) .archive none)).performAll
    [.setLocal 1 (some (.resolver 1)),
      .openResolver "inner" {} (fun _ files => (files, .ok ⟨some 0, ""⟩)) .archive
        (some (.resolver 1)),
      .register 3 "a" "a.zip" none]

/-- A resolver has an archive with a symbol and a parent that asks itself for ever. It lists the
symbol and does not load it, since the search in the parent does not come back. -/
theorem belowCircle_endless :
    Reachable belowCircle ∧
      (∀ resolver ∈ belowCircle.resolvers.get? 3,
        belowCircle.ReadsAll resolver ∧ resolver.localUnit = none) ∧
      (∃ names, belowCircle.symbolNames? (.resolver 3) = some names ∧ "A" ∈ names) ∧
        (belowCircle.loadSymbol 3 "A").2 = .error (.crash .endless) := by
  have reached : Reachable belowCircle := ((Reachable.start _).perform _).performAll _
  obtain ⟨resolver, present⟩ := Option.isSome_iff_exists.mp
    (show (belowCircle.resolvers.get? 3).isSome by decide +kernel)
  have shape : ∀ resolver ∈ belowCircle.resolvers.get? 3,
      (belowCircle.ReadsAll resolver ∧ resolver.localUnit = none) ∧
        belowCircle.HasEntry resolver "A" := by decide +kernel
  obtain ⟨names, listed, _, members⟩ := exists_symbolNames present fun loader chosen => by
    rw [(shape resolver present).1.2] at chosen
    cases chosen
  exact ⟨reached, fun other there => (shape other there).1,
    ⟨names, listed, (members "A").mpr (.inl (shape resolver present).2)⟩, by decide +kernel⟩

end Session

end Hotload
