import Hotload.Proofs.LocalSymbols
import Hotload.Proofs.RegisteredArtifacts

/-!
# Symbols that look-ups share

A unit over an archive makes the symbol for a name from the body that the artifact has when the name
is looked up, and remembers it. Any number of threads may look up symbols at once, and the artifact may
be rewritten or deleted at any time. A look-up asks under a lock what is remembered, reads the body
without one, and takes the lock again to remember the symbol that it made. Another look-up of the name
may have remembered one meanwhile: then that one is given, and the symbol just made is dropped. So all
look-ups of a name that the unit has come to one symbol, and once one of them came to it, later ones
need the artifact no more. A body that cannot be read is an error, which is not remembered and is not
made up for by the parent; and a name that the unit does not have is the parent's matter alone.
-/

namespace Hotload

/-- Whether an artifact has an entry that defines a symbol. -/
def UnitContent.DefinedIn (files : Files) (artifact name : String) : Prop :=
  ∃ container entries, openArtifact files artifact = .ok (container, entries) ∧
    ∃ entry ∈ entries, Symbol.symbolName? entry.name = some name

/-- The entry that a unit over an archive has for a symbol. -/
def LoadedUnit.entry? (unit : LoadedUnit) (name : String) : Option String :=
  match unit.content with
  | .archive index => index.lookup name
  | .native _ => none

/-- A bound archive has an entry for just the symbols that the artifact had when it was bound. -/
theorem LoadedUnit.entry?_ne_none_iff {unit : LoadedUnit} {files : Files}
    (bound : UnitContent.bind .archive files unit.artifact = .ok unit.content) (name : String) :
    unit.entry? name ≠ none ↔ UnitContent.DefinedIn files unit.artifact name := by
  obtain ⟨container, entries, isRead, isList, archive⟩ := UnitContent.opened_of_bind bound
  have opened : UnitContent.openArtifact files unit.artifact = .ok (container, entries) := by
    simp only [UnitContent.openArtifact, Packaging.openContainer, isRead, isList]
  have has : unit.entry? name ≠ none ↔
      ∃ entry ∈ entries, Symbol.symbolName? entry.name = some name := by
    unfold LoadedUnit.entry?
    rw [archive]
    dsimp only
    rw [UnitContent.lookup_indexOf]
    simp [UnitContent.entryFor?]
  rw [has]
  constructor
  · exact fun defined => ⟨container, entries, opened, defined⟩
  · rintro ⟨other, others, reopened, defined⟩
    obtain ⟨-, rfl⟩ := Prod.mk.inj (Except.ok.inj (opened.symm.trans reopened))
    exact defined

namespace Session

/-! ## Look-ups in a unit -/

/-- What a look-up in a unit is told by others. -/
inductive UnitTold where
  /-- What reading the body led to. -/
  | read (result : UnitContent.BodyRead)
  | replied (parent : Loader) (answer : Answer)

/-- What a look-up in a unit comes to. -/
inductive UnitOutcome where
  /-- A symbol of the unit itself. -/
  | own (symbol : Symbol)
  /-- The body cannot be read. -/
  | unread (error : UnitError)
  | crashed (crash : Crash)
  /-- What the parent answered, or that there is none. -/
  | inherited (answer : Answer)

/-- The answer that a look-up gives. -/
def UnitOutcome.answer : UnitOutcome → Answer
  | .own symbol => .found symbol
  | .unread error => .failed error
  | .crashed crash => .crashed crash
  | .inherited answer => answer

/-- Where a look-up in a unit stands. -/
inductive UnitPhase where
  | asked
  /-- No symbol is remembered, and the body is read from an entry. -/
  | reading (entry : String)
  /-- A symbol was made, and the lock is waited for to remember it. -/
  | made (symbol : Symbol)
  /-- The unit does not have the symbol, and the parent is asked. -/
  | asking (parent : Loader)
  | ended (outcome : UnitOutcome)

/-- A look-up of a name in a unit. -/
structure UnitLookup where
  name : String
  phase : UnitPhase
  told : List UnitTold

/-- What a look-up answered, if it ended. -/
def UnitLookup.answer? (lookup : UnitLookup) : Option Answer :=
  match lookup.phase with
  | .ended outcome => some outcome.answer
  | _ => none

/-- A session with look-ups in a unit, each known by its place in the list. -/
structure UnitLookups where
  session : Session
  lookups : List UnitLookup

/-- A look-up asks what is remembered. If nothing is, then the index and the parent, which never
change, say how it goes on. -/
def recallIn (session : Session) (id : Nat) (name : String) : UnitPhase :=
  match session.units.get? id with
  | none => .ended (.inherited .absent)
  | some unit =>
    match unit.resolved.lookup name with
    | some symbol => .ended (.own symbol)
    | none =>
      match unit.entry? name with
      | some entry => .reading entry
      | none =>
        match unit.parent with
        | some parent => .asking parent
        | none => .ended (.inherited .absent)

/-- A look-up goes on from what reading the body led to. -/
def afterRead (session : Session) (unit name : String) :
    UnitContent.BodyRead → Session × UnitPhase
  | .body content =>
    let (session, serial) := session.number
    (session, .made ⟨name, unit, .bytecode content, serial⟩)
  | .failed error => (session, .ended (.unread error))
  | .crashed crash => (session, .ended (.crashed crash))

/-- Remembers a symbol unless one of the name is remembered already, and gives the one that is. -/
def shareIn (session : Session) (id : Nat) (symbol : Symbol) : Session × Symbol :=
  match (session.units.get? id).bind (·.resolved.lookup symbol.name) with
  | some earlier => (session, earlier)
  | none => (session.rememberIn id symbol, symbol)

/-- One step of a look-up in a unit, or of anything else. A look-up consults what the unit
remembers, reads the body, makes a symbol and shares it in steps of their own, so that two look-ups
of one name may both make one. The session may change in any way that leaves the unit and what it
remembers alone. -/
inductive UnitStep (id : Nat) : UnitLookups → UnitLookups → Prop
  /-- Another look-up begins. -/
  | ask (state : UnitLookups) (name : String) :
      UnitStep id state { state with lookups := state.lookups ++ [⟨name, .asked, []⟩] }
  | consult (state : UnitLookups) (place : Nat) (name : String) (told : List UnitTold)
      (there : state.lookups[place]? = some ⟨name, .asked, told⟩) :
      UnitStep id state
        { state with
          lookups := state.lookups.set place ⟨name, state.session.recallIn id name, told⟩ }
  /-- Reading the body leads to anything, because the artifact may have changed, and may be changed
  while it is read. -/
  | read (state : UnitLookups) (place : Nat) (name entry : String) (told : List UnitTold)
      (there : state.lookups[place]? = some ⟨name, .reading entry, told⟩) (unit : LoadedUnit)
      (present : state.session.units.get? id = some unit) (result : UnitContent.BodyRead) :
      UnitStep id state
        { state with
          session := (state.session.afterRead unit.name name result).1
          lookups := state.lookups.set place
            ⟨name, (state.session.afterRead unit.name name result).2, .read result :: told⟩ }
  | share (state : UnitLookups) (place : Nat) (name : String) (symbol : Symbol)
      (told : List UnitTold)
      (there : state.lookups[place]? = some ⟨name, .made symbol, told⟩) :
      UnitStep id state
        { state with
          session := (state.session.shareIn id symbol).1
          lookups := state.lookups.set place
            ⟨name, .ended (.own (state.session.shareIn id symbol).2), told⟩ }
  /-- The parent answers anything. -/
  | reply (state : UnitLookups) (place : Nat) (name : String) (parent : Loader)
      (told : List UnitTold)
      (there : state.lookups[place]? = some ⟨name, .asking parent, told⟩) (answer : Answer) :
      UnitStep id state
        { state with
          lookups := state.lookups.set place
            ⟨name, .ended (.inherited answer), .replied parent answer :: told⟩ }
  /-- Something else happens that leaves the unit and what it remembers alone. It may change any file,
  that of the artifact included. -/
  | elsewhere (state : UnitLookups) (session : Session)
      (same : session.units.get? id = state.session.units.get? id)
      (grown : state.session.fresh ≤ session.fresh) :
      UnitStep id state { state with session }

/-! ## What every step keeps -/

variable {id : Nat} {unit : LoadedUnit} {symbols : List (String × Symbol)}
variable {lookups : List UnitLookup} {state next : UnitLookups}

/-- A symbol is one that a look-up of the name made for a unit, from a body that it read. -/
structure IsOwn (unit : LoadedUnit) (lookups : List UnitLookup) (name : String) (symbol : Symbol) :
    Prop where
  listed : unit.entry? name ≠ none
  named : symbol.name = name
  madeBy : symbol.unit = unit.name
  isRead : ∃ reader ∈ lookups, reader.name = name ∧
    ∃ content, .read (.body content) ∈ reader.told ∧ symbol.body = .bytecode content

/-- A look-up stands where what it was told leads, and if it came to a symbol of the unit then to the
one that is remembered. -/
def UnitLookup.Fits (unit : LoadedUnit) (symbols : List (String × Symbol)) (lookup : UnitLookup) :
    Prop :=
  match lookup.phase with
  | .asked => lookup.told = []
  | .reading _ => unit.entry? lookup.name ≠ none ∧ lookup.told = []
  | .made symbol => unit.entry? lookup.name ≠ none ∧ ∃ content serial,
      lookup.told = [.read (.body content)] ∧
        symbol = ⟨lookup.name, unit.name, .bytecode content, serial⟩
  | .asking parent =>
    unit.entry? lookup.name = none ∧ unit.parent = some parent ∧ lookup.told = []
  | .ended (.own symbol) =>
    symbols.lookup lookup.name = some symbol ∧
      (lookup.told = [] ∨ ∃ content, lookup.told = [.read (.body content)])
  | .ended (.unread error) =>
    unit.entry? lookup.name ≠ none ∧ lookup.told = [.read (.failed error)]
  | .ended (.crashed crash) =>
    unit.entry? lookup.name ≠ none ∧ lookup.told = [.read (.crashed crash)]
  | .ended (.inherited answer) =>
    unit.entry? lookup.name = none ∧
      match unit.parent with
      | some parent => lookup.told = [.replied parent answer]
      | none => lookup.told = [] ∧ answer = .absent

/-- The unit is as it was but for the symbols that it remembers, and every one of those was made by a
look-up. -/
structure Sharing (id : Nat) (unit : LoadedUnit) (symbols : List (String × Symbol))
    (state : UnitLookups) : Prop where
  present : state.session.units.get? id = some { unit with resolved := symbols }
  own : ∀ name symbol, symbols.lookup name = some symbol →
    IsOwn unit state.lookups name symbol
  lookups : ∀ lookup ∈ state.lookups, lookup.Fits unit symbols

/-- A symbol that a look-up made stays one when look-ups begin and go on. -/
theorem IsOwn.later {name : String} {symbol : Symbol} (own : IsOwn unit lookups name symbol)
    {others : List UnitLookup}
    (goOn : ∀ lookup ∈ lookups, ∃ now ∈ others, now.name = lookup.name ∧ lookup.told ⊆ now.told) :
    IsOwn unit others name symbol := by
  obtain ⟨reader, member, named, content, told, body⟩ := own.isRead
  obtain ⟨now, there, same, more⟩ := goOn reader member
  exact ⟨own.listed, own.named, own.madeBy, now, there, same.trans named, content, more told, body⟩

/-- Look-ups that go on at one place are all still there. -/
theorem goOn_set {place : Nat} {lookup : UnitLookup} (there : lookups[place]? = some lookup)
    (now : UnitLookup) (named : now.name = lookup.name) (more : lookup.told ⊆ now.told) :
    ∀ other ∈ lookups, ∃ after ∈ lookups.set place now,
      after.name = other.name ∧ other.told ⊆ after.told := by
  intro other member
  obtain ⟨index, inside, rfl⟩ := List.getElem_of_mem member
  obtain ⟨isPlace, rfl⟩ := List.getElem?_eq_some_iff.mp there
  by_cases here : place = index
  · subst here
    exact ⟨now, List.mem_set isPlace now, named, more⟩
  · refine ⟨lookups[index], ?_, rfl, List.Subset.refl _⟩
    rw [← List.getElem_set_of_ne here now (by simpa using inside)]
    exact List.getElem_mem _

/-- More symbols to remember leave a look-up where it stands. -/
theorem UnitLookup.Fits.later {lookup : UnitLookup} (fits : lookup.Fits unit symbols)
    {more : List (String × Symbol)}
    (kept : ∀ name symbol, symbols.lookup name = some symbol → more.lookup name = some symbol) :
    lookup.Fits unit more := by
  obtain ⟨name, phase, told⟩ := lookup
  cases phase with
  | ended outcome =>
    cases outcome with
    | own symbol => exact ⟨kept name symbol fits.1, fits.2⟩
    | unread | crashed | inherited => exact fits
  | asked | reading | made | asking => exact fits

/-- A look-up that goes on while nothing is remembered anew. -/
theorem Sharing.move (sharing : Sharing id unit symbols state) {place : Nat}
    {lookup : UnitLookup} (there : state.lookups[place]? = some lookup) (now : UnitLookup)
    (named : now.name = lookup.name) (more : lookup.told ⊆ now.told)
    (fits : now.Fits unit symbols) {session : Session}
    (same : session.units.get? id = state.session.units.get? id) :
    Sharing id unit symbols ⟨session, state.lookups.set place now⟩ where
  present := same.trans sharing.present
  own name symbol remembered :=
    (sharing.own name symbol remembered).later (goOn_set there now named more)
  lookups := forall_set sharing.lookups fits

/-- What a look-up finds remembered, or how it goes on, fits. -/
theorem Sharing.recalled (sharing : Sharing id unit symbols state) (name : String) :
    UnitLookup.Fits unit symbols ⟨name, state.session.recallIn id name, []⟩ := by
  unfold recallIn
  rw [sharing.present]
  dsimp only
  cases early : symbols.lookup name with
  | some symbol => exact ⟨early, .inl rfl⟩
  | none =>
    have same : LoadedUnit.entry? { unit with resolved := symbols } name = unit.entry? name := rfl
    rw [same]
    cases listed : unit.entry? name with
    | some entry => exact ⟨by simp [listed], rfl⟩
    | none =>
      cases above : unit.parent with
      | some parent => exact ⟨listed, above, rfl⟩
      | none =>
        refine ⟨listed, ?_⟩
        rw [above]
        exact ⟨rfl, rfl⟩

/-- What reading a body leads to fits, and leaves the unit alone. -/
theorem afterRead_fits (session : Session) {name : String} (listed : unit.entry? name ≠ none)
    (result : UnitContent.BodyRead) :
    UnitLookup.Fits unit symbols ⟨name, (session.afterRead unit.name name result).2, [.read result]⟩ ∧
      (session.afterRead unit.name name result).1.units = session.units := by
  cases result with
  | body content => exact ⟨⟨listed, content, _, rfl, rfl⟩, rfl⟩
  | failed error => exact ⟨⟨listed, rfl⟩, rfl⟩
  | crashed crash => exact ⟨⟨listed, rfl⟩, rfl⟩

/-- A look-up that made a symbol comes to the one that is remembered then, be it its own or an earlier
one; and what was remembered before still is. -/
theorem Sharing.share (sharing : Sharing id unit symbols state) {place : Nat} {name : String}
    {symbol : Symbol} {told : List UnitTold}
    (there : state.lookups[place]? = some ⟨name, .made symbol, told⟩) :
    ∃ more, Sharing id unit more
        ⟨(state.session.shareIn id symbol).1, state.lookups.set place
          ⟨name, .ended (.own (state.session.shareIn id symbol).2), told⟩⟩ ∧
      ∀ name symbol, symbols.lookup name = some symbol → more.lookup name = some symbol := by
  obtain ⟨listed, content, serial, isTold, isSymbol⟩ :=
    sharing.lookups _ (List.mem_of_getElem? there)
  dsimp only at listed isTold
  have named : symbol.name = name := by rw [isSymbol]
  unfold shareIn
  rw [sharing.present, Option.bind_some, named]
  dsimp only
  cases early : symbols.lookup name with
  | some earlier =>
    exact ⟨symbols, sharing.move there ⟨name, .ended (.own earlier), told⟩ rfl
      (List.Subset.refl _) ⟨early, .inr ⟨content, isTold⟩⟩ rfl, fun _ _ remembered => remembered⟩
  | none =>
    have kept : ∀ other known, symbols.lookup other = some known →
        (symbols ++ [(name, symbol)]).lookup other = some known := by
      intro other known remembered
      rw [List.lookup_append, remembered, Option.some_or]
    have goOn := goOn_set there ⟨name, .ended (.own symbol), told⟩ rfl (List.Subset.refl _)
    refine ⟨symbols ++ [(name, symbol)], ⟨?_, ?_, ?_⟩, kept⟩
    · simp only [rememberIn, Table.get?_update, ↓reduceIte, sharing.present, Option.map_some, named]
    · intro other known remembered
      rw [List.lookup_append] at remembered
      cases before : symbols.lookup other with
      | some earlier =>
        rw [before, Option.some_or] at remembered
        obtain rfl := Option.some.inj remembered
        exact (sharing.own other earlier before).later goOn
      | none =>
        rw [before, Option.none_or, List.lookup_cons] at remembered
        split at remembered
        · next same =>
          obtain rfl := beq_iff_eq.mp same
          obtain rfl := Option.some.inj remembered
          obtain ⟨now, member, isName, more⟩ := goOn _ (List.mem_of_getElem? there)
          exact ⟨listed, named, by rw [isSymbol], now, member, isName, content,
            more (by simp [isTold]), by rw [isSymbol]⟩
        · cases remembered
    · refine forall_set (fun lookup member => (sharing.lookups lookup member).later kept) ?_
      refine ⟨?_, .inr ⟨content, isTold⟩⟩
      simp [List.lookup_append, early]

/-- Every step keeps to what is remembered, and what is remembered only grows. -/
theorem Sharing.step (sharing : Sharing id unit symbols state) (step : UnitStep id state next) :
    ∃ more, Sharing id unit more next ∧
      ∀ name symbol, symbols.lookup name = some symbol → more.lookup name = some symbol := by
  have unchanged : Sharing id unit symbols next → ∃ more, Sharing id unit more next ∧
      ∀ name symbol, symbols.lookup name = some symbol → more.lookup name = some symbol :=
    fun after => ⟨symbols, after, fun _ _ remembered => remembered⟩
  have fitsAt {place : Nat} {lookup : UnitLookup} (there : state.lookups[place]? = some lookup) :
      lookup.Fits unit symbols := sharing.lookups lookup (List.mem_of_getElem? there)
  cases step with
  | ask name =>
    refine unchanged ⟨sharing.present, fun other symbol remembered => ?_, fun lookup member => ?_⟩
    · exact (sharing.own other symbol remembered).later fun lookup member =>
        ⟨lookup, List.mem_append_left _ member, rfl, List.Subset.refl _⟩
    · rcases List.mem_append.mp member with old | new
      · exact sharing.lookups lookup old
      · obtain rfl := List.mem_singleton.mp new
        rfl
  | consult place name told there =>
    obtain rfl : told = [] := fitsAt there
    exact unchanged (sharing.move there ⟨name, state.session.recallIn id name, []⟩ rfl
      (List.Subset.refl _) (sharing.recalled name) rfl)
  | read place name entry told there now present result =>
    obtain ⟨listed, isTold⟩ := fitsAt there
    obtain rfl : told = [] := isTold
    obtain rfl := Option.some.inj (sharing.present.symm.trans present)
    obtain ⟨fits, same⟩ := afterRead_fits state.session listed result
    exact unchanged (sharing.move there
      ⟨name, (state.session.afterRead unit.name name result).2, [.read result]⟩ rfl
      (List.nil_subset _) fits (by rw [same]))
  | share place name symbol told there => exact sharing.share there
  | reply place name parent told there answer =>
    obtain ⟨unlisted, above, isTold⟩ := fitsAt there
    obtain rfl : told = [] := isTold
    refine unchanged (sharing.move there ⟨name, .ended (.inherited answer), _⟩ rfl
      (List.nil_subset _) ⟨unlisted, ?_⟩ rfl)
    rw [above]
  | elsewhere session same grown =>
    exact unchanged ⟨same.trans sharing.present, sharing.own, sharing.lookups⟩

/-- Every run keeps to what is remembered. -/
theorem Sharing.run (sharing : Sharing id unit symbols state)
    (run : Relation.ReflTransGen (UnitStep id) state next) :
    ∃ more, Sharing id unit more next := by
  induction run with
  | refl => exact ⟨symbols, sharing⟩
  | tail _ step inductionHypothesis =>
    obtain ⟨known, before⟩ := inductionHypothesis
    obtain ⟨more, after, -⟩ := before.step step
    exact ⟨more, after⟩

/-! ## Look-ups that begin when a symbol is remembered -/

section Later

variable {begun : Nat} {name : String} {symbol : Symbol}

/-- The look-ups of a name from a place on end with a symbol as soon as they do anything. -/
def LaterEnd (begun : Nat) (name : String) (symbol : Symbol) (lookups : List UnitLookup) : Prop :=
  ∀ place later, begun ≤ place → lookups[place]? = some later → later.name = name →
    later.phase = .asked ∨ later.phase = .ended (.own symbol)

/-- When a look-up goes on, later look-ups end with the symbol as before, if that one does. -/
theorem LaterEnd.set (ends : LaterEnd begun name symbol lookups) {place : Nat} {now : UnitLookup}
    (goes : begun ≤ place → now.name = name →
      now.phase = .asked ∨ now.phase = .ended (.own symbol)) :
    LaterEnd begun name symbol (lookups.set place now) := by
  intro other later past there named
  rw [List.getElem?_set] at there
  split at there
  · next here =>
    subst here
    split at there
    · obtain rfl := Option.some.inj there
      exact goes past named
    · cases there
  · exact ends other later past there named

/-- A look-up that is neither at its beginning nor at such an end began before. -/
theorem LaterEnd.set_busy (ends : LaterEnd begun name symbol lookups) {place : Nat}
    {lookup now : UnitLookup} (there : lookups[place]? = some lookup)
    (same : now.name = lookup.name) (isUnasked : lookup.phase ≠ .asked)
    (isOpen : ∀ outcome, lookup.phase ≠ .ended outcome) :
    LaterEnd begun name symbol (lookups.set place now) := by
  refine ends.set fun past named => ?_
  rcases ends place lookup past there (same.symm.trans named) with asked | ended
  · exact absurd asked isUnasked
  · exact absurd ended (isOpen _)

/-- What is remembered is what a look-up recalls. -/
theorem Sharing.recallIn_eq (sharing : Sharing id unit symbols state)
    (remembered : symbols.lookup name = some symbol) :
    state.session.recallIn id name = .ended (.own symbol) := by
  unfold recallIn
  rw [sharing.present]
  dsimp only
  rw [remembered]

/-- While a symbol is remembered, every step leaves it to later look-ups. -/
theorem LaterEnd.step (ends : LaterEnd begun name symbol state.lookups)
    (sharing : Sharing id unit symbols state)
    (remembered : symbols.lookup name = some symbol) (step : UnitStep id state next) :
    LaterEnd begun name symbol next.lookups := by
  cases step with
  | ask other =>
    intro place later past there named
    rw [List.getElem?_append] at there
    split at there
    · exact ends place later past there named
    · obtain rfl := List.mem_singleton.mp (List.mem_of_getElem? there)
      exact .inl rfl
  | consult place other told there =>
    refine ends.set fun _ named => .inr ?_
    obtain rfl : other = name := named
    exact sharing.recallIn_eq remembered
  | read place other entry told there now present result =>
    exact ends.set_busy there rfl nofun nofun
  | share place other made told there => exact ends.set_busy there rfl nofun nofun
  | reply place other parent told there answer => exact ends.set_busy there rfl nofun nofun
  | elsewhere => exact ends

/-- While a symbol is remembered, every run leaves it to later look-ups, and at its end the symbol
is still remembered. -/
theorem LaterEnd.run (ends : LaterEnd begun name symbol state.lookups)
    (sharing : Sharing id unit symbols state)
    (remembered : symbols.lookup name = some symbol)
    (run : Relation.ReflTransGen (UnitStep id) state next) :
    next.session.recallIn id name = .ended (.own symbol) ∧
      LaterEnd begun name symbol next.lookups := by
  suffices kept : LaterEnd begun name symbol next.lookups ∧
      ∃ more, Sharing id unit more next ∧ more.lookup name = some symbol by
    obtain ⟨stillEnds, more, still, stillRemembered⟩ := kept
    exact ⟨still.recallIn_eq stillRemembered, stillEnds⟩
  induction run with
  | refl => exact ⟨ends, symbols, sharing, remembered⟩
  | tail _ step inductionHypothesis =>
    obtain ⟨endsThere, known, there, rememberedThere⟩ := inductionHypothesis
    obtain ⟨more, after, kept⟩ := there.step step
    exact ⟨endsThere.step there rememberedThere step, more, after,
      kept name symbol rememberedThere⟩

end Later

/-! ## What look-ups share -/

/-- How look-ups share the symbols of a unit for the names that it has, when some of them may have
ended at an earlier time. -/
structure SharesSymbols (id : Nat) (unit : LoadedUnit) (has : String → Prop)
    (early state : UnitLookups) : Prop where
  /-- All look-ups of a name that succeed come to one symbol. -/
  one : ∀ first ∈ state.lookups, ∀ second ∈ state.lookups, second.name = first.name →
    has first.name → ∀ symbol other, first.answer? = some (.found symbol) →
      second.answer? = some (.found other) → other = symbol
  /-- It bears that name and that of the unit, and its body is one that a look-up of the name read. -/
  own : ∀ lookup ∈ state.lookups, has lookup.name → ∀ symbol,
    lookup.answer? = some (.found symbol) →
      symbol.name = lookup.name ∧ symbol.unit = unit.name ∧
        ∃ reader ∈ state.lookups, reader.name = lookup.name ∧
          ∃ content, .read (.body content) ∈ reader.told ∧ symbol.body = .bytecode content
  /-- Once a look-up has come to it, look-ups that begin later do nothing else than come to it. -/
  lasting : ∀ first ∈ early.lookups, has first.name → ∀ symbol,
    first.answer? = some (.found symbol) →
      state.session.recallIn id first.name = .ended (.own symbol) ∧
        LaterEnd early.lookups.length first.name symbol state.lookups
  /-- A look-up fails just if its own reading of the body failed, and with that error. -/
  unread : ∀ lookup ∈ state.lookups, has lookup.name → ∀ error,
    lookup.answer? = some (.failed error) ↔ .read (.failed error) ∈ lookup.told
  /-- Failures are not remembered: as long as no look-up has read the body, the next one reads it. -/
  again : ∀ name, has name →
    (∀ lookup ∈ state.lookups, lookup.name = name →
      ∀ content, .read (.body content) ∉ lookup.told) →
        ∃ entry, state.session.recallIn id name = .reading entry
  /-- The parent is never asked for a name that the unit has, and such a look-up never ends without an
  answer. -/
  apart : ∀ lookup ∈ state.lookups, has lookup.name →
    (∀ parent, lookup.phase ≠ .asking parent) ∧
      (∀ parent answer, .replied parent answer ∉ lookup.told) ∧ lookup.answer? ≠ some .absent
  /-- For any other name the answer is that of the parent, and there is none without a parent. -/
  inherited : ∀ lookup ∈ state.lookups, ¬ has lookup.name → ∀ answer,
    lookup.answer? = some answer →
      match unit.parent with
      | some parent => lookup.told = [.replied parent answer]
      | none => lookup.told = [] ∧ answer = .absent

section Fits

variable {lookup : UnitLookup}

/-- A look-up of a name that the unit has comes to the symbol that is remembered. -/
theorem UnitLookup.Fits.found (fits : lookup.Fits unit symbols)
    (listed : unit.entry? lookup.name ≠ none) {symbol : Symbol}
    (found : lookup.answer? = some (.found symbol)) :
    symbols.lookup lookup.name = some symbol := by
  obtain ⟨name, phase, told⟩ := lookup
  cases phase with
  | ended outcome =>
    cases outcome with
    | own other =>
      obtain rfl : other = symbol := by simpa [answer?, UnitOutcome.answer] using found
      exact fits.1
    | unread | crashed => simp [answer?, UnitOutcome.answer] at found
    | inherited answer => exact absurd fits.1 listed
  | asked | reading | made | asking => simp [answer?] at found

/-- A look-up of a name that the unit has fails just if its reading failed. -/
theorem UnitLookup.Fits.failed_iff (fits : lookup.Fits unit symbols)
    (listed : unit.entry? lookup.name ≠ none) (error : UnitError) :
    lookup.answer? = some (.failed error) ↔ .read (.failed error) ∈ lookup.told := by
  obtain ⟨name, phase, told⟩ := lookup
  cases phase with
  | asked => simp_all [UnitLookup.Fits, answer?]
  | reading | asking => simp_all [UnitLookup.Fits, answer?]
  | made =>
    obtain ⟨-, content, serial, isTold, -⟩ := fits
    simp_all [answer?]
  | ended outcome =>
    cases outcome with
    | own symbol =>
      obtain ⟨-, isTold | ⟨content, isTold⟩⟩ := fits
      · simp_all [answer?, UnitOutcome.answer]
      · simp_all [answer?, UnitOutcome.answer]
    | unread other =>
      simp_all [UnitLookup.Fits, answer?, UnitOutcome.answer, eq_comm]
    | crashed crash => simp_all [UnitLookup.Fits, answer?, UnitOutcome.answer]
    | inherited answer => exact absurd fits.1 listed

/-- A look-up of a name that the unit has has nothing to do with the parent. -/
theorem UnitLookup.Fits.apart (fits : lookup.Fits unit symbols)
    (listed : unit.entry? lookup.name ≠ none) :
    (∀ parent, lookup.phase ≠ .asking parent) ∧
      (∀ parent answer, .replied parent answer ∉ lookup.told) ∧ lookup.answer? ≠ some .absent := by
  obtain ⟨name, phase, told⟩ := lookup
  cases phase with
  | asked | reading => simp_all [UnitLookup.Fits, answer?]
  | asking parent => exact absurd fits.1 listed
  | made =>
    obtain ⟨-, content, serial, isTold, -⟩ := fits
    simp_all [answer?]
  | ended outcome =>
    cases outcome with
    | own symbol =>
      obtain ⟨-, isTold | ⟨content, isTold⟩⟩ := fits
      · simp_all [answer?, UnitOutcome.answer]
      · simp_all [answer?, UnitOutcome.answer]
    | unread | crashed => simp_all [UnitLookup.Fits, answer?, UnitOutcome.answer]
    | inherited answer => exact absurd fits.1 listed

/-- A look-up of a name that the unit does not have answers what the parent does. -/
theorem UnitLookup.Fits.inherited (fits : lookup.Fits unit symbols)
    (own : ∀ symbol, symbols.lookup lookup.name = some symbol → unit.entry? lookup.name ≠ none)
    (unlisted : unit.entry? lookup.name = none) {answer : Answer}
    (answered : lookup.answer? = some answer) :
    match unit.parent with
    | some parent => lookup.told = [.replied parent answer]
    | none => lookup.told = [] ∧ answer = .absent := by
  obtain ⟨name, phase, told⟩ := lookup
  cases phase with
  | asked | reading | made | asking => simp [answer?] at answered
  | ended outcome =>
    cases outcome with
    | own symbol => exact absurd unlisted (own symbol fits.1)
    | unread | crashed => exact absurd unlisted fits.1
    | inherited other =>
      obtain rfl : other = answer := by simpa [answer?, UnitOutcome.answer] using answered
      exact fits.2

end Fits

/-! ## Look-ups that nothing interrupts -/

/-- A look-up that nothing interrupts does what `askUnit` does, as long as nobody who is asked asks
this unit in turn. -/
theorem askUnit_alone {ask : Asking} {session after : Session} {name : String} {answer : Answer}
    {index : List (String × String)}
    (stays : ∀ session loader name,
      (ask session loader name).1.units.get? id = session.units.get? id ∧
        session.fresh ≤ (ask session loader name).1.fresh)
    (present : session.units.get? id = some unit) (archive : unit.content = .archive index)
    (asked : askUnit ask session id name = (after, answer)) :
    ∃ outcome told, outcome.answer = answer ∧
      Relation.ReflTransGen (UnitStep id) ⟨session, [⟨name, .asked, []⟩]⟩
        ⟨after, [⟨name, .ended outcome, told⟩]⟩ := by
  have isEntry : unit.entry? name = index.lookup name := by rw [LoadedUnit.entry?, archive]
  have begun : UnitStep id _ _ := .consult ⟨session, [⟨name, .asked, []⟩]⟩ 0 name [] rfl
  simp only [recallIn, present, isEntry, List.set_cons_zero] at begun
  unfold askUnit at asked
  rw [present] at asked
  dsimp only at asked
  cases early : unit.resolved.lookup name with
  | some symbol =>
    rw [early] at asked begun
    obtain ⟨rfl, rfl⟩ := Prod.mk.inj asked
    exact ⟨.own symbol, [], rfl, .single begun⟩
  | none =>
    simp only [early, archive] at asked begun
    cases listed : index.lookup name with
    | some entry =>
      simp only [listed] at asked begun
      have read (result : UnitContent.BodyRead) : UnitStep id _ _ :=
        .read ⟨session, [⟨name, .reading entry, []⟩]⟩ 0 name entry [] rfl unit present result
      cases result : UnitContent.readBody session.files unit.artifact entry with
      | failed error =>
        simp only [result] at asked
        obtain ⟨rfl, rfl⟩ := Prod.mk.inj asked
        exact ⟨.unread error, _, rfl, .head begun (.single (read (.failed error)))⟩
      | crashed crash =>
        simp only [result] at asked
        obtain ⟨rfl, rfl⟩ := Prod.mk.inj asked
        exact ⟨.crashed crash, _, rfl, .head begun (.single (read (.crashed crash)))⟩
      | body content =>
        simp only [result, makeSymbol] at asked
        obtain ⟨rfl, rfl⟩ := Prod.mk.inj asked
        have shared : UnitStep id _ _ := .share ⟨session.number.1,
          [⟨name, .made ⟨name, unit.name, .bytecode content, session.fresh⟩,
            [.read (.body content)]⟩]⟩ 0 name _ _ rfl
        have isFirst : ((session.number.1.units.get? id).bind (·.resolved.lookup name)) = none := by
          simp only [number, present, Option.bind_some, early]
        simp only [shareIn, isFirst, List.set_cons_zero] at shared
        exact ⟨.own _, _, rfl, .head begun (.head (read (.body content)) (.single shared))⟩
    | none =>
      simp only [listed] at asked begun
      unfold askParent at asked
      cases above : unit.parent with
      | none =>
        simp only [above] at asked begun
        obtain ⟨rfl, rfl⟩ := Prod.mk.inj asked
        exact ⟨.inherited .absent, [], rfl, .single begun⟩
      | some parent =>
        simp only [above] at asked begun
        obtain ⟨same, grown⟩ := stays session parent name
        rw [asked] at same grown
        have moved : UnitStep id _ _ := .elsewhere ⟨session, [⟨name, .asking parent, []⟩]⟩ after
          same grown
        have replied : UnitStep id _ _ := .reply ⟨after, [⟨name, .asking parent, []⟩]⟩ 0 name parent []
          rfl answer
        exact ⟨.inherited answer, _, rfl, .head begun (.head moved (.single replied))⟩

/-! ## Every run -/

/-- Whatever look-ups in a unit over an archive do, in whatever order, and whatever happens to the
artifact: they share the symbols that the artifact had when it was bound. The unit remembers nothing
in the beginning, reading a body may lead to anything, and so may asking the parent. Every step
keeps what is remembered and what look-ups came to in agreement; the run is cut in two so that later
look-ups can be compared with those that had ended. -/
theorem sharesSymbols_of_run {files : Files} {session : Session} {early state : UnitLookups}
    (bound : UnitContent.bind .archive files unit.artifact = .ok unit.content)
    (present : session.units.get? id = some unit) (bare : unit.resolved = [])
    (before : Relation.ReflTransGen (UnitStep id) ⟨session, []⟩ early)
    (after : Relation.ReflTransGen (UnitStep id) early state) :
    SharesSymbols id unit (UnitContent.DefinedIn files unit.artifact) early state := by
  have start : Sharing id unit [] ⟨session, []⟩ :=
    ⟨by rw [present, ← bare], by simp, by simp⟩
  have iff (name : String) := LoadedUnit.entry?_ne_none_iff bound name
  obtain ⟨known, earlier⟩ := start.run before
  obtain ⟨symbols, now⟩ := earlier.run after
  constructor
  · intro first isFirst second isSecond same has symbol other found foundOther
    have one := (now.lookups first isFirst).found ((iff _).mpr has) found
    have two := (now.lookups second isSecond).found ((iff _).mpr (same ▸ has)) foundOther
    rw [same, one] at two
    exact (Option.some.inj two).symm
  · intro lookup member has symbol found
    have own := now.own _ _ ((now.lookups lookup member).found ((iff _).mpr has) found)
    exact ⟨own.named, own.madeBy, own.isRead⟩
  · intro first member has symbol found
    have remembered := (earlier.lookups first member).found ((iff _).mpr has) found
    refine LaterEnd.run (fun place later past there _ => ?_) earlier remembered after
    obtain ⟨inside, -⟩ := List.getElem?_eq_some_iff.mp there
    omega
  · exact fun lookup member has error =>
      (now.lookups lookup member).failed_iff ((iff _).mpr has) error
  · intro name has unreadByAll
    obtain ⟨entry, listed⟩ := Option.ne_none_iff_exists'.mp ((iff name).mpr has)
    refine ⟨entry, ?_⟩
    unfold recallIn
    rw [now.present]
    dsimp only
    cases remembered : symbols.lookup name with
    | some symbol =>
      obtain ⟨reader, member, named, content, told, -⟩ := (now.own name symbol remembered).isRead
      exact absurd told (unreadByAll reader member named content)
    | none =>
      have same : LoadedUnit.entry? { unit with resolved := symbols } name = unit.entry? name := rfl
      rw [same, listed]
  · exact fun lookup member has => (now.lookups lookup member).apart ((iff _).mpr has)
  · intro lookup member hasNot answer answered
    have unlisted : unit.entry? lookup.name = none := by
      by_contra listed
      exact hasNot ((iff _).mp listed)
    exact (now.lookups lookup member).inherited
      (fun symbol remembered => (now.own _ symbol remembered).listed) unlisted answered

/-- A unit over an archive with one symbol, under a parent that always fails. -/
def sharedUnit : LoadedUnit where
  name := "left"
  artifact := "a.zip"
  libraries := "libs"
  parent := some .failing
  content := .archive [("A", "A.class")]
  temporary := none

/-- A session with the unit, in which its artifact is there. -/
def besideShared : Session where
  files := ⟨[(["tmp"], .directory), (["tmp", "work"], .directory),
    (["tmp", "work", "a.zip"], .file (Zip.write [("A.class", [7])]) 1000)], 0⟩
  units := [(1, sharedUnit)]
  fresh := 2

/-- The symbol that a look-up of that name makes. -/
def sharedSymbol (serial : Nat) : Symbol :=
  ⟨"A", "left", .bytecode [7], serial⟩

/-- Two look-ups of one name make a symbol each, and the second is remembered first. Then the artifact
is gone, and the first look-up and a later one come to the symbol of the second all the same; the
parent answers a look-up of another name. -/
theorem sharesSymbols_of_run_deleted :
    ∃ early state, Relation.ReflTransGen (UnitStep 1) ⟨besideShared, []⟩ early ∧
      Relation.ReflTransGen (UnitStep 1) early state ∧
      state.session.files.exists_ "a.zip" = false ∧
      state.lookups.map UnitLookup.answer? =
        [some (.found (sharedSymbol 3)), some (.found (sharedSymbol 3)),
          some (.found (sharedSymbol 3)), some (.failed .platform)] ∧
      SharesSymbols 1 sharedUnit (UnitContent.DefinedIn besideShared.files "a.zip") early state := by
  have before : Relation.ReflTransGen (UnitStep 1) ⟨besideShared, []⟩ _ :=
    .head (.ask _ "A") <| .head (.ask _ "A") <|
    .head (.consult _ 0 "A" _ rfl) <| .head (.consult _ 1 "A" _ rfl) <|
    .head (.read _ 0 "A" _ _ rfl sharedUnit rfl (.body [7])) <|
    .head (.read _ 1 "A" _ _ rfl sharedUnit rfl (.body [7])) <|
    .single (.share _ 1 "A" (sharedSymbol 3) _ rfl)
  have after : Relation.ReflTransGen (UnitStep 1) _ _ :=
    .head (.elsewhere (⟨(besideShared.number.1.number.1.shareIn 1 (sharedSymbol 3)).1,
        [⟨"A", .made (sharedSymbol 2), [.read (.body [7])]⟩,
          ⟨"A", .ended (.own (sharedSymbol 3)), [.read (.body [7])]⟩]⟩)
      { (besideShared.number.1.number.1.shareIn 1 (sharedSymbol 3)).1 with files := ⟨[], 0⟩ }
      rfl (Nat.le_refl _)) <|
    .head (.share _ 0 "A" (sharedSymbol 2) _ rfl) <|
    .head (.ask _ "A") <| .head (.consult _ 2 "A" _ rfl) <|
    .head (.ask _ "B") <| .head (.consult _ 3 "B" _ rfl) <|
    .single (.reply _ 3 "B" .failing _ rfl (.failed .platform))
  have bound : UnitContent.bind .archive besideShared.files sharedUnit.artifact =
      .ok sharedUnit.content := by decide +kernel
  exact ⟨_, _, before, after, rfl, rfl, sharesSymbols_of_run bound rfl rfl before after⟩

end Session
end Hotload
