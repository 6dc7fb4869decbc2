import Hotload.Proofs.FailedCompiles
import Mathlib.Data.List.Infix
import Mathlib.Logic.Relation

/-!
# Symbols of the local unit

A resolver remembers the symbols that its local unit gave, and forgets them when another local unit
is chosen. Any number of threads may look up symbols meanwhile. A look-up asks what is remembered
without a lock of its own, and it may take as long as it likes to search the parent and the registered
units. But it asks the local unit, and remembers what that gave, under a lock that others may share
and that choosing a unit excludes. So what is remembered was always given by the unit that was chosen
last, and since it was chosen; a look-up never comes to a symbol of a unit that was replaced before it
began; and all look-ups of a name that come to a symbol of the local unit between two choices come to
the same one.
-/

namespace Hotload

namespace Session

/-! ## What happens to a local unit -/

/-- Something that happens to the local unit of a resolver. -/
inductive LocalEvent where
  /-- A unit was chosen, and the symbols of the one before were forgotten. -/
  | chosen (unit : Option Loader)
  /-- The unit gave a symbol for a name. -/
  | gave (unit : Loader) (name : String) (symbol : Symbol)
  /-- A symbol is remembered from now on. -/
  | kept (name : String) (symbol : Symbol)
  deriving DecidableEq

namespace LocalEvent

/-- Whether a unit was chosen. -/
def isChoice : LocalEvent → Bool
  | .chosen _ => true
  | _ => false

/-- What has happened since a unit was last chosen. Histories have the latest event first. -/
def recent (history : List LocalEvent) : List LocalEvent :=
  history.takeWhile fun event => !event.isChoice

/-- The unit that was chosen last; in the beginning there may be one as well. -/
def inForce (start : Option Loader) : List LocalEvent → Option Loader
  | [] => start
  | .chosen unit :: _ => unit
  | _ :: earlier => inForce start earlier

/-- The symbols that are remembered. -/
def remembered : List LocalEvent → List (String × Symbol)
  | [] => []
  | .chosen _ :: _ => []
  | .gave .. :: earlier => remembered earlier
  | .kept name symbol :: earlier => remembered earlier ++ [(name, symbol)]

/-- How often a unit was chosen. -/
def choices (history : List LocalEvent) : Nat :=
  history.countP isChoice

end LocalEvent

open LocalEvent

/-! ## Look-ups under way -/

/-- What a look-up comes to. -/
inductive LookupResult where
  /-- A symbol of the local unit, and what had happened by the time that the look-up had it. -/
  | given (symbol : Symbol) (seen : List LocalEvent)
  /-- An answer of the parent or of a registered unit, or none at all. -/
  | other (answer : Answer)

/-- The answer that a look-up gives. -/
def LookupResult.answer : LookupResult → Answer
  | .given symbol _ => .found symbol
  | .other answer => answer

/-- Where a look-up stands. -/
inductive LookupPhase where
  | asked
  /-- The symbol is not remembered. Parent and registered units are asked. -/
  | searching
  /-- None of them has it, and the lock is waited for. -/
  | waiting
  /-- The lock is shared, and the local unit is asked. -/
  | asking (unit : Loader)
  /-- The local unit gave a symbol. -/
  | answered (unit : Loader) (symbol : Symbol)
  /-- The lock can be released. -/
  | leaving (result : LookupResult)
  | ended (result : LookupResult)

/-- Whether the lock is shared. -/
def LookupPhase.isInside : LookupPhase → Bool
  | .asking _ | .answered .. | .leaving _ => true
  | _ => false

/-- What a look-up has come to. -/
def LookupPhase.result? : LookupPhase → Option LookupResult
  | .leaving result | .ended result => some result
  | _ => none

/-- A look-up of a name. -/
structure Lookup where
  name : String
  /-- What had happened when it began. -/
  began : List LocalEvent
  phase : LookupPhase

/-- A choice of a local unit under way, which has the lock to itself. -/
structure Choosing where
  unit : Option Loader
  /-- Whether the symbols of the unit before are forgotten. -/
  isCleared : Bool
  deriving DecidableEq

/-- A session with look-ups in a resolver, each known by its place in the list, and a choice of its
local unit if one is under way. Choices that wait for the lock have done nothing yet. -/
structure Lookups where
  session : Session
  choosing : Option Choosing
  lookups : List Lookup
  history : List LocalEvent

/-- The local unit of a resolver and the symbols that are remembered. -/
def localState? (session : Session) (id : Nat) : Option (Option Loader × List (String × Symbol)) :=
  (session.resolvers.get? id).map fun resolver => (resolver.localUnit, resolver.defined)

/-- A look-up asks what is remembered. -/
def recollect (session : Session) (id : Nat) (name : String) (history : List LocalEvent) : LookupPhase :=
  match (session.resolvers.get? id).bind (·.defined.lookup name) with
  | some symbol => .ended (.given symbol history)
  | none => .searching

/-- What is noted when a look-up remembers a symbol: nothing if one of the name is remembered
already. -/
def noteKept (session : Session) (id : Nat) (name : String) (symbol : Symbol) : List LocalEvent :=
  match (session.resolvers.get? id).bind (·.defined.lookup name) with
  | some _ => []
  | none => [.kept name symbol]

/-- A look-up that has come to share the lock asks the local unit, if there is one. -/
def enterLocal (session : Session) (id : Nat) : LookupPhase :=
  match (session.resolvers.get? id).bind (·.localUnit) with
  | some unit => .asking unit
  | none => .leaving (.other .absent)

/-- One step of a look-up in a resolver, or of a choice of its local unit, or of anything else.
Look-ups share the lock of the local unit, and a choice has it to itself: first it puts the unit in
place, and in a step of its own it forgets the symbols of the one before. The history notes choices,
and symbols as they are given and kept. -/
inductive LookupStep (id : Nat) : Lookups → Lookups → Prop
  /-- Another look-up begins. -/
  | ask (state : Lookups) (name : String) :
      LookupStep id state
        { state with lookups := state.lookups ++ [⟨name, state.history, .asked⟩] }
  | recollect (state : Lookups) (place : Nat) (name : String) (began : List LocalEvent)
      (there : state.lookups[place]? = some ⟨name, began, .asked⟩) :
      LookupStep id state
        { state with
          lookups := state.lookups.set place ⟨name, began, state.session.recollect id name state.history⟩ }
  /-- The parent or a registered unit has an answer. -/
  | find (state : Lookups) (place : Nat) (name : String) (began : List LocalEvent) (answer : Answer)
      (there : state.lookups[place]? = some ⟨name, began, .searching⟩) :
      LookupStep id state
        { state with
          lookups := state.lookups.set place ⟨name, began, .ended (.other answer)⟩ }
  | miss (state : Lookups) (place : Nat) (name : String) (began : List LocalEvent)
      (there : state.lookups[place]? = some ⟨name, began, .searching⟩) :
      LookupStep id state
        { state with
          lookups := state.lookups.set place ⟨name, began, .waiting⟩ }
  | enter (state : Lookups) (place : Nat) (name : String) (began : List LocalEvent)
      (there : state.lookups[place]? = some ⟨name, began, .waiting⟩)
      (isFree : state.choosing = none) :
      LookupStep id state
        { state with
          lookups := state.lookups.set place ⟨name, began, state.session.enterLocal id⟩ }
  /-- The local unit gives any symbol. -/
  | give (state : Lookups) (place : Nat) (name : String) (began : List LocalEvent) (unit : Loader)
      (symbol : Symbol) (there : state.lookups[place]? = some ⟨name, began, .asking unit⟩) :
      LookupStep id state
        { state with
          lookups := state.lookups.set place ⟨name, began, .answered unit symbol⟩
          history := .gave unit name symbol :: state.history }
  /-- The local unit gives none. -/
  | refuse (state : Lookups) (place : Nat) (name : String) (began : List LocalEvent) (unit : Loader)
      (answer : Answer) (there : state.lookups[place]? = some ⟨name, began, .asking unit⟩)
      (isMiss : ∀ symbol, answer ≠ .found symbol) :
      LookupStep id state
        { state with
          lookups := state.lookups.set place ⟨name, began, .leaving (.other answer)⟩ }
  | remember (state : Lookups) (place : Nat) (name : String) (began : List LocalEvent)
      (unit : Loader) (symbol : Symbol)
      (there : state.lookups[place]? = some ⟨name, began, .answered unit symbol⟩) :
      LookupStep id state
        { state with
          session := (state.session.remember id name symbol).1
          lookups := state.lookups.set place
            ⟨name, began, .leaving (.given (state.session.remember id name symbol).2
              (state.session.noteKept id name symbol ++ state.history))⟩
          history := state.session.noteKept id name symbol ++ state.history }
  | leave (state : Lookups) (place : Nat) (name : String) (began : List LocalEvent)
      (result : LookupResult) (there : state.lookups[place]? = some ⟨name, began, .leaving result⟩) :
      LookupStep id state
        { state with
          lookups := state.lookups.set place ⟨name, began, .ended result⟩ }
  /-- A choice of a unit has come to have the lock to itself, and puts the unit in place. -/
  | choose (state : Lookups) (unit : Option Loader) (isFree : state.choosing = none)
      (isUnshared : ∀ lookup ∈ state.lookups, lookup.phase.isInside = false) :
      LookupStep id state
        { state with
          session := state.session.updateResolver id fun resolver =>
            { resolver with localUnit := unit }
          choosing := some ⟨unit, false⟩ }
  /-- The symbols of the unit before are forgotten. -/
  | clear (state : Lookups) (unit : Option Loader) (isPut : state.choosing = some ⟨unit, false⟩) :
      LookupStep id state
        { state with
          session := state.session.updateResolver id fun resolver => { resolver with defined := [] }
          choosing := some ⟨unit, true⟩
          history := .chosen unit :: state.history }
  | release (state : Lookups) (unit : Option Loader) (isDone : state.choosing = some ⟨unit, true⟩) :
      LookupStep id state { state with choosing := none }
  /-- Something else happens that leaves the local unit and what is remembered alone. -/
  | elsewhere (state : Lookups) (session : Session)
      (same : session.localState? id = state.session.localState? id) :
      LookupStep id state { state with session }

/-! ## Histories -/

namespace LocalEvent

variable {start : Option Loader} {history older : List LocalEvent}

/-- Every symbol that is remembered at some time was given by the unit in force, since it was
chosen. -/
def Backed (start : Option Loader) (history : List LocalEvent) : Prop :=
  ∀ name symbol older, .kept name symbol :: older <:+ history →
    ∃ unit, inForce start older = some unit ∧ .gave unit name symbol ∈ recent older

/-- What a history adds to one that is backed is backed just if it remembers only what was given. -/
theorem backed_cons {event : LocalEvent} :
    Backed start (event :: history) ↔ Backed start history ∧
      ∀ name symbol, event = .kept name symbol →
        ∃ unit, inForce start history = some unit ∧ .gave unit name symbol ∈ recent history := by
  unfold Backed
  simp only [List.suffix_cons_iff, List.cons.injEq]
  constructor
  · exact fun backed => ⟨fun name symbol older earlier => backed name symbol older (.inr earlier),
      fun name symbol same => backed name symbol history (.inl ⟨same.symm, rfl⟩)⟩
  · rintro ⟨backed, now⟩ name symbol older (⟨rfl, rfl⟩ | earlier)
    · exact now name symbol rfl
    · exact backed name symbol older earlier

/-- A choice and what a unit gives are no remembering, so they keep a history backed. -/
theorem Backed.cons_chosen (backed : Backed start history) (unit : Option Loader) :
    Backed start (.chosen unit :: history) :=
  backed_cons.mpr ⟨backed, nofun⟩

theorem Backed.cons_gave (backed : Backed start history) (unit : Loader) (name : String)
    (symbol : Symbol) : Backed start (.gave unit name symbol :: history) :=
  backed_cons.mpr ⟨backed, nofun⟩

/-- Every symbol that a backed history remembers was given, by the unit in force and since it was
chosen. -/
theorem Backed.gave (backed : Backed start history) {name : String} {symbol : Symbol}
    (listed : (name, symbol) ∈ remembered history) :
    ∃ unit, inForce start history = some unit ∧ .gave unit name symbol ∈ recent history := by
  induction history with
  | nil => cases listed
  | cons event earlier inductionHypothesis =>
    obtain ⟨before, now⟩ := backed_cons.mp backed
    cases event with
    | chosen unit => cases listed
    | gave unit other given =>
      obtain ⟨unit, force, gave⟩ := inductionHypothesis before listed
      exact ⟨unit, force, List.mem_cons_of_mem _ gave⟩
    | kept other kept =>
      have given : ∃ unit, inForce start earlier = some unit ∧ .gave unit name symbol ∈ recent earlier := by
        rcases List.mem_append.mp listed with early | last
        · exact inductionHypothesis before early
        · obtain ⟨rfl, rfl⟩ := Prod.mk.inj (List.mem_singleton.mp last)
          exact now _ _ rfl
      obtain ⟨unit, force, gave⟩ := given
      exact ⟨unit, force, List.mem_cons_of_mem _ gave⟩

/-- What was remembered for a name stays remembered until a unit is chosen. -/
theorem lookup_remembered_of_suffix (earlier : older <:+ history)
    (undisturbed : choices older = choices history) {name : String} {symbol : Symbol}
    (kept : (remembered older).lookup name = some symbol) :
    (remembered history).lookup name = some symbol := by
  induction history with
  | nil => rwa [List.suffix_nil.mp earlier] at kept
  | cons event rest inductionHypothesis =>
    rcases List.suffix_cons_iff.mp earlier with rfl | before
    · exact kept
    have fewer : choices older ≤ choices rest := before.sublist.countP_le
    cases event with
    | chosen unit =>
      have more : choices (.chosen unit :: rest) = choices rest + 1 :=
        List.countP_cons_of_pos rfl
      omega
    | gave unit other given =>
      exact inductionHypothesis before (by simpa [choices, isChoice] using undisturbed)
    | kept other added =>
      have early := inductionHypothesis before (by simpa [choices, isChoice] using undisturbed)
      simp [remembered, List.lookup_append, early]

/-- What was given since a unit was last chosen was given when that unit was in force. -/
theorem split_of_mem_recent (start : Option Loader) {event : LocalEvent} (listed : event ∈ recent history) :
    ∃ newer older, history = newer ++ event :: older ∧ (∀ other ∈ newer, other.isChoice = false) ∧
      inForce start older = inForce start history := by
  induction history with
  | nil => cases listed
  | cons first rest inductionHypothesis =>
    unfold recent at listed
    by_cases choice : first.isChoice = true
    · simp [choice] at listed
    have same : inForce start (first :: rest) = inForce start rest := by
      cases first with
      | chosen unit => exact absurd rfl choice
      | gave | kept => rfl
    simp only [List.takeWhile_cons, choice, Bool.not_false, ↓reduceIte, List.mem_cons] at listed
    rcases listed with rfl | listed
    · exact ⟨[], rest, rfl, by simp, same.symm⟩
    · obtain ⟨newer, older, rfl, none, force⟩ := inductionHypothesis listed
      refine ⟨first :: newer, older, rfl, ?_, force.trans same.symm⟩
      simpa [choice] using none

/-- A choice that had been made before something since the last choice happened is older than that. -/
theorem suffix_of_choice {event : LocalEvent} {newer earlier : List LocalEvent} {unit : Option Loader}
    (none : ∀ other ∈ newer, other.isChoice = false) (isOther : event.isChoice = false)
    (choice : .chosen unit :: earlier <:+ newer ++ event :: older) :
    .chosen unit :: earlier <:+ older := by
  induction newer with
  | nil =>
    rcases List.suffix_cons_iff.mp choice with same | later
    · obtain ⟨rfl, -⟩ := List.cons_eq_cons.mp same
      cases isOther
    · exact later
  | cons first rest inductionHypothesis =>
    rcases List.suffix_cons_iff.mp choice with same | later
    · obtain ⟨rfl, -⟩ := List.cons_eq_cons.mp same
      exact nomatch none _ List.mem_cons_self
    · exact inductionHypothesis (fun other listed => none other (List.mem_cons_of_mem _ listed)) later

end LocalEvent

/-! ## What every step keeps -/

variable {start : Option Loader} {id : Nat} {state next : Lookups} {history : List LocalEvent}
variable {lookup : Lookup}

/-- The local unit that is in place: that of a choice under way, or else the one in force. -/
def Lookups.placed (start : Option Loader) (state : Lookups) : Option Loader :=
  match state.choosing with
  | some ⟨unit, false⟩ => unit
  | _ => inForce start state.history

/-- A look-up goes on from what happened. -/
structure Lookup.Coheres (start : Option Loader) (history : List LocalEvent) (lookup : Lookup) :
    Prop where
  began : lookup.began <:+ history
  asking : ∀ unit, lookup.phase = .asking unit → inForce start history = some unit
  answered : ∀ unit symbol, lookup.phase = .answered unit symbol →
    inForce start history = some unit ∧ .gave unit lookup.name symbol ∈ recent history
  given : ∀ symbol seen, lookup.phase.result? = some (.given symbol seen) →
    seen <:+ history ∧ lookup.began <:+ seen ∧
      (remembered seen).lookup lookup.name = some symbol

/-- The session is what the history says, and only what was given is remembered. Who asks the local
unit keeps a choice waiting. -/
structure Coherent (start : Option Loader) (id : Nat) (state : Lookups) : Prop where
  localState : state.session.localState? id =
    some (state.placed start, remembered state.history)
  backed : Backed start state.history
  lookups : ∀ lookup ∈ state.lookups, lookup.Coheres start state.history
  apart : state.choosing ≠ none → ∀ lookup ∈ state.lookups, lookup.phase.isInside = false

/-- Events that choose no unit leave a look-up coherent. -/
theorem Lookup.Coheres.later (coheres : lookup.Coheres start history) {event : LocalEvent}
    (isOther : event.isChoice = false) : lookup.Coheres start (event :: history) := by
  have force : inForce start (event :: history) = inForce start history := by
    cases event with
    | chosen unit => cases isOther
    | gave | kept => rfl
  refine ⟨coheres.began.trans (List.suffix_cons _ _), ?_, ?_, ?_⟩
  · rw [force]
    exact coheres.asking
  · intro unit symbol answered
    obtain ⟨inForce, gave⟩ := coheres.answered unit symbol answered
    refine ⟨force.trans inForce, ?_⟩
    unfold recent
    rw [List.takeWhile_cons_of_pos (by simp [isOther])]
    exact List.mem_cons_of_mem _ gave
  · intro symbol seen given
    obtain ⟨before, since, kept⟩ := coheres.given symbol seen given
    exact ⟨before.trans (List.suffix_cons _ _), since, kept⟩

/-- A choice leaves a look-up coherent that does not ask the local unit. -/
theorem Lookup.Coheres.chosen (coheres : lookup.Coheres start history) (unit : Option Loader)
    (isOutside : lookup.phase.isInside = false) :
    lookup.Coheres start (.chosen unit :: history) where
  began := coheres.began.trans (List.suffix_cons _ _)
  asking unit asking := by
    rw [asking] at isOutside
    cases isOutside
  answered unit symbol answered := by
    rw [answered] at isOutside
    cases isOutside
  given symbol seen given := by
    obtain ⟨before, since, kept⟩ := coheres.given symbol seen given
    exact ⟨before.trans (List.suffix_cons _ _), since, kept⟩

/-- What holds of all look-ups and of the next state of one of them holds of all look-ups then. -/
theorem forall_set {α : Type} {good : α → Prop} {lookups : List α} {place : Nat} {now : α}
    (others : ∀ lookup ∈ lookups, good lookup) (this : good now) :
    ∀ lookup ∈ lookups.set place now, good lookup := fun lookup listed =>
  (List.mem_or_eq_of_mem_set listed).elim (others lookup) (fun same => same ▸ this)

/-- A look-up that takes a step at which nothing is chosen. -/
theorem Coherent.move (coherent : Coherent start id state) {place : Nat} {now : Lookup}
    (coheres : now.Coheres start state.history)
    (isFree : now.phase.isInside = true → state.choosing = none) :
    Coherent start id { state with lookups := state.lookups.set place now } where
  localState := coherent.localState
  backed := coherent.backed
  lookups := forall_set coherent.lookups coheres
  apart choosing := forall_set (coherent.apart choosing) (by
    by_contra isInside
    exact choosing (isFree (by simpa using isInside)))

/-- While a look-up asks the local unit, no choice is under way. -/
theorem Coherent.isFree (coherent : Coherent start id state) {place : Nat}
    (there : state.lookups[place]? = some lookup) (isInside : lookup.phase.isInside = true) :
    state.choosing = none := by
  by_contra choosing
  have isOutside := coherent.apart choosing lookup (List.mem_of_getElem? there)
  rw [isInside] at isOutside
  cases isOutside

/-- What is remembered is told by the history. -/
theorem Coherent.rememberedSymbol (coherent : Coherent start id state) (name : String) :
    (state.session.resolvers.get? id).bind (·.defined.lookup name) =
      (remembered state.history).lookup name := by
  obtain ⟨resolver, present, same⟩ := Option.map_eq_some_iff.mp coherent.localState
  rw [present, Option.bind_some, (Prod.mk.inj same).2]

/-- The local unit that is in place is told by the history and the choice under way. -/
theorem Coherent.localUnit (coherent : Coherent start id state) :
    (state.session.resolvers.get? id).bind (·.localUnit) = state.placed start := by
  obtain ⟨resolver, present, same⟩ := Option.map_eq_some_iff.mp coherent.localState
  rw [present, Option.bind_some, (Prod.mk.inj same).1]

/-- A look-up remembers what the history says that it does. -/
theorem Coherent.remember (coherent : Coherent start id state) (name : String) (symbol : Symbol) :
    (state.session.remember id name symbol).1.localState? id =
        some (state.placed start,
          remembered (state.session.noteKept id name symbol ++ state.history)) ∧
      (remembered (state.session.noteKept id name symbol ++ state.history)).lookup name =
        some (state.session.remember id name symbol).2 := by
  have told := coherent.rememberedSymbol name
  obtain ⟨resolver, present, same⟩ := Option.map_eq_some_iff.mp coherent.localState
  obtain ⟨unit, table⟩ := Prod.mk.inj same
  unfold noteKept Session.remember
  rw [present, Option.bind_some] at told ⊢
  dsimp only
  cases early : resolver.defined.lookup name with
  | some earlier =>
    rw [early] at told
    exact ⟨coherent.localState, told.symm⟩
  | none =>
    rw [early] at told
    have updated : (state.session.updateResolver id fun resolver =>
        { resolver with defined := resolver.defined ++ [(name, symbol)] }).resolvers.get? id =
          some { resolver with defined := resolver.defined ++ [(name, symbol)] } := by
      simp [updateResolver, Table.get?_update, present]
    refine ⟨?_, ?_⟩
    · simp only [localState?, updated, Option.map_some, unit, table]
      rfl
    · simp [remembered, List.lookup_append, ← told]

/-- Every step keeps the session coherent. What a unit gives and what is kept of it goes into the
history as it happens, and a choice begins only when nobody asks the local unit. -/
theorem Coherent.step (coherent : Coherent start id state) (step : LookupStep id state next) :
    Coherent start id next := by
  -- What a look-up has been through when it goes on from a phase.
  have sofar : ∀ {place : Nat} {lookup : Lookup}, state.lookups[place]? = some lookup →
      lookup.Coheres start state.history := fun there =>
    coherent.lookups _ (List.mem_of_getElem? there)
  cases step with
  | ask name =>
    refine ⟨coherent.localState, coherent.backed, ?_, fun choosing => ?_⟩
    all_goals
      simp only [List.mem_append, List.mem_singleton]
      rintro lookup (listed | rfl)
    · exact coherent.lookups lookup listed
    · exact ⟨List.suffix_rfl, nofun, nofun, nofun⟩
    · exact coherent.apart choosing lookup listed
    · rfl
  | recollect place name began there =>
    have told := coherent.rememberedSymbol name
    unfold recollect
    cases early : (state.session.resolvers.get? id).bind (·.defined.lookup name) with
    | none => exact coherent.move ⟨(sofar there).began, nofun, nofun, nofun⟩ nofun
    | some symbol =>
      refine coherent.move ⟨(sofar there).began, nofun, nofun, ?_⟩ nofun
      rintro _ _ ⟨⟩
      exact ⟨List.suffix_rfl, (sofar there).began, told.symm.trans early⟩
  | find place name began answer there =>
    exact coherent.move ⟨(sofar there).began, nofun, nofun, nofun⟩ nofun
  | miss place name began there =>
    exact coherent.move ⟨(sofar there).began, nofun, nofun, nofun⟩ nofun
  | enter place name began there isFree =>
    have told := coherent.localUnit
    unfold Lookups.placed at told
    rw [isFree] at told
    unfold enterLocal
    cases unit : (state.session.resolvers.get? id).bind (·.localUnit) with
    | none => exact coherent.move ⟨(sofar there).began, nofun, nofun, nofun⟩ fun _ => isFree
    | some unit =>
      refine coherent.move ⟨(sofar there).began, ?_, nofun, nofun⟩ fun _ => isFree
      rintro _ ⟨⟩
      exact told.symm.trans ‹_›
  | give place name began unit symbol there =>
    have isFree := coherent.isFree there rfl
    have force := (sofar there).asking unit rfl
    refine ⟨?_, coherent.backed.cons_gave unit name symbol, ?_, fun choosing => absurd isFree choosing⟩
    · have told := coherent.localState
      unfold Lookups.placed at told ⊢
      rw [isFree] at told ⊢
      exact told
    · refine forall_set (fun lookup listed => (coherent.lookups lookup listed).later rfl) ?_
      refine ⟨(sofar there).began.trans (List.suffix_cons _ _), nofun, ?_, nofun⟩
      rintro _ _ ⟨⟩
      exact ⟨force, List.mem_cons_self⟩
  | refuse place name began unit answer there _ =>
    exact coherent.move ⟨(sofar there).began, nofun, nofun, nofun⟩ fun _ =>
      coherent.isFree there rfl
  | remember place name began unit symbol there =>
    have isFree := coherent.isFree there rfl
    obtain ⟨force, gave⟩ := (sofar there).answered unit symbol rfl
    obtain ⟨localState, kept⟩ := coherent.remember name symbol
    -- What is noted, if anything, is that a symbol is kept that was just given.
    obtain ⟨unchanged, backed, later⟩ :
        inForce start (state.session.noteKept id name symbol ++ state.history) =
          inForce start state.history ∧
        Backed start (state.session.noteKept id name symbol ++ state.history) ∧
        ∀ lookup : Lookup, lookup.Coheres start state.history →
          lookup.Coheres start (state.session.noteKept id name symbol ++ state.history) := by
      unfold noteKept
      split
      · exact ⟨rfl, coherent.backed, fun _ coheres => coheres⟩
      · refine ⟨rfl, backed_cons.mpr ⟨coherent.backed, ?_⟩, fun _ coheres => coheres.later rfl⟩
        rintro _ _ ⟨⟩
        exact ⟨unit, force, gave⟩
    refine ⟨?_, backed, forall_set (fun lookup listed => later lookup (coherent.lookups lookup listed))
      ⟨(later _ (sofar there)).began, nofun, nofun, ?_⟩, fun choosing => absurd isFree choosing⟩
    · rw [localState]
      unfold Lookups.placed
      rw [isFree, unchanged]
    · rintro _ _ ⟨⟩
      exact ⟨List.suffix_rfl, (later _ (sofar there)).began, kept⟩
  | leave place name began result there =>
    refine coherent.move ⟨(sofar there).began, nofun, nofun, ?_⟩ nofun
    rintro symbol seen ⟨⟩
    exact (sofar there).given symbol seen rfl
  | choose unit isFree isUnshared =>
    refine ⟨?_, coherent.backed, coherent.lookups, fun _ => isUnshared⟩
    obtain ⟨resolver, present, same⟩ := Option.map_eq_some_iff.mp coherent.localState
    simp [localState?, updateResolver, Table.get?_update, present, Lookups.placed,
      (Prod.mk.inj same).2]
  | clear unit isPut =>
    have isOutside := coherent.apart (by simp [isPut])
    refine ⟨?_, coherent.backed.cons_chosen unit, ?_, fun _ => isOutside⟩
    · obtain ⟨resolver, present, same⟩ := Option.map_eq_some_iff.mp coherent.localState
      have put : resolver.localUnit = unit := by
        rw [(Prod.mk.inj same).1]
        simp [Lookups.placed, isPut]
      simp [localState?, updateResolver, Table.get?_update, present, Lookups.placed, put, remembered,
        inForce]
    · exact fun lookup listed =>
        (coherent.lookups lookup listed).chosen unit (isOutside lookup listed)
  | release unit isDone =>
    refine ⟨?_, coherent.backed, coherent.lookups, fun choosing => absurd rfl choosing⟩
    have told := coherent.localState
    unfold Lookups.placed at told ⊢
    rw [isDone] at told
    exact told
  | elsewhere session same =>
    exact ⟨same.trans coherent.localState, coherent.backed, coherent.lookups, coherent.apart⟩

/-! ## What look-ups come to -/

/-- What the local unit and the symbols that are remembered come to, and what look-ups get of them. -/
structure KeepsToLocal (start : Option Loader) (id : Nat) (state : Lookups) : Prop where
  /-- What is remembered was given for its name by the unit in force, since it was chosen. -/
  defined : ∀ resolver, state.session.resolvers.get? id = some resolver →
    ∀ name symbol, (name, symbol) ∈ resolver.defined → ∃ unit,
      inForce start state.history = some unit ∧ .gave unit name symbol ∈ recent state.history
  /-- The unit in force is the local unit, except while a choice has put another one in its place and
  has not forgotten the symbols yet. Then nobody else can look at the local unit. -/
  current : ∀ resolver, state.session.resolvers.get? id = some resolver →
    resolver.localUnit = inForce start state.history ∨
      (∃ unit, state.choosing = some ⟨unit, false⟩) ∧
        ∀ lookup ∈ state.lookups, lookup.phase.isInside = false
  /-- A symbol of the local unit that a look-up comes to was given for its name by the unit that was in
  force then, with no choice between that and the time the look-up had it. So every choice that was
  made when the look-up began had been made before the symbol was given. -/
  unreplaced : ∀ lookup ∈ state.lookups, ∀ symbol seen,
    lookup.phase = .ended (.given symbol seen) →
      lookup.began <:+ seen ∧ seen <:+ state.history ∧ ∃ unit newer older,
        seen = newer ++ .gave unit lookup.name symbol :: older ∧
          (∀ event ∈ newer, event.isChoice = false) ∧ inForce start older = some unit ∧
            ∀ chosen earlier, .chosen chosen :: earlier <:+ lookup.began →
              .chosen chosen :: earlier <:+ older
  /-- Look-ups of one name that have a symbol of the local unit while the same choice is in force have
  the same one. -/
  same : ∀ first ∈ state.lookups, ∀ second ∈ state.lookups, first.name = second.name →
    ∀ symbol seen other seenOther, first.phase = .ended (.given symbol seen) →
      second.phase = .ended (.given other seenOther) → choices seen = choices seenOther →
        symbol = other

/-- A session that is coherent keeps to its local unit. -/
theorem Coherent.keepsToLocal (coherent : Coherent start id state) :
    KeepsToLocal start id state where
  defined resolver present name symbol listed := by
    have told := coherent.localState
    unfold localState? at told
    rw [present, Option.map_some] at told
    rw [(Prod.mk.inj (Option.some.inj told)).2] at listed
    exact coherent.backed.gave listed
  current resolver present := by
    have told := coherent.localState
    unfold localState? at told
    rw [present, Option.map_some] at told
    rw [(Prod.mk.inj (Option.some.inj told)).1]
    unfold Lookups.placed
    rcases choosing : state.choosing with _ | ⟨unit, _ | _⟩
    · exact .inl rfl
    · exact .inr ⟨⟨unit, rfl⟩, coherent.apart (by simp [choosing])⟩
    · exact .inl rfl
  unreplaced lookup listed symbol seen ended := by
    obtain ⟨before, began, kept⟩ := (coherent.lookups lookup listed).given symbol seen (by rw [ended]; rfl)
    have backed : Backed start seen := fun name symbol older early =>
      coherent.backed name symbol older (early.trans before)
    have remembers : (lookup.name, symbol) ∈ remembered seen := by
      obtain ⟨left, right, same, -⟩ := List.lookup_eq_some_iff.mp kept
      simp [same]
    obtain ⟨unit, force, gave⟩ := backed.gave remembers
    obtain ⟨newer, older, rfl, none, same⟩ := split_of_mem_recent start gave
    exact ⟨began, before, unit, newer, older, rfl, none, same.trans force, fun chosen earlier choice =>
      suffix_of_choice none rfl (choice.trans began)⟩
  same first firstListed second secondListed name symbol seen other seenOther ended endedOther
      undisturbed := by
    obtain ⟨before, -, kept⟩ := (coherent.lookups first firstListed).given symbol seen (by rw [ended]; rfl)
    obtain ⟨beforeOther, -, keptOther⟩ :=
      (coherent.lookups second secondListed).given other seenOther (by rw [endedOther]; rfl)
    rw [name] at kept
    rcases List.suffix_or_suffix_of_suffix before beforeOther with early | late
    · have still := lookup_remembered_of_suffix early undisturbed kept
      exact Option.some.inj (still.symm.trans keptOther)
    · have still := lookup_remembered_of_suffix late undisturbed.symm keptOther
      exact Option.some.inj (kept.symm.trans still)

/-! ## Choices and look-ups that nothing interrupts -/

/-- Letting go leaves the local unit and what is remembered alone, if the host holds the resolver. -/
theorem settle_localState {session : Session} {holder : String}
    (held : (holder, .loader (.resolver id)) ∈ session.held) :
    session.settle.localState? id = session.localState? id := by
  have kept : (holder, Target.loader (.resolver id)) ∈ session.keptLoaders.held := by
    rw [session.keptLoaders_pruned.rest]
    exact held
  have same := session.keptLoaders_pruned.resolver (held_mem_targets kept)
  unfold localState?
  rw [(settle_loaders session).2, same]

/-- A choice that nothing interrupts does what `setLocal` does. -/
theorem setLocal_alone {session : Session} {holder : String}
    (held : (holder, .loader (.resolver id)) ∈ session.held) (unit : Option Loader)
    (lookups : List Lookup) (isUnshared : ∀ lookup ∈ lookups, lookup.phase.isInside = false)
    (history : List LocalEvent) :
    Relation.ReflTransGen (LookupStep id) ⟨session, none, lookups, history⟩
      ⟨session.setLocal id unit, none, lookups, .chosen unit :: history⟩ := by
  have both : (session.updateResolver id fun resolver =>
      { resolver with localUnit := unit }).updateResolver id
        (fun resolver => { resolver with defined := [] }) =
      session.updateResolver id fun resolver =>
        { resolver with localUnit := unit, defined := [] } := by
    unfold updateResolver
    rw [Table.update_update]
  have put : LookupStep id _ _ := .choose ⟨session, none, lookups, history⟩ unit rfl isUnshared
  have cleared : LookupStep id _ _ := .clear ⟨session.updateResolver id fun resolver =>
    { resolver with localUnit := unit }, some ⟨unit, false⟩, lookups, history⟩ unit rfl
  dsimp only at cleared
  rw [both] at cleared
  have released : LookupStep id _ _ := .release ⟨session.updateResolver id fun resolver =>
    { resolver with localUnit := unit, defined := [] }, some ⟨unit, true⟩, lookups,
      .chosen unit :: history⟩ unit rfl
  have settled : LookupStep id _ _ := .elsewhere ⟨session.updateResolver id fun resolver =>
    { resolver with localUnit := unit, defined := [] }, none, lookups, .chosen unit :: history⟩
      (session.setLocal id unit) (settle_localState held)
  exact (((Relation.ReflTransGen.single put).tail cleared).tail released).tail settled

/-- A look-up that nothing interrupts goes on from a phase, and comes to an answer. -/
def Answers (id : Nat) (name : String) (session : Session) (phase : LookupPhase) (after : Session)
    (answer : Answer) : Prop :=
  ∀ began history, ∃ result later, result.answer = answer ∧
    Relation.ReflTransGen (LookupStep id) ⟨session, none, [⟨name, began, phase⟩], history⟩
      ⟨after, none, [⟨name, began, .ended result⟩], later⟩

section

variable {session after : Session} {resolver : Resolver} {name : String} {answer : Answer}
variable {phase : LookupPhase} {ask : Asking}

/-- Whatever else happens first. -/
theorem Answers.elsewhere (answers : Answers id name session phase after answer) {before : Session}
    (same : session.localState? id = before.localState? id) :
    Answers id name before phase after answer := by
  intro began history
  obtain ⟨result, later, isAnswer, run⟩ := answers began history
  exact ⟨result, later, isAnswer, .head (.elsewhere ⟨before, none, _, _⟩ session same) run⟩

/-- An answer of the parent or of a registered unit ends a look-up. -/
theorem answers_find (session : Session) (answer : Answer) :
    Answers id name session .searching session answer := fun began history =>
  ⟨.other answer, history, rfl, .single (.find ⟨session, none, _, _⟩ 0 name began answer rfl)⟩

variable (stays : ∀ session loader name,
  (ask session loader name).1.localState? id = session.localState? id)
include stays

/-- Asking units one after the other leaves the local unit alone if asking each of them does. -/
theorem askUnits_localState (session : Session) (name : String) (units : List Nat) :
    (askUnits ask session name units).1.localState? id = session.localState? id := by
  induction units generalizing session with
  | nil => rfl
  | cons unit rest inductionHypothesis =>
    have first := stays session (.unit unit) name
    unfold askUnits
    rcases heard : ask session (.unit unit) name with ⟨later, answer⟩
    rw [heard] at first
    cases answer with
    | found symbol => exact first
    | crashed crash => exact first
    | absent => exact (inductionHypothesis later).trans first
    | failed error => exact (inductionHypothesis _).trans first

/-- A look-up that has come to wait for the lock does what `askLocal` does. -/
theorem askLocal_alone (present : (session.resolvers.get? id).map (·.localUnit) =
      some resolver.localUnit)
    (asked : askLocal ask session id resolver name = (after, answer)) :
    Answers id name session .waiting after answer := by
  have inPlace : (session.resolvers.get? id).bind (·.localUnit) = resolver.localUnit := by
    cases there : session.resolvers.get? id with
    | none => simp [there] at present
    | some now => simpa [there] using present
  have left : ∀ (session : Session) (result : LookupResult),
      Answers id name session (.leaving result) session result.answer :=
    fun session result began history => ⟨result, history, rfl,
      .single (.leave ⟨session, none, _, _⟩ 0 name began result rfl)⟩
  -- The lock is free, so the look-up can always come to share it.
  have entered : Answers id name session (session.enterLocal id) after answer →
      Answers id name session .waiting after answer := by
    intro answers began history
    obtain ⟨result, later, isAnswer, run⟩ := answers began history
    exact ⟨result, later, isAnswer, .head (.enter ⟨session, none, _, _⟩ 0 name began rfl rfl) run⟩
  refine entered ?_
  unfold enterLocal
  rw [inPlace]
  unfold askLocal at asked
  cases unit : resolver.localUnit with
  | none =>
    rw [unit] at asked
    obtain ⟨rfl, rfl⟩ := Prod.mk.inj asked
    exact left session _
  | some loader =>
    rw [unit] at asked
    dsimp only at asked ⊢
    have same := stays session loader name
    have refused : ∀ (session : Session) (answer : Answer), (∀ symbol, answer ≠ .found symbol) →
        Answers id name session (.asking loader) session answer := by
      intro session answer isMiss began history
      obtain ⟨result, later, isAnswer, run⟩ := left session (.other answer) began history
      exact ⟨result, later, isAnswer,
        .head (.refuse ⟨session, none, _, _⟩ 0 name began loader answer rfl isMiss) run⟩
    rcases heard : ask session loader name with ⟨middle, reply⟩
    rw [heard] at asked same
    cases reply with
    | found symbol =>
      obtain ⟨rfl, rfl⟩ := Prod.mk.inj asked
      refine Answers.elsewhere (fun began history => ?_) same
      have given : LookupStep id _ _ := .give ⟨middle, none, [⟨name, began, .asking loader⟩],
        history⟩ 0 name began loader symbol rfl
      have kept : LookupStep id _ _ := .remember ⟨middle, none,
        [⟨name, began, .answered loader symbol⟩], .gave loader name symbol :: history⟩ 0 name began
        loader symbol rfl
      obtain ⟨result, later, isAnswer, run⟩ := left (middle.remember id name symbol).1
        (.given (middle.remember id name symbol).2
          (middle.noteKept id name symbol ++ .gave loader name symbol :: history)) began
        (middle.noteKept id name symbol ++ .gave loader name symbol :: history)
      exact ⟨result, later, isAnswer, .head given (.head kept run)⟩
    | absent =>
      obtain ⟨rfl, rfl⟩ := Prod.mk.inj asked
      exact (refused middle .absent nofun).elsewhere same
    | failed error =>
      obtain ⟨rfl, rfl⟩ := Prod.mk.inj asked
      exact (refused _ .absent nofun).elsewhere same
    | crashed crash =>
      obtain ⟨rfl, rfl⟩ := Prod.mk.inj asked
      exact (refused middle (.crashed crash) nofun).elsewhere same

/-- A look-up that nothing interrupts does what `askResolver` does, as long as nobody who is asked asks
this resolver in turn. -/
theorem askResolver_alone (present : session.resolvers.get? id = some resolver)
    (asked : askResolver ask session id name = (after, answer)) :
    Answers id name session .asked after answer := by
  -- After what is remembered, the look-up goes on with the others that it can ask.
  have recalled : ∀ {phase}, session.recollect id name = (fun _ => phase) →
      Answers id name session phase after answer → Answers id name session .asked after answer := by
    intro phase isPhase answers began history
    obtain ⟨result, later, isAnswer, run⟩ := answers began history
    have step : LookupStep id _ _ := .recollect ⟨session, none, [⟨name, began, .asked⟩], history⟩ 0 name
      began rfl
    dsimp only at step
    rw [isPhase] at step
    exact ⟨result, later, isAnswer, .head step run⟩
  have registry : ∀ {middle : Session}, middle.localState? id = session.localState? id →
      askRegistry ask middle id resolver name = (after, answer) →
        Answers id name middle .searching after answer := by
    intro middle same goesOn
    unfold askRegistry at goesOn
    have units := askUnits_localState stays middle name resolver.registry.recentFirst
    rcases heard : askUnits ask middle name resolver.registry.recentFirst with ⟨later, reply⟩
    rw [heard] at goesOn units
    have found : (later, reply) = (after, answer) → Answers id name middle .searching after answer := by
      intro isEnd
      obtain ⟨rfl, rfl⟩ := Prod.mk.inj isEnd
      exact (answers_find later reply).elsewhere units
    cases reply with
    | found symbol => exact found goesOn
    | failed error => exact found goesOn
    | crashed crash => exact found goesOn
    | absent =>
      refine Answers.elsewhere (fun began history => ?_) units
      have localUnit : (later.resolvers.get? id).map (·.localUnit) = some resolver.localUnit := by
        have told := congrArg (Option.map Prod.fst) (units.trans same)
        simpa [localState?, present, Function.comp_def] using told
      obtain ⟨result, history', isAnswer, run⟩ := askLocal_alone stays localUnit goesOn began history
      exact ⟨result, history', isAnswer, .head (.miss ⟨later, none, _, _⟩ 0 name began rfl) run⟩
  unfold askResolver at asked
  rw [present] at asked
  dsimp only at asked
  cases early : resolver.defined.lookup name with
  | some symbol =>
    rw [early] at asked
    obtain ⟨rfl, rfl⟩ := Prod.mk.inj asked
    intro began history
    have step : LookupStep id _ _ := .recollect ⟨session, none, [⟨name, began, .asked⟩], history⟩ 0 name
      began rfl
    have isPhase : session.recollect id name history = .ended (.given symbol history) := by
      simp [recollect, present, early]
    dsimp only at step
    rw [isPhase] at step
    exact ⟨.given symbol history, history, rfl, .single step⟩
  | none =>
    rw [early] at asked
    have forgotten : session.recollect id name = fun _ => .searching :=
      funext fun _ => by simp [recollect, present, early]
    refine recalled forgotten ?_
    have parent : (askParent ask session resolver.parent name).1.localState? id =
        session.localState? id := by
      unfold askParent
      split
      · exact stays session _ name
      · rfl
    dsimp only at asked
    rcases heard : askParent ask session resolver.parent name with ⟨middle, reply⟩
    rw [heard] at asked parent
    cases reply with
    | found symbol =>
      obtain ⟨rfl, rfl⟩ := Prod.mk.inj asked
      exact (answers_find middle _).elsewhere parent
    | crashed crash =>
      obtain ⟨rfl, rfl⟩ := Prod.mk.inj asked
      exact (answers_find middle _).elsewhere parent
    | absent => exact (registry parent asked).elsewhere parent
    | failed error =>
      have logged : (middle.log [.parentFailed name]).localState? id = session.localState? id := parent
      exact (registry logged asked).elsewhere parent

end

/-! ## Every run -/

/-- Whatever look-ups and choices do, and in whatever order, a resolver keeps to its local unit. It
remembers nothing in the beginning, and nothing is assumed of what the local unit, the parent or the
registered units answer. The invariant is that the session is what the history tells and that
whoever asks the local unit keeps choices waiting; every step leaves it, and all promises are read
off it. -/
theorem keepsToLocal_of_run {session : Session} {resolver : Resolver}
    (present : session.resolvers.get? id = some resolver) (bare : resolver.defined = [])
    (run : Relation.ReflTransGen (LookupStep id) ⟨session, none, [], []⟩ state) :
    KeepsToLocal resolver.localUnit id state := by
  suffices coherent : Coherent resolver.localUnit id state from coherent.keepsToLocal
  induction run with
  | refl =>
    refine ⟨?_, fun _ _ _ early => ?_, nofun, fun choosing => absurd rfl choosing⟩
    · simp only [localState?, present, Option.map_some, bare]
      rfl
    · exact nomatch List.suffix_nil.mp early
  | tail _ step inductionHypothesis => exact inductionHypothesis.step step

/-- A resolver whose local unit makes its symbols anew for every look-up. -/
def localResolver : Resolver where
  staging := Staging.ofConfig {}
  platform := .archive
  compiler := fun _ files => (files, .ok ⟨some 0, ""⟩)
  parent := none
  dumpsFailedInput := false
  patience := Config.patience {}
  reaper := 0
  localUnit := some (.system 2)

/-- The symbol that the unit makes for a look-up. -/
def madeSymbol (serial : Nat) : Symbol :=
  ⟨"a", systemUnit, .native, serial⟩

/-- Two look-ups of one name ask the local unit at once, and another unit is chosen after both. They
get the symbol that the second of them was given, because it was remembered first. -/
theorem keepsToLocal_of_run_shared :
    ∃ state, Relation.ReflTransGen (LookupStep 1)
        ⟨{ files := ⟨[], 0⟩, resolvers := [(1, localResolver)] }, none, [], []⟩ state ∧
      (state.lookups.map fun lookup => lookup.phase.result?.map (·.answer)) =
        [some (.found (madeSymbol 4)), some (.found (madeSymbol 4))] ∧
      state.session.localState? 1 = some (none, []) ∧
      KeepsToLocal localResolver.localUnit 1 state := by
  have run : Relation.ReflTransGen (LookupStep 1)
      ⟨{ files := ⟨[], 0⟩, resolvers := [(1, localResolver)] }, none, [], []⟩ _ :=
    .head (.ask _ "a") <| .head (.ask _ "a") <|
    .head (.recollect _ 0 "a" _ rfl) <| .head (.recollect _ 1 "a" _ rfl) <|
    .head (.miss _ 0 "a" _ rfl) <| .head (.miss _ 1 "a" _ rfl) <|
    .head (.enter _ 0 "a" _ rfl rfl) <| .head (.enter _ 1 "a" _ rfl rfl) <|
    .head (.give _ 0 "a" _ (.system 2) (madeSymbol 3) rfl) <|
    .head (.give _ 1 "a" _ (.system 2) (madeSymbol 4) rfl) <|
    .head (.remember _ 1 "a" _ (.system 2) (madeSymbol 4) rfl) <|
    .head (.remember _ 0 "a" _ (.system 2) (madeSymbol 3) rfl) <|
    .head (.leave _ 0 "a" _ _ rfl) <| .head (.leave _ 1 "a" _ _ rfl) <|
    .head (.choose _ none rfl (by decide)) <| .head (.clear _ none rfl) <|
    .single (.release _ none rfl)
  exact ⟨_, run, rfl, rfl, keepsToLocal_of_run rfl rfl run⟩

end Session
end Hotload
