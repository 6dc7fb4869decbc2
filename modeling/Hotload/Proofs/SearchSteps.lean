import Hotload.Proofs.SearchDepth

/-!
# The steps of a search

A search notes events, a unit remembers the symbols that it makes, and a resolver remembers what its
local unit found. What all these steps leave, every look-up leaves. The two steps that remember do so
for a reason: the unit has the symbol itself, and none of the resolver's registered units had
anything to give. `Steady` allows a property to count on that.
-/

namespace Hotload

namespace Session

/-- A property that every step of a search leaves. A resolver remembers a symbol after a search that
began in one session and has come to another. -/
structure Steady (good : Session → Prop) : Prop where
  log : ∀ {session : Session}, good session → ∀ events, good (session.log events)
  makeSymbol : ∀ {session : Session}, good session → ∀ {id name unit body},
    session.ownReply name id = .found ⟨name, unit, body, session.fresh⟩ →
      good (session.makeSymbol id name unit body).1
  remember : ∀ {start session : Session}, good start → good session →
    ∀ {id resolver name symbol depth}, start.resolvers.get? id = some resolver →
      (∀ unit ∈ resolver.registry.map (·.2),
        (start.replyWithin name depth (.unit unit)).isMiss = true) →
      start.replyWithin name (depth + 1) (.resolver id) =
        .found (session.remember id name symbol).2 →
      good (session.remember id name symbol).1

namespace Steady

variable {good : Session → Prop} {ask : Asking} {session : Session} {name : String}
variable (steady : Steady good)
  (asked : ∀ session loader name, good session → good (ask session loader name).1)

include asked

theorem askParent (now : good session) (parent : Option Loader) :
    good (askParent ask session parent name).1 := by
  cases parent with
  | none => exact now
  | some loader => exact asked session loader name now

include steady

theorem askUnit (now : good session) (id : Nat) : good (askUnit ask session id name).1 := by
  unfold Session.askUnit
  cases there : session.units.get? id with
  | none => exact now
  | some unit =>
    dsimp only
    cases known : unit.resolved.lookup name with
    | some symbol => exact now
    | none =>
      dsimp only
      cases content : unit.content with
      | archive index =>
        dsimp only
        cases indexed : index.lookup name with
        | none => exact askParent asked now unit.parent
        | some entry =>
          dsimp only
          cases read : UnitContent.readBody session.files unit.artifact entry with
          | failed error => exact now
          | crashed crash => exact now
          | body body =>
            exact steady.makeSymbol now (by simp only [ownReply, there, known, content, indexed, read])
      | native exports =>
        dsimp only
        split
        · exact now
        · next searchable =>
          split
          · next exported =>
            exact steady.makeSymbol now (by
              simp only [ownReply, there, known, content, searchable, exported, if_true,
                Bool.false_eq_true, if_false])
          · exact askParent asked now unit.parent

theorem askUnits (now : good session) (ids : List Nat) :
    good (askUnits ask session name ids).1 := by
  induction ids generalizing session with
  | nil => exact now
  | cons id rest inductionHypothesis =>
    have later := asked session (.unit id) name now
    unfold Session.askUnits
    rcases heard : ask session (.unit id) name with ⟨after, answer⟩
    rw [heard] at later
    cases answer with
    | found symbol => exact later
    | crashed crash => exact later
    | absent => exact inductionHypothesis later
    | failed error => exact inductionHypothesis (steady.log later _)

theorem askLocal (now : good session) {id : Nat} {resolver : Resolver}
    (remembers : ∀ later symbol, good later →
      (askLocal ask session id resolver name).2 = .found (later.remember id name symbol).2 →
        good (later.remember id name symbol).1) :
    good (askLocal ask session id resolver name).1 := by
  unfold Session.askLocal at remembers ⊢
  cases localUnit : resolver.localUnit with
  | none => exact now
  | some loader =>
    have later := asked session loader name now
    simp only [localUnit] at remembers
    dsimp only
    rcases heard : ask session loader name with ⟨after, answer⟩
    rw [heard] at later remembers
    cases answer with
    | found symbol => exact remembers after symbol later rfl
    | crashed crash => exact later
    | absent => exact later
    | failed error => exact steady.log later _

variable (orderly : Orderly ask)
include orderly

/-- The local unit is asked only if all registered units missed. -/
theorem askRegistry (now : good session) {id : Nat} {resolver : Resolver}
    (remembers : (∀ unit ∈ resolver.registry.map (·.2),
        (ask session (.unit unit) name).2.isMiss = true) → ∀ later symbol, good later →
      (askRegistry ask session id resolver name).2 = .found (later.remember id name symbol).2 →
        good (later.remember id name symbol).1) :
    good (askRegistry ask session id resolver name).1 := by
  have units : good (Session.askUnits ask session name resolver.registry.recentFirst).1 :=
    steady.askUnits asked now _
  have comes := askUnits_comes orderly session name resolver.registry.recentFirst
  unfold Session.askRegistry at remembers ⊢
  rcases heard : Session.askUnits ask session name resolver.registry.recentFirst with ⟨after, answer⟩
  rw [heard] at units comes remembers
  cases answer with
  | found symbol => exact units
  | crashed crash => exact units
  | failed error => exact units
  | absent =>
    refine steady.askLocal asked units (remembers fun unit registered => ?_)
    refine (Answer.firstHit_eq_absent_iff _).mp comes.gives.symm _ (List.mem_map_of_mem ?_)
    exact List.mem_reverse.mpr registered

/-- What was missed on the way changes nothing of what the registered units answer. -/
theorem askResolver (now : good session) {id : Nat}
    (remembers : ∀ resolver, session.resolvers.get? id = some resolver →
      (∀ unit ∈ resolver.registry.map (·.2),
        (ask session (.unit unit) name).2.isMiss = true) → ∀ later symbol, good later →
      (askResolver ask session id name).2 = .found (later.remember id name symbol).2 →
        good (later.remember id name symbol).1) :
    good (askResolver ask session id name).1 := by
  unfold Session.askResolver at remembers ⊢
  cases there : session.resolvers.get? id with
  | none => exact now
  | some resolver =>
    simp only [there] at remembers
    dsimp only
    cases known : resolver.defined.lookup name with
    | some symbol => exact now
    | none =>
      simp only [known] at remembers
      dsimp only
      have parent : good (Session.askParent ask session resolver.parent name).1 :=
        askParent asked now resolver.parent
      have comes := askParent_comes orderly session resolver.parent name
      rcases heard : Session.askParent ask session resolver.parent name with ⟨after, answer⟩
      rw [heard] at parent comes remembers
      have goOn (later : Session) (still : good later) (alike : Alike session later)
          (remembers : ∀ found, some resolver = some found →
            (∀ unit ∈ found.registry.map (·.2),
              (ask session (.unit unit) name).2.isMiss = true) → ∀ last symbol, good last →
            (Session.askRegistry ask later id resolver name).2 =
              .found (last.remember id name symbol).2 → good (last.remember id name symbol).1) :
          good (Session.askRegistry ask later id resolver name).1 := by
        refine steady.askRegistry asked orderly still fun missed => remembers resolver rfl ?_
        intro unit registered
        rw [← orderly.blind session later (.unit unit) name alike]
        exact missed unit registered
      cases answer with
      | found symbol => exact parent
      | crashed crash => exact parent
      | absent =>
        exact goOn after parent (comes.alike (by rw [← comes.gives]; simp)) remembers
      | failed error =>
        exact goOn _ (steady.log parent _)
          ((comes.alike (by rw [← comes.gives]; simp)).trans (alike_log after _)) remembers

omit asked orderly

/-- A look-up of any depth, through any loader, leaves the property. -/
theorem askWithin (now : good session) (depth : Nat) (loader : Loader) (name : String) :
    good (askWithin depth session loader name).1 := by
  induction depth generalizing session loader name with
  | zero => exact now
  | succ depth inductionHypothesis =>
    have asked : ∀ session loader name, good session →
        good (Session.askWithin depth session loader name).1 :=
      fun _ loader name now => inductionHypothesis now loader name
    cases loader with
    | failing => exact now
    | system id =>
      simp only [Session.askWithin, askLoader]
      split <;> exact now
    | unit id => exact steady.askUnit asked now id
    | resolver id =>
      exact steady.askResolver asked (askWithin_orderly depth) now
        fun _ there missed _ _ still found => steady.remember now still there missed found

/-- A look-up leaves the property. -/
theorem find (now : good session) (loader : Loader) (name : String) :
    good (session.find loader name).1 :=
  steady.askWithin now _ loader name

/-- A look-up among registered units leaves the property. -/
theorem findRegistered (now : good session) (id : Nat) (name : String) :
    good (session.findRegistered id name).1 := by
  unfold Session.findRegistered
  split
  · exact now
  · exact steady.askUnits (fun _ loader name now => steady.askWithin now _ loader name) now _

end Steady

end Session

end Hotload
