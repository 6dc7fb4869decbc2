import Hotload.Session.Lookup

/-!
# Look-ups without the session

A look-up hands a session on from one loader to the next, but what it answers can be told from the
session in which it began. A loader that does not find the symbol leaves nothing behind but events,
so the loaders asked after it see what they would have seen first. `replyOf` is what a loader
answers when the answers of all loaders to the one name are known; no session is threaded through
it. The depth of the search, and the order that it amounts to, are derived from `replyOf` alone.

What a look-up leaves behind when it finds the symbol matters at one place: a resolver remembers
what its local unit found, unless it remembers a symbol by now. Any symbol remembered on the way is
the very one that was found.
-/

namespace Hotload

namespace Answer

/-- Whether a search goes on after the answer. -/
def isMiss : Answer → Bool
  | .absent | .failed _ => true
  | .found _ | .crashed _ => false

/-- The answer of a search that takes the answers in order: the first that is no miss. -/
def firstHit : List Answer → Answer
  | [] => .absent
  | answer :: rest => if answer.isMiss then firstHit rest else answer

/-- A search over two lists goes on with the second if it misses in all of the first. -/
theorem firstHit_append (before after : List Answer) :
    firstHit (before ++ after) =
      if (firstHit before).isMiss then firstHit after else firstHit before := by
  induction before with
  | nil => rfl
  | cons answer rest inductionHypothesis =>
    by_cases missed : answer.isMiss = true
    · simp only [List.cons_append, firstHit, missed, ↓reduceIte, inductionHypothesis]
    · simp [firstHit, missed]

/-- A search comes to a miss only as `absent`: failures on the way are passed over. -/
theorem firstHit_eq_absent_of_isMiss (answers : List Answer)
    (missed : (firstHit answers).isMiss = true) : firstHit answers = .absent := by
  induction answers with
  | nil => rfl
  | cons answer rest inductionHypothesis =>
    by_cases first : answer.isMiss = true
    · simp only [firstHit, first, ↓reduceIte] at missed ⊢
      exact inductionHypothesis missed
    · simp [firstHit, first] at missed

/-- A search finds nothing exactly if every step misses. -/
theorem firstHit_eq_absent_iff (answers : List Answer) :
    firstHit answers = .absent ↔ ∀ answer ∈ answers, answer.isMiss = true := by
  induction answers with
  | nil => simp [firstHit]
  | cons answer rest inductionHypothesis =>
    by_cases missed : answer.isMiss = true
    · simp [firstHit, missed, inductionHypothesis]
    · have hit : answer ≠ .absent := by
        rintro rfl
        exact missed rfl
      simp [firstHit, missed, hit]

/-- A search over the result of a search is one search. -/
theorem firstHit_nested (before inner after : List Answer) :
    firstHit (before ++ firstHit inner :: after) = firstHit (before ++ inner ++ after) := by
  have flat : firstHit (firstHit inner :: after) = firstHit (inner ++ after) := by
    rw [firstHit_append]
    rfl
  rw [firstHit_append, flat, List.append_assoc, ← firstHit_append]

end Answer

namespace Session

/-- The sessions differ at most in the events noted. -/
def Alike (before after : Session) : Prop :=
  after = { before with events := after.events }

/-- Any session is like itself. -/
theorem Alike.refl (session : Session) : Alike session session :=
  rfl

/-- Likeness goes on from session to session. -/
theorem Alike.trans {first second third : Session} (left : Alike first second)
    (right : Alike second third) : Alike first third := by
  unfold Alike at *
  rw [right, left]

/-- Noting events leaves a session alike. -/
theorem alike_log (session : Session) (events : List Event) : Alike session (session.log events) :=
  rfl

/-- Where a resolver remembered nothing for the name before, it now remembers nothing still or the
given symbol. -/
def RemembersOnly (before after : Session) (name : String) (symbol : Symbol) : Prop :=
  ∀ id resolver, before.resolvers.get? id = some resolver → resolver.defined.lookup name = none →
    ∃ now, after.resolvers.get? id = some now ∧
      (now.defined.lookup name = none ∨ now.defined.lookup name = some symbol)

/-- What a step of a look-up comes to: it gives the answer, it leaves the session alike unless it
finds the symbol, and what it finds is all that can be newly remembered for the name. -/
structure Comes (session : Session) (name : String) (result : Session × Answer) (answer : Answer) :
    Prop where
  gives : result.2 = answer
  alike : (∀ symbol, answer ≠ .found symbol) → Alike session result.1
  remembers : ∀ symbol, answer = .found symbol → RemembersOnly session result.1 name symbol

/-- A way to ask loaders that is blind to events and whose every answer comes about in an orderly
way. -/
structure Orderly (ask : Asking) : Prop where
  blind : ∀ session other loader name, Alike session other →
    (ask other loader name).2 = (ask session loader name).2
  comes : ∀ session loader name,
    Comes session name (ask session loader name) (ask session loader name).2

/-- An answer that leaves the session as it is. -/
theorem Comes.unchanged (session : Session) (name : String) (answer : Answer) :
    Comes session name (session, answer) answer where
  gives := rfl
  alike := fun _ => Alike.refl session
  remembers := fun _ _ _ resolver present forgotten => ⟨resolver, present, .inl forgotten⟩

/-- A step after sessions that are alike is a step from the first of them. -/
theorem Comes.from_alike {session middle : Session} {name : String} {result : Session × Answer}
    {answer : Answer} (same : Alike session middle) (later : Comes middle name result answer) :
    Comes session name result answer where
  gives := later.gives
  alike := fun missed => same.trans (later.alike missed)
  remembers := by
    intro symbol found id resolver present forgotten
    have kept : middle.resolvers.get? id = some resolver := by
      rw [same]
      exact present
    exact later.remembers symbol found id resolver kept forgotten

/-! ## What single loaders answer -/

/-- The answer of a unit from what it has itself. -/
def ownReply (session : Session) (name : String) (id : Nat) : Answer :=
  match session.units.get? id with
  | none => .absent
  | some unit =>
    match unit.resolved.lookup name with
    | some symbol => .found symbol
    | none =>
      match unit.content with
      | .archive index =>
        match index.lookup name with
        | none => .absent
        | some entry =>
          match UnitContent.readBody session.files unit.artifact entry with
          | .body content => .found ⟨name, unit.name, .bytecode content, session.fresh⟩
          | .failed error => .failed error
          | .crashed crash => .crashed crash
      | .native exports =>
        if !Native.isSearchable name then .failed .platform
        else if exports.contains name then .found ⟨name, unit.name, .native, session.fresh⟩
        else .absent

/-- The answer of a loader that need not be there. -/
def replyOf? (reply : Loader → Answer) : Option Loader → Answer
  | none => .absent
  | some loader => reply loader

/-- The symbol that a resolver took from its local unit before. -/
def definedReply (resolver : Resolver) (name : String) : Answer :=
  match resolver.defined.lookup name with
  | some symbol => .found symbol
  | none => .absent

/-- The answer of a loader, given what all loaders answer to the name. -/
def replyOf (session : Session) (name : String) (reply : Loader → Answer) : Loader → Answer
  | .failing => .failed .platform
  | .system id =>
    match ((session.systems.get? id).getD []).lookup name with
    | some symbol => .found symbol
    | none => .absent
  | .unit id =>
    match session.ownReply name id with
    | .absent => replyOf? reply ((session.units.get? id).bind (·.parent))
    | answer => answer
  | .resolver id =>
    match session.resolvers.get? id with
    | none => .absent
    | some resolver =>
      Answer.firstHit (definedReply resolver name :: replyOf? reply resolver.parent ::
        resolver.registry.recentFirst.map (fun unit => reply (.unit unit))
          ++ [replyOf? reply resolver.localUnit])

/-! ## Each step comes to its answer -/

variable {ask : Asking}

/-- Asking loaders that are alike in the session before gives the same replies. -/
theorem Orderly.replies_alike (orderly : Orderly ask) {session other : Session}
    (alike : Alike session other) (name : String) :
    (fun loader => (ask other loader name).2) = fun loader => (ask session loader name).2 :=
  funext fun loader => orderly.blind session other loader name alike

/-- Asking units that are alike in the session before gives the same replies, as a registry asks
them. -/
theorem Orderly.unitReplies_alike (orderly : Orderly ask) {session other : Session}
    (alike : Alike session other) (name : String) :
    (fun unit => (ask other (.unit unit) name).2) = fun unit => (ask session (.unit unit) name).2 :=
  funext fun unit => orderly.blind session other (.unit unit) name alike

theorem makeSymbol_comes (session : Session) (id : Nat) (name unit : String) (body : SymbolBody) :
    Comes session name (makeSymbol session id name unit body)
      (.found ⟨name, unit, body, session.fresh⟩) where
  gives := rfl
  alike := fun missed => absurd rfl (missed _)
  remembers := fun _ _ _ resolver present forgotten => ⟨resolver, present, .inl forgotten⟩

theorem askParent_comes (orderly : Orderly ask) (session : Session) (parent : Option Loader)
    (name : String) :
    Comes session name (askParent ask session parent name)
      (replyOf? (fun loader => (ask session loader name).2) parent) := by
  cases parent with
  | none => exact Comes.unchanged session name .absent
  | some loader => exact orderly.comes session loader name

theorem askUnit_comes (orderly : Orderly ask) (session : Session) (id : Nat) (name : String) :
    Comes session name (askUnit ask session id name)
      (replyOf session name (fun loader => (ask session loader name).2) (.unit id)) := by
  unfold askUnit
  simp only [replyOf, ownReply]
  cases session.units.get? id with
  | none => exact Comes.unchanged session name .absent
  | some unit =>
    simp only [Option.bind_some]
    cases unit.resolved.lookup name with
    | some symbol => exact Comes.unchanged session name (.found symbol)
    | none =>
      cases unit.content with
      | archive index =>
        dsimp only
        cases index.lookup name with
        | none => exact askParent_comes orderly session unit.parent name
        | some entry =>
          dsimp only
          cases UnitContent.readBody session.files unit.artifact entry with
          | body content => exact makeSymbol_comes session id name unit.name (.bytecode content)
          | failed error => exact Comes.unchanged session name (.failed error)
          | crashed crash => exact Comes.unchanged session name (.crashed crash)
      | native exports =>
        dsimp only
        by_cases searchable : Native.isSearchable name = true
        · by_cases exported : exports.contains name = true
          · simp only [searchable, exported, Bool.not_true, Bool.false_eq_true, ↓reduceIte]
            exact makeSymbol_comes session id name unit.name .native
          · simp only [searchable, exported, Bool.not_true, Bool.false_eq_true, ↓reduceIte]
            exact askParent_comes orderly session unit.parent name
        · simp only [searchable, Bool.not_false, ↓reduceIte]
          exact Comes.unchanged session name (.failed .platform)

/-- Units asked in turn answer as a search over their single answers: the session in which a unit is
asked is like the first one, because all units before it missed. -/
theorem askUnits_comes (orderly : Orderly ask) (session : Session) (name : String)
    (ids : List Nat) :
    Comes session name (askUnits ask session name ids)
      (Answer.firstHit (ids.map fun id => (ask session (.unit id) name).2)) := by
  induction ids generalizing session with
  | nil => exact Comes.unchanged session name .absent
  | cons id rest inductionHypothesis =>
    have first := orderly.comes session (.unit id) name
    unfold askUnits
    simp only [List.map_cons, Answer.firstHit]
    rcases asked : ask session (.unit id) name with ⟨after, answer⟩
    rw [asked] at first
    -- A miss leaves `after` alike, so the rest is asked as if nothing had been asked before.
    have goOn : ∀ later, Alike session after → Alike after later →
        Comes session name (askUnits ask later name rest)
          (Answer.firstHit (rest.map fun id => (ask session (.unit id) name).2)) := by
      intro later missed noted
      have same := missed.trans noted
      have step := Comes.from_alike same (inductionHypothesis later)
      rw [orderly.unitReplies_alike same name] at step
      exact step
    cases answer with
    | found symbol => exact first
    | crashed crash => exact first
    | absent => exact goOn after (first.alike (by simp)) (Alike.refl after)
    | failed error => exact goOn _ (first.alike (by simp)) (alike_log after _)

/-- What the local unit found is what the look-up gives, whatever was remembered meanwhile. -/
theorem askLocal_comes (orderly : Orderly ask) (session : Session) (id : Nat) (resolver : Resolver)
    (name : String) (present : session.resolvers.get? id = some resolver)
    (forgotten : resolver.defined.lookup name = none) :
    Comes session name (askLocal ask session id resolver name)
      (Answer.firstHit [replyOf? (fun loader => (ask session loader name).2) resolver.localUnit]) := by
  unfold askLocal
  cases resolver.localUnit with
  | none => exact Comes.unchanged session name .absent
  | some loader =>
    have first := orderly.comes session loader name
    simp only [replyOf?]
    rcases asked : ask session loader name with ⟨after, answer⟩
    rw [asked] at first
    cases answer with
    | crashed crash => exact first
    | absent => exact first
    | failed error =>
      exact Comes.from_alike (first.alike (by simp))
        (Comes.from_alike (alike_log after _) (Comes.unchanged _ name .absent))
    | found symbol =>
      have remembered := first.remembers symbol rfl
      obtain ⟨now, there, known⟩ := remembered id resolver present forgotten
      simp only [Answer.firstHit, Answer.isMiss, Bool.false_eq_true, ↓reduceIte, remember, there]
      rcases known with nothing | earlier
      · simp only [nothing]
        refine ⟨rfl, fun missed => absurd rfl (missed symbol), ?_⟩
        rintro _ ⟨⟩ other old was unknown
        obtain ⟨last, stands, state⟩ := remembered other old was unknown
        simp only [updateResolver, Table.get?_update]
        by_cases here : other = id
        · subst here
          have same : last = now := Option.some.inj (stands.symm.trans there)
          subst same
          refine ⟨{ last with defined := last.defined ++ [(name, symbol)] }, ?_, .inr ?_⟩
          · simp [there]
          · simp [List.lookup_append, nothing]
        · rw [if_neg here]
          exact ⟨last, stands, state⟩
      · simp only [earlier]
        exact ⟨rfl, fun missed => absurd rfl (missed symbol), by
          rintro _ ⟨⟩
          exact remembered⟩

theorem askRegistry_comes (orderly : Orderly ask) (session : Session) (id : Nat)
    (resolver : Resolver) (name : String) (present : session.resolvers.get? id = some resolver)
    (forgotten : resolver.defined.lookup name = none) :
    Comes session name (askRegistry ask session id resolver name)
      (Answer.firstHit
        (resolver.registry.recentFirst.map (fun unit => (ask session (.unit unit) name).2)
          ++ [replyOf? (fun loader => (ask session loader name).2) resolver.localUnit])) := by
  have units := askUnits_comes orderly session name resolver.registry.recentFirst
  unfold askRegistry
  rcases asked : askUnits ask session name resolver.registry.recentFirst with ⟨after, answer⟩
  rw [asked] at units
  rw [Answer.firstHit_append]
  generalize searched : Answer.firstHit (resolver.registry.recentFirst.map
    fun unit => (ask session (.unit unit) name).2) = hit at units ⊢
  obtain rfl : answer = hit := units.gives
  cases answer with
  | found symbol => exact units
  | crashed crash => exact units
  | failed error =>
    have absent := Answer.firstHit_eq_absent_of_isMiss _ (by rw [searched]; rfl)
    rw [searched] at absent
    cases absent
  | absent =>
    have same : Alike session after := units.alike (by simp)
    have there : after.resolvers.get? id = some resolver := by
      rw [same]
      exact present
    have last := Comes.from_alike same
      (askLocal_comes orderly after id resolver name there forgotten)
    rw [orderly.replies_alike same name] at last
    exact last

theorem askResolver_comes (orderly : Orderly ask) (session : Session) (id : Nat) (name : String) :
    Comes session name (askResolver ask session id name)
      (replyOf session name (fun loader => (ask session loader name).2) (.resolver id)) := by
  unfold askResolver
  simp only [replyOf]
  cases present : session.resolvers.get? id with
  | none => exact Comes.unchanged session name .absent
  | some resolver =>
    simp only [definedReply]
    cases forgotten : resolver.defined.lookup name with
    | some symbol => exact Comes.unchanged session name (.found symbol)
    | none =>
      have parent := askParent_comes orderly session resolver.parent name
      rcases asked : askParent ask session resolver.parent name with ⟨after, answer⟩
      rw [asked] at parent
      simp only [List.cons_append, Answer.firstHit, Answer.isMiss, ↓reduceIte]
      generalize replyOf? (fun loader => (ask session loader name).2) resolver.parent = reply
        at parent ⊢
      obtain rfl : answer = reply := parent.gives
      have goOn : ∀ later, Alike session after → Alike after later →
          Comes session name (askRegistry ask later id resolver name)
            (Answer.firstHit
              (resolver.registry.recentFirst.map (fun unit => (ask session (.unit unit) name).2)
                ++ [replyOf? (fun loader => (ask session loader name).2) resolver.localUnit])) := by
        intro later missed noted
        have same := missed.trans noted
        have there : later.resolvers.get? id = some resolver := by
          rw [same]
          exact present
        have rest := Comes.from_alike same
          (askRegistry_comes orderly later id resolver name there forgotten)
        rw [orderly.replies_alike same name, orderly.unitReplies_alike same name] at rest
        exact rest
      cases answer with
      | found symbol => exact parent
      | crashed crash => exact parent
      | absent => exact goOn after (parent.alike (by simp)) (Alike.refl after)
      | failed error => exact goOn _ (parent.alike (by simp)) (alike_log after _)

/-- A loader comes to the answer that `replyOf` gives it. -/
theorem askLoader_comes (orderly : Orderly ask) (session : Session) (loader : Loader)
    (name : String) :
    Comes session name (askLoader ask session loader name)
      (replyOf session name (fun loader => (ask session loader name).2) loader) := by
  cases loader with
  | failing => exact Comes.unchanged session name (.failed .platform)
  | system id =>
    simp only [askLoader, replyOf]
    cases ((session.systems.get? id).getD []).lookup name with
    | none => exact Comes.unchanged session name .absent
    | some symbol => exact Comes.unchanged session name (.found symbol)
  | unit id => exact askUnit_comes orderly session id name
  | resolver id => exact askResolver_comes orderly session id name

/-- What a loader answers does not hang on the events of the session. -/
theorem replyOf_alike {session other : Session} (alike : Alike session other) (name : String)
    (reply : Loader → Answer) (loader : Loader) :
    replyOf other name reply loader = replyOf session name reply loader := by
  rw [alike]
  rfl

/-- Asking one level deeper is orderly again. -/
theorem Orderly.askLoader (orderly : Orderly ask) : Orderly (askLoader ask) where
  blind := by
    intro session other loader name alike
    rw [(askLoader_comes orderly session loader name).gives,
      (askLoader_comes orderly other loader name).gives, orderly.replies_alike alike,
      replyOf_alike alike]
  comes := by
    intro session loader name
    have step := askLoader_comes orderly session loader name
    rw [step.gives]
    exact step

/-- Looking up is orderly at every depth. -/
theorem askWithin_orderly (depth : Nat) : Orderly (askWithin depth) := by
  induction depth with
  | zero => exact ⟨fun _ _ _ _ _ => rfl, fun session _ name => Comes.unchanged session name _⟩
  | succ depth inductionHypothesis => exact inductionHypothesis.askLoader

end Session

end Hotload
