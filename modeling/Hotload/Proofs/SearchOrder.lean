import Hotload.Proofs.Operations
import Hotload.Proofs.SearchDepth

/-!
# The order of a search

Resolvers form chains: each asks its parent before its own units, and every unit that a resolver
registered asks the same parent again when it does not have the symbol. A search is therefore a tree
in which one parent is asked many times. This module flattens the tree: along a chain, a search goes
through what the resolvers remember, from the one asked to the outermost; then asks whoever stands
outside; and then goes through the registered units and the local unit of each resolver, from the
outermost back to the one asked.

Two facts make it flat. A parent that is asked again answers as it did, so once it missed, a unit
has nothing to give but what it has itself. And a search over the result of a search is one search.
-/

namespace Hotload

/-- The result of a look-up, from the answer that its search came to. -/
def Answer.toResult (name : String) : Answer → Except ResolveError Symbol
  | .found symbol => .ok symbol
  | .crashed crash => .error (.crash crash)
  | .absent | .failed _ => .error (.notFound name)

/-- A search reports that there is no such symbol exactly if it came to a miss. -/
theorem Answer.toResult_eq_notFound_iff (name : String) (answer : Answer) :
    answer.toResult name = .error (.notFound name) ↔ answer.isMiss = true := by
  cases answer <;> simp [toResult, isMiss]

/-- The answers are the same, or a search passes over both. -/
def Answer.SameHit (left right : Answer) : Prop :=
  left = right ∨ left.isMiss = true ∧ right.isMiss = true

/-- Searches whose steps give the same hits come to the same answer. -/
theorem Answer.firstHit_congr {left right : List Answer} (same : List.Forall₂ SameHit left right) :
    firstHit left = firstHit right := by
  induction same with
  | nil => rfl
  | @cons first second rest others head _ inductionHypothesis =>
    rcases head with rfl | ⟨missed, also⟩
    · simp only [firstHit, inductionHypothesis]
    · simp only [firstHit, missed, also, ↓reduceIte, inductionHypothesis]

namespace Session

/-- A chain of resolvers, from the innermost on: each has the next as its parent, and the last one
has whoever stands outside, if anyone does. -/
inductive Chain (session : Session) (outside : Option Loader) : List Nat → Prop where
  | outermost {id : Nat}
      (parent : (session.resolvers.get? id).map (·.parent) = some outside) :
      Chain session outside [id]
  | inner {id next : Nat} {rest : List Nat}
      (parent : (session.resolvers.get? id).map (·.parent) = some (some (.resolver next)))
      (chain : Chain session outside (next :: rest)) :
      Chain session outside (id :: next :: rest)

/-- What a resolver remembers for the name. -/
def rememberedReply (session : Session) (name : String) (id : Nat) : Answer :=
  match session.resolvers.get? id with
  | none => .absent
  | some resolver => definedReply resolver name

/-- What the registered units of a resolver have themselves, the most recent first, and then what
its local unit answers. -/
def levelReplies (session : Session) (name : String) (id : Nat) : List Answer :=
  match session.resolvers.get? id with
  | none => []
  | some resolver =>
    resolver.registry.recentFirst.map (session.ownReply name)
      ++ [replyOf? (session.reply name) resolver.localUnit]

/-- The steps of a search along a chain. -/
def searchOrder (session : Session) (name : String) (outside : Option Loader) (chain : List Nat) :
    List Answer :=
  chain.map (session.rememberedReply name) ++ replyOf? (session.reply name) outside ::
    chain.reverse.flatMap (session.levelReplies name)

/-- Once its parent missed, a unit has nothing to give but what it has itself. -/
theorem reply_unit_sameHit (session : Session) (name : String) {id : Nat} {unit : LoadedUnit}
    (present : session.units.get? id = some unit)
    (missed : (replyOf? (session.reply name) unit.parent).isMiss = true) :
    Answer.SameHit (session.reply name (.unit id)) (session.ownReply name id) := by
  rw [reply_eq]
  simp only [replyOf, present, Option.bind_some]
  cases session.ownReply name id with
  | absent => exact .inr ⟨missed, rfl⟩
  | found symbol => exact .inl rfl
  | failed error => exact .inl rfl
  | crashed crash => exact .inl rfl

/-- Behind the parent of a resolver, its registered units count with what they have themselves. -/
theorem firstHit_registered (session : Session) (name : String) (parent : Option Loader)
    (ids : List Nat) (rest : List Answer)
    (joined : ∀ id ∈ ids, ∃ unit, session.units.get? id = some unit ∧ unit.parent = parent) :
    Answer.firstHit (replyOf? (session.reply name) parent ::
        ids.map (fun id => session.reply name (.unit id)) ++ rest) =
      Answer.firstHit (replyOf? (session.reply name) parent ::
        ids.map (session.ownReply name) ++ rest) := by
  by_cases missed : (replyOf? (session.reply name) parent).isMiss = true
  · apply Answer.firstHit_congr
    have units : List.Forall₂ Answer.SameHit
        (ids.map fun id => session.reply name (.unit id)) (ids.map (session.ownReply name)) := by
      rw [List.forall₂_map_left_iff, List.forall₂_map_right_iff]
      apply List.forall₂_same.mpr
      intro id listed
      obtain ⟨unit, present, same⟩ := joined id listed
      exact session.reply_unit_sameHit name present (by rw [same]; exact missed)
    exact .cons (.inl rfl) (List.rel_append units (List.forall₂_same.mpr fun _ _ => .inl rfl))
  · simp [Answer.firstHit, missed]

/-- What a resolver answers, with every registered unit standing for itself. -/
theorem reply_resolver {session : Session} (wired : Wired session) (name : String) {id : Nat}
    {parent : Option Loader} (opened : (session.resolvers.get? id).map (·.parent) = some parent) :
    session.reply name (.resolver id) =
      Answer.firstHit (session.rememberedReply name id :: replyOf? (session.reply name) parent ::
        session.levelReplies name id) := by
  obtain ⟨resolver, present, rfl⟩ := Option.map_eq_some_iff.mp opened
  rw [reply_eq]
  simp only [replyOf, rememberedReply, levelReplies, present, List.cons_append]
  have registered := session.firstHit_registered name resolver.parent
    resolver.registry.recentFirst [replyOf? (session.reply name) resolver.localUnit]
    (by
      intro unit listed
      refine wired.joined id resolver present unit ?_
      simpa [Registry.recentFirst] using listed)
  simp only [List.cons_append] at registered
  simp only [Answer.firstHit] at registered ⊢
  rw [registered]

/-- A search along a chain goes through the steps of `searchOrder`. The induction is on the
resolvers below the one asked: what the next one answers is already a flat search, and a search over
the result of a search is one search. -/
theorem reply_chain {session : Session} (wired : Wired session) (name : String)
    {outside : Option Loader} {top : Nat} {below : List Nat}
    (chain : Chain session outside (top :: below)) :
    session.reply name (.resolver top) =
      Answer.firstHit (session.searchOrder name outside (top :: below)) := by
  induction below generalizing top with
  | nil =>
    cases chain with
    | outermost parent =>
      rw [reply_resolver wired name parent]
      simp [searchOrder]
  | cons next rest inductionHypothesis =>
    cases chain with
    | inner parent chain =>
      have outer := inductionHypothesis chain
      rw [reply_resolver wired name parent]
      have nested := Answer.firstHit_nested [session.rememberedReply name top]
        (session.searchOrder name outside (next :: rest)) (session.levelReplies name top)
      simp only [replyOf?, outer]
      rw [List.singleton_append] at nested
      rw [nested]
      simp [searchOrder, List.append_assoc]

/-- The result of loading a symbol is told by what its resolver answers. -/
theorem loadSymbol_result (session : Session) (id : Nat) (name : String) :
    (session.loadSymbol id name).2 = (session.reply name (.resolver id)).toResult name := by
  unfold loadSymbol reply
  rcases session.find (.resolver id) name with ⟨after, answer⟩
  cases answer <;> rfl

/-- A look-up through a chain of resolvers gives the first hit of the flat order, and reports that
there is no such symbol exactly if every step misses. The session is any that operations lead to, so
that every registered unit asks the parent of its resolver. The order comes by induction along the
chain; the second part follows from it, since a search comes to a miss only if it met nothing else.
-/
theorem loadSymbol_chain {session : Session} (reached : Reachable session) (name : String)
    {outside : Option Loader} {top : Nat} {below : List Nat}
    (chain : Chain session outside (top :: below)) :
    (session.loadSymbol top name).2 =
        (Answer.firstHit (session.searchOrder name outside (top :: below))).toResult name ∧
      ((session.loadSymbol top name).2 = .error (.notFound name) ↔
        ∀ answer ∈ session.searchOrder name outside (top :: below), answer.isMiss = true) := by
  have result : (session.loadSymbol top name).2 =
      (Answer.firstHit (session.searchOrder name outside (top :: below))).toResult name := by
    rw [← reply_chain reached.wired name chain, loadSymbol_result]
  refine ⟨result, ?_⟩
  rw [result, Answer.toResult_eq_notFound_iff, ← Answer.firstHit_eq_absent_iff]
  constructor
  · exact Answer.firstHit_eq_absent_of_isMiss _
  · intro absent
    rw [absent]
    rfl

/-- Two resolvers, one the parent of the other, with a system loader outside that has `A`. The outer
one has two units with `B`, of which the recent one has lost its archive, and the inner one a third.
The local unit of the inner one is a system loader with `C` and `D`, and `C` was looked up before. -/
def twoLevels : Session :=
  let copy : Bytes := Zip.write [("B.class", [1])]
  let compiler : Compiler := fun _ files => (files, .ok ⟨some 0, ""⟩)
  let outside := (({ files := ⟨[(["tmp"], .directory), (["tmp", "work"], .directory),
      (["tmp", "work", "a.zip"], .file copy 0), (["tmp", "work", "b.zip"], .file copy 0)], 0⟩ } :
        Session).performAll
    [.addSystem, .defineSystem 0 "A" [7], .addSystem, .defineSystem 2 "C" [8],
      .defineSystem 2 "D" [9]])
  let outer := outside.perform (.openResolver "outer" {} compiler .archive (some (.system 0)))
  let inner := outer.perform (.openResolver "inner" {} compiler .archive (some (.resolver 6)))
  inner.performAll
    [.register 6 "u" "a.zip" none, .register 6 "w" "b.zip" none, .register 8 "v" "a.zip" none,
      .setLocal 8 (some (.system 2)), .find (.resolver 8) "C",
      .changeFiles fun files => ((files.write "b.zip" []).toOption).getD files]

/-- What the steps of a search through the two resolvers have. The unit that lost its archive fails. -/
theorem twoLevels_searchOrder :
    twoLevels.searchOrder "B" (some (.system 0)) [8, 6] =
      [.absent, .absent, .absent, .failed (.malformed "b.zip" .container),
        .found ⟨"B", "u", .bytecode [1], 12⟩, .absent, .found ⟨"B", "v", .bytecode [1], 12⟩,
        .absent] ∧
    twoLevels.searchOrder "C" (some (.system 0)) [8, 6] =
      [.found ⟨"C", systemUnit, .bytecode [8], 3⟩, .absent, .absent, .absent, .absent, .absent,
        .absent, .found ⟨"C", systemUnit, .bytecode [8], 3⟩] ∧
    twoLevels.searchOrder "D" (some (.system 0)) [8, 6] =
      [.absent, .absent, .absent, .absent, .absent, .absent, .absent,
        .found ⟨"D", systemUnit, .bytecode [9], 4⟩] ∧
    ∀ answer ∈ twoLevels.searchOrder "E" (some (.system 0)) [8, 6], answer.isMiss = true := by
  decide +kernel

/-- The inner resolver passes over the unit that fails and finds `B` in the other unit of the outer
one, before its own; it gives `C` as it remembers it, asks its local unit for `D` in the end, and
reports that there is no `E`. -/
theorem loadSymbol_twoLevels :
    Reachable twoLevels ∧ Chain twoLevels (some (.system 0)) [8, 6] ∧
      (twoLevels.loadSymbol 8 "B").2 = .ok ⟨"B", "u", .bytecode [1], 12⟩ ∧
      (twoLevels.loadSymbol 8 "C").2 = .ok ⟨"C", systemUnit, .bytecode [8], 3⟩ ∧
      (twoLevels.loadSymbol 8 "D").2 = .ok ⟨"D", systemUnit, .bytecode [9], 4⟩ ∧
      (twoLevels.loadSymbol 8 "E").2 = .error (.notFound "E") := by
  have reached : Reachable twoLevels :=
    ((((Reachable.start _).performAll _).perform _).perform _).performAll _
  have chain : Chain twoLevels (some (.system 0)) [8, 6] :=
    .inner (by decide +kernel) (.outermost (by decide +kernel))
  obtain ⟨registered, remembered, isLocal, missing⟩ := twoLevels_searchOrder
  refine ⟨reached, chain, ?_, ?_, ?_, (loadSymbol_chain reached "E" chain).2.mpr missing⟩
  · rw [(loadSymbol_chain reached "B" chain).1, registered]
    rfl
  · rw [(loadSymbol_chain reached "C" chain).1, remembered]
    rfl
  · rw [(loadSymbol_chain reached "D" chain).1, isLocal]
    rfl

end Session

end Hotload
