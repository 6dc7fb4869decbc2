import Hotload.Proofs.FailedCompiles
import Hotload.Proofs.FreshUnits

/-!
# Definitions that fail

A definition whose compile fails leaves no trace: registries, files, live files of passing use and
the answer to every later look-up are what they would have been without it. Not so one that compiles
and then cannot read its symbol back. The unit it made is registered by then and stays the most
recent one, so it can hide older definitions although the definition that made it failed.
-/

namespace Hotload

open Files

/-! ## The same answers but for new numbers -/

/-- The symbols are one, or they are the same but for the numbers that two look-ups gave them. -/
def Symbol.Renewed (early late : Nat) (first second : Symbol) : Prop :=
  second = first ∨ first.serial = early ∧ second = { first with serial := late }

/-- The answers are the same, or both found symbols that are. -/
def Answer.Renewed (early late : Nat) (first second : Answer) : Prop :=
  second = first ∨ ∃ symbol other, first = .found symbol ∧ second = .found other ∧
    symbol.Renewed early late other

theorem Answer.Renewed.refl (early late : Nat) (answer : Answer) :
    Renewed early late answer answer :=
  .inl rfl

/-- A search passes over both or over neither. -/
theorem Answer.Renewed.isMiss {early late : Nat} {first second : Answer}
    (renewed : Renewed early late first second) : second.isMiss = first.isMiss := by
  rcases renewed with rfl | ⟨symbol, other, rfl, rfl, _⟩ <;> rfl

/-- Searches through the same answers come to the same answer. -/
theorem Answer.firstHit_renewed {early late : Nat} {first second : List Answer}
    (each : List.Forall₂ (Renewed early late) first second) :
    Renewed early late (firstHit first) (firstHit second) := by
  induction each with
  | nil => exact Renewed.refl _ _ _
  | cons head _ inductionHypothesis =>
    simp only [firstHit, head.isMiss]
    split
    · exact inductionHypothesis
    · exact head

namespace Session

open Answer (Renewed)

variable {session before after : Session}

/-- What a unit has itself is the same, whatever was tried and undone meanwhile. -/
theorem ownReply_renewed (calm : Calm before after) (same : SameTree before.files after.files)
    (name : String) (id : Nat) :
    Renewed before.fresh after.fresh (before.ownReply name id) (after.ownReply name id) := by
  have made : ∀ unit body, Renewed before.fresh after.fresh
      (.found ⟨name, unit, body, before.fresh⟩) (.found ⟨name, unit, body, after.fresh⟩) :=
    fun unit body => .inr ⟨_, _, rfl, rfl, .inr ⟨rfl, rfl⟩⟩
  unfold ownReply
  rw [calm.units]
  cases before.units.get? id with
  | none => exact Renewed.refl _ _ _
  | some unit =>
    dsimp only
    cases unit.resolved.lookup name with
    | some symbol => exact Renewed.refl _ _ _
    | none =>
      dsimp only
      cases unit.content with
      | archive index =>
        dsimp only
        cases index.lookup name with
        | none => exact Renewed.refl _ _ _
        | some entry =>
          dsimp only
          rw [same.readBody]
          cases UnitContent.readBody before.files unit.artifact entry with
          | body content => exact made unit.name (.bytecode content)
          | failed error => exact Renewed.refl _ _ _
          | crashed crash => exact Renewed.refl _ _ _
      | native exports =>
        dsimp only
        split
        · exact Renewed.refl _ _ _
        · split
          · exact made unit.name .native
          · exact Renewed.refl _ _ _

theorem replyOf?_renewed {early late : Nat} {reply other : Loader → Answer}
    (each : ∀ loader, Renewed early late (reply loader) (other loader)) (loader : Option Loader) :
    Renewed early late (replyOf? reply loader) (replyOf? other loader) := by
  cases loader with
  | none => exact Renewed.refl _ _ _
  | some loader => exact each loader

/-- If all loaders answer the same, then so does a loader that asks them. -/
theorem replyOf_renewed (calm : Calm before after) (same : SameTree before.files after.files)
    (name : String) {reply other : Loader → Answer}
    (each : ∀ loader, Renewed before.fresh after.fresh (reply loader) (other loader))
    (loader : Loader) :
    Renewed before.fresh after.fresh (replyOf before name reply loader)
      (replyOf after name other loader) := by
  cases loader with
  | failing => exact Renewed.refl _ _ _
  | system id =>
    simp only [replyOf, calm.systems]
    exact Renewed.refl _ _ _
  | unit id =>
    have own := ownReply_renewed calm same name id
    simp only [replyOf, calm.units]
    rcases own with own | ⟨symbol, made, first, second, renewed⟩
    · rw [own]
      cases before.ownReply name id with
      | absent => exact replyOf?_renewed each _
      | found symbol => exact Renewed.refl _ _ _
      | failed error => exact Renewed.refl _ _ _
      | crashed crash => exact Renewed.refl _ _ _
    · rw [first, second]
      exact .inr ⟨symbol, made, rfl, rfl, renewed⟩
  | resolver id =>
    have standing := calm.resolver id
    simp only [replyOf]
    cases was : before.resolvers.get? id with
    | none =>
      rw [was, Option.map_none, Option.map_eq_none_iff] at standing
      rw [standing]
      exact Renewed.refl _ _ _
    | some resolver =>
      rw [was, Option.map_some] at standing
      obtain ⟨now, there, stands⟩ := Option.map_eq_some_iff.mp standing
      have fields := congrArg Prod.fst stands
      have defined : now.defined = resolver.defined := congrArg (·.defined) fields
      have parent : now.parent = resolver.parent := congrArg (·.parent) fields
      have registry : now.registry = resolver.registry := congrArg (·.registry) fields
      have localUnit : now.localUnit = resolver.localUnit := congrArg (·.localUnit) fields
      have remembered : definedReply now name = definedReply resolver name := by
        unfold definedReply
        rw [defined]
      rw [there]
      dsimp only
      rw [remembered, parent, registry, localUnit]
      have units : List.Forall₂ (Renewed before.fresh after.fresh)
          (resolver.registry.recentFirst.map fun unit => reply (.unit unit))
          (resolver.registry.recentFirst.map fun unit => other (.unit unit)) := by
        rw [List.forall₂_map_left_iff, List.forall₂_map_right_iff]
        exact List.forall₂_same.mpr fun unit _ => each (.unit unit)
      exact Answer.firstHit_renewed
        (.cons (Renewed.refl _ _ _) (.cons (replyOf?_renewed each resolver.parent)
          (List.rel_append units (.cons (replyOf?_renewed each resolver.localUnit) .nil))))

/-- At any depth, all loaders answer the same. -/
theorem replyWithin_renewed (calm : Calm before after) (same : SameTree before.files after.files)
    (name : String) (depth : Nat) (loader : Loader) :
    Renewed before.fresh after.fresh (before.replyWithin name depth loader)
      (after.replyWithin name depth loader) := by
  induction depth generalizing loader with
  | zero => exact Renewed.refl _ _ _
  | succ depth inductionHypothesis =>
    rw [replyWithin_succ, replyWithin_succ]
    exact replyOf_renewed calm same name inductionHypothesis loader

/-- All look-ups answer the same, but for the numbers of symbols that they make. -/
theorem reply_renewed (calm : Calm before after) (same : SameTree before.files after.files)
    (name : String) (loader : Loader) :
    Renewed before.fresh after.fresh (before.reply name loader) (after.reply name loader) := by
  have count : after.loaderCount = before.loaderCount := by
    have resolvers := congrArg List.length calm.resolvers
    simp only [Table.mapValues, List.length_map] at resolvers
    unfold loaderCount
    rw [calm.units, calm.systems, resolvers]
  have within := replyWithin_renewed calm same name (before.loaderCount + 1) loader
  unfold reply find
  rw [count]
  exact within

/-- Loading a symbol fails in the same way, or it gives the same symbol but for the number that a
look-up may have given it. -/
def SameLoad (early late : Nat) (first second : Except ResolveError Symbol) : Prop :=
  second = first ∨ ∃ symbol other, first = .ok symbol ∧ second = .ok other ∧
    symbol.Renewed early late other

/-- Every symbol is loaded as it would have been before, but for the number that the look-up may
have given it. -/
theorem loadSymbol_renewed (calm : Calm before after) (same : SameTree before.files after.files)
    (id : Nat) (name : String) :
    SameLoad before.fresh after.fresh (before.loadSymbol id name).2 (after.loadSymbol id name).2 := by
  rw [loadSymbol_result, loadSymbol_result]
  rcases reply_renewed calm same name (.resolver id) with
    unchanged | ⟨symbol, other, first, second, renewed⟩
  · rw [unchanged]
    exact .inl rfl
  · rw [first, second]
    exact .inr ⟨symbol, other, rfl, rfl, renewed⟩

/-! ## What a failed definition leaves -/

/-- No trace is left: the loaders and the files of passing use are as they were, but for failures
that resolvers may remember, so is everything in the tree, and so is all that can be loaded. -/
structure LeavesNoTrace (before after : Session) : Prop where
  restored : Restored before after
  files : SameTree before.files after.files
  loads : ∀ id name, SameLoad before.fresh after.fresh (before.loadSymbol id name).2
    (after.loadSymbol id name).2

/-- The compile went well, and the unit that it made stays the most recent one of the resolver. -/
structure LeavesUnit (session : Session) (id : Nat) (holder : String) (resolver : Resolver)
    (thread : Thread) (name : String) (content : Bytes) (error : LoadError) (after : Session)
    (compiled : Session) (number : Nat) (unit : LoadedUnit) : Prop where
  compiles : session.compileBytes id resolver thread name content = (compiled, .ok number)
  made : Made session id holder resolver number unit compiled
  /-- The symbol could not be read back. -/
  unread : (compiled.reply name (.unit number)).toDefinition name unit.name = .error error
  registered : (after.resolvers.get? id).map (·.registry) =
    some (Registry.register resolver.registry unit.name number)

/-- A definition that fails leaves no trace if its compile failed. If it is the symbol that could
not be read back, then the unit stays registered. The compiler works through its output, and the
tokens that are still to be drawn are new. Without a trace means that also every look-up gives what
it gave, but for the numbers of symbols that are made on the way. -/
theorem define_failed (hosted : Hosted session) (undrawn : Undrawn session) {id : Nat}
    {holder : String} {resolver : Resolver} (held : (holder, .loader (.resolver id)) ∈ session.held)
    (present : session.resolvers.get? id = some resolver) (faithful : Faithful resolver.compiler)
    {thread : Thread} {name : String} {content : Bytes} {error : LoadError}
    (failed : session.define id thread name content = (after, .error error)) :
    ((session.compileBytes id resolver thread name content).2 = .error error ∧
        LeavesNoTrace session after) ∨
      ∃ compiled number unit, LeavesUnit session id holder resolver thread name content error after
        compiled number unit := by
  rcases compiled : session.compileBytes id resolver thread name content with ⟨later, cause | number⟩
  all_goals simp only [define, present, compiled] at failed
  · obtain ⟨rfl, isError⟩ := Prod.mk.inj failed
    obtain rfl := Except.error.inj isError
    obtain ⟨restored, sameTree⟩ := compileBytes_error hosted.clean undrawn faithful compiled
    exact .inl ⟨rfl, restored, sameTree, loadSymbol_renewed restored.toCalm sameTree⟩
  · obtain ⟨unit, made⟩ := compileBytes_ok hosted.reachable.wired held present compiled
    have unread := readBack_result made.enrolled.present name
    have registry := later.readBack_registry number name id
    rw [failed] at unread registry
    rw [made.enrolled.listed] at registry
    exact .inr ⟨later, number, unit, compiled, made, unread.symm, registry⟩

/-! ### A symbol that cannot be read back -/

/-- The session with a resolver that copies and has defined nothing. -/
def copierOpened : Session :=
  besideNothing.perform (.openResolver "loader" {} copying .archive none)

/-- The resolver of that session is the one that copies, as it was opened. -/
theorem copierOpened_resolver : copierOpened.resolvers.get? 1 = some copier :=
  rfl

/-- A symbol is defined under a name with a separator. The new unit calls it by its proper name, so
the definition fails, and from then on the proper name is found. -/
theorem define_registers :
    (copierOpened.define 1 "main" "a/b" [2]).2 = .error (.symbolMissing "a/b") ∧
    (copierOpened.loadSymbol 1 "a.b").2 = .error (.notFound "a.b") ∧
    ((copierOpened.define 1 "main" "a/b" [2]).1.loadSymbol 1 "a.b").2.toOption.map (·.body) =
      some (.bytecode [2]) := by
  decide +kernel

/-- A definition of `a/b` cannot read its symbol back, and the unit that it made is registered all
the same. -/
theorem define_failed_separator :
    ∃ compiled number unit, LeavesUnit copierOpened 1 "loader" copier "main" "a/b" [2]
      (.symbolMissing "a/b") (copierOpened.define 1 "main" "a/b" [2]).1 compiled number unit := by
  have hosted : Hosted copierOpened := (Hosted.start _).perform trivial
  have undrawn : Undrawn copierOpened := undrawnFrom_of_names (by decide +kernel) _
  have held : ("loader", .loader (.resolver 1)) ∈ copierOpened.held := by decide +kernel
  have ends : (copierOpened.define 1 "main" "a/b" [2]).2 = .error (.symbolMissing "a/b") ∧
      (copierOpened.define 1 "main" "a/b" [2]).1.units.length = 1 := by
    decide +kernel
  rcases made : copierOpened.define 1 "main" "a/b" [2] with ⟨after, result⟩
  rw [made] at ends
  obtain ⟨rfl, registered⟩ := ends
  rcases define_failed hosted undrawn held copierOpened_resolver copying_through made with
    ⟨_, traceless⟩ | leaves
  · have none : copierOpened.units.length = 0 := by decide +kernel
    rw [traceless.restored.units, none] at registered
    cases registered
  · exact leaves

end Session

end Hotload
