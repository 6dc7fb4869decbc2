import Hotload.Proofs.FreshUnits
import Hotload.Proofs.RegistrationRuns

/-!
# The order of registrations and unloads

Any number of threads may register units with one resolver and unload it at once. An unload is one
step. A registration looks for its artifact, then binds it, and only then changes the registry, and
nothing is locked before that, so the artifact may be gone by the time it is registered. Then the
registry lists a unit that has lost its artifact, which is not what any order of the calls, one after
the other, leads to. As long as every registration goes on from what is still so, all comes to what
the calls lead to one after the other in the order in which they took effect, and every unit that
they registered took effect after the last unload. For that it is enough that no unload falls between
the binding of an artifact and the change of the registry. An unload that comes earlier makes the
binding of an archive fail, just as it makes a registration fail that begins later.
-/

namespace Hotload

namespace Session

/-! ## Calls -/

deriving instance DecidableEq for Stage

/-- How many steps a registration goes on for, at most. -/
def Stage.remaining : Stage → Nat
  | .asked => 2
  | .sized => 1
  | .bound _ => 0

/-- What a thread asks of a registry. -/
inductive Call where
  | register (name artifact : String)
  | unload
  deriving DecidableEq

/-- What a call came to. -/
inductive Outcome where
  | registered (result : Except LoadError Nat)
  | unloaded (result : Except FileError Unit)
  deriving DecidableEq

namespace Call

/-- A call that nothing interrupts. -/
def run (session : Session) (id : Nat) : Call → Session × Outcome
  | .register name artifact =>
    let (after, result) := session.register id name artifact none
    (after, .registered result)
  | .unload =>
    let (after, result) := session.unload id
    (after, .unloaded result)

/-- Calls one after the other. -/
def runAll (session : Session) (id : Nat) : List Call → Session × List Outcome
  | [] => (session, [])
  | call :: rest =>
    let (after, outcome) := call.run session id
    let (last, outcomes) := runAll after id rest
    (last, outcome :: outcomes)

/-- The next step of a call, after which it goes on from another stage or has come to its end. -/
def advance (session : Session) (id : Nat) : Call → Stage → Session × (Stage ⊕ Outcome)
  | .unload, _ =>
    let (after, result) := session.unload id
    (after, .inr (.unloaded result))
  | .register name artifact, stage =>
    match session.resolvers.get? id with
    | none => (session, .inr (.registered (.error (.sourceUnavailable artifact))))
    | some resolver =>
      match stage with
      | .asked =>
        match UnitContent.artifactSize session.files artifact with
        | .error error => (session, .inr (.registered (.error (.unit name error))))
        | .ok _ => (session, .inl .sized)
      | .sized =>
        match UnitContent.bind resolver.platform session.files artifact with
        | .error error => (session, .inr (.registered (.error (.unit name error))))
        | .ok content => (session, .inl (.bound content))
      | .bound content =>
        let (after, unit) := session.enlist id (unitOf resolver name artifact none content)
        (after, .inr (.registered (.ok unit)))

/-- What a call has seen of its artifact is still so. An artifact that was there before it is bound may
be gone, if binding it fails as looking for it would. -/
def Sees (session : Session) (id : Nat) : Call → Stage → Prop
  | .register _ artifact, .sized =>
    ∀ resolver error, session.resolvers.get? id = some resolver →
      UnitContent.artifactSize session.files artifact = .error error →
        UnitContent.bind resolver.platform session.files artifact = .error error
  | .register _ artifact, .bound content =>
    ∃ resolver, session.resolvers.get? id = some resolver ∧
      UnitContent.bind resolver.platform session.files artifact = .ok content
  | _, _ => True

variable {session : Session} {id : Nat} {call : Call} {stage next : Stage} {outcome : Outcome}

/-- Calls one after the other, and one more. -/
theorem runAll_concat (session : Session) (id : Nat) (calls : List Call) (call : Call) :
    runAll session id (calls ++ [call]) =
      ((call.run (runAll session id calls).1 id).1,
        (runAll session id calls).2 ++ [(call.run (runAll session id calls).1 id).2]) := by
  induction calls generalizing session with
  | nil => rfl
  | cons first rest inductionHypothesis =>
    simp only [List.cons_append, runAll, inductionHypothesis]

/-- A call that goes on has changed nothing yet, has just seen what it goes on from, and comes closer
to its end. -/
theorem advance_onward (moves : (call.advance session id stage).2 = .inl next) :
    (call.advance session id stage).1 = session ∧ call.Sees session id next ∧
      next.remaining < stage.remaining := by
  cases call with
  | unload => cases moves
  | register name artifact =>
    unfold advance at moves ⊢
    dsimp only at moves ⊢
    cases present : session.resolvers.get? id with
    | none =>
      rw [present] at moves
      cases moves
    | some resolver =>
      rw [present] at moves
      dsimp only at moves ⊢
      cases stage with
      | asked =>
        dsimp only at moves ⊢
        cases sized : UnitContent.artifactSize session.files artifact with
        | error error =>
          rw [sized] at moves
          cases moves
        | ok size =>
          rw [sized] at moves
          cases moves
          refine ⟨rfl, fun resolver error _ missing => ?_, by decide⟩
          rw [sized] at missing
          cases missing
      | sized =>
        dsimp only at moves ⊢
        cases bound : UnitContent.bind resolver.platform session.files artifact with
        | error error =>
          rw [bound] at moves
          cases moves
        | ok content =>
          rw [bound] at moves
          cases moves
          exact ⟨rfl, ⟨resolver, present, bound⟩, Nat.zero_lt_one⟩
      | bound content => cases moves

/-- A call that comes to its end, and goes on from what is still so, comes to what it would have come
to at once. -/
theorem advance_ends (sees : call.Sees session id stage)
    (ends : (call.advance session id stage).2 = .inr outcome) :
    call.run session id = ((call.advance session id stage).1, outcome) := by
  cases call with
  | unload =>
    cases ends
    rfl
  | register name artifact =>
    unfold run Session.register
    unfold advance at ends ⊢
    dsimp only at ends ⊢
    cases present : session.resolvers.get? id with
    | none =>
      rw [present] at ends
      cases ends
      rfl
    | some resolver =>
      rw [present] at ends
      dsimp only at ends ⊢
      cases stage with
      | asked =>
        dsimp only at ends ⊢
        cases sized : UnitContent.artifactSize session.files artifact with
        | error error =>
          rw [sized] at ends
          cases ends
          rfl
        | ok size =>
          rw [sized] at ends
          cases ends
      | sized =>
        dsimp only at ends ⊢
        cases bound : UnitContent.bind resolver.platform session.files artifact with
        | error error =>
          rw [bound] at ends
          cases ends
          cases sized : UnitContent.artifactSize session.files artifact with
          | error missing =>
            rw [sees resolver missing present sized] at bound
            rw [Except.error.inj bound]
          | ok size => rfl
        | ok content =>
          rw [bound] at ends
          cases ends
      | bound content =>
        obtain ⟨same, there, bound⟩ := sees
        obtain rfl : same = resolver := Option.some.inj (there.symm.trans present)
        obtain ⟨location, bytes, modified, shown⟩ := UnitContent.shown_of_bind bound
        rw [UnitContent.artifactSize_of_shown shown, bound]
        cases ends
        rfl

end Call

/-! ## Calls under way -/

/-- A call under way. -/
structure Attempt where
  thread : Thread
  call : Call
  stage : Stage

/-- A call that has come to its end. -/
structure Finished where
  thread : Thread
  call : Call
  outcome : Outcome

/-- A session with calls under way, and the calls that have come to their end, in the order in which
they did. -/
structure Attempts where
  session : Session
  underWay : List Attempt
  finished : List Finished

/-- One step of any call, or a new call. Which calls may take a step hangs on the session and on the
other calls under way. A call that comes to its end is noted as finished, so the finished calls
stand in the order in which they took effect. -/
inductive CallStep (id : Nat) (may : Session → List Attempt → Attempt → Prop) :
    Attempts → Attempts → Prop
  | begin (session : Session) (underWay : List Attempt) (finished : List Finished)
      (thread : Thread) (call : Call) :
      CallStep id may ⟨session, underWay, finished⟩
        ⟨session, ⟨thread, call, .asked⟩ :: underWay, finished⟩
  | goOn (session : Session) (before after : List Attempt) (finished : List Finished)
      (thread : Thread) (call : Call) (stage next : Stage)
      (allowed : may session (before ++ after) ⟨thread, call, stage⟩)
      (moves : (call.advance session id stage).2 = .inl next) :
      CallStep id may ⟨session, before ++ ⟨thread, call, stage⟩ :: after, finished⟩
        ⟨(call.advance session id stage).1, before ++ ⟨thread, call, next⟩ :: after, finished⟩
  | finish (session : Session) (before after : List Attempt) (finished : List Finished)
      (thread : Thread) (call : Call) (stage : Stage) (outcome : Outcome)
      (allowed : may session (before ++ after) ⟨thread, call, stage⟩)
      (ends : (call.advance session id stage).2 = .inr outcome) :
      CallStep id may ⟨session, before ++ ⟨thread, call, stage⟩ :: after, finished⟩
        ⟨(call.advance session id stage).1, before ++ after,
          finished ++ [⟨thread, call, outcome⟩]⟩

/-- Calls take a step whenever they like. -/
def AtAnyTime (_ : Session) (_ : List Attempt) (_ : Attempt) : Prop :=
  True

/-- Calls go on only from what is still so. -/
def FromWhatIs (id : Nat) (session : Session) (_ : List Attempt) (attempt : Attempt) : Prop :=
  attempt.call.Sees session id attempt.stage

/-- An unload waits until no registration has bound its artifact, and if artifacts are not archives,
until none has looked for its artifact. -/
def KeepsOut (id : Nat) (session : Session) (others : List Attempt) (attempt : Attempt) : Prop :=
  attempt.call = .unload → ∀ other ∈ others, other.stage = .asked ∨ other.stage = .sized ∧
    (session.resolvers.get? id).map (·.platform) = some .archive

/-- A call that nothing interrupts any more comes to what it comes to at once. -/
theorem CallStep.toEnd (session : Session) (id : Nat) (underWay : List Attempt)
    (finished : List Finished) (thread : Thread) (call : Call) {stage : Stage}
    (sees : call.Sees session id stage) :
    Relation.ReflTransGen (CallStep id (FromWhatIs id))
      ⟨session, ⟨thread, call, stage⟩ :: underWay, finished⟩
      ⟨(call.run session id).1, underWay,
        finished ++ [⟨thread, call, (call.run session id).2⟩]⟩ := by
  induction fewer : stage.remaining using Nat.strong_induction_on generalizing stage with
  | _ remaining inductionHypothesis =>
    subst fewer
    cases moves : (call.advance session id stage).2 with
    | inl next =>
      obtain ⟨unchanged, seen, closer⟩ := Call.advance_onward moves
      have step : CallStep id (FromWhatIs id) ⟨session, [] ++ ⟨thread, call, stage⟩ :: underWay,
          finished⟩ ⟨(call.advance session id stage).1, [] ++ ⟨thread, call, next⟩ :: underWay,
          finished⟩ := .goOn session [] underWay finished thread call stage next sees moves
      rw [unchanged] at step
      exact .head step (inductionHypothesis next.remaining closer seen rfl)
    | inr outcome =>
      rw [Call.advance_ends sees moves]
      exact .single (.finish session [] underWay finished thread call stage outcome sees moves)

/-- A call that nothing interrupts comes to what it comes to at once. -/
theorem CallStep.atOnce (session : Session) (id : Nat) (underWay : List Attempt)
    (finished : List Finished) (thread : Thread) (call : Call) :
    Relation.ReflTransGen (CallStep id (FromWhatIs id)) ⟨session, underWay, finished⟩
      ⟨(call.run session id).1, underWay,
        finished ++ [⟨thread, call, (call.run session id).2⟩]⟩ :=
  .head (.begin session underWay finished thread call)
    (toEnd session id underWay finished thread call (by cases call <;> trivial))

/-! ## One call after the other -/

/-- The session and the outcomes are those of the finished calls one after the other. -/
def InTurn (id : Nat) (start : Session) (finished : List Finished) (session : Session) : Prop :=
  Call.runAll start id (finished.map (·.call)) = (session, finished.map (·.outcome))

variable {id : Nat} {holder : String} {start session : Session}

/-- One call more. -/
theorem InTurn.concat {finished : List Finished} (inTurn : InTurn id start finished session)
    (thread : Thread) (call : Call) :
    InTurn id start (finished ++ [⟨thread, call, (call.run session id).2⟩])
      (call.run session id).1 := by
  unfold InTurn at inTurn ⊢
  rw [List.map_append, List.map_cons, List.map_nil, Call.runAll_concat, inTurn,
    List.map_append, List.map_cons, List.map_nil]

/-- An entry of the registry was there at the start and no unload has come to its end since, or it is
of a registration, for which the artifact was there, and no unload came to its end after it. -/
def Endures (id : Nat) (start : Session) (first : Registry Nat) (finished : List Finished)
    (entry : String × Nat) : Prop :=
  (entry ∈ first ∧ ∀ done ∈ finished, done.call ≠ .unload) ∨
    ∃ before after thread artifact,
      finished = before ++ ⟨thread, .register entry.1 artifact, .registered (.ok entry.2)⟩ :: after ∧
        (∃ size, UnitContent.artifactSize
          (Call.runAll start id (before.map (·.call))).1.files artifact = .ok size) ∧
        ∀ done ∈ after, done.call ≠ .unload

/-- An entry endures everything but an unload. -/
theorem Endures.concat {first : Registry Nat} {finished : List Finished} {entry : String × Nat}
    (endures : Endures id start first finished entry) {done : Finished}
    (another : done.call ≠ .unload) : Endures id start first (finished ++ [done]) entry := by
  rcases endures with ⟨early, none⟩ | ⟨before, after, thread, artifact, rfl, there, none⟩
  · refine .inl ⟨early, fun other listed => ?_⟩
    rcases List.mem_append.mp listed with earlier | last
    · exact none other earlier
    · rw [List.mem_singleton.mp last]
      exact another
  · refine .inr ⟨before, after ++ [done], thread, artifact, by simp, there, fun other listed => ?_⟩
    rcases List.mem_append.mp listed with earlier | last
    · exact none other earlier
    · rw [List.mem_singleton.mp last]
      exact another

/-- What a run comes to if calls go on from what is still so: the calls one after the other, and a
registry whose entries have endured. -/
structure Serial (id : Nat) (holder : String) (start : Session) (first : Registry Nat)
    (finished : List Finished) (session : Session) : Prop where
  inTurn : InTurn id start finished session
  reached : Reachable session
  held : (holder, .loader (.resolver id)) ∈ session.held
  registry : ∃ registry, (session.resolvers.get? id).map (·.registry) = some registry ∧
    ∀ entry ∈ registry, Endures id start first finished entry

/-- The host holds what it held before an unload. -/
theorem unload_held (session : Session) (id : Nat) : (session.unload id).1.held = session.held := by
  unfold unload
  split
  · rfl
  · exact settle_held _

/-- A resolver that is held stands after an unload as before, with an empty registry. -/
theorem unload_resolver {resolver : Resolver}
    (held : (holder, .loader (.resolver id)) ∈ session.held)
    (present : session.resolvers.get? id = some resolver) :
    ((session.unload id).1.resolvers.get? id).map Resolver.links =
      some { resolver.links with registry := [] } := by
  simp only [unload, present]
  generalize emptied : (session.purge resolver.layout).1.updateResolver id
    (fun resolver => { resolver with registry := [] }) = later
  have stillHeld : (holder, .loader (.resolver id)) ∈ later.settle.held := by
    rw [settle_held, ← emptied]
    exact held
  refine (later.settle_resolver (held_mem_targets stillHeld)).trans ?_
  have purged : (session.purge resolver.layout).1.resolvers.get? id = some resolver := present
  rw [← emptied]
  simp [updateResolver, Table.get?_update, purged, Resolver.links]

/-- An unload empties the registry of a resolver that is held. -/
theorem unload_registry {resolver : Resolver}
    (held : (holder, .loader (.resolver id)) ∈ session.held)
    (present : session.resolvers.get? id = some resolver) :
    ((session.unload id).1.resolvers.get? id).map (·.registry) = some [] := by
  have stands := congrArg (Option.map ResolverLinks.registry) (unload_resolver held present)
  rwa [Option.map_map] at stands

/-- An unload leaves the platform of a resolver that is held. -/
theorem unload_platform {resolver : Resolver}
    (held : (holder, .loader (.resolver id)) ∈ session.held)
    (present : session.resolvers.get? id = some resolver) :
    ((session.unload id).1.resolvers.get? id).map (·.platform) = some resolver.platform := by
  have stands := congrArg (Option.map ResolverLinks.platform) (unload_resolver held present)
  rwa [Option.map_map] at stands

/-- One more call at once. -/
theorem Serial.concat {first : Registry Nat} {finished : List Finished}
    (serial : Serial id holder start first finished session) (thread : Thread) (call : Call) :
    Serial id holder start first (finished ++ [⟨thread, call, (call.run session id).2⟩])
      (call.run session id).1 := by
  obtain ⟨inTurn, reached, held, registry, listed, endure⟩ := serial
  obtain ⟨resolver, present, rfl⟩ := Option.map_eq_some_iff.mp listed
  have turn := inTurn.concat thread call
  cases call with
  | unload =>
    exact ⟨turn, reached.perform (.unload id), (session.unload_held id).symm ▸ held, [],
      unload_registry held present, by simp⟩
  | register name artifact =>
    have onward : Reachable (session.register id name artifact none).1 :=
      reached.perform (.register id name artifact none)
    have ran : (Call.register name artifact).run session id =
        ((session.register id name artifact none).1,
          .registered (session.register id name artifact none).2) := rfl
    rcases session.register_cases id name artifact none with
      ⟨error, failed⟩ | ⟨now, size, content, there, sized, _, succeeded⟩
    · rw [ran, failed] at turn ⊢
      exact ⟨turn, reached, held, resolver.registry, listed, fun entry member =>
        (endure entry member).concat (by simp)⟩
    · obtain rfl : resolver = now := Option.some.inj (present.symm.trans there)
      rw [ran, succeeded] at turn ⊢
      rw [succeeded] at onward
      have enrolled := (enlisted_enrolled reached.wired held present
        (unitOf resolver name artifact none content)).settle
      refine ⟨turn, onward, enrolled.held, _, enrolled.listed, fun entry member => ?_⟩
      rcases List.mem_append.mp member with earlier | new
      · exact (endure entry (List.mem_filter.mp earlier).1).concat (by simp)
      · obtain rfl := List.mem_singleton.mp new
        refine .inr ⟨finished, [], thread, artifact, rfl, ⟨size, ?_⟩, by simp⟩
        rw [inTurn]
        exact sized

/-- A step of a call that goes on from what is still so keeps the calls in turn. A call that begins
or goes on has changed nothing. One that ends comes to what it would have come to at once, so it is
the next in turn. -/
theorem CallStep.serial {first : Registry Nat} {state next : Attempts}
    (step : CallStep id (FromWhatIs id) state next)
    (serial : Serial id holder start first state.finished state.session) :
    Serial id holder start first next.finished next.session := by
  cases step with
  | begin => exact serial
  | goOn session before after finished thread call stage next allowed moves =>
    rw [(Call.advance_onward moves).1]
    exact serial
  | finish session before after finished thread call stage outcome allowed ends =>
    have one := serial.concat thread call
    rw [Call.advance_ends allowed ends] at one
    exact one

/-- A run of calls that go on from what is still so keeps them in turn. -/
theorem run_serial {first : Registry Nat} {state last : Attempts}
    (run : Relation.ReflTransGen (CallStep id (FromWhatIs id)) state last)
    (serial : Serial id holder start first state.finished state.session) :
    Serial id holder start first last.finished last.session := by
  induction run with
  | refl => exact serial
  | tail _ step inductionHypothesis => exact step.serial inductionHypothesis

/-- Nothing has come to its end yet. -/
theorem serial_start (reached : Reachable start)
    (held : (holder, .loader (.resolver id)) ∈ start.held) {first : Registry Nat}
    (listed : (start.resolvers.get? id).map (·.registry) = some first) :
    Serial id holder start first [] start :=
  ⟨rfl, reached, held, first, listed, fun _ member => .inl ⟨member, by simp⟩⟩

/-! ## Unloads that keep out -/

/-- A registration without files of passing use leaves the tree and the platform as they were. -/
theorem enlist_untracked {resolver : Resolver}
    (held : (holder, .loader (.resolver id)) ∈ session.held)
    (present : session.resolvers.get? id = some resolver) (untracked : session.temporaries = [])
    (unit : LoadedUnit) :
    (session.enlist id unit).1.files = session.files ∧
      (session.enlist id unit).1.temporaries = [] ∧
      (holder, .loader (.resolver id)) ∈ (session.enlist id unit).1.held ∧
      ((session.enlist id unit).1.resolvers.get? id).map (·.platform) = some resolver.platform := by
  rw [enlist_eq]
  have none : (session.enlisted id unit).temporaries = [] := untracked
  have pruned := (session.enlisted id unit).keptLoaders_pruned
  refine ⟨?_, ?_, ?_, ?_⟩
  · refine settle_files (fun files => files = session.files) rfl fun files _ _ _ present => ?_
    rw [none] at present
    cases present
  · refine List.eq_nil_iff_forall_not_mem.mpr fun entry tracked => ?_
    have earlier := settle_mem tracked
    rw [none] at earlier
    cases earlier
  · rw [settle_held]
    exact held
  · have stillHeld : (holder, .loader (.resolver id)) ∈
        (session.enlisted id unit).keptLoaders.held := by
      rw [pruned.rest]
      exact held
    have added : (session.addUnit unit).1.resolvers.get? id = some resolver := present
    dsimp only
    rw [(session.enlisted id unit).settle_loaders.2, pruned.resolver (held_mem_targets stillHeld)]
    simp [enlisted, updateResolver, Table.get?_update, added]

/-- What a call has seen hangs on the tree and on the platform. -/
theorem Call.Sees.same {after : Session} {call : Call} {stage : Stage}
    (sees : call.Sees session id stage) (files : after.files = session.files)
    (platform : (after.resolvers.get? id).map (·.platform) =
      (session.resolvers.get? id).map (·.platform)) : call.Sees after id stage := by
  cases call with
  | unload => trivial
  | register name artifact =>
    cases stage with
    | asked => trivial
    | sized =>
      intro now error there missing
      rw [there] at platform
      obtain ⟨resolver, present, same⟩ := Option.map_eq_some_iff.mp platform.symm
      rw [files] at missing ⊢
      rw [show now.platform = resolver.platform from same.symm]
      exact sees resolver error present missing
    | bound content =>
      obtain ⟨resolver, present, bound⟩ := sees
      rw [present] at platform
      obtain ⟨now, there, same⟩ := Option.map_eq_some_iff.mp platform
      exact ⟨now, there, by rw [files, same]; exact bound⟩

/-- Binding an archive that is gone fails as looking for it does, so it may go until it is bound. -/
theorem Call.sees_archive (call : Call)
    (archive : (session.resolvers.get? id).map (·.platform) = some .archive) :
    call.Sees session id .sized := by
  cases call with
  | unload => trivial
  | register name artifact =>
    intro resolver error present missing
    rw [present] at archive
    obtain isArchive : resolver.platform = .archive := Option.some.inj archive
    rw [isArchive]
    simp only [UnitContent.bind, UnitContent.bindArchive, missing]

/-- What every call under way has seen is still so, and no file of passing use can go. -/
structure Guarded (id : Nat) (holder : String) (state : Attempts) : Prop where
  held : (holder, .loader (.resolver id)) ∈ state.session.held
  untracked : state.session.temporaries = []
  sees : ∀ attempt ∈ state.underWay, attempt.call.Sees state.session id attempt.stage

/-- A session without files of passing use has none after an unload. -/
theorem unload_untracked (untracked : session.temporaries = []) :
    (session.unload id).1.temporaries = [] := by
  unfold unload
  split
  · exact untracked
  · refine List.eq_nil_iff_forall_not_mem.mpr fun entry tracked => ?_
    have earlier := settle_mem tracked
    rw [show ∀ later : Session, (later.updateResolver id _).temporaries = later.temporaries from
      fun _ => rfl] at earlier
    rw [show (session.purge _).1.temporaries = session.temporaries from rfl, untracked] at earlier
    cases earlier

/-- A registration that has bound nothing leaves the session alone. -/
theorem Call.advance_unbound (session : Session) (id : Nat) (name artifact : String) {stage : Stage}
    (unbound : ∀ content, stage ≠ .bound content) :
    ((Call.register name artifact).advance session id stage).1 = session := by
  unfold advance
  dsimp only
  split
  · rfl
  · cases stage with
    | asked => dsimp only; split <;> rfl
    | sized => dsimp only; split <;> rfl
    | bound content => exact absurd rfl (unbound content)

/-- If unloads keep out of registrations, then what a call has seen stays so. A registration changes
no file where none is of passing use. An unload finds no call that has bound its artifact, and one
that has only looked for an archive fails in binding it as it would in looking. -/
theorem CallStep.guarded {state next : Attempts} (step : CallStep id (KeepsOut id) state next)
    (guarded : Guarded id holder state) :
    Guarded id holder next ∧ CallStep id (FromWhatIs id) state next := by
  have asks : ∀ (later : Session) (call : Call), call.Sees later id .asked := by
    intro later call
    cases call <;> trivial
  obtain ⟨held, untracked, sees⟩ := guarded
  cases step with
  | begin session underWay finished thread call =>
    refine ⟨⟨held, untracked, fun attempt listed => ?_⟩, .begin _ _ _ thread call⟩
    rcases List.mem_cons.mp listed with rfl | earlier
    · exact asks _ _
    · exact sees attempt earlier
  | goOn session before after finished thread call stage later allowed moves =>
    have own := sees ⟨thread, call, stage⟩ (by simp)
    obtain ⟨unchanged, seen, _⟩ := Call.advance_onward moves
    refine ⟨?_, .goOn _ _ _ _ _ _ _ _ own moves⟩
    rw [unchanged]
    refine ⟨held, untracked, fun attempt listed => ?_⟩
    rcases List.mem_append.mp listed with front | back
    · exact sees attempt (List.mem_append_left _ front)
    · rcases List.mem_cons.mp back with rfl | back
      · exact seen
      · exact sees attempt (List.mem_append_right _ (List.mem_cons_of_mem _ back))
  | finish session before after finished thread call stage outcome allowed ends =>
    have own := sees ⟨thread, call, stage⟩ (by simp)
    refine ⟨?_, .finish _ _ _ _ _ _ _ _ own ends⟩
    have others : ∀ attempt ∈ before ++ after, attempt.call.Sees session id attempt.stage := by
      intro attempt listed
      refine sees attempt ?_
      rcases List.mem_append.mp listed with front | back
      · exact List.mem_append_left _ front
      · exact List.mem_append_right _ (List.mem_cons_of_mem _ back)
    cases call with
    | unload =>
      refine ⟨(session.unload_held id).symm ▸ held, unload_untracked untracked, ?_⟩
      intro attempt listed
      rcases allowed rfl attempt listed with isAsked | ⟨isSized, archive⟩
      · rw [isAsked]
        exact asks _ _
      · rw [isSized]
        obtain ⟨resolver, present, isArchive⟩ := Option.map_eq_some_iff.mp archive
        have platform := unload_platform held present
        rw [isArchive] at platform
        exact attempt.call.sees_archive platform
    | register name artifact =>
      cases stage with
      | asked =>
        rw [Call.advance_unbound session id name artifact (by simp)]
        exact ⟨held, untracked, others⟩
      | sized =>
        rw [Call.advance_unbound session id name artifact (by simp)]
        exact ⟨held, untracked, others⟩
      | bound content =>
        obtain ⟨resolver, present, _⟩ := own
        obtain ⟨files, none, stillHeld, platform⟩ := enlist_untracked held present untracked
          (unitOf resolver name artifact Option.none content)
        have moved : ((Call.register name artifact).advance session id (.bound content)).1 =
            (session.enlist id (unitOf resolver name artifact Option.none content)).1 := by
          simp only [Call.advance, present]
        rw [moved]
        refine ⟨stillHeld, none, fun attempt listed => (others attempt listed).same files ?_⟩
        rw [platform, present]
        rfl

/-- A run in which unloads keep out of registrations is one in which calls go on from what is still
so. -/
theorem run_guarded {state last : Attempts}
    (run : Relation.ReflTransGen (CallStep id (KeepsOut id)) state last)
    (guarded : Guarded id holder state) :
    Guarded id holder last ∧ Relation.ReflTransGen (CallStep id (FromWhatIs id)) state last := by
  induction run with
  | refl => exact ⟨guarded, .refl⟩
  | tail _ step inductionHypothesis =>
    obtain ⟨now, earlier⟩ := inductionHypothesis
    obtain ⟨later, same⟩ := step.guarded now
    exact ⟨later, earlier.tail same⟩

/-- If every registration goes on from what is still so, then whatever the run interleaves, session
and outcomes are those of the finished calls one after the other, and every entry of the registry has
endured: no unload came to its end after it. It is so if no unload falls between the binding of an
artifact and the change of the registry, nor into the time before that if artifacts are not archives,
and there are no files of passing use, which a registration could delete. A call takes effect where it
comes to its end, and until then it has changed nothing. -/
theorem registrations_in_turn (reached : Reachable start)
    (held : (holder, .loader (.resolver id)) ∈ start.held) {first : Registry Nat}
    (listed : (start.resolvers.get? id).map (·.registry) = some first) {state : Attempts}
    (run : Relation.ReflTransGen (CallStep id (FromWhatIs id)) ⟨start, [], []⟩ state ∨
      start.temporaries = [] ∧
        Relation.ReflTransGen (CallStep id (KeepsOut id)) ⟨start, [], []⟩ state) :
    InTurn id start state.finished state.session ∧
      ∃ registry, (state.session.resolvers.get? id).map (·.registry) = some registry ∧
        ∀ entry ∈ registry, Endures id start first state.finished entry := by
  have goesOn : Relation.ReflTransGen (CallStep id (FromWhatIs id)) ⟨start, [], []⟩ state := by
    rcases run with goesOn | ⟨untracked, excluding⟩
    · exact goesOn
    · have guarded : Guarded id holder ⟨start, [], []⟩ := ⟨held, untracked, by simp⟩
      exact (run_guarded excluding guarded).2
  have serial := run_serial goesOn (serial_start reached held listed)
  exact ⟨serial.inTurn, serial.registry⟩

/-- The names that a resolver has registered. -/
def registeredNames (session : Session) (id : Nat) : List String :=
  ((session.resolvers.get? id).map (·.registry.names)).getD []

/-- A resolver with an archive in its cache directory, next to one outside. -/
def besideCached : Session :=
  (perform { files := ⟨[(["tmp"], .directory), (["tmp", "work"], .directory),
      (["tmp", "work", "b.zip"], .file (Zip.write []) 0)], 0⟩ }
    (.openResolver "loader" { cacheDirectory := "cache" } copying .archive none)).perform
    (.changeFiles fun files => ((files.write "cache/a.zip" (Zip.write [])).toOption).getD files)

/-- A registration of that archive. -/
def cachedCall : Call :=
  .register "u" "cache/a.zip"

/-- The archive is unloaded and then registered by a thread that has bound it already, which leaves a
registered unit without its artifact. In turn, the two calls leave no registered unit. -/
theorem unload_within_registration :
    (∃ state, Relation.ReflTransGen (CallStep 1 AtAnyTime) ⟨besideCached, [], []⟩ state ∧
      state.underWay.length = 0 ∧ state.finished.map (·.call) = [.unload, cachedCall] ∧
      registeredNames state.session 1 = ["u"] ∧
      state.session.files.exists_ "cache/a.zip" = false) ∧
    registeredNames (Call.runAll besideCached 1 [.unload, cachedCall]).1 1 = [] ∧
    registeredNames (Call.runAll besideCached 1 [cachedCall, .unload]).1 1 = [] := by
  have begun := Relation.ReflTransGen.single
    (@CallStep.begin 1 AtAnyTime besideCached [] [] "main" cachedCall)
  have sized := begun.tail
    (.goOn _ [] [] [] "main" cachedCall .asked .sized trivial (by decide +kernel))
  have bound := sized.tail (.goOn _ [] [] [] "main" cachedCall .sized (.bound (.archive []))
    trivial (by decide +kernel))
  -- The artifact was seen and bound, and now it is deleted.
  have unloaded := (bound.tail (.begin _ _ _ "other" .unload)).tail
    (.finish _ [] [⟨"main", cachedCall, .bound (.archive [])⟩] [] "other" .unload .asked
      (.unloaded (.ok ())) trivial (by decide +kernel))
  have registered := unloaded.tail (.finish _ [] [] _ "main" cachedCall (.bound (.archive []))
    (.registered (.ok 2)) trivial (by decide +kernel))
  refine ⟨⟨_, registered, rfl, rfl, ?_, ?_⟩, ?_, ?_⟩ <;> decide +kernel

/-- A registration of the archive that is outside, which no unload deletes. -/
def outerCall : Call :=
  .register "w" "b.zip"

/-- An archive is registered. While another registration of it has looked for it, the resolver is
unloaded, so the other cannot bind it any more; and then the archive that is outside is registered.
The unload has kept out of what was bound. -/
theorem cached_keepsOut : ∃ state,
    Relation.ReflTransGen (CallStep 1 (KeepsOut 1)) ⟨besideCached, [], []⟩ state ∧
      state.finished.map (·.call) = [cachedCall, .unload, cachedCall, outerCall] ∧
      state.finished.map (·.outcome) = [.registered (.ok 2), .unloaded (.ok ()),
        .registered (.error (.unit "u" (.notFound "cache/a.zip"))), .registered (.ok 3)] ∧
      registeredNames state.session 1 = ["w"] := by
  have free (session : Session) (others : List Attempt) (thread : Thread) (name artifact : String)
      (stage : Stage) :
      KeepsOut 1 session others ⟨thread, .register name artifact, stage⟩ := fun impossible => by
    cases impossible
  have first := (((Relation.ReflTransGen.single
    (@CallStep.begin 1 (KeepsOut 1) besideCached [] [] "one" cachedCall)).tail
      (.goOn _ [] [] [] "one" cachedCall .asked .sized (free _ _ _ _ _ _) (by decide +kernel))).tail
      (.goOn _ [] [] [] "one" cachedCall .sized (.bound (.archive [])) (free _ _ _ _ _ _)
        (by decide +kernel))).tail
      (.finish _ [] [] [] "one" cachedCall (.bound (.archive [])) (.registered (.ok 2))
        (free _ _ _ _ _ _) (by decide +kernel))
  have second := (first.tail (.begin _ _ _ "two" cachedCall)).tail
    (.goOn _ [] [] _ "two" cachedCall .asked .sized (free _ _ _ _ _ _) (by decide +kernel))
  -- The second has not bound its archive yet, so the unload need not wait for it.
  have unloaded := (second.tail (.begin _ _ _ "three" .unload)).tail
    (.finish _ [] [⟨"two", cachedCall, .sized⟩] _ "three" .unload .asked (.unloaded (.ok ()))
      (fun _ other listed => by
        obtain rfl := List.mem_singleton.mp listed
        exact .inr ⟨rfl, by decide +kernel⟩) (by decide +kernel))
  have failed := unloaded.tail (.finish _ [] [] _ "two" cachedCall .sized
    (.registered (.error (.unit "u" (.notFound "cache/a.zip")))) (free _ _ _ _ _ _)
    (by decide +kernel))
  have last := (((failed.tail (.begin _ _ _ "two" outerCall)).tail
    (.goOn _ [] [] _ "two" outerCall .asked .sized (free _ _ _ _ _ _) (by decide +kernel))).tail
    (.goOn _ [] [] _ "two" outerCall .sized (.bound (.archive [])) (free _ _ _ _ _ _)
      (by decide +kernel))).tail
    (.finish _ [] [] _ "two" outerCall (.bound (.archive [])) (.registered (.ok 3))
      (free _ _ _ _ _ _) (by decide +kernel))
  exact ⟨_, last, rfl, rfl, by decide +kernel⟩

/-- What the registration of the archive outside has bound is still so, as long as the archive binds
to the same content. -/
theorem outerCall_seen
    (archive : (session.resolvers.get? 1).map (·.platform) = some .archive)
    (binds : (UnitContent.bind .archive session.files "b.zip").toOption = some (.archive [])) :
    outerCall.Sees session 1 (.bound (.archive [])) := by
  obtain ⟨resolver, present, isArchive⟩ := Option.map_eq_some_iff.mp archive
  refine ⟨resolver, present, ?_⟩
  rw [isArchive]
  exact ok_of_toOption binds

/-- The archive in the directory is registered, and the one outside is bound. Then the resolver is
unloaded, and the unit that was bound is registered, since its archive is still there. -/
theorem cached_goesOn : ∃ state,
    Relation.ReflTransGen (CallStep 1 (FromWhatIs 1)) ⟨besideCached, [], []⟩ state ∧
      state.finished.map (·.call) = [cachedCall, .unload, outerCall] ∧
      state.finished.map (·.outcome) =
        [.registered (.ok 2), .unloaded (.ok ()), .registered (.ok 3)] ∧
      registeredNames state.session 1 = ["w"] := by
  have first := CallStep.atOnce besideCached 1 [] [] "one" cachedCall
  have sized := (first.tail (.begin _ _ _ "two" outerCall)).tail
    (.goOn _ [] [] _ "two" outerCall .asked .sized trivial (by decide +kernel))
  have bound := sized.tail (.goOn _ [] [] _ "two" outerCall .sized (.bound (.archive []))
    (outerCall.sees_archive (by decide +kernel)) (by decide +kernel))
  have unloaded := (bound.tail (.begin _ _ _ "three" .unload)).tail
    (.finish _ [] [⟨"two", outerCall, .bound (.archive [])⟩] _ "three" .unload .asked
      (.unloaded (.ok ())) trivial (by decide +kernel))
  have registered := unloaded.tail (.finish _ [] [] _ "two" outerCall (.bound (.archive []))
    (.registered (.ok 3)) (outerCall_seen (by decide +kernel) (by decide +kernel))
    (by decide +kernel))
  exact ⟨_, registered, by decide +kernel, by decide +kernel, by decide +kernel⟩

/-- Two runs are in turn. In the first, an unload keeps out of what is bound, and a registration
fails that had looked for its archive before. In the second, an unload falls into the registration
of an archive that it does not delete. Both times the unit that is registered in the end was
registered after the unload. -/
theorem registrations_in_turn_cached :
    (∃ state, Relation.ReflTransGen (CallStep 1 (KeepsOut 1)) ⟨besideCached, [], []⟩ state ∧
      state.finished.map (·.call) = [cachedCall, .unload, cachedCall, outerCall] ∧
      registeredNames state.session 1 = ["w"] ∧
      InTurn 1 besideCached state.finished state.session ∧
      ∃ unit, Endures 1 besideCached [] state.finished ("w", unit)) ∧
    ∃ state, Relation.ReflTransGen (CallStep 1 (FromWhatIs 1)) ⟨besideCached, [], []⟩ state ∧
      state.finished.map (·.call) = [cachedCall, .unload, outerCall] ∧
      registeredNames state.session 1 = ["w"] ∧
      InTurn 1 besideCached state.finished state.session ∧
      ∃ unit, Endures 1 besideCached [] state.finished ("w", unit) := by
  have reached : Reachable besideCached := ((Reachable.start _).perform _).perform _
  have held : ("loader", .loader (.resolver 1)) ∈ besideCached.held := by decide +kernel
  have listed : (besideCached.resolvers.get? 1).map (·.registry) = some [] := by decide +kernel
  have untracked : besideCached.temporaries = [] := by rfl
  -- The only name that is registered in the end is that of an entry, which has endured.
  have entry {session : Session} {registry : Registry Nat}
      (now : (session.resolvers.get? 1).map (·.registry) = some registry)
      (names : registeredNames session 1 = ["w"]) : ∃ unit, ("w", unit) ∈ registry := by
    obtain ⟨resolver, present, rfl⟩ := Option.map_eq_some_iff.mp now
    rw [registeredNames, present] at names
    have member : "w" ∈ resolver.registry.map (·.1) := by
      rw [show resolver.registry.map (·.1) = ["w"] from names]
      exact List.mem_cons_self
    obtain ⟨⟨name, unit⟩, inside, rfl⟩ := List.mem_map.mp member
    exact ⟨unit, inside⟩
  constructor
  · obtain ⟨state, run, calls, _, names⟩ := cached_keepsOut
    obtain ⟨inTurn, registry, now, endures⟩ :=
      registrations_in_turn reached held listed (.inr ⟨untracked, run⟩)
    obtain ⟨unit, inside⟩ := entry now names
    exact ⟨state, run, calls, names, inTurn, unit, endures _ inside⟩
  · obtain ⟨state, run, calls, _, names⟩ := cached_goesOn
    obtain ⟨inTurn, registry, now, endures⟩ :=
      registrations_in_turn reached held listed (.inl run)
    obtain ⟨unit, inside⟩ := entry now names
    exact ⟨state, run, calls, names, inTurn, unit, endures _ inside⟩

end Session

end Hotload
