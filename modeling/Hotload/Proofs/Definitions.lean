import Hotload.Proofs.FreshUnits
import Hotload.Proofs.Loads
import Mathlib.Algebra.GroupWithZero.Nat

/-!
# Definitions under way

Any number of threads may define symbols with one resolver at once, and none of them waits for a
lock. A definition stages a path for its archive, packages the bytecode, stages an empty artifact,
has it tracked, calls the compiler, registers what came out, deletes the archive and reads the
symbol back. `DefinePhase` says where a definition stands, `advance` takes it one step further, and
`DefineStep` takes any of them a step further, so a run is any interleaving.

A definition refers to things of its own: to its file of passing use until a unit takes it over, and
then to the unit until the symbol is read back. What definitions under way refer to is not let go
of, so while one of them takes a step, the references of the others are lent to the session. A
definition that is alone does what `define` does.
-/

namespace Hotload

namespace Session

/-- A unit that was just made, with the path of its artifact. -/
structure Handle where
  unit : Nat
  artifact : String
  deriving DecidableEq, Repr

/-- Where a definition stands. -/
inductive DefinePhase where
  | asked
  /-- A path for the archive is staged. -/
  | packaging (archive : String)
  | packaged (archive : String)
  /-- An empty artifact is staged. -/
  | tracking (archive output : String)
  /-- The compiler can be called. -/
  | compiling (archive output : String) (temporary : Nat)
  | compiled (archive output : String) (temporary : Nat)
      (result : Except CompilerError CompileOutcome)
  /-- The compiler left something behind. -/
  | registering (archive output : String) (temporary : Nat)
  | finished (archive : String) (temporary : Nat) (result : Except LoadError Handle)
  /-- The archive has to go. -/
  | discarding (archive : String) (result : Except LoadError Handle)
  | reading (handle : Handle)
  | ended (result : Except LoadError Symbol)

namespace DefinePhase

/-- How many steps are left at most. -/
def left : DefinePhase → Nat
  | .asked => 10
  | .packaging _ => 9
  | .packaged _ => 8
  | .tracking _ _ => 7
  | .compiling _ _ _ => 6
  | .compiled _ _ _ _ => 5
  | .registering _ _ _ => 4
  | .finished _ _ _ => 3
  | .discarding _ _ => 2
  | .reading _ => 1
  | .ended _ => 0

/-- What a definition refers to. -/
def targets : DefinePhase → List Target
  | .compiling _ _ temporary | .compiled _ _ temporary _ | .registering _ _ temporary =>
    [.temporary temporary]
  | .finished _ _ (.ok handle) | .discarding _ (.ok handle) | .reading handle =>
    [.loader (.unit handle.unit)]
  | .finished _ temporary (.error _) => [.temporary temporary]
  | _ => []

/-- What a definition refers to while it takes its next step, and after it: the unit it has made, when
it lets go of what the compile has left over. -/
def kept : DefinePhase → List Target
  | .finished _ _ (.ok handle) => [.loader (.unit handle.unit)]
  | _ => []

end DefinePhase

/-- What a thread asked to be defined, and how far that is. -/
structure Definition where
  thread : Thread
  name : String
  content : Bytes
  phase : DefinePhase

/-! ## The steps of a definition -/

/-- A path for the archive is staged. -/
def stageForBytes (session : Session) (resolver : Resolver) (name : String) :
    Session × DefinePhase :=
  match session.stage resolver.staging name (some resolver.staging.archiveExtension) false with
  | (after, .error error) => (after, .ended (.error error))
  | (after, .ok archive) => (after, .packaging archive)

/-- The bytecode is written into the archive. -/
def packageContent (session : Session) (name : String) (content : Bytes) (archive : String) :
    Session × DefinePhase :=
  match Packaging.packageBytes archive (Symbol.entryPath name) content session.files with
  | (files, .error error) =>
    ({ session with files }, .discarding archive (.error (.packaging archive error)))
  | (files, .ok ()) => ({ session with files }, .packaged archive)

/-- An empty artifact is staged. -/
def stageArtifact (session : Session) (resolver : Resolver) (archive : String) :
    Session × DefinePhase :=
  match session.stage resolver.staging ("unit-" ++ archive) resolver.staging.artifactExtension
    true with
  | (after, .error error) => (after, .discarding archive (.error error))
  | (after, .ok output) => (after, .tracking archive output)

/-- The artifact becomes a file of passing use. -/
def trackArtifact (session : Session) (resolver : Resolver) (archive output : String) :
    Session × DefinePhase :=
  let (after, temporary) := session.track resolver.reaper output
  (after, .compiling archive output temporary)

/-- The compiler is called while the thread is busy. -/
def callCompiler (session : Session) (id : Nat) (resolver : Resolver) (thread : Thread)
    (archive output : String) (temporary : Nat) : Session × DefinePhase :=
  let (after, result) :=
    (session.markBusy id thread).invoke id resolver thread ⟨archive, output, true⟩
  (after, .compiled archive output temporary result)

/-- What the compiler reported and left behind is judged. -/
def judgeArtifact (session : Session) (id : Nat) (resolver : Resolver) (archive output : String)
    (temporary : Nat) : Except CompilerError CompileOutcome → Session × DefinePhase
  | .error error => (session, .finished archive temporary (.error (.compiler error)))
  | .ok _ =>
    if session.outputSize output = 0 then
      (session.rejectEmpty id resolver archive output (some temporary),
        .finished archive temporary (.error (.emptyOutput archive)))
    else (session, .registering archive output temporary)

/-- The artifact is registered. -/
def registerArtifact (session : Session) (id : Nat) (archive output : String) (temporary : Nat) :
    Session × DefinePhase :=
  match session.register id (Path.unitName output) output (some temporary) with
  | (after, .error error) => (after, .finished archive temporary (.error error))
  | (after, .ok unit) => (after, .finished archive temporary (.ok ⟨unit, output⟩))

/-- The archive is deleted. -/
def discardArchive (session : Session) (archive : String) :
    Except LoadError Handle → Session × DefinePhase
  | .error error => (session.discard archive, .ended (.error error))
  | .ok handle => (session.discard archive, .reading handle)

/-- The symbol is read back. -/
def readSymbol (session : Session) (name : String) (handle : Handle) : Session × DefinePhase :=
  let (after, result) := session.readBack handle.unit name
  (after, .ended result)

/-- The step that follows a phase. -/
def Definition.advance (definition : Definition) (id : Nat) (resolver : Resolver)
    (session : Session) : Session × DefinePhase :=
  match definition.phase with
  | .asked => session.stageForBytes resolver definition.name
  | .packaging archive => session.packageContent definition.name definition.content archive
  | .packaged archive => session.stageArtifact resolver archive
  | .tracking archive output => session.trackArtifact resolver archive output
  | .compiling archive output temporary =>
    session.callCompiler id resolver definition.thread archive output temporary
  | .compiled archive output temporary result =>
    session.judgeArtifact id resolver archive output temporary result
  | .registering archive output temporary => session.registerArtifact id archive output temporary
  | .finished archive _ result =>
    ((session.unmarkBusy id definition.thread).settle, .discarding archive result)
  | .discarding archive result => session.discardArchive archive result
  | .reading handle => session.readSymbol definition.name handle
  | .ended result => (session, .ended result)

/-- A session that holds further targets. -/
def lent (session : Session) (targets : List Target) : Session :=
  { session with held := session.held ++ targets.map fun target => ("", target) }

/-- Something is done while further targets are held. -/
def lending {Result : Type} (session : Session) (targets : List Target)
    (action : Session → Session × Result) : Session × Result :=
  let (after, result) := action (session.lent targets)
  ({ after with held := session.held }, result)

/-- A session with definitions, each known by its place in the list. -/
structure Definitions where
  session : Session
  definitions : List Definition

/-- The next step of a definition, while what it keeps and what others refer to is held. -/
def Definition.goOn (definition : Definition) (id : Nat) (resolver : Resolver)
    (others : List Target) (session : Session) : Session × DefinePhase :=
  session.lending (definition.phase.kept ++ others) (definition.advance id resolver)

/-- What the definitions refer to. -/
def targetsOf (definitions : List Definition) : List Target :=
  definitions.flatMap (·.phase.targets)

/-- One step of any definition with a resolver: another one is asked for, or one of those under way
goes on to its next phase. Definitions share the session and take their steps in any order. -/
inductive DefineStep (id : Nat) (resolver : Resolver) : Definitions → Definitions → Prop
  /-- Another definition begins. -/
  | ask (state : Definitions) (thread : Thread) (name : String) (content : Bytes) :
      DefineStep id resolver state
        { state with definitions := state.definitions ++ [⟨thread, name, content, .asked⟩] }
  | advance (state : Definitions) (number : Nat) (definition : Definition)
      (there : state.definitions[number]? = some definition) :
      DefineStep id resolver state
        ⟨(definition.goOn id resolver (targetsOf (state.definitions.eraseIdx number))
            state.session).1,
          state.definitions.set number { definition with
            phase := (definition.goOn id resolver (targetsOf (state.definitions.eraseIdx number))
              state.session).2 }⟩

/-! ## Sessions with further references -/

section

variable {session before after : Session}

/-- What is referred to with further targets. -/
theorem mem_targets_lent {targets : List Target} {target : Target} :
    target ∈ (session.lent targets).targets ↔ target ∈ session.targets ∨ target ∈ targets := by
  simp only [Session.targets, lent, List.map_append, List.map_map, List.mem_append]
  have same : (List.map (Prod.snd ∘ fun target => ("", target)) targets) = targets := by
    simp [Function.comp_def]
  rw [same]
  tauto

/-- Steps that keep the links keep them also where targets are lent. -/
theorem KeepsLinks.lent (kept : KeepsLinks before after) (targets : List Target) :
    KeepsLinks (before.lent targets) (after.lent targets) where
  links := by
    have units := congrArg Links.units kept.links
    have resolvers := congrArg Links.resolvers kept.links
    have held := congrArg Links.held kept.links
    simp only [Session.links, Session.lent] at units resolvers held ⊢
    rw [units, resolvers, held]
  fresh := kept.fresh

/-- Nothing is left over if everything is referred to still, and also what is new. -/
theorem Tidy.grow (tidy : Tidy before) (targets : ∀ target ∈ before.targets, target ∈ after.targets)
    (units : ∀ id, after.units.has id = true →
      before.units.has id = true ∨ .loader (.unit id) ∈ after.targets)
    (resolvers : ∀ id, after.resolvers.has id = true → before.resolvers.has id = true)
    (temporaries : ∀ id, after.temporaries.has id = true →
      before.temporaries.has id = true ∨ .temporary id ∈ after.targets) : Tidy after where
  units id present := (units id present).elim (fun early => targets _ (tidy.units id early))
    fun referred => referred
  resolvers id present := targets _ (tidy.resolvers id (resolvers id present))
  settled id temporary present := by
    rcases temporaries id (by rw [Table.has, present]; rfl) with early | referred
    · obtain ⟨there, stood⟩ := Option.isSome_iff_exists.mp early
      exact targets _ (tidy.settled id there stood)
    · exact referred

end

/-! ## What every step keeps -/

variable {id : Nat} {resolver : Resolver} {session after : Session}

/-- The host holds what it held, a resolver that it holds stays, and no number is given again. -/
structure KeepsHeld (before after : Session) : Prop where
  held : after.held = before.held
  fresh : before.fresh ≤ after.fresh
  stays : ∀ holder id, (holder, .loader (.resolver id)) ∈ before.held →
    (before.resolvers.get? id).isSome → (after.resolvers.get? id).isSome

theorem KeepsHeld.refl (session : Session) : KeepsHeld session session :=
  ⟨rfl, Nat.le_refl _, fun _ _ _ present => present⟩

theorem KeepsLinks.keepsHeld {before after : Session} (kept : KeepsLinks before after) :
    KeepsHeld before after where
  held := congrArg Links.held kept.links
  fresh := kept.fresh
  stays _ id _ present := by
    have same := congrArg Option.isSome (kept.resolver id)
    simp only [Option.isSome_map] at same
    exact same.trans present

theorem KeepsHeld.settle {before after : Session} (kept : KeepsHeld before after) :
    KeepsHeld before after.settle where
  held := after.settle_held.trans kept.held
  fresh := Nat.le_trans kept.fresh after.settle_fresh
  stays holder id held present := by
    have left : (holder, Target.loader (.resolver id)) ∈ after.keptLoaders.held := by
      rw [after.keptLoaders_pruned.rest]
      exact kept.held ▸ held
    rw [(settle_loaders after).2, after.keptLoaders_pruned.resolver (held_mem_targets left)]
    exact kept.stays holder id held present

/-- A change of a resolver, and of nothing else that matters here. -/
theorem KeepsHeld.updateResolver {before after : Session} (kept : KeepsHeld before after) (id : Nat)
    (change : Resolver → Resolver) : KeepsHeld before (after.updateResolver id change) where
  held := kept.held
  fresh := kept.fresh
  stays holder other held present := by
    have still := kept.stays holder other held present
    simp only [Session.updateResolver, Table.get?_update]
    split
    · rw [Option.isSome_map]
      exact still
    · exact still

theorem register_keepsHeld (session : Session) (id : Nat) (name artifact : String)
    (temporary : Option Nat) :
    KeepsHeld session (session.register id name artifact temporary).1 := by
  rcases session.register_cases id name artifact temporary with
    ⟨error, failed⟩ | ⟨resolver, size, content, _, _, _, succeeded⟩
  · rw [failed]
    exact .refl session
  · rw [succeeded, enlist_eq]
    have added : KeepsHeld session
        (session.addUnit (unitOf resolver name artifact temporary content)).1 :=
      ⟨rfl, Nat.le_succ _, fun _ _ _ present => present⟩
    exact (added.updateResolver id _).settle

/-- A step leaves what the host holds. -/
theorem Definition.advance_keepsHeld (definition : Definition) (id : Nat) (resolver : Resolver)
    (session : Session) : KeepsHeld session (definition.advance id resolver session).1 := by
  obtain ⟨thread, name, content, phase⟩ := definition
  cases phase with
  | asked =>
    have staged := (session.stage_keepsLinks resolver.staging name
      (some resolver.staging.archiveExtension) false).keepsHeld
    change KeepsHeld session (session.stageForBytes resolver name).1
    unfold stageForBytes
    generalize session.stage resolver.staging name _ false = result at staged ⊢
    rcases result with ⟨after, error | archive⟩ <;> exact staged
  | packaging archive =>
    simp only [advance, packageContent]
    split <;> exact ⟨rfl, Nat.le_refl _, fun _ _ _ present => present⟩
  | packaged archive =>
    have staged := (session.stage_keepsLinks resolver.staging ("unit-" ++ archive)
      resolver.staging.artifactExtension true).keepsHeld
    change KeepsHeld session (session.stageArtifact resolver archive).1
    unfold stageArtifact
    generalize session.stage resolver.staging _ _ true = result at staged ⊢
    rcases result with ⟨after, error | output⟩ <;> exact staged
  | tracking archive output => exact (session.track_keepsLinks resolver.reaper output).keepsHeld
  | compiling archive output temporary =>
    exact ((session.markBusy_quiet id thread).toKeepsLinks.trans
      ((session.markBusy id thread).invoke_keepsLinks id resolver thread _)).keepsHeld
  | compiled archive output temporary result =>
    cases result with
    | error error => exact .refl session
    | ok outcome =>
      simp only [advance, judgeArtifact]
      split
      · exact (session.rejectEmpty_keepsLinks id resolver archive output (some temporary)).keepsHeld
      · exact .refl session
  | registering archive output temporary =>
    have registered := session.register_keepsHeld id (Path.unitName output) output (some temporary)
    simp only [advance, registerArtifact]
    split <;> next heard => rw [heard] at registered; exact registered
  | finished archive temporary result =>
    exact (session.unmarkBusy_quiet id thread).toKeepsLinks.keepsHeld.settle
  | discarding archive result =>
    cases result <;> exact (session.discard_keepsLinks archive).keepsHeld
  | reading handle => exact (session.readBack_quiet handle.unit name).toKeepsLinks.keepsHeld
  | ended result => exact .refl session

/-- Nothing is given back where nothing was lent. -/
theorem lending_nil (session : Session) {Result : Type} {action : Session → Session × Result}
    (kept : (action session).1.held = session.held) :
    session.lending [] action = action session := by
  have whole : session.lent [] = session := by simp [lent]
  unfold lending
  rw [whole, ← kept]

/-- What is given back is what was lent. -/
theorem lending_keepsHeld (session : Session) (targets : List Target) {Result : Type}
    {action : Session → Session × Result}
    (kept : ∀ session, KeepsHeld session (action session).1) :
    KeepsHeld session (session.lending targets action).1 :=
  ⟨rfl, (kept (session.lent targets)).fresh, fun holder id held =>
    (kept (session.lent targets)).stays holder id (List.mem_append_left _ held)⟩

/-- Steps leave what the host holds. -/
theorem DefineStep.keepsHeld {state after : Definitions}
    (step : DefineStep id resolver state after) :
    KeepsHeld state.session after.session := by
  cases step with
  | ask thread name content => exact .refl _
  | advance number definition there =>
    exact lending_keepsHeld _ _ (definition.advance_keepsHeld id resolver)

/-! ## Every definition ends -/

/-- A step leaves fewer steps, whatever it comes to. -/
theorem Definition.advance_left (definition : Definition) (id : Nat) (resolver : Resolver)
    (session : Session) (going : definition.phase.left ≠ 0) :
    (definition.advance id resolver session).2.left < definition.phase.left := by
  obtain ⟨thread, name, content, phase⟩ := definition
  cases phase with
  | asked =>
    change (session.stageForBytes resolver name).2.left < _
    unfold stageForBytes
    generalize session.stage resolver.staging name _ false = result
    rcases result with ⟨after, error | archive⟩ <;> simp [DefinePhase.left]
  | packaging archive =>
    simp only [advance, packageContent]
    split <;> simp [DefinePhase.left]
  | packaged archive =>
    change (session.stageArtifact resolver archive).2.left < _
    unfold stageArtifact
    generalize session.stage resolver.staging _ _ true = result
    rcases result with ⟨after, error | output⟩ <;> simp [DefinePhase.left]
  | compiled archive output temporary result =>
    cases result with
    | error error => simp [advance, judgeArtifact, DefinePhase.left]
    | ok outcome =>
      simp only [advance, judgeArtifact]
      split <;> simp [DefinePhase.left]
  | registering archive output temporary =>
    simp only [advance, registerArtifact]
    split <;> simp [DefinePhase.left]
  | discarding archive result => cases result <;> simp [advance, discardArchive, DefinePhase.left]
  | tracking | compiling | finished | reading => exact Nat.lt_succ_self _
  | ended result => exact absurd rfl going

/-- Up to their order, the definitions are the one at a place and all others. -/
theorem perm_of_there {definitions : List Definition} {number : Nat} {definition : Definition}
    (there : definitions[number]? = some definition) :
    definitions.Perm (definition :: definitions.eraseIdx number) := by
  obtain ⟨inside, here⟩ := List.getElem?_eq_some_iff.mp there
  rw [← here]
  exact (List.getElem_cons_eraseIdx_perm inside).symm

/-- The others stay when the one at a place goes on. -/
theorem perm_of_set {definitions : List Definition} {number : Nat} {definition : Definition}
    (there : definitions[number]? = some definition) (next : Definition) :
    (definitions.set number next).Perm (next :: definitions.eraseIdx number) := by
  obtain ⟨inside, -⟩ := List.getElem?_eq_some_iff.mp there
  have here : (definitions.set number next)[number]? = some next := by
    rw [List.getElem?_set_self inside]
  have others := perm_of_there here
  rwa [List.eraseIdx_set_eq] at others

/-- How many steps all definitions have left at most. -/
def stepsLeft (definitions : List Definition) : Nat :=
  (definitions.map (·.phase.left)).sum

theorem stepsLeft_perm {definitions others : List Definition} (perm : definitions.Perm others) :
    stepsLeft definitions = stepsLeft others :=
  (perm.map _).sum_eq

/-- Fewer steps are left when fewer are left of one definition. -/
theorem stepsLeft_set {definitions : List Definition} {number : Nat} {definition next : Definition}
    (there : definitions[number]? = some definition)
    (fewer : next.phase.left < definition.phase.left) :
    stepsLeft (definitions.set number next) < stepsLeft definitions := by
  rw [stepsLeft_perm (perm_of_set there _), stepsLeft_perm (perm_of_there there)]
  simp only [stepsLeft, List.map_cons, List.sum_cons]
  exact Nat.add_lt_add_right fewer _

/-- What was asked for: by which thread, under which name, and with which bytecode. -/
def requests (definitions : List Definition) : List (Thread × String × Bytes) :=
  definitions.map fun definition => (definition.thread, definition.name, definition.content)

/-- What was asked for stays when a definition goes on. -/
theorem requests_set {definitions : List Definition} {number : Nat} {definition : Definition}
    (there : definitions[number]? = some definition) (phase : DefinePhase) :
    requests (definitions.set number { definition with phase }) = requests definitions := by
  obtain ⟨inside, rfl⟩ := List.getElem?_eq_some_iff.mp there
  unfold requests
  refine List.ext_getElem (by simp) fun place _ _ => ?_
  simp only [List.getElem_map, List.getElem_set]
  split
  · next same => subst same; rfl
  · rfl

/-- Steps ask for more, but for nothing else. -/
theorem DefineStep.requests_prefix {state after : Definitions}
    (step : DefineStep id resolver state after) :
    requests state.definitions <+: requests after.definitions := by
  cases step with
  | ask thread name content => exact ⟨[(thread, name, content)], by simp [requests]⟩
  | advance number definition there => exact ⟨[], by simp [requests_set there]⟩

/-- If a definition that is not over can always be taken a step further, such that fewer steps are
left and something is kept, then all definitions can be brought to their ends, and it is kept. -/
theorem run_to_end_of_steps {Kept : Definitions → Prop}
    (goes : ∀ state, Kept state → ∀ definition ∈ state.definitions, definition.phase.left ≠ 0 →
      ∃ after, DefineStep id resolver state after ∧
        requests after.definitions = requests state.definitions ∧
          stepsLeft after.definitions < stepsLeft state.definitions ∧ Kept after)
    (state : Definitions) (kept : Kept state) :
    ∃ after, Relation.ReflTransGen (DefineStep id resolver) state after ∧
      requests after.definitions = requests state.definitions ∧
        (∀ definition ∈ after.definitions, definition.phase.left = 0) ∧ Kept after := by
  induction bound : stepsLeft state.definitions using Nat.strong_induction_on generalizing state with
  | _ steps inductionHypothesis =>
    by_cases allEnded : ∀ definition ∈ state.definitions, definition.phase.left = 0
    · exact ⟨state, .refl, rfl, allEnded, kept⟩
    · push Not at allEnded
      obtain ⟨definition, inside, going⟩ := allEnded
      obtain ⟨next, step, same, fewer, still⟩ := goes state kept definition inside going
      obtain ⟨after, run, asked, ended, keeps⟩ :=
        inductionHypothesis _ (bound ▸ fewer) next still rfl
      exact ⟨after, .head step run, asked.trans same, ended, keeps⟩

/-- From any state on, the definitions under way can all be brought to their ends. -/
theorem exists_run_to_end (state : Definitions) :
    ∃ after, Relation.ReflTransGen (DefineStep id resolver) state after ∧
      requests after.definitions = requests state.definitions ∧
        ∀ definition ∈ after.definitions, definition.phase.left = 0 := by
  have goes (state : Definitions) (_ : True) (definition : Definition)
      (inside : definition ∈ state.definitions) (going : definition.phase.left ≠ 0) :
      ∃ after, DefineStep id resolver state after ∧
        requests after.definitions = requests state.definitions ∧
          stepsLeft after.definitions < stepsLeft state.definitions ∧ True := by
    obtain ⟨number, there⟩ := List.getElem?_of_mem inside
    exact ⟨_, .advance state number definition there, requests_set there _,
      stepsLeft_set there (definition.advance_left id resolver _ going), trivial⟩
  obtain ⟨after, run, asked, ended, -⟩ := run_to_end_of_steps goes state trivial
  exact ⟨after, run, asked, ended⟩

/-! ## A definition that is alone -/

/-- A definition goes from one phase to another while nothing else refers to anything. -/
def DefinesAlone (id : Nat) (resolver : Resolver) (thread : Thread) (name : String)
    (content : Bytes) (session : Session) (phase : DefinePhase) (after : Session)
    (next : DefinePhase) : Prop :=
  Relation.ReflTransGen (fun (stand other : Session × DefinePhase) =>
    Definition.goOn ⟨thread, name, content, stand.2⟩ id resolver [] stand.1 = other)
      (session, phase) (after, next)

variable {thread : Thread} {name : String} {content : Bytes} {phase next : DefinePhase}

/-- Where nothing is kept, a step is what `advance` makes of it. -/
theorem DefinesAlone.advance (free : phase.kept = [])
    (goes : Definition.advance ⟨thread, name, content, phase⟩ id resolver session = (after, next)) :
    DefinesAlone id resolver thread name content session phase after next := by
  refine .single ?_
  unfold Definition.goOn
  rw [free, List.nil_append,
    lending_nil session (Definition.advance_keepsHeld _ id resolver session).held, goes]

/-- Where nothing is left over, keeping the new unit makes no difference. -/
theorem DefinesAlone.leave (tidy : Tidy session) (archive : String) (temporary : Nat)
    (handle : Handle) :
    DefinesAlone id resolver thread name content session
      (.finished archive temporary (.ok handle)) (session.unmarkBusy id thread).settle
      (.discarding archive (.ok handle)) := by
  have kept := (session.unmarkBusy_quiet id thread).toKeepsLinks
  have unmarked : Tidy (session.unmarkBusy id thread) := tidy.same kept rfl
  have lent : Tidy ((session.unmarkBusy id thread).lent [.loader (.unit handle.unit)]) := by
    refine unmarked.grow (fun target referred => mem_targets_lent.mpr (.inl referred))
      (fun _ present => .inl present) (fun _ present => present) fun _ present => .inl present
  refine .single ?_
  have goes : Definition.advance
      ⟨thread, name, content, .finished archive temporary (.ok handle)⟩ id resolver
      (session.lent [.loader (.unit handle.unit)]) =
        ((session.unmarkBusy id thread).lent [.loader (.unit handle.unit)],
          .discarding archive (.ok handle)) :=
    congrArg (·, _) lent.settle_eq
  unfold Definition.goOn lending
  rw [show (DefinePhase.kept (.finished archive temporary (.ok handle))) ++ [] =
    [.loader (.unit handle.unit)] from rfl, goes, unmarked.settle_eq]
  rfl

/-- Ways that follow each other are one way. -/
theorem DefinesAlone.trans {first second third : Session} {phase next last : DefinePhase}
    (left : DefinesAlone id resolver thread name content first phase second next)
    (right : DefinesAlone id resolver thread name content second next third last) :
    DefinesAlone id resolver thread name content first phase third last :=
  Relation.ReflTransGen.trans left right

/-- What a definition does that is alone is a run of the only definition there is. -/
theorem DefinesAlone.run
    (goes : DefinesAlone id resolver thread name content session phase after next) :
    Relation.ReflTransGen (DefineStep id resolver) ⟨session, [⟨thread, name, content, phase⟩]⟩
      ⟨after, [⟨thread, name, content, next⟩]⟩ := by
  have each (stand other : Session × DefinePhase)
      (step : Definition.goOn ⟨thread, name, content, stand.2⟩ id resolver [] stand.1 = other) :
      DefineStep id resolver ⟨stand.1, [⟨thread, name, content, stand.2⟩]⟩
        ⟨other.1, [⟨thread, name, content, other.2⟩]⟩ := by
    have taken : DefineStep id resolver ⟨stand.1, [⟨thread, name, content, stand.2⟩]⟩ _ :=
      .advance _ 0 ⟨thread, name, content, stand.2⟩ rfl
    have nothing : targetsOf ([⟨thread, name, content, stand.2⟩].eraseIdx 0) = [] := rfl
    rw [nothing, step] at taken
    exact taken
  exact Relation.ReflTransGen.lift (fun stand : Session × DefinePhase =>
    (⟨stand.1, [⟨thread, name, content, stand.2⟩]⟩ : Definitions)) each _ _ goes

/-- A compile that comes to a unit leaves nothing over. -/
theorem compileMarked_tidy {archive output name : String} {temporary : Option Nat} {unit : Nat}
    (compiled : session.compileMarked id resolver thread archive output name temporary =
      (after, .ok unit)) : Tidy after := by
  unfold compileMarked at compiled
  split at compiled
  · cases compiled
  · split at compiled
    · cases compiled
    · obtain ⟨before, rfl⟩ := register_settled compiled
      exact tidy_settle before

/-- From the call of the compiler to the end of the compile. -/
theorem compile_definesAlone (session : Session) (archive output : String) (temporary : Nat)
    {result : Except LoadError Nat}
    (compiled : session.compile id resolver thread archive output (Path.unitName output)
      (some temporary) = (after, result)) :
    DefinesAlone id resolver thread name content session (.compiling archive output temporary) after
      (.discarding archive (result.map (⟨·, output⟩))) := by
  suffices settled : ∀ (marked : Session) (outcome : Except LoadError Nat),
      (session.markBusy id thread).compileMarked id resolver thread archive output
        (Path.unitName output) (some temporary) = (marked, outcome) →
      DefinesAlone id resolver thread name content session (.compiling archive output temporary)
        marked (.finished archive temporary (outcome.map (⟨·, output⟩))) by
    rcases ending : (session.markBusy id thread).compileMarked id resolver thread archive output
      (Path.unitName output) (some temporary) with ⟨marked, outcome⟩
    simp only [Session.compile, ending, Prod.mk.injEq] at compiled
    obtain ⟨rfl, rfl⟩ := compiled
    refine (settled marked outcome ending).trans ?_
    cases outcome with
    | error error => exact .advance rfl rfl
    | ok unit => exact .leave (compileMarked_tidy ending) archive temporary ⟨unit, output⟩
  intro marked ending outcomeIs
  rcases invoked : (session.markBusy id thread).invoke id resolver thread
    ⟨archive, output, true⟩ with ⟨returned, outcome⟩
  have called : DefinesAlone id resolver thread name content session
      (.compiling archive output temporary) returned
      (.compiled archive output temporary outcome) := by
    refine .advance rfl ?_
    simp only [Definition.advance, callCompiler, invoked]
  refine called.trans ?_
  unfold compileMarked at outcomeIs
  rw [invoked] at outcomeIs
  cases outcome with
  | error error =>
    cases outcomeIs
    exact .advance rfl rfl
  | ok report =>
    dsimp only at outcomeIs
    split at outcomeIs
    · next empty =>
      cases outcomeIs
      refine .advance rfl ?_
      simp only [Definition.advance, judgeArtifact, if_pos empty]
      rfl
    · next filled =>
      have judged : DefinesAlone id resolver thread name content returned
          (.compiled archive output temporary (.ok report)) returned
          (.registering archive output temporary) := by
        refine .advance rfl ?_
        simp only [Definition.advance, judgeArtifact, if_neg filled]
      refine judged.trans (.advance rfl ?_)
      simp only [Definition.advance, registerArtifact, outcomeIs]
      cases ending <;> rfl

/-- From the staged artifact to the end of the compile. -/
theorem compileTemporary_definesAlone (session : Session) (archive : String)
    {result : Except LoadError Nat}
    (compiled : session.compileTemporary id resolver thread archive = (after, result)) :
    ∃ output, DefinesAlone id resolver thread name content session (.packaged archive) after
      (.discarding archive (result.map (⟨·, output⟩))) := by
  unfold compileTemporary at compiled
  dsimp only at compiled
  rcases staged : session.stage resolver.staging ("unit-" ++ archive)
    resolver.staging.artifactExtension true with ⟨later, error | output⟩
  all_goals rw [staged] at compiled
  · cases compiled
    refine ⟨archive, .advance rfl ?_⟩
    change session.stageArtifact resolver archive = _
    unfold stageArtifact
    rw [staged]
    rfl
  · have staging : DefinesAlone id resolver thread name content session (.packaged archive) later
        (.tracking archive output) := by
      refine .advance rfl ?_
      change session.stageArtifact resolver archive = _
      unfold stageArtifact
      rw [staged]
    have tracking : DefinesAlone id resolver thread name content later (.tracking archive output)
        (later.track resolver.reaper output).1
        (.compiling archive output (later.track resolver.reaper output).2) := .advance rfl rfl
    exact ⟨output, staging.trans (tracking.trans
      (compile_definesAlone _ archive output _ compiled))⟩

/-- From the staged archive to the end of the definition. -/
theorem packaging_definesAlone (session : Session) (archive : String) {packed : Files}
    {result : Except LoadError Nat} (packaged : Packaging.packageBytes archive
      (Symbol.entryPath name) content session.files = (packed, .ok ()))
    (compiled : compileTemporary { session with files := packed } id resolver thread archive =
      (after, result)) :
    DefinesAlone id resolver thread name content session (.packaging archive)
      (match result with
      | .error _ => after.discard archive
      | .ok unit => ((after.discard archive).readBack unit name).1)
      (.ended (match result with
      | .error error => .error error
      | .ok unit => ((after.discard archive).readBack unit name).2)) := by
  have packing : DefinesAlone id resolver thread name content session (.packaging archive)
      { session with files := packed } (.packaged archive) := by
    refine .advance rfl ?_
    simp only [Definition.advance, packageContent, packaged]
  obtain ⟨output, goes⟩ : ∃ output, DefinesAlone id resolver thread name content
      { session with files := packed } (.packaged archive) after
      (.discarding archive (result.map (⟨·, output⟩))) :=
    compileTemporary_definesAlone _ archive compiled
  refine packing.trans (goes.trans ?_)
  cases result with
  | error error => exact .advance rfl rfl
  | ok unit =>
    have discarded : DefinesAlone id resolver thread name content after
        (.discarding archive (.ok ⟨unit, output⟩)) (after.discard archive)
        (.reading ⟨unit, output⟩) := .advance rfl rfl
    exact discarded.trans (.advance rfl rfl)

/-- A definition that is alone does what `define` does. -/
theorem define_alone (present : session.resolvers.get? id = some resolver) :
    DefinesAlone id resolver thread name content session .asked
      (session.define id thread name content).1
      (.ended (session.define id thread name content).2) := by
  have asking : Definition.advance ⟨thread, name, content, .asked⟩ id resolver session =
      session.stageForBytes resolver name := rfl
  unfold define compileBytes
  rw [present]
  dsimp only
  unfold stageForBytes at asking
  generalize session.stage resolver.staging name _ false = staged at asking ⊢
  obtain ⟨between, error | archive⟩ := staged <;> dsimp only at asking ⊢
  · exact .advance rfl asking
  · refine DefinesAlone.trans (.advance rfl asking) ?_
    rcases packaged : Packaging.packageBytes archive (Symbol.entryPath name) content between.files
      with ⟨files, error | ⟨⟩⟩
    · have failing : DefinesAlone id resolver thread name content between (.packaging archive)
          { between with files } (.discarding archive (.error (.packaging archive error))) := by
        refine .advance rfl ?_
        simp only [Definition.advance, packageContent, packaged]
      exact failing.trans (.advance rfl rfl)
    · dsimp only
      rcases compiled : compileTemporary { between with files } id resolver thread archive with
        ⟨later, error | unit⟩
      · exact packaging_definesAlone between archive packaged compiled
      · exact packaging_definesAlone between archive packaged compiled

end Session

end Hotload
