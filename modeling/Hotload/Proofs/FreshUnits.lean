import Hotload.Proofs.HostRuns
import Hotload.Proofs.SearchOrder

/-!
# Units made by a definition

To define a symbol, its bytecode is compiled, the artifact is registered as a new unit, and the
symbol is looked up in that unit. The unit is one that no earlier call made, it offers what the
compiler of this very call wrote, and it is the most recent one of the resolver. The look-up is a
general one, so a name that the unit does not have itself goes on to the parent of the resolver. Then
the definition gives what the parent has under that name; that the new unit lacks the symbol is
reported only if the parent does not have it either.
-/

namespace Hotload

open Files

namespace Session

variable {session before after : Session}

/-! ## Registered units stay -/

/-- A unit is registered with a resolver that the host holds. -/
structure Enrolled (session : Session) (id : Nat) (holder : String) (registry : Registry Nat)
    (number : Nat) (unit : LoadedUnit) : Prop where
  held : (holder, .loader (.resolver id)) ∈ session.held
  listed : (session.resolvers.get? id).map (·.registry) = some registry
  registered : number ∈ registry.map (·.2)
  present : session.units.get? number = some unit

variable {id number : Nat} {holder : String} {registry : Registry Nat} {unit : LoadedUnit}

/-- Letting go keeps it. -/
theorem Enrolled.settle (enrolled : Enrolled session id holder registry number unit) :
    Enrolled session.settle id holder registry number unit := by
  have pruned := session.keptLoaders_pruned
  obtain ⟨units, resolvers⟩ := session.settle_loaders
  have held : (holder, .loader (.resolver id)) ∈ session.keptLoaders.held := by
    rw [pruned.rest]
    exact enrolled.held
  have same := pruned.resolver (held_mem_targets held)
  obtain ⟨now, there, rfl⟩ := Option.map_eq_some_iff.mp enrolled.listed
  rw [there] at same
  refine ⟨?_, ?_, enrolled.registered, ?_⟩
  · rw [session.settle_held]
    exact enrolled.held
  · rw [resolvers, same]
    rfl
  · rw [units, pruned.unit (registered_mem_targets same enrolled.registered), enrolled.present]

/-- A unit that was just put into the registry of a resolver is registered with it. -/
theorem enlisted_enrolled (wired : Wired session) {resolver : Resolver}
    (held : (holder, .loader (.resolver id)) ∈ session.held)
    (present : session.resolvers.get? id = some resolver) (unit : LoadedUnit) :
    Enrolled (session.enlisted id unit) id holder
      (Registry.register resolver.registry unit.name session.fresh) session.fresh unit where
  held := held
  listed := by
    have added : (session.addUnit unit).1.resolvers.get? id = some resolver := present
    simp only [Session.enlisted, Session.updateResolver, Table.get?_update, ↓reduceIte, added,
      Option.map_some]
  registered := by simp [Registry.register]
  present := wired.addUnit_present unit

/-- Taking a marker of a thread away keeps it. -/
theorem Enrolled.unmarkBusy (enrolled : Enrolled session id holder registry number unit)
    (other : Nat) (thread : Thread) :
    Enrolled (session.unmarkBusy other thread) id holder registry number unit where
  held := enrolled.held
  listed := by
    obtain ⟨now, there, same⟩ := Option.map_eq_some_iff.mp enrolled.listed
    simp only [Session.unmarkBusy, updateResolver, Table.get?_update, there, Option.map_some]
    split <;> rw [Option.map_some, ← same]
  registered := enrolled.registered
  present := enrolled.present

/-- Deleting a staged file keeps it. -/
theorem Enrolled.discard (enrolled : Enrolled session id holder registry number unit)
    (path : String) : Enrolled (session.discard path) id holder registry number unit := by
  obtain ⟨held, listed, registered, present⟩ := enrolled
  unfold Session.discard
  split <;> exact ⟨held, listed, registered, present⟩

/-! ## The unit of a compile -/

/-- What a compile that succeeds made: a unit with a new number that offers what the compiler wrote
when it was called for this unit, and that is the most recent one of its resolver. -/
structure Made (session : Session) (id : Nat) (holder : String) (resolver : Resolver) (number : Nat)
    (unit : LoadedUnit) (after : Session) : Prop where
  absent : session.units.get? number = none
  parent : unit.parent = resolver.parent
  resolved : unit.resolved = []
  enrolled : Enrolled after id holder (Registry.register resolver.registry unit.name number) number
    unit
  called : ∃ call files, after.invocations = session.invocations ++ [call] ∧ call.resolver = id ∧
    call.request.output = unit.artifact ∧
      UnitContent.bind resolver.platform (resolver.compiler call.request files).1 unit.artifact =
        .ok unit.content

/-- The record of calls outlasts letting go. -/
theorem settle_invocations (session : Session) :
    session.settle.invocations = session.invocations := by
  rw [session.settle_rest]

theorem invoke_invocations (session : Session) (id : Nat) (resolver : Resolver) (thread : Thread)
    (request : CompileRequest) :
    ∃ call : Invocation, (session.invoke id resolver thread request).1.invocations =
        session.invocations ++ [call] ∧ call.resolver = id ∧ call.request = request :=
  ⟨_, rfl, rfl, rfl⟩

theorem register_invocations (session : Session) (id : Nat) (name artifact : String)
    (temporary : Option Nat) :
    (session.register id name artifact temporary).1.invocations = session.invocations := by
  rcases session.register_cases id name artifact temporary with
    ⟨error, refused⟩ | ⟨resolver, size, content, _, _, _, succeeded⟩
  · rw [refused]
  · rw [succeeded]
    exact settle_invocations _

theorem discard_invocations (session : Session) (path : String) :
    (session.discard path).invocations = session.invocations := by
  unfold Session.discard
  split <;> rfl

theorem rejectEmpty_invocations (session : Session) (id : Nat) (resolver : Resolver)
    (archive output : String) (temporary : Option Nat) :
    (session.rejectEmpty id resolver archive output temporary).invocations =
      session.invocations := by
  have dumped : ∀ later : Session, (later.dump archive).invocations = later.invocations := by
    intro later
    unfold dump
    split <;> rfl
  unfold rejectEmpty
  dsimp only
  cases temporary with
  | none =>
    dsimp only
    rw [discard_invocations]
    split
    · exact dumped _
    · rfl
  | some number =>
    dsimp only
    rw [release_rest]
    dsimp only
    split
    · exact dumped _
    · rfl

theorem compileMarked_invocations (session : Session) (id : Nat) (resolver : Resolver)
    (thread : Thread) (archive output name : String) (temporary : Option Nat) :
    ∃ call : Invocation,
      (session.compileMarked id resolver thread archive output name temporary).1.invocations =
        session.invocations ++ [call] ∧
      call.resolver = id ∧ call.request = ⟨archive, output, true⟩ := by
  obtain ⟨call, recorded, caller, request⟩ :=
    session.invoke_invocations id resolver thread ⟨archive, output, true⟩
  refine ⟨call, ?_, caller, request⟩
  unfold compileMarked
  rcases heard : session.invoke id resolver thread ⟨archive, output, true⟩ with
    ⟨ran, cause | outcome⟩
  all_goals rw [heard] at recorded
  · exact recorded
  · dsimp only
    split
    · rw [rejectEmpty_invocations]
      exact recorded
    · rw [register_invocations]
      exact recorded

/-- A compile calls the compiler once, whatever becomes of it. -/
theorem compile_invocations (session : Session) (id : Nat) (resolver : Resolver) (thread : Thread)
    (archive output name : String) (temporary : Option Nat) :
    ∃ call : Invocation,
      (session.compile id resolver thread archive output name temporary).1.invocations =
        session.invocations ++ [call] ∧
      call.resolver = id ∧ call.request = ⟨archive, output, true⟩ := by
  obtain ⟨call, recorded, called⟩ := (session.markBusy id thread).compileMarked_invocations id
    resolver thread archive output name temporary
  exact ⟨call, (settle_invocations _).trans recorded, called⟩

/-- A resolver with a thread marked. -/
def entered (resolver : Resolver) (thread : Thread) : Resolver :=
  { resolver with busy := resolver.busy.enter thread }

/-- A compile that succeeds has called the compiler, found something at the output, bound it and
registered it as a new unit. -/
theorem compile_enlists {resolver : Resolver} (present : session.resolvers.get? id = some resolver)
    {thread : Thread} {archive output name : String} {temporary : Option Nat}
    (compiled : session.compile id resolver thread archive output name temporary =
      (after, .ok number)) :
    ∃ ran outcome content,
      (session.markBusy id thread).invoke id resolver thread ⟨archive, output, true⟩ =
        (ran, .ok outcome) ∧
      ran.resolvers.get? id = some (entered resolver thread) ∧ ran.outputSize output ≠ 0 ∧
      UnitContent.bind resolver.platform ran.files output = .ok content ∧ ran.fresh = number ∧
      after = ((ran.enlisted id (unitOf (entered resolver thread) name output temporary
        content)).settle.unmarkBusy id thread).settle := by
  unfold compile compileMarked at compiled
  rcases heard : (session.markBusy id thread).invoke id resolver thread ⟨archive, output, true⟩ with
    ⟨ran, cause | outcome⟩
  all_goals rw [heard] at compiled
  · cases (Prod.mk.inj compiled).2
  · have isNow : ran.resolvers.get? id = some (entered resolver thread) := by
      rw [show ran = _ from (congrArg Prod.fst heard).symm]
      simp only [invoke, noteInvocation, markBusy, updateResolver, Table.get?_update, ↓reduceIte,
        present, Option.map_some, entered]
    dsimp only at compiled
    split at compiled
    · cases (Prod.mk.inj compiled).2
    · next filled =>
      rcases ran.register_cases id name output temporary with
        ⟨error, refused⟩ | ⟨now, size, content, there, _, bound, enlists⟩
      · rw [refused] at compiled
        cases (Prod.mk.inj compiled).2
      · obtain rfl := Option.some.inj (there.symm.trans isNow)
        rw [enlists, enlist_eq] at compiled
        obtain ⟨isAfter, isNumber⟩ := Prod.mk.inj compiled
        exact ⟨ran, outcome, content, rfl, isNow, filled, bound, Except.ok.inj isNumber,
          isAfter.symm⟩

/-- The unit that a compile registers is what was bound. -/
theorem enlisted_settled (wired : Wired session) {resolver : Resolver}
    (held : (holder, .loader (.resolver id)) ∈ session.held)
    (present : session.resolvers.get? id = some resolver) (unit : LoadedUnit) (thread : Thread) :
    Enrolled ((session.enlisted id unit).settle.unmarkBusy id thread).settle id holder
      (Registry.register resolver.registry unit.name session.fresh) session.fresh unit :=
  ((enlisted_enrolled wired held present unit).settle.unmarkBusy id thread).settle

/-- A compile that succeeds makes such a unit. -/
theorem compile_ok (wired : Wired session) {resolver : Resolver}
    (held : (holder, .loader (.resolver id)) ∈ session.held)
    (present : session.resolvers.get? id = some resolver) {thread : Thread}
    {archive output name : String} {temporary : Option Nat}
    (compiled : session.compile id resolver thread archive output name temporary =
      (after, .ok number)) :
    ∃ unit, unit.name = name ∧ unit.artifact = output ∧
      Made session id holder resolver number unit after := by
  have marked := (wired.keeps (markBusy_quiet session id thread).toKeepsLinks).keeps
    (invoke_keepsLinks _ id resolver thread ⟨archive, output, true⟩)
  obtain ⟨call, recorded, caller, request⟩ := session.compile_invocations id resolver thread archive
    output name temporary
  rw [compiled] at recorded
  obtain ⟨ran, outcome, content, heard, isNow, filled, bound, isFresh, isAfter⟩ :=
    compile_enlists present compiled
  subst isFresh
  rw [isAfter] at recorded ⊢
  have isRan : ran = ((session.markBusy id thread).invoke id resolver thread
    ⟨archive, output, true⟩).1 := by rw [heard]
  rw [← isRan] at marked
  have units : ran.units = session.units := by
    rw [isRan]
    rfl
  refine ⟨_, rfl, rfl, ?_, rfl, rfl,
    enlisted_settled marked (by rw [isRan]; exact held) isNow _ thread, ?_⟩
  · rw [← units]
    exact marked.vacant
  · exact ⟨call, session.files, recorded, caller, by rw [request]; rfl,
      by rw [request]; rw [isRan] at bound; exact bound⟩

/-- What was made after steps that leave units and the record alone was made after them all. -/
theorem Made.earlier {middle : Session} {resolver : Resolver}
    (made : Made middle id holder resolver number unit after) (units : middle.units = session.units)
    (invocations : middle.invocations = session.invocations) :
    Made session id holder resolver number unit after where
  absent := units ▸ made.absent
  parent := made.parent
  resolved := made.resolved
  enrolled := made.enrolled
  called := invocations ▸ made.called

/-- Deleting a staged file afterwards changes nothing of it. -/
theorem Made.discard {resolver : Resolver}
    (made : Made session id holder resolver number unit after) (path : String) :
    Made session id holder resolver number unit (after.discard path) where
  absent := made.absent
  parent := made.parent
  resolved := made.resolved
  enrolled := made.enrolled.discard path
  called := by
    rw [discard_invocations]
    exact made.called

/-- Staging changes nothing but the tree, and draws one number. -/
theorem stage_rest (session : Session) (staging : Staging) (key : String)
    (extension : Option String) (create : Bool) :
    (session.stage staging key extension create).1 = { session with
      files := (session.stage staging key extension create).1.files, fresh := session.fresh + 1 } := by
  unfold stage token number
  dsimp only
  split <;> rfl

/-- A compile into a file of passing use that succeeds makes a unit. -/
theorem compileTemporary_ok (wired : Wired session) {resolver : Resolver}
    (held : (holder, .loader (.resolver id)) ∈ session.held)
    (present : session.resolvers.get? id = some resolver) {thread : Thread} {archive : String}
    (compiled : session.compileTemporary id resolver thread archive = (after, .ok number)) :
    ∃ unit, Made session id holder resolver number unit after := by
  unfold compileTemporary at compiled
  generalize resolver.staging.artifactExtension = extension at compiled
  have rest := session.stage_rest resolver.staging ("unit-" ++ archive) extension true
  dsimp only at compiled
  rcases staged : session.stage resolver.staging ("unit-" ++ archive) extension true with
    ⟨later, error | output⟩
  all_goals rw [staged] at compiled rest
  · cases (Prod.mk.inj compiled).2
  · dsimp only at compiled rest
    have tracked : Wired (later.track resolver.reaper output).1 := by
      rw [rest]
      exact wired.keeps ⟨rfl, Nat.le_add_right _ 2⟩
    have stillHeld :
        (holder, .loader (.resolver id)) ∈ (later.track resolver.reaper output).1.held := by
      rw [rest]
      exact held
    obtain ⟨unit, _, _, made⟩ := compile_ok tracked stillHeld (by rw [rest]; exact present) compiled
    exact ⟨unit, made.earlier (by rw [rest]; rfl) (by rw [rest]; rfl)⟩

/-- Compiling the bytecode of a symbol makes a unit, if it succeeds. -/
theorem compileBytes_ok (wired : Wired session) {resolver : Resolver}
    (held : (holder, .loader (.resolver id)) ∈ session.held)
    (present : session.resolvers.get? id = some resolver) {thread : Thread} {name : String}
    {content : Bytes}
    (compiled : session.compileBytes id resolver thread name content = (after, .ok number)) :
    ∃ unit, Made session id holder resolver number unit after := by
  unfold compileBytes at compiled
  generalize some resolver.staging.archiveExtension = extension at compiled
  have rest := session.stage_rest resolver.staging name extension false
  rcases staged : session.stage resolver.staging name extension false with ⟨later, error | archive⟩
  all_goals rw [staged] at compiled rest
  · cases (Prod.mk.inj compiled).2
  · dsimp only at compiled rest
    rcases packaged : Packaging.packageBytes archive (Symbol.entryPath name) content later.files with
      ⟨files, cause | ⟨⟩⟩
    all_goals rw [packaged] at compiled
    · cases (Prod.mk.inj compiled).2
    · dsimp only at compiled
      rcases heard : compileTemporary { later with files } id resolver thread archive with
        ⟨last, result⟩
      rw [heard] at compiled
      obtain ⟨rfl, rfl⟩ := Prod.mk.inj compiled
      have packed : Wired { later with files } := by
        rw [rest]
        exact wired.keeps ⟨rfl, Nat.le_succ _⟩
      have stillHeld : (holder, .loader (.resolver id)) ∈ later.held := by
        rw [rest]
        exact held
      obtain ⟨unit, made⟩ := compileTemporary_ok packed stillHeld (by rw [rest]; exact present) heard
      have early : Made session id holder resolver number unit last :=
        made.earlier (by rw [rest]) (by rw [rest])
      exact ⟨unit, early.discard archive⟩

end Session

/-! ## Reading back -/

/-- What a definition gives, from what the look-up in the new unit came to. -/
def Answer.toDefinition (name unit : String) : Answer → Except LoadError Symbol
  | .found symbol => .ok symbol
  | .absent => .error (.symbolMissing name)
  | .failed error => .error (.unit unit error)
  | .crashed crash => .error (.crash crash)

namespace Session

variable {session before after : Session} {id number : Nat} {holder : String} {unit : LoadedUnit}

/-- Reading back gives what a look-up in the unit comes to. -/
theorem readBack_result (present : session.units.get? number = some unit) (name : String) :
    (session.readBack number name).2 =
      (session.reply name (.unit number)).toDefinition name unit.name := by
  have kept := (quiet_follows.find session (.unit number) name).unit number
  unfold readBack reply
  rcases heard : session.find (.unit number) name with ⟨later, answer⟩
  rw [heard, present] at kept
  cases answer with
  | found symbol => rfl
  | absent => rfl
  | crashed crash => rfl
  | failed error =>
    obtain ⟨now, there, linked⟩ := Option.map_eq_some_iff.mp kept
    have names : now.name = unit.name := congrArg UnitLinks.name linked
    simp only [there, Option.map_some, names]
    rfl

/-- Reading back leaves who refers to whom as it was. -/
theorem readBack_quiet (session : Session) (number : Nat) (name : String) :
    Quiet session (session.readBack number name).1 := by
  have quiet := quiet_follows.find session (.unit number) name
  unfold readBack
  split <;> next heard => rw [heard] at quiet; exact quiet

/-- Reading back registers nothing. -/
theorem readBack_registry (session : Session) (number : Nat) (name : String) (id : Nat) :
    ((session.readBack number name).1.resolvers.get? id).map (·.registry) =
      (session.resolvers.get? id).map (·.registry) := by
  have kept := (session.readBack_quiet number name).resolver id
  have registries := congrArg (Option.map ResolverLinks.registry) kept
  rw [Option.map_map, Option.map_map] at registries
  exact registries

/-- What an archive binds to is an index. -/
theorem index_of_bind {files : Files} {artifact : String} {content : UnitContent}
    (bound : UnitContent.bind .archive files artifact = .ok content) :
    ∃ index, content = .archive index := by
  unfold UnitContent.bind UnitContent.bindArchive at bound
  dsimp only at bound
  split at bound
  · cases bound
  · split at bound
    · cases bound
    · split at bound
      · cases bound
      · exact ⟨_, (Except.ok.inj bound).symm⟩

/-- What a unit that was just made has itself. -/
theorem Made.ownReply {resolver : Resolver}
    (made : Made session id holder resolver number unit after)
    {index : List (String × String)} (content : unit.content = .archive index) (name : String) :
    after.ownReply name number =
      match index.lookup name with
      | none => .absent
      | some entry =>
        match UnitContent.readBody after.files unit.artifact entry with
        | .body content => .found ⟨name, unit.name, .bytecode content, after.fresh⟩
        | .failed error => .failed error
        | .crashed crash => .crashed crash := by
  unfold Session.ownReply
  rw [made.enrolled.present]
  dsimp only
  rw [made.resolved, content]
  cases found : index.lookup name with
  | none => simp only [List.lookup_nil, found]
  | some entry =>
    cases isRead : UnitContent.readBody after.files unit.artifact entry <;>
      simp only [List.lookup_nil, found, isRead]

/-- A definition that reads a symbol back from the unit it made, whose index is given. Whatever is
read back, the unit stays registered as the most recent one. -/
structure ReadsBack (session : Session) (id : Nat) (holder : String) (resolver : Resolver)
    (thread : Thread) (name : String) (content : Bytes) (compiled : Session) (number : Nat)
    (unit : LoadedUnit) (index : List (String × String)) : Prop where
  compiles : session.compileBytes id resolver thread name content = (compiled, .ok number)
  made : Made session id holder resolver number unit compiled
  indexed : unit.content = .archive index
  /-- The unit is the most recent one, whatever was read back. -/
  registered : ((session.define id thread name content).1.resolvers.get? id).map (·.registry) =
    some (Registry.register resolver.registry unit.name number)
  /-- If the unit has the symbol, then the definition gives it or fails. -/
  own : ∀ entry symbol, index.lookup name = some entry →
    (session.define id thread name content).2 = .ok symbol →
      symbol.name = name ∧ symbol.unit = unit.name ∧
        ∃ body, UnitContent.readBody compiled.files unit.artifact entry = .body body ∧
          symbol.body = .bytecode body
  /-- If it has not, then the definition gives what the parent answers. -/
  inherited : index.lookup name = none →
    (session.define id thread name content).2 =
      (replyOf? (compiled.reply name) resolver.parent).toDefinition name unit.name

/-- A definition fails as its compile does, or it reads back the symbol from the unit it made: what
the unit has under the name, or else what the parent answers. Only if the parent has nothing either,
the symbol is reported missing. The unit was just made and remembers nothing, so its answer is told
by its index and by the parent of its resolver. -/
theorem define_reads_back (reached : Reachable session) {resolver : Resolver}
    (held : (holder, .loader (.resolver id)) ∈ session.held)
    (present : session.resolvers.get? id = some resolver) (archive : resolver.platform = .archive)
    (thread : Thread) (name : String) (content : Bytes) :
    (∃ error, (session.compileBytes id resolver thread name content).2 = .error error ∧
        (session.define id thread name content).2 = .error error) ∨
      ∃ compiled number unit index, ReadsBack session id holder resolver thread name content compiled
        number unit index := by
  rcases compiled : session.compileBytes id resolver thread name content with ⟨after, error | number⟩
  · refine .inl ⟨error, rfl, ?_⟩
    simp only [define, present, compiled]
  · obtain ⟨unit, made⟩ := compileBytes_ok reached.wired held present compiled
    obtain ⟨call, files, _, _, _, bound⟩ := made.called
    rw [archive] at bound
    obtain ⟨index, isIndex⟩ := index_of_bind bound
    have defined : session.define id thread name content = after.readBack number name := by
      simp only [define, present, compiled]
    have result : (session.define id thread name content).2 =
        (replyOf after name (after.reply name) (.unit number)).toDefinition name unit.name := by
      rw [defined, readBack_result made.enrolled.present, reply_eq]
    simp only [replyOf, made.ownReply isIndex, made.enrolled.present, Option.bind_some,
      made.parent] at result
    refine .inr ⟨after, number, unit, index, compiled, made, isIndex, ?_, ?_, ?_⟩
    · rw [defined, readBack_registry]
      exact made.enrolled.listed
    · intro entry symbol found isOk
      rw [result, found] at isOk
      dsimp only at isOk
      cases body : UnitContent.readBody after.files unit.artifact entry with
      | body content =>
        rw [body] at isOk
        obtain rfl := Except.ok.inj isOk
        exact ⟨rfl, rfl, content, rfl, rfl⟩
      | failed error =>
        rw [body] at isOk
        cases isOk
      | crashed crash =>
        rw [body] at isOk
        cases isOk
    · intro missing
      rw [missing] at result
      exact result

/-! ### A definition that is passed on -/

/-- A resolver whose parent has a symbol with a separator in its name. -/
def besideSystem : Session :=
  (((perform { files := ⟨[(["tmp"], .directory), (["tmp", "work"], .directory)], 0⟩ }
    .addSystem).perform (.defineSystem 0 "a/b" [7])).perform
    (.openResolver "loader" { cacheDirectory := "cache" } copying .archive (some (.system 0))))

/-- The resolver of that session. -/
def systemResolver : Resolver where
  staging := Staging.ofConfig { cacheDirectory := "cache" }
  platform := .archive
  compiler := copying
  parent := some (.system 0)
  dumpsFailedInput := Config.dumpsFailedInput {}
  patience := Config.patience {}
  reaper := 2

/-- The bytecode of a name with a separator is compiled to a unit that has not that name, and what
the parent has is given as the symbol defined. -/
theorem define_inherits :
    (besideSystem.define 3 "main" "a/b" [1]).2 =
      .ok ⟨"a/b", systemUnit, .bytecode [7], 1⟩ ∧
    ((besideSystem.define 3 "main" "a/b" [1]).1.units.map fun entry => entry.2.symbolNames) =
      [["a.b"]] := by
  decide +kernel

/-- A resolver whose parent has the symbol `a/b` defines `a/b`. That does not fail, so the symbol
was read back from the unit that was made and registered. -/
theorem define_reads_back_inherited :
    Reachable besideSystem ∧ besideSystem.resolvers.get? 3 = some systemResolver ∧
      ∃ compiled number unit index, ReadsBack besideSystem 3 "loader" systemResolver "main" "a/b" [1]
        compiled number unit index := by
  have reached : Reachable besideSystem := ((Reachable.start _).perform _).perform _ |>.perform _
  have present : besideSystem.resolvers.get? 3 = some systemResolver := rfl
  have held : ("loader", .loader (.resolver 3)) ∈ besideSystem.held := by decide
  have succeeds : (besideSystem.define 3 "main" "a/b" [1]).2.isOk = true := by decide +kernel
  refine ⟨reached, present, ?_⟩
  rcases define_reads_back reached held present rfl "main" "a/b" [1] with
    ⟨error, _, failed⟩ | readsBack
  · rw [failed] at succeeds
    cases succeeds
  · exact readsBack

end Session

end Hotload
