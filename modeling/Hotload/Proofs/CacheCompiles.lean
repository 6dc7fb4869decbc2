import Hotload.Proofs.Operations
import Hotload.Proofs.Tenancies

/-!
# Compiling into the cache directory

A compile puts an archive and an artifact into the directory, and each way it can end takes away
what it does not leave for good. The archive is discarded in the end; a file of passing use that no
unit took over is let go of; a lasting artifact that was not registered is removed. So a compile
that succeeds adds one artifact to what the ledger accounts for, and one that fails adds nothing.
-/

namespace Hotload

open Files

namespace Files

/-- Creating a file changes the tree at the target of its path only. -/
theorem createNew_touches {files after : Files} {path : String} (plain : Plain files path)
    (created : files.createNew path = .ok after) : Touches path files after := by
  have truthful := files.locate_truthful false path
  unfold createNew at created
  rcases found : files.locate false path with error | (⟨location, node⟩ | ⟨directory, name⟩)
  all_goals rw [found] at created truthful
  · cases created
  · dsimp only at created
    split at created <;> cases created
  · dsimp only at created
    split at created
    · cases created
    · next named =>
      obtain rfl := Except.ok.inj created
      refine put_file_touches ?_ ?_ [] files.clock
      · unfold target? place?
        rw [if_neg named, plain.locate, found]
        rfl
      · unfold bone?
        rw [show files.node? (directory ++ [name]) = none from truthful]
        rfl

end Files

/-- One more artifact was compiled for good. -/
def Ledger.add (ledger : Ledger) (output : String) : Ledger :=
  { ledger with compiled := ledger.compiled ++ [output] }

namespace Session

/-- Staging an artifact draws a token and creates the file; one that is there already will do. -/
theorem stage_output (session : Session) (staging : Staging) (key : String)
    (extension : Option String) {path : String}
    (named : staging.pathFor key extension (tokenText session.fresh) = path)
    (plain : Plain session.files path) :
    ∃ files result,
      session.stage staging key extension true = ({ session.number.1 with files }, result) ∧
        Touches path session.files files ∧
          (∀ error, result = .error error → files = session.files) ∧
            ∀ output, result = .ok output → output = path := by
  unfold Session.stage token Staging.stage
  simp only [number, ↓reduceIte, named]
  rcases created : session.files.createNew path with error | after
  · by_cases there : error = .alreadyExists
    · refine ⟨session.files, .ok path, by simp [there], Touches.refl path _, ?_, ?_⟩
      · exact fun _ impossible => by cases impossible
      · exact fun output same => (Except.ok.inj same).symm
    · refine ⟨session.files, .error (.staging ⟨path, error⟩), by simp [there],
        Touches.refl path _, fun _ _ => rfl, ?_⟩
      exact fun _ impossible => by cases impossible
  · refine ⟨after, .ok path, rfl, createNew_touches plain created, ?_, ?_⟩
    · exact fun _ impossible => by cases impossible
    · exact fun output same => (Except.ok.inj same).symm

variable {tenancy : Tenancy} {ledger : Ledger} {busy : List String} {pending : Option Nat}
  {session after : Session}

/-- A staged path is clear if no file of passing use was staged with its token. -/
theorem Tended.staged_clear (tended : Tended tenancy ledger busy pending session) {number : Nat}
    {path : String} (staged : StagedAs tenancy.resolver number path)
    (other : ∀ id temporary, Counts ledger session.temporaries id temporary →
      some id ≠ pending → id ≠ number + 1) :
    Clear ledger pending session.temporaries session.files path where
  temporaries := by
    intro id temporary counts away
    obtain ⟨own, rfl, ownStaged⟩ := tended.own id temporary counts.present
      (Nat.le_trans tended.since.1 counts.since)
    refine staged.apart tenancy.layout ownStaged ?_ tended.filled.housed
    rintro rfl
    exact other _ temporary counts away rfl
  compiled := by
    intro output listed
    obtain ⟨artifact, stands⟩ := tended.stand output listed
    obtain ⟨text, rfl⟩ := stands.isDurable
    exact staged.apart_durable tended.filled.housed tenancy.layout tenancy.direct text

namespace Tended

theorem quiet (tended : Tended tenancy ledger busy pending session) (quiet : Quiet session after) :
    Tended tenancy ledger busy pending after :=
  tended.keeps quiet.toKeepsLinks quiet.files quiet.temporaries

/-- A path staged with the next token is clear and can come into use. -/
theorem next_clear (tended : Tended tenancy ledger busy none session) {path : String}
    (staged : StagedAs tenancy.resolver session.fresh path) :
    Clear ledger none session.temporaries session.files path := by
  refine tended.staged_clear staged ?_
  intro id temporary counts _
  have drawn := tended.drawn id temporary counts.present
  omega

/-- Staging an archive brings its path into use, or it fails and leaves nothing. -/
theorem stageArchive (tended : Tended tenancy ledger busy none session) (key : String)
    (extension : Option String) {result : Except LoadError String}
    (staged : session.stage tenancy.resolver.staging key extension false = (after, result)) :
    (∃ error, result = .error error ∧ Tended tenancy ledger busy none after) ∨
      ∃ archive, result = .ok archive ∧ StagedAs tenancy.resolver session.fresh archive ∧
        after.fresh = session.fresh + 1 ∧ Tended tenancy ledger (archive :: busy) none after := by
  generalize named : tenancy.resolver.staging.pathFor key extension (tokenText session.fresh) = path
  have isStaged : StagedAs tenancy.resolver session.fresh path := ⟨key, extension, named.symm⟩
  have storable := isStaged.storable tenancy.layout
  have clear := tended.next_clear isStaged
  have dismissed := (tended.engage storable clear).dismiss
  have numbered : Tended tenancy ledger busy none { session.number.1 with
      files := (session.files.removeIfExists path).1 } :=
    dismissed.keeps ⟨rfl, Nat.le_succ _⟩ rfl rfl
  have skeleton : SameSkeleton session.files (session.files.removeIfExists path).1 :=
    (removeIfExists_touches (storable session.files tended.filled.housed).plain).skeleton
  rw [session.stage_archive tenancy.resolver.staging key extension named] at staged
  obtain ⟨rfl, rfl⟩ := Prod.mk.inj staged
  cases (session.files.removeIfExists path).2 with
  | error error => exact .inl ⟨_, rfl, numbered⟩
  | ok wasThere =>
    exact .inr ⟨path, rfl, isStaged, rfl,
      numbered.engage storable (clear.of_skeleton skeleton (Fewer.refl _))⟩

/-- What changes the tree through a path in use. -/
theorem worked (tended : Tended tenancy ledger busy none session) {files : Files} {path : String}
    (inUse : path ∈ busy) (touches : Touches path session.files files) :
    Tended tenancy ledger busy none { session with files } :=
  tended.touched (.inl inUse) (tended.clear path inUse) touches

/-- A unit that refers to no other file of passing use than one that is there is registered. -/
theorem enlist (tended : Tended tenancy ledger busy none session) {unit : LoadedUnit}
    (parent : (session.resolvers.get? tenancy.id).map (·.parent) = some unit.parent)
    (present : ∀ id, unit.temporary = some id → (session.temporaries.get? id).isSome) :
    Tended tenancy ledger busy none (session.enlist tenancy.id unit).1 := by
  rw [enlist_eq]
  have enlisted : Tended tenancy ledger busy none (session.enlisted tenancy.id unit) := by
    refine tended.relinked (tended.wired.enlisted parent) tended.held ?_ rfl rfl
      (Nat.le_succ _) ?_
    · obtain ⟨now, there, staging, platform⟩ := tended.opened
      have added : (session.addUnit unit).1.resolvers.get? tenancy.id = some now := there
      refine ⟨{ now with registry := Registry.register now.registry unit.name session.fresh }, ?_,
        staging, platform⟩
      simp only [Session.enlisted, updateResolver, Table.get?_update, ↓reduceIte, added,
        Option.map_some]
    · intro id referred
      rw [temporary_mem_targets] at referred
      rcases referred with held | ⟨entry, listed, refers⟩
      · exact .inl (temporary_mem_targets.mpr (.inl held))
      · have units : (session.enlisted tenancy.id unit).units =
            session.units ++ [(session.fresh, unit)] := rfl
        rw [units, List.mem_append, List.mem_singleton] at listed
        rcases listed with earlier | rfl
        · exact .inl (temporary_mem_targets.mpr (.inr ⟨entry, earlier, refers⟩))
        · exact .inr (present id refers)
  exact enlisted.settle

/-- Registering an artifact without a file of passing use leaves the directory as it is. -/
theorem register (tended : Tended tenancy ledger busy none session) (name artifact : String) :
    Tended tenancy ledger busy none (session.register tenancy.id name artifact none).1 := by
  rcases session.register_cases tenancy.id name artifact none with
    ⟨error, failed⟩ | ⟨resolver, size, content, present, _, _, succeeded⟩
  · rw [failed]
    exact tended
  · rw [succeeded]
    exact tended.enlist (by rw [present]; rfl) fun _ impossible => by cases impossible

end Tended

/-- The compiler changes files through the path of the output that it is asked for only. -/
def Faithful (compiler : Compiler) : Prop :=
  ∀ request files, Through request.output files (compiler request files).1

/-- A call of a compiler changes files as the compiler does, and leaves a record. -/
theorem invoke_quiet {id : Nat} {resolver : Resolver} {thread : Thread} {request : CompileRequest}
    {outcome : Except CompilerError CompileOutcome}
    (called : session.invoke id resolver thread request = (after, outcome)) :
    Quiet { session with files := (resolver.compiler request session.files).1 } after := by
  have quiet : Quiet { session with files := (resolver.compiler request session.files).1 }
      (session.invoke id resolver thread request).1 := ⟨⟨rfl, Nat.le_refl _⟩, rfl, rfl⟩
  rw [called] at quiet
  exact quiet

/-! ## Compiling into a file of passing use -/

namespace Tended

variable {resolver : Resolver} {thread : Thread} {archive output name : String}

/-- A compile into the pending file of passing use ends with a unit that refers to it, or it leaves
the file pending. -/
theorem compileMarked_pending {id : Nat}
    (tended : Tended tenancy ledger busy (some id) session) (faithful : Faithful resolver.compiler)
    (counts : Counts ledger session.temporaries id ⟨output, false⟩)
    (unreferred : .temporary id ∉ session.targets) {result : Except LoadError Nat}
    (compiled : session.compileMarked tenancy.id resolver thread archive output name (some id) =
      (after, result)) :
    Tended tenancy ledger busy none after ∨
      Tended tenancy ledger busy (some id) after ∧ .temporary id ∉ after.targets := by
  obtain ⟨number, rfl, staged⟩ := tended.own id _ counts.present
    (Nat.le_trans tended.since.1 counts.since)
  have slot := staged.storable tenancy.layout session.files tended.filled.housed
  have clear := tended.staged_clear staged fun other another _ away same => away (by rw [same])
  have touches := (faithful ⟨archive, output, true⟩ session.files).touches slot.plain
  have touched := tended.touched (.inr (.inr ⟨_, _, counts, rfl⟩)) clear touches
  unfold compileMarked at compiled
  rcases called : session.invoke tenancy.id resolver thread ⟨archive, output, true⟩ with
    ⟨later, outcome⟩
  rw [called] at compiled
  have quiet := invoke_quiet called
  have invoked := touched.quiet quiet
  have present : later.temporaries.get? (number + 1) = some ⟨output, false⟩ := by
    rw [quiet.temporaries]
    exact counts.present
  have still : .temporary (number + 1) ∉ later.targets := by
    rw [quiet.targets]
    exact unreferred
  cases outcome with
  | error error =>
    obtain rfl := (Prod.mk.inj compiled).1
    exact .inr ⟨invoked, still⟩
  | ok outcome =>
    dsimp only at compiled
    split at compiled
    · obtain rfl := (Prod.mk.inj compiled).1
      refine .inr ⟨?_, ?_⟩
      · obtain ⟨noted, noting, -, rejected⟩ :=
          later.rejectEmpty_eq tenancy.id resolver archive output
        rw [rejected]
        exact (invoked.quiet noting).release _
      · rw [(rejectEmpty_keepsLinks later tenancy.id resolver archive output _).targets]
        exact still
    · rcases later.register_cases tenancy.id name output (some (number + 1)) with
        ⟨error, failed⟩ | ⟨now, size, content, there, _, bound, succeeded⟩
      · obtain rfl := (Prod.mk.inj (failed.symm.trans compiled)).1
        exact .inr ⟨invoked, still⟩
      · obtain rfl := (Prod.mk.inj (succeeded.symm.trans compiled)).1
        obtain ⟨location, bytes, modified, shown⟩ := UnitContent.shown_of_bind bound
        have ready := invoked.ready fun temporary found => by
          rw [← Option.some.inj (present.symm.trans found)]
          exact remains_of_shown shown
        refine .inl (ready.enlist (by rw [there]; rfl) ?_)
        intro id refers
        rw [← Option.some.inj refers, present]
        rfl

/-- After the compile, nothing is pending. -/
theorem compile_pending {id : Nat} (tended : Tended tenancy ledger busy (some id) session)
    (faithful : Faithful resolver.compiler)
    (counts : Counts ledger session.temporaries id ⟨output, false⟩)
    (unreferred : .temporary id ∉ session.targets) :
    Tended tenancy ledger busy none
      (session.compile tenancy.id resolver thread archive output name (some id)).1 := by
  have marking := markBusy_quiet session tenancy.id thread
  unfold compile
  rcases compiled : (session.markBusy tenancy.id thread).compileMarked tenancy.id resolver thread
    archive output name (some id) with ⟨after, result⟩
  have unmarking := unmarkBusy_quiet after tenancy.id thread
  have still : .temporary id ∉ (session.markBusy tenancy.id thread).targets := by
    rw [marking.targets]
    exact unreferred
  rcases (tended.quiet marking).compileMarked_pending faithful counts still compiled with
    taken | ⟨pending, dead⟩
  · exact (taken.quiet unmarking).settle
  · refine (pending.quiet unmarking).settle_pending fun other same => ?_
    obtain rfl := Option.some.inj same
    rw [unmarking.targets]
    exact dead

/-- Compiling an archive into a file of passing use keeps the directory tended. -/
theorem compileTemporary (tended : Tended tenancy ledger busy none session)
    (staging : resolver.staging = tenancy.resolver.staging) (faithful : Faithful resolver.compiler)
    (used : ∀ path ∈ busy, ∃ number, StagedAs tenancy.resolver number path ∧
      number < session.fresh) :
    Tended tenancy ledger busy none
      (session.compileTemporary tenancy.id resolver thread archive).1 := by
  unfold Session.compileTemporary
  rw [staging]
  generalize tenancy.resolver.staging.artifactExtension = extension
  generalize named : tenancy.resolver.staging.pathFor ("unit-" ++ archive) extension
    (tokenText session.fresh) = path
  have staged : StagedAs tenancy.resolver session.fresh path := ⟨_, _, named.symm⟩
  have housed := tended.filled.housed
  have numbered : Tended tenancy ledger busy none session.number.1 :=
    tended.keeps ⟨rfl, Nat.le_succ _⟩ rfl rfl
  obtain ⟨files, result, staged_eq, touches, named_ok⟩ :=
    session.stage_output tenancy.resolver.staging ("unit-" ++ archive) extension named
      (staged.storable tenancy.layout session.files housed).plain
  dsimp only
  rw [staged_eq]
  rcases result with error | output
  · -- Nothing was created, so the tree is as it was.
    obtain rfl := named_ok.1 error rfl
    exact numbered
  · obtain rfl := named_ok.2 output rfl
    have tracked : Tended tenancy ledger busy (some (session.fresh + 1))
        (session.number.1.track resolver.reaper output).1 := by
      refine numbered.track rfl staged ?_ resolver.reaper
      intro other inUse
      obtain ⟨number, otherStaged, earlier⟩ := used other inUse
      exact otherStaged.apart tenancy.layout staged (Nat.ne_of_lt earlier) housed
    have counts : Counts ledger (session.number.1.track resolver.reaper output).1.temporaries
        (session.fresh + 1) ⟨output, false⟩ := by
      refine ⟨?_, Nat.le_succ_of_le tended.since.2, rfl⟩
      have vacant : session.temporaries.get? (session.fresh + 1) = none := by
        refine Option.eq_none_iff_forall_ne_some.mpr fun temporary present => ?_
        have drawn := tended.drawn _ _ present
        omega
      have added : (session.number.1.track resolver.reaper output).1.temporaries =
          session.temporaries.add (session.fresh + 1) ⟨output, false⟩ := rfl
      rw [added, Table.get?_add, vacant, Option.none_or, if_pos rfl]
    have clear := tracked.staged_clear staged fun id temporary _ away same => away (by rw [same])
    have created : Tended tenancy ledger busy (some (session.fresh + 1))
        ({ session.number.1 with files }.track resolver.reaper output).1 :=
      tracked.touched (.inr (.inr ⟨_, _, counts, rfl⟩)) clear touches
    refine created.compile_pending faithful counts ?_
    intro referred
    have present := tended.known (session.fresh + 1)
      (Nat.le_succ_of_le (Nat.le_trans tended.since.1 tended.since.2)) referred
    obtain ⟨temporary, present⟩ := Option.isSome_iff_exists.mp present
    have drawn := tended.drawn _ _ present
    omega

/-! ## Bytecode -/

/-- Packaging and compiling bytecode keeps the directory tended, whatever comes of it. -/
theorem compileBytes (tended : Tended tenancy ledger [] none session)
    (staging : resolver.staging = tenancy.resolver.staging) (faithful : Faithful resolver.compiler)
    (content : Bytes) :
    Tended tenancy ledger [] none
      (session.compileBytes tenancy.id resolver thread name content).1 := by
  unfold Session.compileBytes
  rw [staging]
  generalize some tenancy.resolver.staging.archiveExtension = extension
  rcases staged : session.stage tenancy.resolver.staging name extension false with ⟨after, result⟩
  rcases tended.stageArchive name extension staged with
    ⟨error, rfl, failed⟩ | ⟨archive, rfl, isStaged, fresh, inUse⟩
  · exact failed
  · dsimp only
    have touches := Packaging.packageBytes_touches archive (Symbol.entryPath name) content after.files
    rcases packaged : Packaging.packageBytes archive (Symbol.entryPath name) content after.files
      with ⟨files, outcome⟩
    rw [packaged] at touches
    have written := inUse.worked List.mem_cons_self touches
    cases outcome with
    | error error => exact written.discard
    | ok outcome =>
      have compiled : Tended tenancy ledger [archive] none (Session.compileTemporary
          { after with files } tenancy.id resolver thread archive).1 := by
        refine written.compileTemporary staging faithful fun path used => ?_
        obtain rfl := List.mem_singleton.mp used
        exact ⟨session.fresh, isStaged, fresh ▸ Nat.lt_succ_self _⟩
      dsimp only
      generalize Session.compileTemporary _ tenancy.id resolver thread archive = compiledTo
        at compiled ⊢
      exact compiled.discard

/-- Defining a symbol keeps the directory tended, whatever comes of it. -/
theorem define (tended : Tended tenancy ledger [] none session)
    (faithful : ∀ now, session.resolvers.get? tenancy.id = some now → Faithful now.compiler)
    (content : Bytes) :
    Tended tenancy ledger [] none (session.define tenancy.id thread name content).1 := by
  obtain ⟨now, there, staging, _⟩ := tended.opened
  unfold Session.define
  rw [there]
  have compiled : Tended tenancy ledger [] none
      (session.compileBytes tenancy.id now thread name content).1 :=
    tended.compileBytes staging (faithful now there) content
  dsimp only
  split
  · next heard =>
    rw [heard] at compiled
    exact compiled
  · next after unit heard =>
    rw [heard] at compiled
    have found := compiled.quiet (quiet_follows.find after (.unit unit) name)
    unfold readBack
    split <;> next asked => rw [asked] at found; exact found

end Tended

/-! ## Containers -/

namespace Tended

/-- A path in use at which a lasting artifact stands is accounted for from then on. -/
theorem complete (tended : Tended tenancy ledger (output :: busy) none session)
    (stands : ∃ artifact, Stands tenancy.resolver session.files output artifact)
    (apart : ∀ path ∈ busy, Apart session.files path output) :
    Tended tenancy (ledger.add output) busy none session :=
  { tended with
    filled := by
      refine tended.filled.mono ?_
      rintro path (inUse | compiled | ⟨id, temporary, counts, rfl⟩)
      · rcases List.mem_cons.mp inUse with rfl | inUse
        · exact .inr (.inl (List.mem_append_right _ List.mem_cons_self))
        · exact .inl inUse
      · exact .inr (.inl (List.mem_append_left _ compiled))
      · exact .inr (.inr ⟨id, temporary, ⟨counts.present, counts.since, counts.unreleased⟩, rfl⟩)
    remain := fun id temporary counts =>
      tended.remain id temporary ⟨counts.present, counts.since, counts.unreleased⟩
    stand := by
      intro other listed
      rcases List.mem_append.mp listed with earlier | new
      · exact tended.stand other earlier
      · obtain rfl := List.mem_singleton.mp new
        exact stands
    storable := fun path inUse => tended.storable path (List.mem_cons_of_mem _ inUse)
    clear := by
      intro path inUse
      have clear := tended.clear path (List.mem_cons_of_mem _ inUse)
      refine ⟨fun id temporary counts => clear.temporaries id temporary
        ⟨counts.present, counts.since, counts.unreleased⟩, ?_⟩
      intro other listed
      rcases List.mem_append.mp listed with earlier | new
      · exact clear.compiled other earlier
      · obtain rfl := List.mem_singleton.mp new
        exact apart path inUse }

/-- Which paths are in use does not hang on their order. -/
theorem reorder (tended : Tended tenancy ledger busy pending session) {others : List String}
    (same : ∀ path, path ∈ others ↔ path ∈ busy) :
    Tended tenancy ledger others pending session :=
  { tended with
    filled := by
      refine tended.filled.mono ?_
      rintro path (inUse | claimed)
      · exact .inl ((same path).mpr inUse)
      · exact .inr claimed
    storable := fun path inUse => tended.storable path ((same path).mp inUse)
    clear := fun path inUse => tended.clear path ((same path).mp inUse) }

/-- Where no artifact stands yet, one can be compiled without touching any other. -/
theorem engage_durable (tended : Tended tenancy ledger busy pending session) {text : String}
    (empty : session.outputSize (durable tenancy.resolver text) = 0) :
    Tended tenancy ledger (durable tenancy.resolver text :: busy) pending session := by
  have housed := tended.filled.housed
  rw [outputSize_eq] at empty
  refine tended.engage (storable_of_empty housed tenancy.layout tenancy.direct empty) ⟨?_, ?_⟩
  · intro id temporary counts _
    obtain ⟨number, _, staged⟩ := tended.own id temporary counts.present
      (Nat.le_trans tended.since.1 counts.since)
    exact staged.durable_apart housed tenancy.layout tenancy.direct text
  · intro output listed
    obtain ⟨artifact, stands⟩ := tended.stand output listed
    obtain ⟨location, bytes, modified, shown, filled, _⟩ := stands.shown
    exact apart_of_empty empty shown filled

/-- A compile for good ends with an artifact that stands, or it leaves the paths in use. -/
theorem compileMarked_durable {text : String}
    (tended : Tended tenancy ledger (durable tenancy.resolver text :: busy) none session)
    (faithful : Faithful resolver.compiler)
    (apart : ∀ path ∈ busy, Apart session.files path (durable tenancy.resolver text))
    {result : Except LoadError Nat}
    (compiled : session.compileMarked tenancy.id resolver thread archive
      (durable tenancy.resolver text) name none = (after, result)) :
    (∃ error, result = .error error ∧
        Tended tenancy ledger (durable tenancy.resolver text :: busy) none after) ∨
      ∃ unit, result = .ok unit ∧
        Tended tenancy (ledger.add (durable tenancy.resolver text)) busy none after := by
  generalize named : durable tenancy.resolver text = output at *
  have slot := tended.storable output List.mem_cons_self session.files tended.filled.housed
  have touches := (faithful ⟨archive, output, true⟩ session.files).touches slot.plain
  have touched := tended.worked List.mem_cons_self touches
  unfold compileMarked at compiled
  rcases called : session.invoke tenancy.id resolver thread ⟨archive, output, true⟩ with
    ⟨later, outcome⟩
  rw [called] at compiled
  have quiet := invoke_quiet called
  have invoked := touched.quiet quiet
  cases outcome with
  | error error =>
    obtain ⟨rfl, rfl⟩ := Prod.mk.inj compiled
    exact .inl ⟨_, rfl, invoked⟩
  | ok outcome =>
    dsimp only at compiled
    split at compiled
    · obtain ⟨rfl, rfl⟩ := Prod.mk.inj compiled
      refine .inl ⟨_, rfl, ?_⟩
      obtain ⟨noted, noting, -, rejected⟩ := later.rejectEmpty_eq tenancy.id resolver archive output
      rw [rejected]
      have still := invoked.quiet noting
      have slot := still.storable output List.mem_cons_self noted.files still.filled.housed
      have removed := still.worked List.mem_cons_self (removeIfExists_touches slot.plain)
      exact removed.keeps ⟨(discard_keepsLinks noted output).links,
        (discard_keepsLinks noted output).fresh⟩ (discard_files noted output)
        (discard_temporaries noted output)
    · next filled =>
      rcases later.register_cases tenancy.id name output none with
        ⟨error, failed⟩ | ⟨now, size, content, there, _, bound, succeeded⟩
      · obtain ⟨rfl, rfl⟩ := Prod.mk.inj (failed.symm.trans compiled)
        exact .inl ⟨_, rfl, invoked⟩
      · obtain ⟨rfl, rfl⟩ := Prod.mk.inj (succeeded.symm.trans compiled)
        obtain ⟨opened, stood, _, platform⟩ := invoked.opened
        obtain rfl := Option.some.inj (there.symm.trans stood)
        rw [platform] at bound
        rw [outputSize_eq] at filled
        have stands := stands_of_bind ⟨text, named.symm⟩ filled bound
        have skeleton : SameSkeleton session.files later.files := by
          rw [quiet.files]
          exact touches.skeleton
        have completed := invoked.complete ⟨_, stands⟩
          fun path inUse => (apart path inUse).of_skeleton skeleton
        exact .inr ⟨_, rfl, completed.enlist (by rw [there]; rfl)
          fun _ impossible => by cases impossible⟩

/-- A compile for good as a whole ends with an artifact that stands, or it leaves the paths in use.
-/
theorem compile_durable {text : String}
    (tended : Tended tenancy ledger (durable tenancy.resolver text :: busy) none session)
    (faithful : Faithful resolver.compiler)
    (apart : ∀ path ∈ busy, Apart session.files path (durable tenancy.resolver text))
    {result : Except LoadError Nat}
    (compiled : session.compile tenancy.id resolver thread archive
      (durable tenancy.resolver text) name none = (after, result)) :
    (∃ error, result = .error error ∧
        Tended tenancy ledger (durable tenancy.resolver text :: busy) none after) ∨
      ∃ unit, result = .ok unit ∧
        Tended tenancy (ledger.add (durable tenancy.resolver text)) busy none after := by
  unfold compile at compiled
  rcases marked : (session.markBusy tenancy.id thread).compileMarked tenancy.id resolver thread
    archive (durable tenancy.resolver text) name none with ⟨later, outcome⟩
  rw [marked] at compiled
  obtain ⟨rfl, rfl⟩ := Prod.mk.inj compiled
  have unmarking := unmarkBusy_quiet later tenancy.id thread
  rcases (tended.quiet (markBusy_quiet session tenancy.id thread)).compileMarked_durable faithful
    apart marked with ⟨error, failed, still⟩ | ⟨unit, succeeded, completed⟩
  · exact .inl ⟨error, failed,
      (still.quiet unmarking).settle⟩
  · exact .inr ⟨unit, succeeded,
      (completed.quiet unmarking).settle⟩

/-- Packaging and compiling a container adds its artifact to what the ledger accounts for, or it
fails and leaves nothing. -/
theorem compileContainer {text container : String} (tended : Tended tenancy ledger [] none session)
    (staging : resolver.staging = tenancy.resolver.staging) (faithful : Faithful resolver.compiler)
    (empty : session.outputSize (durable tenancy.resolver text) = 0)
    {result : Except LoadError Nat}
    (compiled : session.compileContainer tenancy.id resolver thread container
      (durable tenancy.resolver text) name = (after, result)) :
    (∃ error, result = .error error ∧ Tended tenancy ledger [] none after) ∨
      ∃ unit, result = .ok unit ∧
        Tended tenancy (ledger.add (durable tenancy.resolver text)) [] none after := by
  unfold Session.compileContainer at compiled
  rw [staging] at compiled
  generalize some tenancy.resolver.staging.archiveExtension = extension at compiled
  rcases staged : session.stage tenancy.resolver.staging container extension false with
    ⟨later, outcome⟩
  rw [staged] at compiled
  -- While nothing is compiled, nothing stands at the artifact's path, so both accounts hold.
  rcases (tended.engage_durable empty).stageArchive container extension staged with
    ⟨error, rfl, _⟩ | ⟨archive, rfl, isStaged, _, engaged⟩
  · rcases tended.stageArchive container extension staged with
      ⟨_, _, failed⟩ | ⟨archive, impossible, _⟩
    · obtain ⟨rfl, rfl⟩ := Prod.mk.inj compiled
      exact .inl ⟨_, rfl, failed⟩
    · cases impossible
  · dsimp only at compiled
    have touches := Packaging.packageContainer_touches archive container later.files
    have isolated : Tended tenancy ledger [archive] none later := by
      rcases tended.stageArchive container extension staged with
        ⟨_, impossible, _⟩ | ⟨another, same, _, _, isolated⟩
      · cases impossible
      · obtain rfl := Except.ok.inj same
        exact isolated
    rcases packaged : Packaging.packageContainer archive container later.files with ⟨files, outcome⟩
    rw [packaged] at touches compiled
    have written := engaged.worked List.mem_cons_self touches
    cases outcome with
    | error error =>
      obtain ⟨rfl, rfl⟩ := Prod.mk.inj compiled
      exact .inl ⟨_, rfl, (isolated.worked List.mem_cons_self touches).discard⟩
    | ok outcome =>
      dsimp only at compiled
      have swapped : Tended tenancy ledger [durable tenancy.resolver text, archive] none
          { later with files } := written.reorder fun path => by simp [or_comm]
      have apart : ∀ path ∈ [archive], Apart files path (durable tenancy.resolver text) := by
        intro path inUse
        obtain rfl := List.mem_singleton.mp inUse
        exact isStaged.apart_durable written.filled.housed tenancy.layout tenancy.direct text
      rcases done : Session.compile { later with files } tenancy.id resolver thread archive
        (durable tenancy.resolver text) name none with ⟨last, outcome⟩
      rw [done] at compiled
      rcases swapped.compile_durable faithful apart done with
        ⟨error, rfl, still⟩ | ⟨unit, rfl, completed⟩
      · obtain ⟨rfl, rfl⟩ := Prod.mk.inj compiled
        exact .inl ⟨_, rfl, still.discard.discard⟩
      · obtain ⟨rfl, rfl⟩ := Prod.mk.inj compiled
        exact .inr ⟨_, rfl, completed.discard⟩

end Tended

end Session

end Hotload
