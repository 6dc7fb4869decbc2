import Hotload.Proofs.ReaperHistory

/-!
# Reapers along runs

A host copies references and drops them, and so do the loaders it works with. Whatever it does, the
history of every reaper goes on: each operation comes down to files that are tracked, files that are
dropped, sweeps, and steps that a reaper has no part in. A reference copies another one, so nothing
refers to a file that was dropped, and between two operations the live files are just those that
something refers to.
-/

namespace Hotload

namespace Session

variable {session before after : Session}

/-- Whatever is referred to is there. -/
def Backed (session : Session) : Prop :=
  ∀ id, .temporary id ∈ session.targets → session.isLive id = true

/-- The history of every reaper goes on from the first session to the second. No reaper is made on the
way, and no reference to a file that is not there. -/
structure Continues (before after : Session) : Prop where
  records : ∀ {reaper : Nat} {history : History}, Recorded reaper history before →
    ∃ later, Recorded reaper (history ++ later) after
  reapers : ∀ reaper, after.reapers.has reaper = true → before.reapers.has reaper = true
  backed : Backed before → Backed after

theorem Continues.refl (session : Session) : Continues session session where
  records {_ history} recorded := ⟨[], (List.append_nil history).symm ▸ recorded⟩
  reapers _ present := present
  backed backed := backed

theorem Continues.trans {first second third : Session} (left : Continues first second)
    (right : Continues second third) : Continues first third where
  records {_ history} recorded := by
    obtain ⟨early, middle⟩ := left.records recorded
    obtain ⟨late, last⟩ := right.records middle
    exact ⟨early ++ late, by rwa [← List.append_assoc]⟩
  reapers reaper present := left.reapers reaper (right.reapers reaper present)
  backed backed := right.backed (left.backed backed)

/-! ## Single steps -/

/-- Steps that touch neither reapers nor files of passing use, and refer to nothing new but what is
there. -/
theorem continues_of_rest (fresh : before.fresh ≤ after.fresh)
    (reapers : after.reapers = before.reapers)
    (live : ∀ id, after.isLive id = before.isLive id)
    (referred : ∀ id, .temporary id ∈ after.targets →
      .temporary id ∈ before.targets ∨ before.isLive id = true) : Continues before after where
  records {_ history} recorded := by
    refine ⟨[], ?_⟩
    rw [List.append_nil]
    exact recorded.bystands ⟨fresh, by rw [reapers], fun id _ => live id,
      fun id isLive => .inl ((live id).symm.trans isLive)⟩
  reapers _ present := by rwa [reapers] at present
  backed backed id member := by
    rw [live]
    exact (referred id member).elim (backed id) fun isLive => isLive

/-- Steps that keep the links. -/
theorem KeepsLinks.continues (kept : KeepsLinks before after)
    (reapers : after.reapers = before.reapers) (live : ∀ id, after.isLive id = before.isLive id) :
    Continues before after :=
  continues_of_rest kept.fresh reapers live fun id member => .inl (by rwa [kept.targets] at member)

/-- Quiet steps that touch no reaper. -/
theorem Quiet.continues (quiet : Quiet before after) (reapers : after.reapers = before.reapers) :
    Continues before after :=
  quiet.toKeepsLinks.continues reapers fun id => by rw [isLive, isLive, quiet.temporaries]

theorem log_continues (session : Session) (events : List Event) :
    Continues session (session.log events) :=
  Quiet.continues ⟨⟨rfl, Nat.le_refl _⟩, rfl, rfl⟩ rfl

theorem files_continues (session : Session) (files : Files) :
    Continues session { session with files } :=
  KeepsLinks.continues ⟨rfl, Nat.le_refl _⟩ rfl fun _ => rfl

/-- Of a reaper's own files one more is tracked, and another reaper has no part in it. -/
theorem track_continues (session : Session) (reaper : Nat) (path : String) :
    Continues session (session.track reaper path).1 where
  records {other history} recorded := by
    by_cases same : other = reaper
    · subst same
      exact ⟨_, recorded.tracked path⟩
    · refine ⟨[], ?_⟩
      rw [List.append_nil]
      refine recorded.bystands ⟨Nat.le_succ _, ?_, ?_, track_tracksGiven session reaper path⟩
      · have updated := Table.get?_update session.reapers reaper other
          (Reaper.track session.isLive (trackedName path) session.fresh)
        rwa [if_neg same] at updated
      · intro id given
        rw [Bool.eq_iff_iff, isLive, track_has, or_iff_left (by omega)]
        rfl
  reapers other present := by
    have updated : (session.track reaper path).1.reapers.get? other = _ :=
      Table.get?_update session.reapers reaper other
        (Reaper.track session.isLive (trackedName path) session.fresh)
    rw [Table.has, updated] at present
    split at present
    · rwa [Option.isSome_map] at present
    · exact present
  backed backed id member := by
    rw [(track_keepsLinks session reaper path).targets] at member
    exact track_has.mpr (.inl (backed id member))

/-- The reaper that sweeps tells so, and another one has no part in it. -/
theorem sweep_continues (session : Session) (reaper : Nat) :
    Continues session (session.sweep reaper).1 := by
  cases listed : session.reapers.get? reaper with
  | none =>
    have idle : session.sweep reaper = (session, 0) := by rw [sweep, listed]
    rw [idle]
    exact .refl session
  | some entries =>
    have kept := sweep_keepsLinks session reaper
    have isLive := isLive_sweep session reaper
    have reapers (other : Nat) (differs : other ≠ reaper) :
        (session.sweep reaper).1.reapers.get? other = session.reapers.get? other := by
      have updated := Table.get?_update session.reapers reaper other
        fun _ => entries.live session.isLive
      rw [if_neg differs] at updated
      rw [sweep, listed]
      exact updated
    constructor
    · intro other history recorded
      by_cases same : other = reaper
      · subst same
        exact ⟨_, recorded.swept⟩
      · refine ⟨[], ?_⟩
        rw [List.append_nil]
        exact recorded.bystands ⟨kept.fresh, reapers other same, fun id _ => congrFun isLive id,
          fun id there => .inl ((congrFun isLive id).symm.trans there)⟩
    · intro other present
      by_cases same : other = reaper
      · rw [same, Table.has, listed, Option.isSome_some]
      · rwa [Table.has, reapers other same] at present
    · intro backed id member
      rw [kept.targets] at member
      rw [isLive]
      exact backed id member

/-- A file that was released is there still. -/
theorem release_continues (session : Session) (id : Nat) :
    Continues session (session.release id).1 :=
  (release_keepsLinks session id).continues (by rw [release_rest]) (release_has session id)

/-- A file that nothing refers to is dropped, unless it is not there. -/
theorem dropTemporary_continues {id : Nat} (unreferred : .temporary id ∉ session.targets) :
    Continues session (session.dropTemporary id) := by
  have kept := dropTemporary_keepsLinks session id
  have reapers : (session.dropTemporary id).reapers = session.reapers := by rw [dropTemporary_rest]
  cases there : session.isLive id with
  | false =>
    refine kept.continues reapers fun other => ?_
    rw [Bool.eq_iff_iff, isLive_dropTemporary, and_iff_left_iff_imp]
    rintro present rfl
    exact absurd (present.symm.trans there) (by decide)
  | true =>
    constructor
    · exact fun recorded => ⟨_, recorded.dropped there unreferred⟩
    · exact fun reaper present => by rwa [reapers] at present
    · intro backed other member
      rw [kept.targets] at member
      refine (isLive_dropTemporary session id other).mpr ⟨backed other member, ?_⟩
      rintro rfl
      exact unreferred member

/-! ## Letting go -/

theorem dropTemporaries_continues (dead : List Nat)
    (unreferred : ∀ id ∈ dead, .temporary id ∉ session.targets) :
    Continues session (dead.foldl dropTemporary session) := by
  induction dead generalizing session with
  | nil => exact .refl session
  | cons first rest inductionHypothesis =>
    refine (dropTemporary_continues (unreferred first List.mem_cons_self)).trans
      (inductionHypothesis fun id member => ?_)
    rw [(dropTemporary_keepsLinks session first).targets]
    exact unreferred id (List.mem_cons_of_mem _ member)

/-- Loaders that are let go of refer to nothing any more, and then the files are dropped that nothing
refers to. -/
theorem settle_continues (session : Session) : Continues session session.settle := by
  have pruned := session.keptLoaders_pruned
  have kept : Continues session session.keptLoaders := by
    refine continues_of_rest ?_ ?_ ?_ fun id member => .inl (pruned.targets_subset member)
    · rw [pruned.rest]
    · rw [pruned.rest]
    · intro id
      rw [isLive, isLive, pruned.rest]
  rw [settle_eq]
  refine kept.trans (dropTemporaries_continues _ fun id dead referred => ?_)
  have apart := (List.mem_filter.mp dead).2
  rw [List.contains_iff_mem.mpr referred] at apart
  cases apart

/-- Changes of what refers to what, but for references to files that are not there. -/
theorem relinked_continues (units : after.units = before.units)
    (temporaries : after.temporaries = before.temporaries) (reapers : after.reapers = before.reapers)
    (fresh : before.fresh ≤ after.fresh)
    (held : ∀ holder id, (holder, .temporary id) ∈ after.held →
      (holder, .temporary id) ∈ before.held ∨ before.isLive id = true) : Continues before after := by
  refine continues_of_rest fresh reapers (fun id => by rw [isLive, isLive, temporaries]) ?_
  intro id member
  rcases temporary_mem_targets.mp member with ⟨holder, holds⟩ | unit
  · exact (held holder id holds).imp_left fun early =>
      temporary_mem_targets.mpr (.inl ⟨holder, early⟩)
  · rw [units] at unit
    exact .inl (temporary_mem_targets.mpr (.inr unit))

/-- A new unit refers to no file of passing use but one that is there. -/
theorem addUnit_continues (session : Session) {unit : LoadedUnit}
    (there : ∀ id ∈ unit.temporary, session.isLive id = true) :
    Continues session (session.addUnit unit).1 := by
  refine continues_of_rest (Nat.le_succ _) rfl (fun _ => rfl) fun id member => ?_
  rcases temporary_mem_targets.mp member with held | ⟨entry, listed, refers⟩
  · exact .inl (temporary_mem_targets.mpr (.inl held))
  · rcases List.mem_append.mp listed with earlier | new
    · exact .inl (temporary_mem_targets.mpr (.inr ⟨entry, earlier, refers⟩))
    · rw [List.mem_singleton.mp new] at refers
      exact .inr (there id refers)

/-! ## Loads and definitions -/

theorem register_continues (session : Session) (id : Nat) (name artifact : String)
    {temporary : Option Nat} (there : ∀ made ∈ temporary, session.isLive made = true) :
    Continues session (session.register id name artifact temporary).1 := by
  rcases session.register_cases id name artifact temporary with
    ⟨error, failed⟩ | ⟨resolver, size, content, _, _, _, succeeded⟩
  · rw [failed]
    exact .refl session
  · rw [succeeded, enlist_eq]
    have added : Continues session
        (session.addUnit (unitOf resolver name artifact temporary content)).1 :=
      session.addUnit_continues there
    have enlisted : Continues _ (session.enlisted id _) :=
      added.trans (relinked_continues rfl rfl rfl (Nat.le_refl _) fun _ _ => .inl)
    exact enlisted.trans (settle_continues _)

theorem unmarkBusy_continues (session : Session) (id : Nat) (thread : Thread) :
    Continues session (session.unmarkBusy id thread) :=
  (unmarkBusy_quiet session id thread).continues rfl

theorem discard_reapers (session : Session) (path : String) :
    (session.discard path).reapers = session.reapers := by
  unfold discard
  split <;> rfl

theorem discard_continues (session : Session) (path : String) :
    Continues session (session.discard path) :=
  (discard_keepsLinks session path).continues (discard_reapers session path) fun id => by
    rw [isLive, isLive, discard_temporaries]

theorem stage_continues (session : Session) (staging : Staging) (key : String)
    (extension : Option String) (create : Bool) :
    Continues session (session.stage staging key extension create).1 := by
  refine (stage_keepsLinks session staging key extension create).continues ?_ fun id => ?_
  · rw [stage_rest]
  · rw [isLive, isLive, stage_temporaries]

/-- Noting that a compile left nothing behind drops no file. -/
theorem rejectEmpty_continues (session : Session) (id : Nat) (resolver : Resolver)
    (archive output : String) (temporary : Option Nat) :
    Continues session (session.rejectEmpty id resolver archive output temporary) := by
  refine (rejectEmpty_keepsLinks session id resolver archive output temporary).continues ?_
    (rejectEmpty_has session id resolver archive output temporary)
  have dumped (noted : Session) : (noted.dump archive).reapers = noted.reapers := by
    unfold dump
    split <;> rfl
  unfold rejectEmpty
  dsimp only
  cases temporary with
  | some temporary =>
    dsimp only
    rw [release_rest]
    split
    · rw [dumped]
      rfl
    · rfl
  | none =>
    dsimp only
    rw [discard_reapers]
    split
    · rw [dumped]
      rfl
    · rfl

/-- Compiling drops the file of passing use that it was given, unless it is registered. -/
theorem compile_continues (session : Session) (id : Nat) (resolver : Resolver) (thread : Thread)
    (archive output name : String) {temporary : Option Nat}
    (there : ∀ made ∈ temporary, session.isLive made = true) :
    Continues session (session.compile id resolver thread archive output name temporary).1 := by
  have marked : Continues session (session.markBusy id thread) :=
    (markBusy_quiet session id thread).continues rfl
  have invoked : Continues (session.markBusy id thread)
      ((session.markBusy id thread).invoke id resolver thread ⟨archive, output, true⟩).1 :=
    (invoke_keepsLinks _ id resolver thread _).continues rfl fun _ => rfl
  have lives (made : Nat) : Session.isLive
      ((session.markBusy id thread).invoke id resolver thread ⟨archive, output, true⟩).1 made =
        session.isLive made := rfl
  have compiled : Continues (session.markBusy id thread)
      ((session.markBusy id thread).compileMarked id resolver thread archive output name
        temporary).1 := by
    unfold compileMarked
    split
    · next heard =>
      rw [heard] at invoked
      exact invoked
    · next later _ heard =>
      rw [heard] at invoked lives
      split
      · exact invoked.trans (rejectEmpty_continues later id resolver archive output temporary)
      · exact invoked.trans (register_continues later id name output fun made given =>
          (lives made).trans (there made given))
  unfold Session.compile
  exact ((marked.trans compiled).trans (unmarkBusy_continues _ id thread)).trans (settle_continues _)

/-- A file is tracked for what is compiled, and it is there then. -/
theorem compileTemporary_continues (session : Session) (id : Nat) (resolver : Resolver)
    (thread : Thread) (archive : String) :
    Continues session (session.compileTemporary id resolver thread archive).1 := by
  have staged := session.stage_continues resolver.staging ("unit-" ++ archive)
    resolver.staging.artifactExtension true
  unfold compileTemporary
  dsimp only
  split
  · next heard =>
    rw [heard] at staged
    exact staged
  · next after output heard =>
    rw [heard] at staged
    refine (staged.trans (track_continues after resolver.reaper output)).trans
      (compile_continues _ id resolver thread archive output _ ?_)
    rintro _ ⟨⟩
    exact track_has.mpr (.inr rfl)

theorem compileBytes_continues (session : Session) (id : Nat) (resolver : Resolver)
    (thread : Thread) (name : String) (content : Bytes) :
    Continues session (session.compileBytes id resolver thread name content).1 := by
  have staged := session.stage_continues resolver.staging name
    (some resolver.staging.archiveExtension) false
  unfold compileBytes
  split
  · next heard =>
    rw [heard] at staged
    exact staged
  · next later archive heard =>
    rw [heard] at staged
    have packaged (files : Files) := staged.trans (files_continues later files)
    split
    · exact (packaged _).trans (discard_continues _ archive)
    · exact ((packaged _).trans (compileTemporary_continues _ id resolver thread archive)).trans
        (discard_continues _ archive)

theorem compileContainer_continues (session : Session) (id : Nat) (resolver : Resolver)
    (thread : Thread) (container output name : String) :
    Continues session (session.compileContainer id resolver thread container output name).1 := by
  have staged := session.stage_continues resolver.staging container
    (some resolver.staging.archiveExtension) false
  unfold compileContainer
  split
  · next heard =>
    rw [heard] at staged
    exact staged
  · next later archive heard =>
    rw [heard] at staged
    have packaged (files : Files) := staged.trans (files_continues later files)
    split
    · exact (packaged _).trans (discard_continues _ archive)
    · next files _ _ =>
      have compiled := (packaged files).trans (compile_continues _ id resolver thread archive output
        name (show ∀ made ∈ none, _ by simp))
      split
      · next compiledTo =>
        rw [compiledTo] at compiled
        exact compiled.trans (discard_continues _ archive)
      · next compiledTo =>
        rw [compiledTo] at compiled
        exact (compiled.trans (discard_continues _ output)).trans (discard_continues _ archive)

/-- A look-up does not touch reapers. -/
theorem continues_follows : Follows Continues where
  refl := .refl
  trans := .trans
  log := log_continues
  makeSymbol session id name unit body :=
    (quiet_follows.makeSymbol session id name unit body).continues rfl
  remember session id name symbol := by
    refine (quiet_follows.remember session id name symbol).continues ?_
    unfold remember
    split
    · rfl
    · split <;> rfl

theorem define_continues (session : Session) (id : Nat) (thread : Thread) (name : String)
    (content : Bytes) : Continues session (session.define id thread name content).1 := by
  unfold define
  split
  · exact .refl session
  · next resolver _ =>
    have compiled := session.compileBytes_continues id resolver thread name content
    split
    · next heard =>
      rw [heard] at compiled
      exact compiled
    · next after unit heard =>
      rw [heard] at compiled
      have found := compiled.trans (continues_follows.find after (.unit unit) name)
      unfold readBack
      split <;> next asked => rw [asked] at found; exact found

theorem loadContainer_continues (session : Session) (id : Nat) (thread : Thread)
    (container : String) : Continues session (session.loadContainer id thread container).1 := by
  unfold loadContainer
  split
  · exact .refl session
  · next resolver _ =>
    split
    · exact .refl session
    · split
      · exact .refl session
      · unfold compileOrReuse
        dsimp only
        split
        · exact session.compileContainer_continues id resolver thread container _ _
        · exact session.register_continues id _ _ (by simp)

theorem loadArtifact_continues (session : Session) (id : Nat) (artifact : String) :
    Continues session (session.loadArtifact id artifact).1 := by
  unfold loadArtifact
  split
  · exact session.register_continues id _ artifact (by simp)
  · exact .refl session

/-! ## Unloads and time -/

theorem pass_continues (session : Session) (time : Nat) : Continues session (session.pass time) :=
  session.pass_keeps time (fun _ _ => Quiet.continues ⟨⟨rfl, Nat.le_refl _⟩, rfl, rfl⟩ rfl)
    fun later id thread continues => continues.trans (unmarkBusy_continues later id thread)

theorem wait_continues (session : Session) (id : Nat) (thread : Option Thread) :
    Continues session (session.wait id thread).1 :=
  wait_keeps (Continues.refl session) id thread
    (fun later time continues => continues.trans (pass_continues later time))
    fun later events continues => continues.trans (log_continues later events)

theorem purge_continues (session : Session) (layout : Layout) :
    Continues session (session.purge layout).1 :=
  (purge_keepsLinks session layout).continues rfl fun _ => rfl

theorem unload_continues (session : Session) (id : Nat) :
    Continues session (session.unload id).1 := by
  unfold unload
  split
  · exact .refl session
  · next resolver _ =>
    have emptied : Continues session ((session.purge resolver.layout).1.updateResolver id
        fun resolver => { resolver with registry := [] }) :=
      (purge_continues session resolver.layout).trans
        (relinked_continues rfl rfl rfl (Nat.le_refl _) fun _ _ => .inl)
    exact emptied.trans (settle_continues _)

theorem unloadAfter_continues (session : Session) (id : Nat) (thread : Option Thread)
    (policy : UnloadPolicy) : Continues session (session.unloadAfter id thread policy).1 := by
  have waited := wait_continues session id thread
  unfold unloadAfter
  dsimp only
  split
  · exact waited.trans (log_continues _ _)
  · have unloaded := waited.trans (unload_continues _ id)
    split <;> next heard => rw [heard] at unloaded; exact unloaded

/-! ## Hosts that copy references -/

/-- Every reaper has a history, and nothing refers to a file that is not there. -/
structure Chronicled (session : Session) : Prop where
  backed : Backed session
  histories : ∀ reaper, session.reapers.has reaper = true →
    ∃ history, Recorded reaper history session

theorem Continues.chronicled (continues : Continues before after) (chronicled : Chronicled before) :
    Chronicled after where
  backed := continues.backed chronicled.backed
  histories reaper present := by
    obtain ⟨history, recorded⟩ := chronicled.histories reaper (continues.reapers reaper present)
    obtain ⟨later, goesOn⟩ := continues.records recorded
    exact ⟨history ++ later, goesOn⟩

/-- A reaper has a number that was given. -/
theorem Recorded.given {reaper : Nat} {history : History}
    (recorded : Recorded reaper history session) : reaper < session.fresh := by
  induction recorded with
  | made isMade =>
    rw [isMade]
    exact Nat.lt_succ_self _
  | bystands _ bystands given => exact Nat.lt_of_lt_of_le given bystands.fresh
  | tracked _ path given => exact Nat.lt_succ_of_lt given
  | @dropped _ before _ id _ _ given =>
    exact Nat.lt_of_lt_of_le given (dropTemporary_keepsLinks before id).fresh
  | @swept _ before _ given => exact Nat.lt_of_lt_of_le given (sweep_keepsLinks before _).fresh

/-- The history of a new reaper begins, and the others have no part in it. -/
theorem Chronicled.addReaper (chronicled : Chronicled session) (numbered : Numbered session) :
    Chronicled session.addReaper.1 where
  backed := chronicled.backed
  histories reaper present := by
    have added : session.addReaper.1.reapers.get? reaper = _ :=
      Table.get?_add session.reapers session.fresh reaper []
    by_cases new : reaper = session.fresh
    · refine ⟨[], .made new ?_ numbered.temporaries⟩
      -- A reaper that had the number would have a history, and the number would have been given.
      by_contra known
      obtain ⟨history, recorded⟩ := chronicled.histories reaper
        (Option.isSome_iff_ne_none.mpr known)
      exact absurd recorded.given (by omega)
    · rw [if_neg new, Option.or_none] at added
      rw [Table.has, added] at present
      obtain ⟨history, recorded⟩ := chronicled.histories reaper present
      exact ⟨history, recorded.bystands
        ⟨Nat.le_succ _, added, fun _ _ => rfl, fun _ isLive => .inl isLive⟩⟩

/-- What a host may do at any time that gets at a reference only by copying one that there is. What
makes something new without holding it is left to `bindHeld` and `trackHeld`. -/
def Copying (session : Session) : Operation → Prop
  | .bind .. | .track .. => False
  | .hold _ (.temporary id) => .temporary id ∈ session.targets
  | .register _ _ _ temporary => ∀ id ∈ temporary, .temporary id ∈ session.targets
  | _ => True

/-- The sessions of a host that copies references: it holds only what something refers to already,
and what it binds or tracks it holds at once. -/
inductive Owned : Session → Prop where
  | start (files : Files) : Owned { files }
  | perform {session : Session} (owned : Owned session) {operation : Operation}
      (copying : Copying session operation) : Owned (session.perform operation)
  | bindHeld {session : Session} (owned : Owned session) (holder : String) (platform : Platform)
      (name artifact libraries : String) (parent : Option Loader) :
      Owned (session.bindHeld holder platform name artifact libraries parent)
  | trackHeld {session : Session} (owned : Owned session) (holder : String) (reaper : Nat)
      (path : String) : Owned (session.trackHeld holder reaper path)

/-- A host that copies references is careful: it copies them to what was given. -/
theorem Owned.hosted (owned : Owned session) : Hosted session := by
  induction owned with
  | start files => exact .start files
  | @perform session _ operation copying hosted =>
    refine hosted.perform ?_
    have given := hosted.clean.numbered.referred
    cases operation with
    | hold holder target =>
      cases target with
      | loader loader => trivial
      | temporary id => exact given id copying
    | register id name artifact temporary => exact fun made member => given made (copying made member)
    | bind | track => exact copying
    | _ => trivial
  | bindHeld _ holder platform name artifact libraries parent hosted =>
    exact hosted.bindHeld holder platform name artifact libraries parent
  | trackHeld _ holder reaper path hosted => exact hosted.trackHeld holder reaper path

/-- Holding what is there, in place of what was held. -/
theorem hold_continues (session : Session) (holder : String) {target : Target}
    (there : ∀ id, target = .temporary id → session.isLive id = true) :
    Continues session (session.hold holder target).settle := by
  have held : Continues session (session.hold holder target) := by
    refine relinked_continues rfl rfl rfl (Nat.le_refl _) fun name id listed => ?_
    rcases List.mem_append.mp listed with earlier | new
    · exact .inl (List.mem_filter.mp earlier).1
    · exact .inr (there id (Prod.mk.inj (List.mem_singleton.mp new)).2.symm)
  exact held.trans (settle_continues _)

/-- Opening a resolver makes a reaper, unless the opening fails. -/
theorem Chronicled.openHeld (chronicled : Chronicled session) (numbered : Numbered session)
    (holder : String) (config : Config) (compiler : Compiler) (platform : Platform)
    (parent : Option Loader) :
    Chronicled (session.openHeld holder config compiler platform parent) := by
  unfold Session.openHeld openResolver
  cases config.flaw? with
  | some flaw => exact chronicled
  | none =>
    have kept := prepare_keepsLinks session (Staging.ofConfig config).layout parent
    have made := session.prepare_temporaries (Staging.ofConfig config).layout parent
    have reapers : (session.prepare (Staging.ofConfig config).layout parent).1.reapers =
        session.reapers := by
      unfold prepare
      split <;> rfl
    have prepared := (kept.continues reapers fun id => by rw [isLive, isLive, made]).chronicled
      chronicled
    have given := numbered.same kept made
    dsimp only
    rcases heard : session.prepare (Staging.ofConfig config).layout parent with
      ⟨later, error | ⟨⟩⟩
    all_goals rw [heard] at prepared given
    · exact prepared
    · refine Continues.chronicled ?_ (prepared.addReaper given)
      refine Continues.trans ?_ (hold_continues _ holder fun _ impossible => by cases impossible)
      exact relinked_continues rfl rfl rfl (Nat.le_succ _) fun _ _ => .inl

/-- What is referred to stays, and so does every history, whatever such a host does. -/
theorem Chronicled.perform (chronicled : Chronicled session) (numbered : Numbered session)
    {operation : Operation} (copying : Copying session operation) :
    Chronicled (session.perform operation) := by
  have quiet {after : Session} (quiet : Quiet session after)
      (reapers : after.reapers = session.reapers) : Chronicled after :=
    (quiet.continues reapers).chronicled chronicled
  cases operation with
  | changeFiles change => exact (files_continues session _).chronicled chronicled
  | addSystem => exact quiet ⟨⟨rfl, Nat.le_succ _⟩, rfl, rfl⟩ rfl
  | defineSystem id name content => exact quiet ⟨⟨rfl, Nat.le_succ _⟩, rfl, rfl⟩ rfl
  | openResolver holder config compiler platform parent =>
    exact chronicled.openHeld numbered holder config compiler platform parent
  | setCompiler id compiler => exact quiet (updateResolver_quiet session id _ fun _ => rfl) rfl
  | define id thread name content =>
    exact (define_continues session id thread name content).chronicled chronicled
  | loadContainer id thread container =>
    exact (loadContainer_continues session id thread container).chronicled chronicled
  | loadArtifact id artifact =>
    exact (loadArtifact_continues session id artifact).chronicled chronicled
  | register id name artifact temporary =>
    exact (register_continues session id name artifact fun made member =>
      chronicled.backed made (copying made member)).chronicled chronicled
  | bind => exact absurd copying id
  | unload id => exact (unload_continues session id).chronicled chronicled
  | unloadAfter id thread policy =>
    exact (unloadAfter_continues session id thread policy).chronicled chronicled
  | setLocal id loader =>
    have relinked : Continues session (session.updateResolver id fun resolver =>
        { resolver with localUnit := loader, defined := [] }) :=
      relinked_continues rfl rfl rfl (Nat.le_refl _) fun _ _ => .inl
    exact (relinked.trans (settle_continues _)).chronicled chronicled
  | find loader name => exact (continues_follows.find session loader name).chronicled chronicled
  | findRegistered id name =>
    exact (continues_follows.findRegistered session id name).chronicled chronicled
  | hold holder target =>
    refine (hold_continues session holder ?_).chronicled chronicled
    rintro id rfl
    exact chronicled.backed id copying
  | letGo holder =>
    have relinked : Continues session { session with
        held := session.held.filter fun entry => entry.1 ≠ holder } :=
      relinked_continues rfl rfl rfl (Nat.le_refl _) fun _ _ listed =>
        .inl (List.mem_filter.mp listed).1
    exact (relinked.trans (settle_continues _)).chronicled chronicled
  | addReaper => exact chronicled.addReaper numbered
  | track => exact absurd copying id
  | release temporary => exact (release_continues session temporary).chronicled chronicled
  | sweep reaper => exact (sweep_continues session reaper).chronicled chronicled
  | markBusy id thread => exact quiet (markBusy_quiet session id thread) rfl
  | unmarkBusy id thread => exact (unmarkBusy_continues session id thread).chronicled chronicled
  | pass time => exact (pass_continues session time).chronicled chronicled
  | departLater id thread time => exact quiet ⟨⟨rfl, Nat.le_refl _⟩, rfl, rfl⟩ rfl

/-- Every reaper of a host that copies references has a history, and nothing dangles. -/
theorem Owned.chronicled (owned : Owned session) : Chronicled session := by
  induction owned with
  | start files => exact ⟨by simp [Backed, targets], by simp [Table.has]⟩
  | perform owned copying chronicled =>
    exact chronicled.perform owned.hosted.clean.numbered copying
  | @bindHeld session _ holder platform name artifact libraries parent chronicled =>
    unfold Session.bindHeld Session.bind
    cases UnitContent.bind platform session.files artifact with
    | error error => exact chronicled
    | ok content =>
      have added : Continues session (session.addUnit
          ⟨name, artifact, libraries, parent, content, [], none⟩).1 :=
        session.addUnit_continues (by simp)
      exact (added.trans (hold_continues _ holder fun _ impossible => by cases impossible)).chronicled
        chronicled
  | @trackHeld session _ holder reaper path chronicled =>
    refine ((track_continues session reaper path).trans (hold_continues _ holder ?_)).chronicled
      chronicled
    rintro _ ⟨⟩
    exact track_has.mpr (.inr rfl)

/-- In between two operations, the files are there that something refers to. -/
theorem Owned.isLive_iff (owned : Owned session) (id : Nat) :
    session.isLive id = true ↔ .temporary id ∈ session.targets := by
  refine ⟨fun present => ?_, owned.chronicled.backed id⟩
  obtain ⟨temporary, there⟩ := Option.isSome_iff_exists.mp present
  exact owned.hosted.clean.settled id temporary there

/-- A reaper lists the same names when a file was released. -/
theorem liveNames_release (session : Session) (reaper id : Nat) :
    (session.release id).1.liveNames reaper = session.liveNames reaper := by
  have isLive : (session.release id).1.isLive = session.isLive := funext (release_has session id)
  rw [liveNames, liveNames, isLive, release_rest]

/-- Reapers tell what happened to them. Whatever a host does that copies references, every reaper
has a history. It names the tracked files that something refers to, one name for each call in the
order of the calls, whether they were released or not, and it counts as many. A sweep tells how many
were dropped since the reaper last tracked a file or swept, and changes neither names nor count.
After both, the reaper's list holds live files only. Nothing refers to a file that is not there, for
a host that copies references; so a file is gone exactly when its history says that it was dropped.
-/
theorem recounts_of_owned (owned : Owned session) {reaper : Nat}
    (present : session.reapers.has reaper = true) :
    (∃ history, Recorded reaper history session) ∧
      ∀ history, Recorded reaper history session →
        Recounts reaper history session ∧
        (∀ entry ∈ history.tracked, entry ∈ history.live ↔ .temporary entry.2 ∈ session.targets) ∧
        ∀ id, (session.release id).1.liveNames reaper = session.liveNames reaper := by
  refine ⟨owned.chronicled.histories reaper present, fun history recorded =>
    ⟨recorded.recounts, ?_, fun id => liveNames_release session reaper id⟩⟩
  intro entry member
  rw [← owned.isLive_iff, recorded.tallied.live entry member, History.live, List.mem_filter,
    decide_eq_true_eq, and_iff_right member]

/-- A reaper has tracked two files. -/
def twoTracked : Session :=
  ((Session.perform { files := ⟨[], 0⟩ } .addReaper).trackHeld "first" 0 "/one.unit").trackHeld
    "second" 0 "/two.unit"

/-- A reference to the first is copied, then that file is released and the reference that was copied
is dropped. To the second, the only reference is dropped. -/
def copiedReference : Session :=
  (((twoTracked.perform (.hold "copy" (.temporary 1))).perform (.release 1)).perform
    (.letGo "first")).perform (.letGo "second")

/-- Of two tracked files, one is released and loses the reference that was copied, and the other
loses its only reference. The copy keeps the first file live, and a sweep would find the second. -/
theorem recounts_of_owned_copied :
    copiedReference.liveNames 0 = ["one.unit"] ∧ (copiedReference.sweep 0).2 = 1 ∧
      (∃ history, Recorded 0 history copiedReference) ∧
        ∀ history, Recorded 0 history copiedReference →
          Recounts 0 history copiedReference ∧
          (∀ entry ∈ history.tracked,
            entry ∈ history.live ↔ .temporary entry.2 ∈ copiedReference.targets) ∧
          ∀ id, (copiedReference.release id).1.liveNames 0 = copiedReference.liveNames 0 := by
  have made : Owned (Session.perform { files := ⟨[], 0⟩ } .addReaper) :=
    .perform (.start ⟨[], 0⟩) (show Copying _ .addReaper from trivial)
  have tracked : Owned twoTracked := .trackHeld (.trackHeld made "first" 0 "/one.unit") "second" 0 _
  have referred : .temporary 1 ∈ twoTracked.targets := by decide +kernel
  have copied : Owned (twoTracked.perform (.hold "copy" (.temporary 1))) := tracked.perform referred
  have released : Owned (Session.perform _ (.release 1)) :=
    copied.perform (show Copying _ (.release 1) from trivial)
  have dropped : Owned (Session.perform _ (.letGo "first")) :=
    released.perform (show Copying _ (.letGo "first") from trivial)
  have owned : Owned copiedReference :=
    dropped.perform (show Copying _ (.letGo "second") from trivial)
  exact ⟨by decide +kernel, by decide +kernel, recounts_of_owned owned (by decide +kernel)⟩

end Session

end Hotload
