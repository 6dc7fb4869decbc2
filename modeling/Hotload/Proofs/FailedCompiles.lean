import Hotload.Proofs.HostRuns
import Hotload.Proofs.RegistrationRuns
import Hotload.Proofs.UndrawnTokens

/-!
# Compiles that fail

A compile can fail in the compiler, because the artifact is empty, or because the artifact cannot be
bound. In the end all loaders are as they were, but for the failure that the resolver remembers after
an empty artifact. A file of passing use that was tracked for the compile is forgotten and its file
is gone; of a lasting artifact, what the compiler left may still be there, and whoever called the
compile has to remove it.
-/

namespace Hotload

open Files

namespace Table

variable {α : Type}

/-- A change that changes nothing. -/
theorem update_idle (table : Table α) (id : Nat) {change : α → α}
    (idle : ∀ value, change value = value) : table.update id change = table := by
  unfold update
  refine (List.map_congr_left fun entry _ => ?_).trans (List.map_id table)
  split
  · next here =>
    rw [idle, ← here]
    rfl
  · rfl

/-- Two changes under one number are one change. -/
theorem update_update (table : Table α) (id : Nat) (first second : α → α) :
    (table.update id first).update id second =
      table.update id fun value => second (first value) := by
  unfold update
  rw [List.map_map]
  refine List.map_congr_left fun entry _ => ?_
  by_cases here : entry.1 = id <;> simp [here]

/-- A value that is added under a new number is found there. -/
theorem get?_add_new (table : Table α) {id : Nat} (vacant : table.has id = false) (value : α) :
    (table.add id value).get? id = some value := by
  have nothing : table.get? id = none := by simpa [has] using vacant
  rw [get?_add, nothing, Option.none_or, if_pos rfl]

/-- A value that was just added is changed, and no other. -/
theorem update_add (table : Table α) {id : Nat} (vacant : table.has id = false) (value : α)
    (change : α → α) : (table.add id value).update id change = table.add id (change value) := by
  have others : table.update id change = table := by
    unfold update
    refine (List.map_congr_left fun entry listed => ?_).trans (List.map_id table)
    split
    · next here =>
      rw [has_iff.mpr (List.mem_map.mpr ⟨entry, listed, here⟩)] at vacant
      cases vacant
    · rfl
  have parts : (table.add id value).update id change =
      table.update id change ++ update [(id, value)] id change := List.map_append
  rw [parts, others]
  simp [update, add]

/-- A value that was just added is taken out again, and no other. -/
theorem filter_add (table : Table α) {id : Nat} (vacant : table.has id = false) (value : α) :
    (table.add id value).filter (fun entry => entry.1 ≠ id) = table := by
  have others : table.filter (fun entry => entry.1 ≠ id) = table := by
    refine List.filter_eq_self.mpr fun entry listed => ?_
    refine decide_eq_true fun here => ?_
    rw [has_iff.mpr (List.mem_map.mpr ⟨entry, listed, here⟩)] at vacant
    cases vacant
  unfold add
  rw [List.filter_append, others]
  simp

end Table

namespace BusySet

/-- Setting the markers of a thread shows for that thread only. -/
theorem lookup_setDepth (busy : BusySet) (thread : Thread) (depth : Nat) (other : Thread) :
    (busy.setDepth thread depth).lookup other =
      if other = thread then (busy.lookup other).map fun _ => depth else busy.lookup other := by
  exact Files.lookup_replace busy thread depth other

/-- Taking a thread out of the set shows for that thread only. -/
theorem lookup_drop (busy : BusySet) (thread other : Thread) :
    (busy.drop thread).lookup other = if other = thread then none else busy.lookup other := by
  have kept := Files.lookup_filter busy (fun key => decide (key ≠ thread)) other
  rw [drop, kept]
  by_cases same : other = thread <;> simp [same]

/-- A marker that is taken away again leaves every thread with the markers that it had. -/
theorem depth_leave_enter (busy : BusySet) (thread other : Thread) :
    ((busy.enter thread).leave thread).depth other = busy.depth other := by
  unfold enter depth
  cases early : busy.lookup thread with
  | none =>
    have entered : (busy ++ [(thread, 1)]).lookup thread = some 1 := by
      simp [List.lookup_append, early]
    unfold leave
    simp only [entered, Nat.le_refl, ↓reduceIte, lookup_drop]
    by_cases same : other = thread
    · simp [same, early]
    · have away : (other == thread) = false := by simpa using same
      simp [same, List.lookup_append, List.lookup_cons, away]
  | some depth =>
    have entered : (busy.setDepth thread (depth + 1)).lookup thread = some (depth + 1) := by
      simp [lookup_setDepth, early]
    unfold leave
    simp only [entered]
    split
    · next few =>
      have zero : depth = 0 := by omega
      by_cases same : other = thread <;> simp [lookup_drop, lookup_setDepth, same, early, zero]
    · by_cases same : other = thread <;> simp [lookup_setDepth, same, early]

end BusySet

/-- What a resolver is, but for the failure that it may remember; its busy threads count by their
markers. -/
def Resolver.standing (resolver : Resolver) : Resolver × (Thread → Nat) :=
  ({ resolver with busy := [], hasFailed := false }, resolver.busy.depth)

namespace Session

variable {session before after : Session}

/-- All loaders are as they were, but for failures that resolvers may remember. -/
structure Calm (before after : Session) : Prop where
  units : after.units = before.units
  systems : after.systems = before.systems
  held : after.held = before.held
  resolvers : after.resolvers.mapValues Resolver.standing =
    before.resolvers.mapValues Resolver.standing
  fresh : before.fresh ≤ after.fresh

theorem Calm.refl (session : Session) : Calm session session :=
  ⟨rfl, rfl, rfl, rfl, Nat.le_refl _⟩

theorem Calm.trans {first second third : Session} (left : Calm first second)
    (right : Calm second third) : Calm first third :=
  ⟨right.units.trans left.units, right.systems.trans left.systems, right.held.trans left.held,
    right.resolvers.trans left.resolvers, Nat.le_trans left.fresh right.fresh⟩

/-- The references of a resolver can be told from its standing. -/
theorem mapValues_links (resolvers : Table Resolver) :
    resolvers.mapValues Resolver.links =
      (resolvers.mapValues Resolver.standing).mapValues fun standing => standing.1.links := by
  unfold Table.mapValues
  rw [List.map_map]
  rfl

theorem Calm.keepsLinks (calm : Calm before after) : KeepsLinks before after where
  links := by
    simp only [links, calm.units, calm.held, mapValues_links, calm.resolvers]
  fresh := calm.fresh

/-- A resolver that was there stands as it stood. -/
theorem Calm.resolver (calm : Calm before after) (id : Nat) :
    (after.resolvers.get? id).map Resolver.standing =
      (before.resolvers.get? id).map Resolver.standing := by
  rw [← Table.get?_mapValues, ← Table.get?_mapValues, calm.resolvers]

/-- Everything is as it was, but for the tree, the record of what happened, and failures that
resolvers may remember. -/
structure Restored (before after : Session) : Prop extends Calm before after where
  temporaries : after.temporaries = before.temporaries
  liveNames : ∀ reaper, after.liveNames reaper = before.liveNames reaper

theorem Restored.refl (session : Session) : Restored session session :=
  ⟨Calm.refl session, rfl, fun _ => rfl⟩

theorem Restored.trans {first second third : Session} (left : Restored first second)
    (right : Restored second third) : Restored first third :=
  ⟨left.toCalm.trans right.toCalm, right.temporaries.trans left.temporaries,
    fun reaper => (right.liveNames reaper).trans (left.liveNames reaper)⟩

/-- Changes of the tree leave the rest as it was. -/
theorem restored_files (session : Session) (files : Files) :
    Restored session { session with files } :=
  ⟨⟨rfl, rfl, rfl, rfl, Nat.le_refl _⟩, rfl, fun _ => rfl⟩

theorem discard_restored (session : Session) (path : String) :
    Restored session (session.discard path) := by
  unfold discard
  split <;> exact ⟨⟨rfl, rfl, rfl, rfl, Nat.le_refl _⟩, rfl, fun _ => rfl⟩

theorem stage_restored (session : Session) (staging : Staging) (key : String)
    (extension : Option String) (create : Bool) :
    Restored session (session.stage staging key extension create).1 := by
  unfold stage token number
  dsimp only
  split <;> exact ⟨⟨rfl, rfl, rfl, rfl, Nat.le_succ _⟩, rfl, fun _ => rfl⟩

/-! ## What a failing compile comes to -/

/-- Takes back what a compile left behind: a file of passing use is released, a lasting artifact is
deleted. -/
def takeBack (session : Session) (output : String) : Option Nat → Session
  | some temporary => (session.release temporary).1
  | none => session.discard output

/-- A session in which the compiler has run and nothing else has changed but marks and the record. -/
structure Ran (session : Session) (id : Nat) (files : Files) (ran : Session) : Prop where
  files : ran.files = files
  rest : ran = { session with
    files := ran.files, events := ran.events, invocations := ran.invocations,
    resolvers := ran.resolvers }
  resolvers : ∃ failed : Bool, ran.resolvers = session.resolvers.update id fun resolver =>
    { resolver with hasFailed := resolver.hasFailed || failed }

theorem invoke_ran (session : Session) (id : Nat) (resolver : Resolver) (thread : Thread)
    (request : CompileRequest) :
    Ran session id (resolver.compiler request session.files).1
      (session.invoke id resolver thread request).1 :=
  ⟨rfl, rfl, false, (Table.update_idle _ _ fun _ => by simp).symm⟩

theorem Ran.log {ran : Session} {id : Nat} {files : Files} (isRan : Ran session id files ran)
    (events : List Event) : Ran session id files (ran.log events) :=
  ⟨isRan.files, by rw [isRan.rest]; rfl, isRan.resolvers⟩

theorem Ran.dump {ran : Session} {id : Nat} {files : Files} (isRan : Ran session id files ran)
    (archive : String) : Ran session id files (ran.dump archive) := by
  unfold Session.dump
  split <;> exact isRan.log _

/-- The resolver remembers the failure. -/
theorem Ran.fail {ran : Session} {id : Nat} {files : Files} (isRan : Ran session id files ran) :
    Ran session id files (ran.updateResolver id fun resolver =>
      { resolver with hasFailed := true }) := by
  obtain ⟨isFiles, rest, failed, resolvers⟩ := isRan
  refine ⟨isFiles, ?_, true, ?_⟩
  · unfold updateResolver
    rw [rest]
  · simp only [updateResolver, resolvers, Table.update_update, Bool.or_true]

/-- Noting that a compile left nothing behind changes nothing but marks and the record, and then what
was left is taken back. -/
theorem Ran.rejectEmpty {ran : Session} {id : Nat} {files : Files} (isRan : Ran session id files ran)
    (resolver : Resolver) (archive output : String) (temporary : Option Nat) :
    ∃ noted, Ran session id files noted ∧
      ran.rejectEmpty id resolver archive output temporary = noted.takeBack output temporary := by
  have marked := isRan.fail.log [.emptyArtifact]
  unfold Session.rejectEmpty
  by_cases dumps : resolver.dumpsFailedInput = true
  · simp only [dumps, ↓reduceIte]
    exact ⟨_, marked.dump archive, by cases temporary <;> rfl⟩
  · simp only [dumps]
    exact ⟨_, marked, by cases temporary <;> rfl⟩

/-- A compile that fails leaves what the compiler made of the tree, or takes back what it left. -/
theorem compileMarked_error {id : Nat} {resolver : Resolver} {thread : Thread}
    {archive output name : String} {temporary : Option Nat} {error : LoadError}
    (failed : session.compileMarked id resolver thread archive output name temporary =
      (after, .error error)) :
    ∃ ran, Ran session id (resolver.compiler ⟨archive, output, true⟩ session.files).1 ran ∧
      (after = ran ∨ after = ran.takeBack output temporary) := by
  have called := session.invoke_ran id resolver thread ⟨archive, output, true⟩
  unfold compileMarked at failed
  rcases heard : session.invoke id resolver thread ⟨archive, output, true⟩ with
    ⟨ran, cause | outcome⟩
  all_goals rw [heard] at failed called
  · exact ⟨ran, called, .inl (Prod.mk.inj failed).1.symm⟩
  · dsimp only at failed
    split at failed
    · obtain ⟨noted, isNoted, same⟩ := called.rejectEmpty resolver archive output temporary
      exact ⟨noted, isNoted, .inr ((Prod.mk.inj failed).1.symm.trans same)⟩
    · refine ⟨ran, called, .inl ?_⟩
      have unchanged := register_error (congrArg Prod.snd failed)
      rw [failed] at unchanged
      exact unchanged

/-- The files of passing use after one of them was released. -/
def spent (output : String) (temporaries : Table TemporaryFile) : Option Nat → Table TemporaryFile
  | some id => temporaries.update id fun _ => ⟨output, true⟩
  | none => temporaries

/-- What is taken back is removed from the tree. -/
theorem takeBack_eq (session : Session) (output : String) {temporary : Option Nat}
    (tracked : ∀ id ∈ temporary, session.temporaries.get? id = some ⟨output, false⟩) :
    ∃ events, session.takeBack output temporary =
      { session with
        files := (session.files.removeIfExists output).1
        temporaries := spent output session.temporaries temporary
        events } := by
  cases temporary with
  | none =>
    unfold takeBack discard
    rcases session.files.removeIfExists output with ⟨files, error | removed⟩
    · exact ⟨_, rfl⟩
    · exact ⟨session.events, rfl⟩
  | some id =>
    simp only [takeBack, release, tracked id rfl, TemporaryFile.release, Bool.false_eq_true,
      ↓reduceIte]
    rcases session.files.removeIfExists output with ⟨files, error | removed⟩
    · exact ⟨_, rfl⟩
    · exact ⟨session.events, rfl⟩

/-- A session in which a compile has failed and nothing was let go of yet. The tree is what the
compiler made of it, and what the compiler left may have been taken back. -/
structure Unsettled (session : Session) (made : Files) (output : String) (temporary : Option Nat)
    (unsettled : Session) : Prop where
  calm : Calm session unsettled
  reapers : unsettled.reapers = session.reapers
  left : (unsettled.files = made ∧ unsettled.temporaries = session.temporaries) ∨
    (unsettled.files = (made.removeIfExists output).1 ∧
      unsettled.temporaries = spent output session.temporaries temporary)

/-- After the mark of the compile was taken away, all loaders stand as they stood. -/
theorem Ran.unmarked {id : Nat} {thread : Thread} {files : Files} {ran : Session}
    (isRan : Ran (session.markBusy id thread) id files ran) :
    Calm session (ran.unmarkBusy id thread) := by
  obtain ⟨_, rest, failed, resolvers⟩ := isRan
  have standing : ran.unmarkBusy id thread = { session with
      files := ran.files, events := ran.events, invocations := ran.invocations,
      resolvers := (ran.unmarkBusy id thread).resolvers } := by
    unfold unmarkBusy updateResolver
    rw [rest]
    rfl
  refine ⟨?_, ?_, ?_, ?_, ?_⟩
  · rw [standing]
  · rw [standing]
  · rw [standing]
  · simp only [unmarkBusy, updateResolver, resolvers, markBusy, Table.update_update]
    refine Table.mapValues_update session.resolvers Resolver.standing id _ fun resolver => ?_
    simp only [Resolver.standing, Prod.mk.injEq, true_and]
    exact funext fun other => BusySet.depth_leave_enter resolver.busy thread other
  · rw [standing]

/-- What the compiler left may be taken back before that. -/
theorem Ran.takenBack {id : Nat} {thread : Thread} {made : Files} {ran : Session}
    (isRan : Ran (session.markBusy id thread) id made ran) {output : String} {temporary : Option Nat}
    (tracked : ∀ id ∈ temporary, session.temporaries.get? id = some ⟨output, false⟩) :
    Calm session ((ran.takeBack output temporary).unmarkBusy id thread) ∧
      ((ran.takeBack output temporary).unmarkBusy id thread).reapers = session.reapers ∧
      ((ran.takeBack output temporary).unmarkBusy id thread).files =
        (made.removeIfExists output).1 ∧
      ((ran.takeBack output temporary).unmarkBusy id thread).temporaries =
        spent output session.temporaries temporary := by
  have calm := isRan.unmarked
  have reapers : ran.reapers = session.reapers := by rw [isRan.rest]; rfl
  have temporaries : ran.temporaries = session.temporaries := by rw [isRan.rest]; rfl
  obtain ⟨events, taken⟩ := ran.takeBack_eq output (by rw [temporaries]; exact tracked)
  rw [taken]
  exact ⟨⟨calm.units, calm.systems, calm.held, calm.resolvers, calm.fresh⟩, reapers,
    by simp only [unmarkBusy, updateResolver, isRan.files],
    by simp only [unmarkBusy, updateResolver, temporaries]⟩

/-- A compile that fails ends by letting go. -/
theorem compile_error {id : Nat} {resolver : Resolver} {thread : Thread}
    {archive output name : String} {temporary : Option Nat} {error : LoadError}
    (tracked : ∀ id ∈ temporary, session.temporaries.get? id = some ⟨output, false⟩)
    (failed : session.compile id resolver thread archive output name temporary =
      (after, .error error)) :
    ∃ unsettled, after = unsettled.settle ∧
      Unsettled session (resolver.compiler ⟨archive, output, true⟩ session.files).1 output temporary
        unsettled := by
  unfold compile at failed
  rcases heard : (session.markBusy id thread).compileMarked id resolver thread archive output name
    temporary with ⟨later, result⟩
  rw [heard] at failed
  obtain ⟨rfl, rfl⟩ := Prod.mk.inj failed
  obtain ⟨ran, isRan, ended⟩ := compileMarked_error heard
  rcases ended with rfl | rfl
  · refine ⟨_, rfl, isRan.unmarked, ?_, .inl ⟨isRan.files, ?_⟩⟩
    all_goals
      rw [isRan.rest]
      rfl
  · obtain ⟨calm, reapers, removed, temporaries⟩ := isRan.takenBack tracked
    exact ⟨_, rfl, calm, reapers, .inr ⟨removed, temporaries⟩⟩

/-- A compile of a lasting artifact that fails leaves everything as it was, but for what may be at
the artifact's path. -/
theorem compile_lasting_error (tidy : Tidy session) {id : Nat} {resolver : Resolver}
    {thread : Thread} {archive output name : String} {error : LoadError}
    (failed : session.compile id resolver thread archive output name none = (after, .error error)) :
    Restored session after ∧
      (after.files = (resolver.compiler ⟨archive, output, true⟩ session.files).1 ∨
        after.files =
          ((resolver.compiler ⟨archive, output, true⟩ session.files).1.removeIfExists output).1) := by
  obtain ⟨unsettled, rfl, calm, reapers, left⟩ := compile_error (by simp) failed
  have temporaries : unsettled.temporaries = session.temporaries := by
    rcases left with ⟨_, same⟩ | ⟨_, same⟩ <;> exact same
  rw [(tidy.same calm.keepsLinks temporaries).settle_eq]
  refine ⟨⟨calm, temporaries, fun reaper => ?_⟩, left.imp (·.1) (·.1)⟩
  unfold liveNames isLive
  rw [reapers, temporaries]

/-! ## Files of passing use -/

/-- Letting go after one file was tracked that nothing took over forgets just that file. -/
theorem Clean.settle_forgets (clean : Clean session) {unsettled : Session}
    (kept : KeepsLinks session unsettled) {id : Nat} (new : session.fresh ≤ id)
    {temporary : TemporaryFile}
    (tracked : unsettled.temporaries = session.temporaries.add id temporary) :
    unsettled.settle = unsettled.dropTemporary id := by
  have dead : unsettled.deadTemporaries = [id] := by
    unfold deadTemporaries
    rw [tracked, kept.targets]
    unfold Table.add
    rw [List.map_append, List.filter_append]
    have alive : (session.temporaries.map (·.1)).filter
        (fun id => !session.targets.contains (.temporary id)) = [] := by
      refine List.filter_eq_nil_iff.mpr fun other listed => ?_
      obtain ⟨there, present⟩ := Option.isSome_iff_exists.mp (Table.has_iff.mpr listed)
      have referred := clean.settled other there present
      simpa using referred
    have unreferred : .temporary id ∉ session.targets := fun referred =>
      absurd (clean.numbered.referred id referred) (by omega)
    rw [alive, List.nil_append]
    simp [unreferred]
  rw [Session.settle_eq, (clean.toRooted.keeps kept).keptLoaders_eq, dead]
  rfl

/-- A file that is forgotten is removed, unless that was tried before. -/
theorem dropTemporary_of_present {id : Nat} {path : String} {isReleased : Bool}
    (present : session.temporaries.get? id = some ⟨path, isReleased⟩) :
    (session.dropTemporary id).files =
      if isReleased then session.files else (session.files.removeIfExists path).1 := by
  unfold dropTemporary release TemporaryFile.release
  rw [present]
  cases isReleased with
  | true => rfl
  | false =>
    simp only [Bool.false_eq_true, ↓reduceIte]
    split <;> rfl

/-- Tracking a file and forgetting it leaves the live files of every reaper as they were. -/
theorem liveNames_forgotten (session : Session) {tracked forgotten : Session} {reaper : Nat}
    {path : String}
    (isTracked : tracked = (session.track reaper path).1)
    (vacant : session.temporaries.has session.fresh = false)
    (reapers : forgotten.reapers = tracked.reapers)
    (temporaries : forgotten.temporaries = session.temporaries) (other : Nat) :
    forgotten.liveNames other = session.liveNames other := by
  have live : forgotten.isLive = session.isLive := by
    unfold isLive
    rw [temporaries]
  have registered : tracked.reapers = session.reapers.update reaper
      (Reaper.track session.isLive (trackedName path) session.fresh) := by
    rw [isTracked]
    rfl
  unfold liveNames
  rw [reapers, registered, live, Table.get?_update]
  by_cases same : other = reaper
  · rw [if_pos same]
    cases session.reapers.get? other with
    | none => rfl
    | some entries =>
      have gone : session.isLive session.fresh = false := vacant
      simp [Reaper.liveNames, Reaper.live, Reaper.track, List.filter_append, gone]
  · rw [if_neg same]

/-- Forgetting a file leaves all loaders as they were. -/
theorem dropTemporary_calm (session : Session) (id : Nat) :
    Calm session (session.dropTemporary id) ∧
      (session.dropTemporary id).reapers = session.reapers := by
  rw [session.dropTemporary_rest id]
  exact ⟨⟨rfl, rfl, rfl, rfl, Nat.le_refl _⟩, rfl⟩

/-- A file that was tracked for a compile is removed once after the compile has failed: it was
released by then, or it is as it is forgotten. -/
theorem Unsettled.forgotten {tracked unsettled : Session} {made : Files} {output : String} {id : Nat}
    (isUnsettled : Unsettled tracked made output (some id) unsettled)
    {others : Table TemporaryFile} (vacant : others.has id = false)
    (added : tracked.temporaries = others.add id ⟨output, false⟩) :
    (∃ temporary, unsettled.temporaries = others.add id temporary) ∧
      (unsettled.dropTemporary id).files = (made.removeIfExists output).1 ∧
        (unsettled.dropTemporary id).temporaries = others := by
  obtain ⟨isReleased, temporaries, removed⟩ : ∃ isReleased,
      unsettled.temporaries = others.add id ⟨output, isReleased⟩ ∧
        (if isReleased then unsettled.files else (unsettled.files.removeIfExists output).1) =
          (made.removeIfExists output).1 := by
    rcases isUnsettled.left with ⟨left, same⟩ | ⟨left, same⟩
    · exact ⟨false, by rw [same, added], by rw [left]; rfl⟩
    · refine ⟨true, ?_, by rw [left]; rfl⟩
      rw [same, added]
      exact Table.update_add others vacant ⟨output, false⟩ fun _ => ⟨output, true⟩
  have present : unsettled.temporaries.get? id = some ⟨output, isReleased⟩ := by
    rw [temporaries, Table.get?_add_new others vacant]
  refine ⟨⟨_, temporaries⟩, ?_, ?_⟩
  · rw [dropTemporary_of_present present, removed]
  · rw [dropTemporary_temporaries, temporaries, Table.filter_add others vacant]

/-- A compile into a file of passing use that fails leaves everything as it was. -/
theorem compileTemporary_error (clean : Clean session) (undrawn : Undrawn session) {id : Nat}
    {resolver : Resolver} (faithful : Faithful resolver.compiler) {thread : Thread}
    {archive : String} {error : LoadError}
    (failed : session.compileTemporary id resolver thread archive = (after, .error error)) :
    Restored session after ∧ SameTree session.files after.files := by
  unfold compileTemporary at failed
  generalize resolver.staging.artifactExtension = extension at failed
  have blank := undrawn.blank resolver.staging ("unit-" ++ archive) extension
  generalize named : resolver.staging.pathFor ("unit-" ++ archive) extension
    (tokenText session.fresh) = path at blank
  obtain ⟨files, result, staged, touches, unmade, isPath⟩ :=
    session.stage_output resolver.staging ("unit-" ++ archive) extension named blank.plain
  dsimp only at failed
  rw [staged] at failed
  rcases result with refusal | output
  · obtain ⟨rfl, _⟩ := Prod.mk.inj failed
    obtain rfl := unmade refusal rfl
    exact ⟨⟨⟨rfl, rfl, rfl, rfl, Nat.le_succ _⟩, rfl, fun _ => rfl⟩, SameTree.refl _⟩
  · obtain rfl := isPath output rfl
    -- The number of the tracked file is new, so no other file has it and nothing refers to it.
    have vacant : session.temporaries.has (session.fresh + 1) = false := by
      refine Bool.eq_false_iff.mpr fun present => ?_
      have given := clean.numbered.temporaries _ present
      omega
    generalize isTracked : ({ session.number.1 with files }.track resolver.reaper output).1 = tracked
    have added : tracked.temporaries =
        session.temporaries.add (session.fresh + 1) ⟨output, false⟩ := by rw [← isTracked]; rfl
    have calm : Calm session tracked := by
      rw [← isTracked]
      exact ⟨rfl, rfl, rfl, rfl, Nat.le_add_right _ 2⟩
    have present : tracked.temporaries.get? (session.fresh + 1) = some ⟨output, false⟩ := by
      rw [added, Table.get?_add_new session.temporaries vacant]
    have trackedFiles : tracked.files = files := by rw [← isTracked]; rfl
    have compiled : tracked.compile id resolver thread archive output (Path.unitName output)
        (some (session.fresh + 1)) = (after, .error error) := by rw [← isTracked]; exact failed
    obtain ⟨unsettled, rfl, isUnsettled⟩ := compile_error (by rintro _ ⟨⟩; exact present) compiled
    rw [trackedFiles] at isUnsettled
    generalize isMade : (resolver.compiler ⟨archive, output, true⟩ files).1 = made at isUnsettled
    have whole := calm.trans isUnsettled.calm
    obtain ⟨⟨_, temporaries⟩, removed, forgotten⟩ := isUnsettled.forgotten vacant added
    rw [clean.settle_forgets whole.keepsLinks (Nat.le_succ _) temporaries]
    obtain ⟨dropped, reapers⟩ := unsettled.dropTemporary_calm (session.fresh + 1)
    refine ⟨⟨whole.trans dropped, forgotten, ?_⟩, ?_⟩
    · intro other
      exact liveNames_forgotten { session.number.1 with files } isTracked.symm vacant
        (reapers.trans isUnsettled.reapers) forgotten other
    · rw [removed]
      have ran : Touches output files made := by
        rw [← isMade]
        exact (faithful ⟨archive, output, true⟩ files).touches
          (blank.slot files touches.skeleton).plain
      exact blank.cleared (touches.trans ran)

/-! ## Archives -/

/-- Staging an archive with an undrawn token changes nothing in the tree. -/
theorem Undrawn.stage (undrawn : Undrawn session) (staging : Staging) (key : String)
    (extension : Option String) {staged : Session} {result : Except LoadError String}
    (isStaged : session.stage staging key extension false = (staged, result)) :
    SameTree session.files staged.files ∧ staged.fresh = session.fresh + 1 ∧
      ∀ archive, result = .ok archive →
        archive = staging.pathFor key extension (tokenText session.fresh) := by
  have blank := undrawn.blank staging key extension
  rw [session.stage_archive staging key extension rfl] at isStaged
  obtain ⟨rfl, rfl⟩ := Prod.mk.inj isStaged
  refine ⟨blank.removed, rfl, fun archive isOk => ?_⟩
  split at isOk
  · exact (Except.ok.inj isOk).symm
  · cases isOk

/-- Discarding an archive that was written where nothing was leaves no trace of it. -/
theorem discard_cleared (session : Session) {files : Files} {path : String} (blank : Blank files path)
    (touches : Touches path files session.files) :
    SameTree files (session.discard path).files := by
  rw [discard_files]
  exact blank.cleared touches

/-- Compiling the bytecode of a symbol leaves everything as it was if it fails. -/
theorem compileBytes_error (clean : Clean session) (undrawn : Undrawn session) {id : Nat}
    {resolver : Resolver} (faithful : Faithful resolver.compiler) {thread : Thread} {name : String}
    {content : Bytes} {error : LoadError}
    (failed : session.compileBytes id resolver thread name content = (after, .error error)) :
    Restored session after ∧ SameTree session.files after.files := by
  unfold compileBytes at failed
  generalize some resolver.staging.archiveExtension = extension at failed
  have restored := session.stage_restored resolver.staging name extension false
  rcases isStaged : session.stage resolver.staging name extension false with ⟨staged, result⟩
  rw [isStaged] at failed restored
  obtain ⟨unchanged, fresh, isArchive⟩ := undrawn.stage resolver.staging name extension isStaged
  rcases result with refusal | archive
  · obtain ⟨rfl, _⟩ := Prod.mk.inj failed
    exact ⟨restored, unchanged⟩
  · obtain rfl := isArchive archive rfl
    have blank := (undrawn.blank resolver.staging name extension).same unchanged
    generalize named : resolver.staging.pathFor name extension (tokenText session.fresh) = archive
      at failed blank
    have packaging := Packaging.packageBytes_touches archive (Symbol.entryPath name) content
      staged.files
    dsimp only at failed
    rcases packaged : Packaging.packageBytes archive (Symbol.entryPath name) content staged.files with
      ⟨files, cause | ⟨⟩⟩
    all_goals rw [packaged] at failed packaging
    all_goals dsimp only at failed packaging
    · obtain ⟨rfl, _⟩ := Prod.mk.inj failed
      have discarded := discard_cleared { staged with files } blank packaging
      exact ⟨restored.trans ((restored_files staged files).trans (discard_restored _ archive)),
        unchanged.trans discarded⟩
    · have packed := restored.trans (restored_files staged files)
      have undrawnNext : Undrawn { staged with files } := by
        have touched : Touches (resolver.staging.pathFor name extension (tokenText session.fresh))
            staged.files files := named ▸ packaging
        have later := (UndrawnFrom.same undrawn unchanged).touched touched
        rw [← fresh] at later
        exact later
      rcases compiled : compileTemporary { staged with files } id resolver thread archive with
        ⟨later, result⟩
      rw [compiled] at failed
      obtain ⟨rfl, rfl⟩ := Prod.mk.inj failed
      obtain ⟨kept, same⟩ := compileTemporary_error
        (clean.same packed.keepsLinks packed.temporaries) undrawnNext faithful compiled
      have touches : Touches archive staged.files later.files :=
        packaging.trans ⟨same.skeleton, fun location _ => same location⟩
      exact ⟨packed.trans (kept.trans (discard_restored later archive)),
        unchanged.trans (discard_cleared later blank touches)⟩

end Session

end Hotload
