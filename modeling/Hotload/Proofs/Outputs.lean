import Hotload.Proofs.Lifetimes
import Hotload.Proofs.Places

/-!
# What artifacts show

The length of an artifact, its content and what it binds to hang on what its path shows, so an
artifact that is shown as before is bound as before. The steps of a compile change the tree at the
place of one path each: packaging at that of the archive, a compiler at that of its output, and
letting go at those of files of passing use.
-/

namespace Hotload

namespace Files

/-- What a path shows, if anything. -/
def shown? (files : Files) (path : String) : Option (Location × Node) :=
  (files.status path).toOption

/-- A path that shows something has that status. -/
theorem status_of_shown {files : Files} {path : String} {found : Location × Node}
    (shown : files.shown? path = some found) : files.status path = .ok found := by
  unfold shown? at shown
  cases status : files.status path with
  | error error => simp [status, Except.toOption] at shown
  | ok other => simpa [status, Except.toOption] using shown

/-- A path that is read shows a file. -/
theorem shown_of_read {files : Files} {path : String} {content : Bytes}
    (isRead : files.read path = .ok content) :
    ∃ location modified, files.shown? path = some (location, .file content modified) := by
  unfold read at isRead
  unfold shown?
  rcases status : files.status path with error | ⟨location, ⟨old, modified⟩ | _ | target⟩
  all_goals rw [status] at isRead
  · cases isRead
  · cases isRead
    exact ⟨location, modified, rfl⟩
  · cases isRead
  · cases isRead

/-- A path that shows a file is read. -/
theorem read_of_shown {files : Files} {path : String} {location : Location} {content : Bytes}
    {modified : Int} (shown : files.shown? path = some (location, .file content modified)) :
    files.read path = .ok content := by
  unfold read
  rw [status_of_shown shown]

/-- A path that shows a file has the time at which the file was modified. -/
theorem modified_of_shown {files : Files} {path : String} {location : Location} {content : Bytes}
    {modified : Int} (shown : files.shown? path = some (location, .file content modified)) :
    files.modified path = .ok modified := by
  rw [Files.modified, status_of_shown shown]

/-- A path that is a file shows it. -/
theorem shown_of_isFile {files : Files} {path : String} (isFile : files.isFile path = true) :
    ∃ location content modified, files.shown? path = some (location, .file content modified) := by
  unfold Files.isFile at isFile
  unfold shown?
  split at isFile
  · next location content modified status => exact ⟨location, content, modified, by rw [status]; rfl⟩
  · cases isFile

/-- The length of what a path shows, where nothing counts as empty. -/
def shownLength (files : Files) (path : String) : Nat :=
  match files.shown? path with
  | some (_, .file content _) => content.length
  | some _ => 4096
  | none => 0

/-- A path that shows a file leads to it, and the file stands there. -/
theorem stands_of_shown {files : Files} {path : String} {location : Location} {content : Bytes}
    {modified : Int} (shown : files.shown? path = some (location, .file content modified)) :
    files.place? true path = some location ∧
      files.node? location = some (.file content modified) := by
  have status := status_of_shown shown
  refine ⟨place_of_status status, ?_⟩
  have truthful := files.locate_truthful true path
  unfold Files.status at status
  rcases found : files.locate true path with
    error | (⟨there, ⟨old, time⟩ | _ | target⟩ | ⟨directory, name⟩)
  all_goals rw [found] at status truthful
  · cases status
  · dsimp only at status
    split at status
    · cases status
    · cases status
      exact truthful
  · cases status
  · dsimp only at status
    split at status <;> cases status
  · cases status

/-- A path that shows a file does not ask for a directory. -/
theorem named_of_shown {files : Files} {path : String} {location : Location} {content : Bytes}
    {modified : Int} (shown : files.shown? path = some (location, .file content modified)) :
    Path.endsInSeparator path = false := by
  have status := status_of_shown shown
  unfold Files.status at status
  rw [← Bool.not_eq_true]
  intro asks
  split at status
  · cases status
  · cases status
  · cases status
  · rw [if_pos asks] at status
    cases status

/-- A path that shows nothing, or nothing in it, has its target apart from every file with a
content. -/
theorem apart_of_empty {files : Files} {path other : String} (empty : files.shownLength path = 0)
    {location : Location} {content : Bytes} {modified : Int}
    (shown : files.shown? other = some (location, .file content modified))
    (filled : content ≠ []) : Apart files path other := by
  obtain ⟨place, stands⟩ := stands_of_shown shown
  intro there target same
  obtain rfl : location = there := Option.some.inj (place.symm.trans same)
  unfold target? at target
  split at target
  · cases target
  · next named =>
    have truthful := files.locate_truthful true path
    unfold place? at target
    unfold shownLength shown? Files.status at empty
    rcases found : files.locate true path with
      error | (⟨spot, ⟨old, time⟩ | _ | goal⟩ | ⟨directory, name⟩)
    all_goals rw [found] at target truthful empty
    · cases target
    · obtain rfl := Option.some.inj target
      rw [show files.node? spot = some (.file old time) from truthful] at stands
      cases stands
      simp only [named, Bool.false_eq_true, ↓reduceIte, Except.toOption] at empty
      exact filled (List.length_eq_zero_iff.mp empty)
    · simp [Except.toOption] at empty
    · exact absurd truthful.1 (by simp)
    · obtain rfl := Option.some.inj target
      rw [show files.node? (directory ++ [name]) = none from truthful] at stands
      cases stands

/-- What an output writes or removes again through its path, in any order and at any time. -/
inductive Through (path : String) : Files → Files → Prop
  | nothing (files : Files) : Through path files files
  | write {files between after : Files} {content : Bytes}
      (earlier : Through path files between) (written : between.write path content = .ok after) :
      Through path files after
  | unlink {files between after : Files}
      (earlier : Through path files between) (removed : between.unlink path = .ok after) :
      Through path files after
  | clock {files between : Files} (earlier : Through path files between) (time : Int) :
      Through path files { between with clock := time }

/-- What goes through one path stays at its place. -/
theorem Through.touches {path : String} {files after : Files} (through : Through path files after)
    (plain : Plain files path) : Touches path files after := by
  induction through with
  | nothing => exact Touches.refl path _
  | write _ written inductionHypothesis => exact inductionHypothesis.trans (write_touches written)
  | unlink _ removed inductionHypothesis =>
    have still := plain.of_skeleton inductionHypothesis.skeleton
    exact inductionHypothesis.trans (unlink_touches still removed)
  | clock _ time inductionHypothesis =>
    exact ⟨inductionHypothesis.skeleton, inductionHypothesis.elsewhere⟩

end Files

open Files

namespace UnitContent

/-- Binding an artifact reads nothing but what its path shows. -/
theorem bind_of_status {files other : Files} {artifact : String}
    (same : other.status artifact = files.status artifact) (platform : Platform) :
    bind platform other artifact = bind platform files artifact := by
  have reads : other.read artifact = files.read artifact := by simp only [Files.read, same]
  have sizes : other.size artifact = files.size artifact := by simp only [Files.size, same]
  have exist : other.exists_ artifact = files.exists_ artifact := by
    simp only [Files.exists_, same]
  cases platform with
  | archive =>
    simp only [bind, bindArchive, artifactSize, openArtifact, Packaging.openContainer, reads, sizes]
  | native => simp only [bind, bindNative, exist, reads]

/-- An artifact that is shown as before is bound as before. -/
theorem bind_of_shown {files other : Files} {artifact : String} {found : Location × Node}
    (before : files.shown? artifact = some found) (after : other.shown? artifact = some found)
    (platform : Platform) :
    bind platform other artifact = bind platform files artifact :=
  bind_of_status (by rw [status_of_shown before, status_of_shown after]) platform

/-- An artifact that can be bound is a file. -/
theorem shown_of_bind {platform : Platform} {files : Files} {artifact : String}
    {content : UnitContent} (bound : bind platform files artifact = .ok content) :
    ∃ location bytes modified,
      files.shown? artifact = some (location, .file bytes modified) := by
  suffices isRead : ∃ bytes, files.read artifact = .ok bytes by
    obtain ⟨bytes, isRead⟩ := isRead
    obtain ⟨location, modified, shown⟩ := shown_of_read isRead
    exact ⟨location, bytes, modified, shown⟩
  cases readTo : files.read artifact with
  | ok bytes => exact ⟨bytes, rfl⟩
  | error error =>
    exfalso
    cases platform with
    | archive =>
      have unopened : ∃ refusal, openArtifact files artifact = .error refusal := by
        unfold openArtifact Packaging.openContainer
        rw [readTo]
        cases error <;> exact ⟨_, rfl⟩
      obtain ⟨refusal, unopened⟩ := unopened
      simp only [bind, bindArchive, unopened] at bound
      split at bound
      · cases bound
      · split at bound <;> cases bound
    | native =>
      simp only [bind, bindNative, readTo, Except.toOption, Option.bind_none] at bound
      split at bound
      · cases bound
      · split at bound <;> cases bound

/-- An artifact that shows a file has a length. -/
theorem artifactSize_of_shown {files : Files} {artifact : String} {location : Location}
    {bytes : Bytes} {modified : Int}
    (shown : files.shown? artifact = some (location, .file bytes modified)) :
    artifactSize files artifact = .ok bytes.length := by
  simp only [artifactSize, Files.size, status_of_shown shown]

end UnitContent

namespace Packaging

/-- Packaging a container changes the tree at the place of the archive only. -/
theorem packageContainer_touches (archive container : String) (files : Files) :
    Touches archive files (packageContainer archive container files).1 := by
  unfold packageContainer
  split
  · exact Touches.refl archive files
  · split
    · exact Touches.refl archive files
    · next opened emptied =>
      have first := write_touches emptied
      split
      · exact first
      · split
        · exact first
        · split
          · exact first
          · next written => exact first.trans (write_touches written)

/-- Packaging the bytecode of one symbol changes the tree at the place of the archive only. -/
theorem packageBytes_touches (archive entry : String) (content : Bytes) (files : Files) :
    Touches archive files (packageBytes archive entry content files).1 := by
  unfold packageBytes
  split
  · next written => exact write_touches written
  · exact Touches.refl archive files

end Packaging

namespace Session

/-- The length of an output is told by what its path shows. -/
theorem outputSize_eq (session : Session) (path : String) :
    session.outputSize path = session.files.shownLength path := by
  unfold outputSize Files.size shownLength shown?
  rcases session.files.status path with error | ⟨location, ⟨content, modified⟩ | _ | target⟩ <;> rfl

theorem discard_files (session : Session) (path : String) :
    (session.discard path).files = (session.files.removeIfExists path).1 := by
  unfold discard
  split
  · next removed => rw [removed]
  · next removed =>
    rw [removed]
    rfl

/-- An empty artifact that lasts is deleted, and nothing else changes the tree. -/
theorem rejectEmpty_files (session : Session) (id : Nat) (resolver : Resolver)
    (archive output : String) :
    (session.rejectEmpty id resolver archive output none).files =
      (session.files.removeIfExists output).1 := by
  unfold rejectEmpty dump
  dsimp only
  rw [discard_files]
  split
  · split <;> rfl
  · rfl

theorem rejectEmpty_temporaries (session : Session) (id : Nat) (resolver : Resolver)
    (archive output : String) :
    (session.rejectEmpty id resolver archive output none).temporaries = session.temporaries := by
  unfold rejectEmpty dump
  dsimp only
  rw [discard_temporaries]
  split
  · split <;> rfl
  · rfl

/-- A file of passing use that is let go of is removed, unless it was released before. -/
theorem dropTemporary_files (session : Session) (id : Nat) :
    (session.dropTemporary id).files = session.files ∨
      ∃ temporary, session.temporaries.get? id = some temporary ∧ temporary.isReleased = false ∧
        (session.dropTemporary id).files =
          (session.files.removeIfExists temporary.path).1 := by
  unfold dropTemporary release TemporaryFile.release
  cases found : session.temporaries.get? id with
  | none => exact .inl rfl
  | some temporary =>
    cases released : temporary.isReleased with
    | true => exact .inl (by simp [released])
    | false =>
      refine .inr ⟨temporary, rfl, released, ?_⟩
      simp only [released, Bool.false_eq_true, ↓reduceIte]
      split <;> rfl

/-- What is let go of is forgotten, and nothing else is. -/
theorem dropTemporary_temporaries (session : Session) (id : Nat) :
    (session.dropTemporary id).temporaries =
      session.temporaries.filter fun entry => entry.1 ≠ id := by
  have updated : ∀ (temporaries : Table TemporaryFile) (change : TemporaryFile → TemporaryFile),
      (temporaries.update id change).filter (fun entry => entry.1 ≠ id) =
        temporaries.filter fun entry => entry.1 ≠ id := by
    intro temporaries change
    induction temporaries with
    | nil => rfl
    | cons first rest inductionHypothesis =>
      have step : Table.update (first :: rest) id change =
          (if first.1 = id then (id, change first.2) else first) ::
            Table.update rest id change := rfl
      by_cases here : first.1 = id
      · rw [step, if_pos here, List.filter_cons_of_neg (by simp),
          List.filter_cons_of_neg (by simpa using here), inductionHypothesis]
      · rw [step, if_neg here, List.filter_cons_of_pos (by simpa using here),
          List.filter_cons_of_pos (by simpa using here), inductionHypothesis]
  unfold dropTemporary release
  split
  · rfl
  · dsimp only
    split
    · exact updated session.temporaries fun _ => _
    · exact updated session.temporaries fun _ => _

/-- Files of passing use that are let go of leave no others than there were. -/
theorem dropTemporaries_mem {session : Session} {dead : List Nat} {entry : Nat × TemporaryFile}
    (listed : entry ∈ (dead.foldl dropTemporary session).temporaries) :
    entry ∈ session.temporaries := by
  induction dead generalizing session with
  | nil => exact listed
  | cons first rest inductionHypothesis =>
    have later := inductionHypothesis listed
    rw [dropTemporary_temporaries] at later
    exact (List.mem_filter.mp later).1

/-- Letting go changes the tree only by removing unreleased files of passing use that nothing refers
to any more, so it keeps what their removal keeps. -/
theorem settle_files (good : Files → Prop) {session : Session} (first : good session.files)
    (removes : ∀ files id temporary, good files → session.temporaries.get? id = some temporary →
      temporary.isReleased = false → .temporary id ∉ session.settle.targets →
        good (files.removeIfExists temporary.path).1) :
    good session.settle.files := by
  have kept : session.keptLoaders.files = session.files ∧
      session.keptLoaders.temporaries = session.temporaries := by
    rw [session.keptLoaders_pruned.rest]
    exact ⟨rfl, rfl⟩
  have dropped : ∀ (dead : List Nat) (later : Session), good later.files →
      (∀ id temporary, later.temporaries.get? id = some temporary →
        session.temporaries.get? id = some temporary) →
      (∀ id ∈ dead, .temporary id ∉ session.settle.targets) →
        good (dead.foldl dropTemporary later).files := by
    intro dead
    induction dead with
    | nil => exact fun _ now _ _ => now
    | cons id rest inductionHypothesis =>
      intro later now early unreferred
      refine inductionHypothesis _ ?_ ?_ fun other member =>
        unreferred other (List.mem_cons_of_mem _ member)
      · rcases later.dropTemporary_files id with same | ⟨temporary, present, unreleased, removed⟩
        · rw [same]
          exact now
        · rw [removed]
          exact removes later.files id temporary now (early id temporary present) unreleased
            (unreferred id List.mem_cons_self)
      · intro other temporary present
        rw [dropTemporary_temporaries,
          Table.get?_filter later.temporaries (fun number => decide (number ≠ id))] at present
        split at present
        · exact early other temporary present
        · cases present
  rw [settle_eq]
  refine dropped _ _ (kept.1 ▸ first) (fun id temporary present => kept.2 ▸ present) ?_
  intro id listed
  rw [session.settle_keepsLinks.targets]
  simpa using (List.mem_filter.mp listed).2

/-- Letting go leaves no other files of passing use than there were. -/
theorem settle_mem {session : Session} {entry : Nat × TemporaryFile}
    (listed : entry ∈ session.settle.temporaries) : entry ∈ session.temporaries := by
  rw [settle_eq] at listed
  have kept := dropTemporaries_mem listed
  rw [session.keptLoaders_pruned.rest] at kept
  exact kept

end Session

end Hotload
