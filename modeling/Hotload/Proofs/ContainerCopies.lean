import Hotload.Compiler.External
import Hotload.Proofs.ArchiveIndexes
import Hotload.Proofs.FailedLoads
import Hotload.Proofs.ReplacedUnits
import Hotload.Proofs.WrittenContainers

/-!
# Containers that are passed through

A resolver without a parent whose compiler passes archives on copies a container entry by entry: the
entries that are no directories are packaged in their order, the archive is copied to the artifact,
and the artifact is indexed. A unit made this way offers exactly the symbols that those entries
define, each with the content of the last entry that defines it, however often and in whatever order
it is asked.
-/

namespace Hotload

open Files

namespace Files

variable {files after : Files} {path other : String} {content : Bytes}

/-- A file that a change is apart from is read as before. -/
theorem read_apart (touches : Touches path files after) (apart : Apart files path other)
    (isRead : files.read other = .ok content) : after.read other = .ok content := by
  obtain ⟨location, modified, shown⟩ := shown_of_read isRead
  exact read_of_shown ((touches.status apart).trans shown)

/-- Being apart holds both ways for paths that do not ask for a directory. -/
theorem Apart.symm (apart : Apart files path other) (named : Path.endsInSeparator path = false) :
    Apart files other path := by
  intro location target place
  have own : files.target? path = some location := by
    rw [target?, named]
    exact place
  refine apart location own ?_
  unfold target? at target
  split at target
  · cases target
  · exact target

/-- A copy that leaves something is what was read, and the source was not the target. -/
theorem copy_ok {source target : String} {count : Nat}
    (copied : files.copy source target = (after, .ok count)) (filled : after.shownLength target ≠ 0) :
    ∃ content location modified, files.read source = .ok content ∧ content ≠ [] ∧
      after.shown? target = some (location, .file content modified) ∧
        Touches target files after ∧ Apart files target source := by
  unfold copy at copied
  split at copied
  · cases copied
  · split at copied
    · cases copied
    · next opened emptied =>
      split at copied
      · cases copied
      · next content isRead =>
        split at copied
        · cases copied
        · next written =>
          obtain ⟨rfl, -⟩ := Prod.mk.inj copied
          obtain ⟨place, empty⟩ := shown_of_written emptied
          obtain ⟨location, shown⟩ := shown_of_written written
          have nonempty : content ≠ [] := by
            rintro rfl
            exact filled (by rw [shownLength, shown]; rfl)
          have touches := write_touches emptied
          obtain ⟨spot, modified, read⟩ := shown_of_read isRead
          have apart : Apart opened target source :=
            apart_of_empty (by rw [shownLength, empty]; rfl) read nonempty
          have away := apart.of_skeleton touches.skeleton.symm
          exact ⟨content, location, _, read_of_shown ((touches.status away).symm.trans read),
            nonempty, shown, touches.trans (write_touches written), away⟩
  · cases copied

end Files

namespace Compiler

variable {files after : Files} {archive output : String} {outcome : CompileOutcome}

/-- An archive that was passed on is shown at the output as it was read, unless nothing is. -/
theorem passthrough_ok
    (passed : passthrough ⟨archive, output, true⟩ files = (after, .ok outcome))
    (filled : after.shownLength output ≠ 0) :
    ∃ content location modified, files.read archive = .ok content ∧ content ≠ [] ∧
      after.shown? output = some (location, .file content modified) ∧
        Touches output files after ∧ Apart files output archive := by
  unfold passthrough at passed
  split at passed
  · cases passed
  · next copied =>
    obtain ⟨rfl, -⟩ := Prod.mk.inj passed
    exact copy_ok copied filled

end Compiler

namespace Packaging

variable {files after : Files} {archive container : String} {count : Nat}

/-- The parts that an entry of a container is copied to. -/
def Copies (content : Bytes) (entry : Zip.Entry) (part : String × Bytes) : Prop :=
  part.1 = entry.name ∧ entry.content content = .ok part.2

/-- Contents that are read are those of the entries, in their order. -/
theorem contents_ok {content : Bytes} {entries : List Zip.Entry} {parts : List (String × Bytes)}
    (isRead : contents content entries = .ok parts) :
    List.Forall₂ (Copies content) entries parts := by
  induction entries generalizing parts with
  | nil =>
    cases isRead
    exact .nil
  | cons entry rest inductionHypothesis =>
    rw [contents] at isRead
    split at isRead
    · cases isRead
    · next body own =>
      split at isRead
      · cases isRead
      · next others read =>
        cases isRead
        exact .cons ⟨rfl, own⟩ (inductionHypothesis read)

/-- Of a container that was written, everything is copied but the parts whose names end in a
separator. -/
theorem copies_written (source : List (String × Bytes)) {parts : List (String × Bytes)}
    (copies : List.Forall₂ (Copies (Zip.write source))
      ((Zip.writtenFrom source 0).filter (!·.isDirectory)) parts) :
    parts = source.filter fun part => !(Zip.written part.1 part.2 0).isDirectory := by
  have restored := Zip.contents_write source
  generalize Zip.writtenFrom source 0 = entries at copies restored
  generalize Zip.write source = content at copies restored
  induction restored generalizing parts with
  | nil =>
    cases copies
    rfl
  | @cons part entry source entries head _ inductionHypothesis =>
    obtain ⟨named, isContent, -⟩ := head
    have same : entry.isDirectory = (Zip.written part.1 part.2 0).isDirectory := by
      unfold Zip.Entry.isDirectory
      rw [named]
      rfl
    rw [List.filter_cons] at copies ⊢
    rw [← same]
    split at copies
    · next kept =>
      rw [if_pos kept]
      obtain ⟨first, rest, ⟨isName, isCopied⟩, others, rfl⟩ := List.forall₂_cons_left_iff.mp copies
      have isFirst : first = part :=
        Prod.ext (isName.trans named) (Except.ok.inj (isCopied.symm.trans isContent))
      rw [isFirst, inductionHypothesis others]
    · next dropped =>
      rw [if_neg dropped]
      exact inductionHypothesis copies

/-- A container is opened as what its path shows. -/
theorem openContainer_ok {content : Bytes} {entries : List Zip.Entry}
    (opened : openContainer files container = .ok (content, entries)) :
    files.read container = .ok content ∧ Zip.entries? content = some entries ∧ content ≠ [] := by
  unfold openContainer at opened
  split at opened
  · cases opened
  · cases opened
  · next found isRead =>
    split at opened
    · cases opened
    · next listed isList =>
      cases opened
      refine ⟨isRead, isList, ?_⟩
      rintro rfl
      cases isList

/-- Packaging that succeeds at a path that shows nothing has copied the entries that are no
directories. -/
theorem packageContainer_ok (clear : files.shownLength archive = 0)
    (packaged : packageContainer archive container files = (after, .ok count)) :
    ∃ content entries parts, openContainer files container = .ok (content, entries) ∧
      List.Forall₂ (Copies content) (entries.filter (!·.isDirectory)) parts ∧
        after.read archive = .ok (Zip.write parts) := by
  unfold packageContainer openEntries at packaged
  split at packaged
  · cases packaged
  · next chosen isOpened =>
    split at isOpened
    · cases isOpened
    · next content entries isContainer =>
      cases isOpened
      obtain ⟨isRead, -, filled⟩ := openContainer_ok isContainer
      split at packaged
      · cases packaged
      · next opened emptied =>
        obtain ⟨location, modified, shown⟩ := shown_of_read isRead
        have apart : Apart files archive container := apart_of_empty clear shown filled
        rw [read_apart (write_touches emptied) apart isRead] at packaged
        dsimp only at packaged
        split at packaged
        · cases packaged
        · next parts isCopied =>
          split at packaged
          · cases packaged
          · next written =>
            obtain ⟨rfl, -⟩ := Prod.mk.inj packaged
            obtain ⟨place, shows⟩ := shown_of_written written
            exact ⟨content, entries, parts, isContainer, contents_ok isCopied, read_of_shown shows⟩

end Packaging

namespace Session

variable {session after : Session} {id number : Nat} {holder : String} {resolver : Resolver}
variable {thread : Thread} {archive container output name : String}

section

variable (clean : Clean session) (wired : Wired session) (distinct : Distinct session)
  (held : (holder, .loader (.resolver id)) ∈ session.held)
  (present : session.resolvers.get? id = some resolver)
include clean wired distinct held present

/-- A compile that replaces no unit with a file of passing use registers what the compiler left, and
nothing else changes the tree. -/
theorem compile_artifact (untied : Untied session resolver name)
    (compiled : session.compile id resolver thread archive output name none = (after, .ok number)) :
    ∃ outcome content,
      resolver.compiler ⟨archive, output, true⟩ session.files = (after.files, .ok outcome) ∧
      after.files.shownLength output ≠ 0 ∧
      UnitContent.bind resolver.platform after.files output = .ok content ∧
      Enrolled after id holder (Registry.register resolver.registry name number) number
        (unitOf (entered resolver thread) name output none content) := by
  have kept := (markBusy_quiet session id thread).toKeepsLinks.trans
    (invoke_keepsLinks _ id resolver thread ⟨archive, output, true⟩)
  obtain ⟨ran, outcome, content, heard, isNow, filled, bound, isFresh, isAfter⟩ :=
    compile_enlists present compiled
  subst isFresh
  rw [isAfter]
  have isRan : ran = ((session.markBusy id thread).invoke id resolver thread
    ⟨archive, output, true⟩).1 := by rw [heard]
  have result : (resolver.compiler ⟨archive, output, true⟩ session.files).2 = .ok outcome :=
    congrArg Prod.snd heard
  rw [← isRan] at kept
  have ranClean : Clean ran := clean.same kept (by rw [isRan]; rfl)
  have files : ran.files = (resolver.compiler ⟨archive, output, true⟩ session.files).1 := by
    rw [isRan]; rfl
  have ranUntied : Untied ran (entered resolver thread) name := by
    intro old there replaced found
    exact untied old there replaced (by rw [isRan] at found; exact found)
  obtain ⟨left, -⟩ := ranClean.enlisted_settle (wired.keeps kept) (distinct.keeps kept) isNow
    (show Untied ran (entered resolver thread)
      (unitOf (entered resolver thread) name output none content).name from ranUntied)
  have tidy := (tidy_settle (ran.enlisted id (unitOf (entered resolver thread) name output none
    content))).same (unmarkBusy_quiet _ id thread).toKeepsLinks rfl
  have enrolled := enlisted_settled (wired.keeps kept) (by rw [isRan]; exact held) isNow
    (unitOf (entered resolver thread) name output none content) thread
  rw [tidy.settle_eq] at enrolled ⊢
  have unchanged : ((ran.enlisted id (unitOf (entered resolver thread) name output none
      content)).settle.unmarkBusy id thread).files = ran.files := left
  rw [outputSize_eq] at filled
  exact ⟨outcome, content, by rw [unchanged, files, ← result], by rw [unchanged]; exact filled,
    by rw [unchanged]; exact bound, enrolled⟩

end

/-- A container that is compiled was staged, packaged, compiled, and its archive deleted. -/
theorem compileContainer_ok
    (compiled : session.compileContainer id resolver thread container output name =
      (after, .ok number)) :
    ∃ archive removed cleared packaged count later,
      archive = archiveFor resolver container session.fresh ∧
      session.files.removeIfExists archive = (cleared, .ok removed) ∧
      Packaging.packageContainer archive container cleared = (packaged, .ok count) ∧
      compile { session.number.1 with files := packaged } id resolver thread archive output name none =
        (later, .ok number) ∧ after = later.discard archive := by
  unfold compileContainer at compiled
  generalize isArchive : resolver.staging.pathFor container
    (some resolver.staging.archiveExtension) (tokenText session.fresh) = archive
  rw [session.stage_archive resolver.staging container _ isArchive] at compiled
  rcases cleared : session.files.removeIfExists archive with ⟨staged, error | removed⟩
  all_goals
    rw [cleared] at compiled
    dsimp only at compiled
  · cases (Prod.mk.inj compiled).2
  · rcases packaged : Packaging.packageContainer archive container staged with ⟨files, error | count⟩
    all_goals
      rw [packaged] at compiled
      dsimp only at compiled
    · cases (Prod.mk.inj compiled).2
    · split at compiled
      · next later unit ran =>
        obtain ⟨rfl, same⟩ := Prod.mk.inj compiled
        obtain rfl := Except.ok.inj same
        exact ⟨archive, removed, staged, files, count, later, isArchive.symm, cleared, packaged, ran,
          rfl⟩
      · cases (Prod.mk.inj compiled).2

/-- What a container was copied to: an artifact with the entries that are no directories, and a unit
that is bound to it. -/
structure Copied (session : Session) (id : Nat) (holder : String) (resolver : Resolver)
    (container output : String) (after : Session) (number : Nat) (unit : LoadedUnit)
    (parts : List (String × Bytes)) : Prop where
  entries : ∃ content entries, Packaging.openContainer session.files container =
    .ok (content, entries) ∧
      List.Forall₂ (Packaging.Copies content) (entries.filter (!·.isDirectory)) parts
  artifact : after.files.read output = .ok (Zip.write parts)
  bound : UnitContent.bind resolver.platform after.files output = .ok unit.content
  enrolled : Enrolled after id holder (Registry.register resolver.registry (Path.unitName output) number)
    number unit
  named : unit.name = Path.unitName output
  made : unit.artifact = output ∧ unit.parent = resolver.parent ∧ unit.resolved = []

/-- A container that is read after a staged path was cleared is what it was before. -/
theorem openContainer_cleared {files cleared : Files} {removed : Except FileError Bool}
    (isCleared : files.removeIfExists archive = (cleared, removed)) {content : Bytes}
    {entries : List Zip.Entry}
    (opened : Packaging.openContainer cleared container = .ok (content, entries)) :
    Packaging.openContainer files container = .ok (content, entries) := by
  obtain ⟨isRead, listed, -⟩ := Packaging.openContainer_ok opened
  obtain ⟨location, modified, shown⟩ := shown_of_read isRead
  have early := shown_removeIfExists files archive container
  rw [isCleared, shown] at early
  rcases early with same | gone
  · rw [Packaging.openContainer, read_of_shown same.symm]
    dsimp only
    rw [listed]
  · cases gone

/-- A container that is compiled by passing it on is copied. -/
theorem compileContainer_copied (clean : Clean session) (wired : Wired session)
    (distinct : Distinct session) (held : (holder, .loader (.resolver id)) ∈ session.held)
    (present : session.resolvers.get? id = some resolver)
    (passes : resolver.compiler = Compiler.passthrough)
    (untied : Untied session resolver (Path.unitName output))
    (compiled : session.compileContainer id resolver thread container output (Path.unitName output) =
      (after, .ok number)) :
    ∃ unit parts, Copied session id holder resolver container output after number unit parts := by
  obtain ⟨archive, removed, cleared, packaged, count, later, _, isCleared, isPackaged, ran, rfl⟩ :=
    compileContainer_ok compiled
  have nowhere := nowhere_of_cleared isCleared
  have empty : cleared.shownLength archive = 0 := by
    rw [shownLength, shown_of_nowhere nowhere]
  obtain ⟨content, entries, parts, opened, copies, isWritten⟩ :=
    Packaging.packageContainer_ok empty isPackaged
  have skeleton : SameSkeleton cleared packaged := by
    have touches := Packaging.packageContainer_touches archive container cleared
    rw [isPackaged] at touches
    exact touches.skeleton
  have kept : KeepsLinks session { session.number.1 with files := packaged } :=
    ⟨rfl, Nat.le_succ _⟩
  obtain ⟨outcome, bound, passed, filled, binds, enrolled⟩ :=
    compile_artifact (clean.same kept rfl) (wired.keeps kept) (distinct.keeps kept) held present
      untied ran
  rw [passes] at passed
  obtain ⟨passedContent, location, modified, isRead, nonempty, shown, touches, apart⟩ :=
    Compiler.passthrough_ok passed filled
  obtain rfl := Except.ok.inj (isRead.symm.trans isWritten)
  -- The archive is deleted in the end, and that leaves the artifact alone.
  have away : Apart later.files archive output :=
    (apart.symm (named_of_shown shown)).of_skeleton touches.skeleton
  have plain : Plain later.files archive :=
    (plain_of_nowhere nowhere).of_skeleton (skeleton.trans touches.skeleton)
  have deleted : Touches archive later.files (later.discard archive).files := by
    rw [discard_files]
    exact removeIfExists_touches plain
  have still := (deleted.status away).trans shown
  exact ⟨_, parts, ⟨content, entries, openContainer_cleared isCleared opened, copies⟩,
    read_of_shown still, (UnitContent.bind_of_shown shown still resolver.platform).trans binds,
    enrolled.discard archive, rfl, rfl, rfl, rfl⟩

end Session

end Hotload
