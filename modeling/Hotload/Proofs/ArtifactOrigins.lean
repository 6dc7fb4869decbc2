import Hotload.Proofs.CacheRuns
import Hotload.Proofs.ContainerCopies

/-!
# Where artifacts come from

The name of a lasting artifact is a digest of the path of a container and of the time at which the
container was last modified, and an artifact that is there is used again without a look into the
container. `Sourced` is what makes that right: everything that stands under such a name was compiled
from a content that a container had at some load, and its name is the digest of the path and the time
at that load. A load changes no artifact but its own, so every load keeps it, whether the load
succeeds or fails. Then a container is never served from an old content, as long as its path and its
time tell its content. Times before 1970 do not: they all count as the start of that year.
-/

namespace Hotload

open Files

/-! ## Names and digests -/

namespace Staging

/-- The first part of the name of a lasting artifact tells the digest. -/
theorem digest_of_parts {text first : String} {extension : Option String} {rest : List String}
    (parts : Path.parts (withExtension (digest text) extension) = first :: rest) :
    first.toList.takeWhile (· ≠ '.') = (digest text).toList := by
  obtain ⟨character, inside⟩ := Bytes.hex_present (Digest.Sha256.hash_present (Text.utf8 text))
  have proper : ∀ character ∈ (digest text).toList, decide (character ≠ '.') = true :=
    fun character member => decide_eq_true (Bytes.hex_proper member).2.1
  have whole : '/' ∉ (digest text).toList := fun member => (Bytes.hex_proper member).1 rfl
  rw [withExtension_eq] at parts
  obtain ⟨head, others, split, begins, _⟩ :=
    Path.exists_parts inside (Bytes.hex_proper inside).2.1 whole (extensionTail extension)
  have isFirst : first = String.ofList ((digest text).toList ++ head) :=
    (List.cons.inj (parts.symm.trans split)).1
  have ended : head.takeWhile (· ≠ '.') = [] := by
    rcases prefix_extensionTail begins with rfl | ⟨rest, rfl⟩ <;> rfl
  rw [isFirst, String.toList_ofList, List.takeWhile_append_of_pos proper, ended, List.append_nil]

/-- A message tells the path of the container, and its time from 1970 on. -/
theorem durableMessage_inj {container other : String} {modified later : Int}
    (same : durableMessage container modified = durableMessage other later) :
    container = other ∧ modified.toNat = later.toNat := by
  have spelled : ∀ (container : String) (modified : Int),
      (durableMessage container modified).toList.reverse =
        (Nat.toDigits 10 modified.toNat).reverse ++ '_' :: container.toList.reverse := by
    intro container modified
    have underscore : "_".toList = ['_'] := rfl
    have digits : (toString modified.toNat).toList = Nat.toDigits 10 modified.toNat := by
      simp [toString, Nat.repr]
    simp only [durableMessage, String.toList_append, underscore, digits, List.reverse_append,
      List.reverse_cons, List.reverse_nil, List.nil_append, List.singleton_append]
  have backwards := congrArg (fun text => text.toList.reverse) same
  simp only [spelled] at backwards
  have digit : ∀ value : Nat, ∀ character ∈ (Nat.toDigits 10 value).reverse,
      decide (character ≠ '_') = true := by
    intro value character member
    have isDigit := Nat.isDigit_of_mem_toDigits (by decide) (by decide) (List.mem_reverse.mp member)
    refine decide_eq_true fun underscore => ?_
    rw [underscore] at isDigit
    exact absurd isDigit (by decide)
  have front := congrArg (List.takeWhile (· ≠ '_')) backwards
  have back := congrArg (List.dropWhile (· ≠ '_')) backwards
  rw [List.takeWhile_append_of_pos (digit _), List.takeWhile_append_of_pos (digit _),
    List.takeWhile_cons_of_neg (by simp), List.takeWhile_cons_of_neg (by simp), List.append_nil,
    List.append_nil, List.reverse_inj] at front
  rw [List.dropWhile_append_of_pos (digit _), List.dropWhile_append_of_pos (digit _),
    List.dropWhile_cons_of_neg (by simp), List.dropWhile_cons_of_neg (by simp), List.cons.injEq,
    List.reverse_inj] at back
  have values := congrArg (fun digits => Nat.ofDigitChars 10 digits 0) front
  simp only [Nat.ofDigitChars_ten_toDigits] at values
  exact ⟨String.toList_injective back.2, values⟩

end Staging

namespace Session

/-- Lasting artifacts at one place have one digest. -/
theorem digest_of_place {home : Home} {resolver : Resolver} {files : Files}
    (housed : Housed home files) (layout : resolver.layout = home.layout)
    (direct : Direct home resolver) {text other : String} {location : Location}
    (place : files.place? true (durable resolver text) = some location)
    (otherPlace : files.place? true (durable resolver other) = some location) :
    Staging.digest text = Staging.digest other := by
  have named : ∀ text, files.place? true (durable resolver text) = some location →
      ∃ first, location = home.place ++ [first] ∧
        first.toList.takeWhile (· ≠ '.') = (Staging.digest text).toList := by
    intro text place
    obtain ⟨relative, first, rest, parts, notHere, notUp⟩ :=
      Staging.durable_parts text resolver.staging.artifactExtension
    unfold durable at place
    rw [layout] at place
    exact ⟨first, housed.direct_place relative parts notHere notUp (direct text first rest parts)
      place, Staging.digest_of_parts parts⟩
  obtain ⟨first, isFirst, spelled⟩ := named text place
  obtain ⟨second, isSecond, otherSpelled⟩ := named other otherPlace
  obtain rfl : first = second := by simpa using isFirst.symm.trans isSecond
  exact String.toList_injective (spelled.symm.trans otherSpelled)

end Session

/-! ## Compilers stay -/

namespace Session

/-- A resolver, if it is there, has a given compiler. -/
def Uses (session : Session) (id : Nat) (compiler : Compiler) : Prop :=
  ∀ resolver, session.resolvers.get? id = some resolver → resolver.compiler = compiler

variable {session after : Session} {id : Nat} {compiler : Compiler}

theorem Uses.same (uses : Uses session id compiler) (resolvers : after.resolvers = session.resolvers) :
    Uses after id compiler :=
  fun resolver present => uses resolver (resolvers ▸ present)

theorem Uses.calm (uses : Uses session id compiler) (calm : Calm session after) :
    Uses after id compiler := by
  intro resolver present
  have stands := calm.resolver id
  rw [present, Option.map_some] at stands
  obtain ⟨before, there, same⟩ := Option.map_eq_some_iff.mp stands.symm
  have isSame : before.compiler = resolver.compiler :=
    congrArg (fun standing => standing.1.compiler) same
  exact isSame.symm.trans (uses before there)

theorem Uses.updateResolver (uses : Uses session id compiler) (other : Nat)
    {change : Resolver → Resolver} (keeps : ∀ resolver, (change resolver).compiler = resolver.compiler) :
    Uses (session.updateResolver other change) id compiler := by
  intro resolver present
  simp only [Session.updateResolver, Table.get?_update] at present
  split at present
  · obtain ⟨before, there, rfl⟩ := Option.map_eq_some_iff.mp present
    exact (keeps before).trans (uses before there)
  · exact uses resolver present

theorem Uses.unmarkBusy (uses : Uses session id compiler) (other : Nat) (thread : Thread) :
    Uses (session.unmarkBusy other thread) id compiler :=
  uses.updateResolver other fun _ => rfl

theorem Uses.settle (uses : Uses session id compiler) : Uses session.settle id compiler := by
  have kept : Uses session.keptLoaders id compiler := fun resolver present =>
    uses resolver (session.keptLoaders_pruned.resolver_before present)
  rw [settle_eq]
  generalize session.keptLoaders.deadTemporaries = dead
  generalize session.keptLoaders = now at kept
  induction dead generalizing now with
  | nil => exact kept
  | cons first rest inductionHypothesis =>
    exact inductionHypothesis _ (kept.calm (dropTemporary_calm now first).1)

theorem Uses.enlisted (uses : Uses session id compiler) (other : Nat) (unit : LoadedUnit) :
    Uses (session.enlisted other unit) id compiler := by
  have added : Uses (session.addUnit unit).1 id compiler := uses.same rfl
  exact added.updateResolver other fun _ => rfl

theorem Uses.register (uses : Uses session id compiler) (other : Nat) (name artifact : String)
    (temporary : Option Nat) :
    Uses (session.register other name artifact temporary).1 id compiler := by
  rcases session.register_cases other name artifact temporary with
    ⟨error, failed⟩ | ⟨resolver, size, content, _, _, _, succeeded⟩
  · rw [failed]
    exact uses
  · rw [succeeded, enlist_eq]
    exact (uses.enlisted other _).settle

theorem Uses.compile (uses : Uses session id compiler) {other : Nat} {resolver : Resolver}
    (present : session.resolvers.get? other = some resolver) {thread : Thread}
    {archive output name : String} {result : Except LoadError Nat}
    (compiled : session.compile other resolver thread archive output name none = (after, result)) :
    Uses after id compiler := by
  rcases result with error | number
  · obtain ⟨unsettled, rfl, left⟩ := compile_error (fun _ impossible => by cases impossible) compiled
    exact (uses.calm left.calm).settle
  · obtain ⟨ran, outcome, content, heard, _, _, _, _, isAfter⟩ := compile_enlists present compiled
    have marked : Uses (session.markBusy other thread) id compiler :=
      uses.updateResolver other fun _ => rfl
    have isRan : ran = ((session.markBusy other thread).invoke other resolver thread
      ⟨archive, output, true⟩).1 := by rw [heard]
    have called : Uses ran id compiler := marked.same (by rw [isRan]; rfl)
    have registered := (called.enlisted other
      (unitOf (entered resolver thread) name output none content)).settle
    rw [isAfter]
    exact (registered.unmarkBusy other thread).settle

theorem Uses.compileContainer (uses : Uses session id compiler) {other : Nat} {resolver : Resolver}
    (present : session.resolvers.get? other = some resolver) (thread : Thread)
    (container output name : String) :
    Uses (session.compileContainer other resolver thread container output name).1 id compiler := by
  unfold Session.compileContainer
  generalize some resolver.staging.archiveExtension = extension
  have resolvers : (session.stage resolver.staging container extension false).1.resolvers =
      session.resolvers := by rw [stage_rest]
  rcases isStaged : session.stage resolver.staging container extension false with
    ⟨there, refusal | archive⟩
  all_goals
    rw [isStaged] at resolvers
    dsimp only at resolvers ⊢
  · exact uses.same resolvers
  · rcases Packaging.packageContainer archive container there.files with ⟨files, cause | count⟩
    all_goals
      have packaged : Uses { there with files } id compiler := uses.same resolvers
      dsimp only
    · exact packaged.calm (discard_restored _ archive).toCalm
    · rcases compiled : Session.compile { there with files } other resolver thread archive output name none
        with ⟨later, error | unit⟩
      all_goals
        have ran := packaged.compile ((congrArg (Table.get? · other) resolvers).trans present) compiled
        dsimp only
      · exact (ran.calm (discard_restored _ output).toCalm).calm (discard_restored _ archive).toCalm
      · exact ran.calm (discard_restored _ archive).toCalm

end Session

/-! ## What a load does to artifacts -/

namespace Session

/-- The trees have one skeleton, and every artifact that one path is apart from is shown as
before. -/
structure Beside (resolver : Resolver) (output : String) (files other : Files) : Prop where
  skeleton : SameSkeleton files other
  shown : ∀ text, Apart files output (durable resolver text) →
    other.shown? (durable resolver text) = files.shown? (durable resolver text)

section

variable {resolver : Resolver} {output : String} {files other third : Files}

theorem Beside.trans (left : Beside resolver output files other)
    (right : Beside resolver output other third) : Beside resolver output files third where
  skeleton := left.skeleton.trans right.skeleton
  shown := fun text apart =>
    (right.shown text (apart.of_skeleton left.skeleton)).trans (left.shown text apart)

theorem Spares.beside (spares : Spares resolver files other) (output : String) :
    Beside resolver output files other :=
  ⟨spares.skeleton, fun text _ => spares.shown text⟩

theorem Beside.of_touches (touches : Touches output files other) :
    Beside resolver output files other :=
  ⟨touches.skeleton, fun _ apart => touches.status apart⟩

end

variable {session after : Session} {id : Nat} {holder : String} {resolver now : Resolver}
variable {thread : Thread} {archive container name text : String}

/-- Deleting a staged file leads onward. -/
theorem discard_onward {path : String} (plain : Plain session.files path) :
    Onward session (session.discard path) id := by
  refine (discard_keepsLinks session path).onward ?_ ?_
  · rw [discard_files]
    exact (removeIfExists_touches plain).skeleton
  · unfold discard
    split <;> rfl

/-- A compile for good leaves what the compiler made of the tree. If it failed, what the compiler left
may be gone again. -/
theorem Ready.compile_leaves (ready : Ready session id holder resolver)
    (present : session.resolvers.get? id = some now) (faithful : Faithful now.compiler)
    {result : Except LoadError Nat}
    (compiled : session.compile id now thread archive (durable resolver text) name none =
      (after, result)) :
    Onward session after id ∧ ∃ left, Through (durable resolver text) session.files left ∧
      Spares resolver left after.files ∧ ∀ number, result = .ok number →
        ∃ outcome, now.compiler ⟨archive, durable resolver text, true⟩ session.files =
          (left, .ok outcome) := by
  have ran := faithful ⟨archive, durable resolver text, true⟩ session.files
  have plain := ready.plain text
  rcases result with error | number
  · obtain ⟨unsettled, rfl, failed⟩ := compile_error (fun _ impossible => by cases impossible) compiled
    have through : Through (durable resolver text) session.files unsettled.files := by
      rcases failed.left with ⟨files, _⟩ | ⟨files, _⟩
      · rw [files]
        exact ran
      · rw [files]
        exact ran.removeIfExists
    have temporaries : unsettled.temporaries = session.temporaries := by
      rcases failed.left with ⟨_, same⟩ | ⟨_, same⟩
      · exact same
      · exact same
    have onward : Onward session unsettled id :=
      failed.calm.keepsLinks.onward (through.touches plain).skeleton temporaries
    have ready := ready.onward onward
    exact ⟨onward.trans ready.settle_onward, unsettled.files, through, ready.settle_spares,
      fun _ impossible => by cases impossible⟩
  · obtain ⟨called, outcome, content, heard, _, _, _, _, isAfter⟩ := compile_enlists present compiled
    have isCalled : called = ((session.markBusy id thread).invoke id now thread
      ⟨archive, durable resolver text, true⟩).1 := by rw [heard]
    have made : now.compiler ⟨archive, durable resolver text, true⟩ session.files =
        (called.files, .ok outcome) := by
      have result : (now.compiler ⟨archive, durable resolver text, true⟩ session.files).2 =
        .ok outcome := congrArg Prod.snd heard
      rw [isCalled, ← result]
      rfl
    have through : Through (durable resolver text) session.files called.files := by
      rw [made] at ran
      exact ran
    have onward : Onward session called id := by
      refine KeepsLinks.onward ?_ (through.touches plain).skeleton (by rw [isCalled]; rfl)
      rw [isCalled]
      exact (markBusy_quiet session id thread).toKeepsLinks.trans
        (invoke_keepsLinks _ id now thread ⟨archive, durable resolver text, true⟩)
    have enlisted := onward.trans (called.enlisted_onward id
      (unitOf (entered now thread) name (durable resolver text) none content))
    have registered := ready.onward enlisted
    have settled := enlisted.trans registered.settle_onward
    have unmarked := settled.trans ((unmarkBusy_quiet _ id thread).toKeepsLinks.onward
      (SameSkeleton.refl _) rfl)
    have idle := ready.onward unmarked
    rw [isAfter]
    exact ⟨unmarked.trans idle.settle_onward, called.files, through,
      registered.settle_spares.trans idle.settle_spares, fun _ _ => ⟨outcome, made⟩⟩

end Session

/-- What a compiler makes of a content: it is given an archive with the entries of the content that
are no directories, and leaves the artifact. -/
def CompiledFrom (compiler : Compiler) (source artifact : Bytes) : Prop :=
  ∃ files archive output after outcome entries parts,
    Zip.entries? source = some entries ∧
    List.Forall₂ (Packaging.Copies source) (entries.filter (!·.isDirectory)) parts ∧
    files.read archive = .ok (Zip.write parts) ∧
    compiler ⟨archive, output, true⟩ files = (after, .ok outcome) ∧
    after.read output = .ok artifact

namespace Session

variable {session after : Session} {id number : Nat} {holder : String} {resolver now : Resolver}
variable {thread : Thread} {container text : String}

/-- A unit, the most recent one of its resolver, is bound to an artifact that was compiled from a
content. -/
structure Serves (after : Session) (id : Nat) (holder : String) (resolver : Resolver)
    (registry : Registry Nat) (output : String) (source : Bytes) (number : Nat) : Prop where
  artifact : ∃ bytes, after.files.read output = .ok bytes ∧ bytes ≠ [] ∧
    CompiledFrom resolver.compiler source bytes
  unit : ∃ unit, unit.name = Path.unitName output ∧ unit.artifact = output ∧
    UnitContent.bind resolver.platform after.files output = .ok unit.content ∧
      Enrolled after id holder (Registry.register registry (Path.unitName output) number) number unit

section

variable (ready : Ready session id holder resolver)
  (present : session.resolvers.get? id = some now) (faithful : Faithful now.compiler)
  (staging : now.staging = resolver.staging)
  (empty : session.files.shownLength (durable resolver text) = 0)
include ready present faithful staging empty

/-- A compile of a container that fails leaves no artifact of its own and all others as they
were. -/
theorem Ready.compileContainer_fails {error : LoadError} {name : String}
    (failed : session.compileContainer id now thread container (durable resolver text) name =
      (after, .error error)) :
    Onward session after id ∧ Beside resolver (durable resolver text) session.files after.files ∧
      after.files.shownLength (durable resolver text) = 0 := by
  unfold compileContainer at failed
  rw [staging] at failed
  rcases isStaged : session.stage resolver.staging container
    (some resolver.staging.archiveExtension) false with ⟨staged, refusal | archive⟩
  all_goals
    obtain ⟨onward, spares, spare⟩ := ready.stage container isStaged
    have still := (spares.shownLength ⟨text, rfl⟩).trans empty
    rw [isStaged] at failed
    dsimp only at failed
  · obtain ⟨rfl, _⟩ := Prod.mk.inj failed
    exact ⟨onward, spares.beside _, still⟩
  · have spare := spare archive rfl
    have packing := Packaging.packageContainer_touches archive container staged.files
    rcases packaged : Packaging.packageContainer archive container staged.files with
      ⟨files, cause | count⟩
    all_goals
      rw [packaged] at failed packing
      dsimp only at failed packing
      have packs := spares.trans (spare.spares packing)
      have spare := spare.of_skeleton packing.skeleton
    · obtain ⟨rfl, _⟩ := Prod.mk.inj failed
      have deleted := removeIfExists_touches spare.plain
      have all := packs.trans (spare.spares deleted)
      rw [discard_files]
      exact ⟨(onward.trans (Onward.files staged packing.skeleton)).trans
        (discard_onward spare.plain), all.beside _, (all.shownLength ⟨text, rfl⟩).trans empty⟩
    · have there : { staged with files }.resolvers.get? id = some now := by
        have resolvers : staged.resolvers = session.resolvers := by
          have kept := stage_rest session resolver.staging container
            (some resolver.staging.archiveExtension) false
          rw [isStaged] at kept
          dsimp only at kept
          rw [kept]
        exact (congrArg (Table.get? · id) resolvers).trans present
      have onward := onward.trans (Onward.files staged packing.skeleton)
      have ready := ready.onward onward
      rcases compiled : compile { staged with files } id now thread archive
        (durable resolver text) name none with ⟨later, cause | unit⟩
      all_goals
        rw [compiled] at failed
        dsimp only at failed
      · obtain ⟨rfl, _⟩ := Prod.mk.inj failed
        obtain ⟨ran, left, through, leaves, _⟩ := ready.compile_leaves there faithful compiled
        have noDirectory : ∀ location,
            later.files.shown? (durable resolver text) ≠ some (location, .directory) := by
          intro location shown
          rw [leaves.shown] at shown
          refine through.noDirectory (noDirectory_of_empty ?_) location shown
          exact (packs.shownLength ⟨text, rfl⟩).trans empty
        have plain := (ready.plain text).of_skeleton
          ((through.touches (ready.plain text)).skeleton.trans leaves.skeleton)
        have discarded := removeIfExists_touches plain
        have written : Beside resolver (durable resolver text) _ _ :=
          Beside.of_touches (through.touches (ready.plain text))
        have own := written.trans ((leaves.beside _).trans (.of_touches discarded))
        have spare := spare.of_skeleton own.skeleton
        have deleted := removeIfExists_touches spare.plain
        have gone := (onward.trans ran).trans (discard_onward plain)
        have ended := gone.trans (discard_onward (by rw [discard_files]; exact spare.plain))
        rw [discard_files, discard_files]
        exact ⟨ended, ((packs.beside _).trans own).trans ((spare.spares deleted).beside _),
          shownLength_removeIfExists _ archive _ (removed_shownLength _ _ noDirectory)⟩
      · cases (Prod.mk.inj failed).2

omit empty in
/-- A compile of a container that succeeds leaves an artifact that was compiled from the content of
the container, and all others as they were. -/
theorem Ready.compileContainer_serves (wired : Wired session)
    (compiled : session.compileContainer id now thread container (durable resolver text)
      (Path.unitName (durable resolver text)) = (after, .ok number)) :
    Onward session after id ∧ Beside resolver (durable resolver text) session.files after.files ∧
      ∃ source, session.files.read container = .ok source ∧
        Serves after id holder now now.registry (durable resolver text) source number := by
  obtain ⟨archive, removed, cleared, packaged, count, later, isArchive, isCleared, isPackaged, ran,
    rfl⟩ := compileContainer_ok compiled
  have spare : Spare resolver session.files archive := by
    rw [isArchive, archiveFor, staging]
    exact ready.archives container session.fresh (Nat.le_refl _)
  have clearing : Touches archive session.files cleared := by
    have touches := removeIfExists_touches spare.plain
    rw [isCleared] at touches
    exact touches
  have nothing : cleared.shownLength archive = 0 := by
    rw [shownLength, shown_of_nowhere (nowhere_of_cleared isCleared)]
  obtain ⟨source, entries, parts, opened, copies, isWritten⟩ :=
    Packaging.packageContainer_ok nothing isPackaged
  obtain ⟨isRead, listed, -⟩ :=
    Packaging.openContainer_ok (openContainer_cleared isCleared opened)
  have packing : Touches archive cleared packaged := by
    have touches := Packaging.packageContainer_touches archive container cleared
    rw [isPackaged] at touches
    exact touches
  have packs := spare.spares (clearing.trans packing)
  have onward : Onward session { session.number.1 with files := packaged } id :=
    ⟨rfl, fun now there => ⟨now, there, rfl, rfl⟩, packs.skeleton, Nat.le_succ _,
      fun _ listed => listed⟩
  have ready := ready.onward onward
  have there : { session.number.1 with files := packaged }.resolvers.get? id = some now := present
  obtain ⟨further, left, through, leaves, made⟩ := ready.compile_leaves there faithful ran
  obtain ⟨outcome, made⟩ := made number rfl
  obtain ⟨called, answer, content, heard, isNow, filled, bound, isNumber, isLater⟩ :=
    compile_enlists there ran
  have files : called.files = left := by
    have isCalled := congrArg (fun called => called.1.files) heard
    exact isCalled.symm.trans (congrArg Prod.fst made)
  rw [outputSize_eq, files] at filled
  rw [files] at bound
  obtain ⟨location, bytes, modified, shown⟩ := UnitContent.shown_of_bind bound
  have nonempty : bytes ≠ [] := by
    rintro rfl
    exact filled (by rw [shownLength, shown]; rfl)
  -- The archive is deleted in the end, and that leaves the artifact alone.
  have spare := spare.of_skeleton (packs.skeleton.trans
    ((through.touches (ready.plain text)).skeleton.trans leaves.skeleton))
  have deleted := removeIfExists_touches spare.plain
  have leaves := leaves.trans (spare.spares deleted)
  have still := (leaves.shown text).trans shown
  rw [← discard_files] at leaves still
  have kept : KeepsLinks session called := by
    have numbered : KeepsLinks session { session.number.1 with files := packaged } :=
      ⟨rfl, Nat.le_succ _⟩
    have isCalled : called = _ := (congrArg Prod.fst heard).symm
    rw [isCalled]
    exact (numbered.trans (markBusy_quiet _ id thread).toKeepsLinks).trans
      (invoke_keepsLinks _ id now thread ⟨archive, durable resolver text, true⟩)
  have held : (holder, .loader (.resolver id)) ∈ called.held := by
    rw [show called.held = session.held from congrArg Links.held kept.links]
    exact ready.held
  have enrolled := enlisted_settled (wired.keeps kept) held isNow
    (unitOf (entered now thread) (Path.unitName (durable resolver text)) (durable resolver text) none
      content) thread
  rw [← isLater, isNumber] at enrolled
  refine ⟨(onward.trans further).trans (discard_onward spare.plain),
    (packs.beside _).trans ((Beside.of_touches (through.touches (ready.plain text))).trans
    (leaves.beside _)), source, isRead, ?_, ?_⟩
  · exact ⟨bytes, read_of_shown still, nonempty, _, archive, durable resolver text, left, outcome,
      entries, parts, listed, copies, isWritten, made, read_of_shown shown⟩
  · exact ⟨_, rfl, rfl, (UnitContent.bind_of_shown shown still now.platform).trans bound,
      enrolled.discard archive⟩

end

end Session

/-! ## Runs of loads -/

/-- A container as a load finds it. -/
structure Sighting where
  container : String
  modified : Int
  content : Bytes
  deriving DecidableEq

/-- What the name of its artifact is a digest of. -/
def Sighting.message (sighting : Sighting) : String :=
  Staging.durableMessage sighting.container sighting.modified

namespace Session

/-- What a load finds, if there is anything. -/
def sightings (session : Session) (container : String) : List Sighting :=
  match session.files.modified container, session.files.read container with
  | .ok modified, .ok content => [⟨container, modified, content⟩]
  | _, _ => []

/-- A resolver stands in a directory of its own, and loads with it can begin. -/
structure Placed (tenancy : Tenancy) (session : Session) : Prop where
  housed : Housed tenancy.home session.files
  wired : Wired session
  held : (tenancy.holder, .loader (.resolver tenancy.id)) ∈ session.held
  opened : ∃ now, session.resolvers.get? tenancy.id = some now ∧
    now.staging = tenancy.resolver.staging ∧ now.platform = tenancy.resolver.platform
  uses : Uses session tenancy.id tenancy.resolver.compiler
  temporaries : ∀ entry ∈ session.temporaries, entry.2.isReleased = false →
    IsStaged tenancy.resolver entry.2.path ∨ Aloof tenancy.home session.files entry.2.path

/-- Every artifact was compiled from what was seen of a container, and bears the digest of its path
and time. -/
def Sourced (resolver : Resolver) (seen : List Sighting) (files : Files) : Prop :=
  ∀ text artifact, files.read (durable resolver text) = .ok artifact → artifact ≠ [] →
    ∃ sighting ∈ seen, Staging.digest sighting.message = Staging.digest text ∧
      CompiledFrom resolver.compiler sighting.content artifact

/-- A run of loads with a resolver, and of changes of files that leave its directory alone, with all
that the loads have seen of the containers. In the beginning there are no artifacts. -/
inductive Loading (tenancy : Tenancy) : Session → List Sighting → Prop
  | begun {session : Session} (placed : Placed tenancy session)
      (bare : ∀ text artifact,
        session.files.read (durable tenancy.resolver text) = .ok artifact → artifact = []) :
      Loading tenancy session []
  | rewritten {session : Session} {seen : List Sighting} (run : Loading tenancy session seen)
      {files : Files}
      (inside : ∀ location, Inside tenancy.home.place location →
        files.node? location = session.files.node? location)
      (placed : Placed tenancy { session with files }) : Loading tenancy { session with files } seen
  | loaded {session : Session} {seen : List Sighting} (run : Loading tenancy session seen)
      (thread : Thread) (container : String) :
      Loading tenancy (session.loadContainer tenancy.id thread container).1
        (seen ++ session.sightings container)

/-- Path and time tell the content of a container: digests differ where messages do, and a container
with another content has another time. A time before 1970 counts as the start of that year. -/
structure Discerned (seen : List Sighting) : Prop where
  digests : ∀ first ∈ seen, ∀ second ∈ seen,
    Staging.digest first.message = Staging.digest second.message → first.message = second.message
  times : ∀ first ∈ seen, ∀ second ∈ seen, first.container = second.container →
    first.modified.toNat = second.modified.toNat → first.content = second.content

/-- Sightings with one digest are of one content. -/
theorem Discerned.content {seen : List Sighting} (discerned : Discerned seen) {first second : Sighting}
    (left : first ∈ seen) (right : second ∈ seen)
    (same : Staging.digest first.message = Staging.digest second.message) :
    first.content = second.content := by
  obtain ⟨container, time⟩ :=
    Staging.durableMessage_inj (discerned.digests first left second right same)
  exact discerned.times first left second right container time

variable {tenancy : Tenancy} {session after : Session} {seen : List Sighting}
variable {thread : Thread} {container : String}

theorem Placed.ready (placed : Placed tenancy session) :
    Ready session tenancy.id tenancy.holder tenancy.resolver :=
  .of_housed placed.housed tenancy.layout tenancy.direct placed.held placed.opened
    placed.temporaries

/-- What lies onward is placed. -/
theorem Placed.onward (placed : Placed tenancy session) (onward : Onward session after tenancy.id)
    (wired : Wired after) (uses : Uses after tenancy.id tenancy.resolver.compiler) :
    Placed tenancy after where
  housed := placed.housed.of_skeleton onward.skeleton
  wired := wired
  held := onward.held ▸ placed.held
  opened := (placed.ready.onward onward).opened
  uses := uses
  temporaries := fun entry listed unreleased =>
    (placed.temporaries entry (onward.temporaries entry listed) unreleased).imp_right
      (·.of_skeleton onward.skeleton)

/-- A load that finds a file finds its content and its time. -/
theorem sightings_of_file (isFile : session.files.isFile container = true) :
    ∃ sighting, session.sightings container = [sighting] ∧
      session.files.read container = .ok sighting.content ∧
        ∀ resolver : Resolver, resolver.staging.durablePath container session.files =
          .ok (durable resolver sighting.message) := by
  have status : ∃ location content modified,
      session.files.status container = .ok (location, .file content modified) := by
    unfold Files.isFile at isFile
    split at isFile
    · next location content modified status => exact ⟨location, content, modified, status⟩
    · cases isFile
  obtain ⟨location, content, modified, status⟩ := status
  have isRead : session.files.read container = .ok content := by rw [Files.read, status]
  have isDated : session.files.modified container = .ok modified := by rw [Files.modified, status]
  refine ⟨⟨container, modified, content⟩, by rw [sightings, isDated, isRead], isRead, ?_⟩
  intro resolver
  rw [Staging.durablePath, isDated]
  rfl

/-- What was seen is what the container holds. -/
theorem read_of_sighting {sighting : Sighting} (found : sighting ∈ session.sightings container) :
    session.files.read container = .ok sighting.content := by
  unfold sightings at found
  split at found
  · next isRead =>
    rw [List.mem_singleton.mp found]
    exact isRead
  · cases found

theorem Sourced.mono {resolver : Resolver} {files other : Files} (sourced : Sourced resolver seen files)
    (later : List Sighting) (shown : ∀ text artifact,
      other.read (durable resolver text) = .ok artifact → artifact ≠ [] →
        files.read (durable resolver text) = .ok artifact) :
    Sourced resolver (seen ++ later) other := by
  intro text artifact isRead nonempty
  obtain ⟨sighting, found, same, compiled⟩ :=
    sourced text artifact (shown text artifact isRead nonempty) nonempty
  exact ⟨sighting, List.mem_append_left later found, same, compiled⟩

/-- Where artifacts are spared, they come from where they came from. -/
theorem Sourced.spared {resolver : Resolver} {files other : Files}
    (sourced : Sourced resolver seen files) (spares : Spares resolver files other)
    (later : List Sighting) : Sourced resolver (seen ++ later) other := by
  refine sourced.mono later fun text artifact isRead _ => ?_
  obtain ⟨location, modified, shown⟩ := shown_of_read isRead
  exact read_of_shown ((spares.shown text).symm.trans shown)

/-- Where nothing is left of one artifact and all others are as they were, they come from where they
came from. -/
theorem Sourced.removed {resolver : Resolver} {files other : Files} {output : String}
    (sourced : Sourced resolver seen files) (beside : Beside resolver output files other)
    (empty : other.shownLength output = 0) (later : List Sighting) :
    Sourced resolver (seen ++ later) other := by
  refine sourced.mono later fun text artifact isRead nonempty => ?_
  obtain ⟨location, modified, shown⟩ := shown_of_read isRead
  have apart := (apart_of_empty empty shown nonempty).of_skeleton beside.skeleton.symm
  exact read_of_shown ((beside.shown text apart).symm.trans shown)

/-- Where one artifact was compiled from what is now seen and all others are as they were, it is
known where all of them come from. -/
theorem Sourced.compiled {home : Home} {resolver : Resolver} {files other : Files} {artifact : Bytes}
    (sourced : Sourced resolver seen files) (housed : Housed home files)
    (layout : resolver.layout = home.layout) (direct : Direct home resolver) (sighting : Sighting)
    (beside : Beside resolver (durable resolver sighting.message) files other)
    (own : other.read (durable resolver sighting.message) = .ok artifact)
    (compiled : CompiledFrom resolver.compiler sighting.content artifact) :
    Sourced resolver (seen ++ [sighting]) other := by
  intro text content isRead nonempty
  obtain ⟨location, modified, shown⟩ := shown_of_read isRead
  by_cases apart : Apart files (durable resolver sighting.message) (durable resolver text)
  · have early := read_of_shown ((beside.shown text apart).symm.trans shown)
    obtain ⟨first, found, same, isCompiled⟩ := sourced text content early nonempty
    exact ⟨first, List.mem_append_left _ found, same, isCompiled⟩
  · -- Otherwise it is the very artifact that was compiled.
    obtain ⟨place, target, there⟩ :
        ∃ place, files.target? (durable resolver sighting.message) = some place ∧
          files.place? true (durable resolver text) = some place := by
      simpa [Apart] using apart
    have ownPlace := place_of_target target
    obtain ⟨ownLocation, ownTime, ownShown⟩ := shown_of_read own
    have stands := stands_of_shown shown
    have ownStands := stands_of_shown ownShown
    rw [beside.skeleton.place] at stands ownStands
    obtain rfl := Option.some.inj (there.symm.trans stands.1)
    obtain rfl := Option.some.inj (ownPlace.symm.trans ownStands.1)
    have same : artifact = content := by
      have node := Option.some.inj (ownStands.2.symm.trans stands.2)
      injection node
    exact ⟨sighting, by simp, digest_of_place housed layout direct ownPlace there, same ▸ compiled⟩

/-- An artifact that is there is registered as it is. -/
theorem Ready.register_serves {id number : Nat} {holder output : String} {resolver now : Resolver}
    (ready : Ready session id holder resolver) (wired : Wired session)
    (present : session.resolvers.get? id = some now) {text : String}
    (isOutput : output = durable resolver text) {source bytes : Bytes}
    (isRead : session.files.read output = .ok bytes) (nonempty : bytes ≠ [])
    (compiled : CompiledFrom now.compiler source bytes)
    (registered : session.register id (Path.unitName output) output none = (after, .ok number)) :
    Serves after id holder now now.registry output source number := by
  have spares := (ready.register (Path.unitName output) output none).2
  rw [registered] at spares
  obtain ⟨location, modified, shown⟩ := shown_of_read isRead
  have still : after.files.shown? output = some (location, .file bytes modified) := by
    rw [isOutput] at shown ⊢
    exact (spares.shown text).trans shown
  refine ⟨⟨bytes, read_of_shown still, nonempty, compiled⟩, ?_⟩
  rcases session.register_cases id (Path.unitName output) output none with
    ⟨error, failed⟩ | ⟨there, size, content, isThere, _, bound, succeeded⟩
  · cases (Prod.mk.inj (failed.symm.trans registered)).2
  · obtain rfl := Option.some.inj (present.symm.trans isThere)
    rw [enlist_eq] at succeeded
    obtain ⟨isAfter, isNumber⟩ := Prod.mk.inj (succeeded.symm.trans registered)
    obtain rfl := Except.ok.inj isNumber
    subst isAfter
    exact ⟨_, rfl, rfl, (UnitContent.bind_of_shown shown still now.platform).trans bound,
      (enlisted_enrolled wired ready.held present _).settle⟩

/-- Whom a unit serves hangs on the compiler and the platform only. -/
theorem Serves.of_settings {id number : Nat} {holder output : String} {now resolver : Resolver}
    {registry : Registry Nat} {source : Bytes}
    (serves : Serves after id holder now registry output source number)
    (compiler : now.compiler = resolver.compiler) (platform : now.platform = resolver.platform) :
    Serves after id holder resolver registry output source number where
  artifact := compiler ▸ serves.artifact
  unit := platform ▸ serves.unit

/-- What a load comes to after loads that saw a number of containers. -/
structure Served (tenancy : Tenancy) (session : Session) (seen : List Sighting) (container : String)
    (after : Session) (result : Except LoadError Nat) : Prop where
  onward : Onward session after tenancy.id
  placed : Placed tenancy after
  sourced : Sourced tenancy.resolver seen after.files
  current : ∀ number, result = .ok number → Discerned seen → ∀ now,
    session.resolvers.get? tenancy.id = some now → ∃ output source,
      tenancy.resolver.staging.durablePath container session.files = .ok output ∧
        session.files.read container = .ok source ∧
          Serves after tenancy.id tenancy.holder tenancy.resolver now.registry output source number

section

variable (placed : Placed tenancy session) (faithful : Faithful tenancy.resolver.compiler)
  (sourced : Sourced tenancy.resolver seen session.files)
include placed faithful sourced

omit faithful in
/-- A load that finds an artifact registers it. -/
theorem Placed.reuse {now : Resolver} (present : session.resolvers.get? tenancy.id = some now)
    {sighting : Sighting} (isRead : session.files.read container = .ok sighting.content)
    {output : String} (path : tenancy.resolver.staging.durablePath container session.files = .ok output)
    (isOutput : output = durable tenancy.resolver sighting.message)
    (filled : session.outputSize output ≠ 0) {result : Except LoadError Nat}
    (registered : session.register tenancy.id (Path.unitName output) output none = (after, result)) :
    Served tenancy session (seen ++ [sighting]) container after result := by
  have ready := placed.ready
  have uses := placed.uses.register tenancy.id (Path.unitName output) output none
  have wired := placed.wired.register tenancy.id (Path.unitName output) output none
  obtain ⟨onward, spares⟩ := ready.register (Path.unitName output) output none
  rw [registered] at onward spares uses wired
  refine ⟨onward, placed.onward onward wired uses, sourced.spared spares _, ?_⟩
  rintro number rfl discerned same isSame
  obtain rfl := Option.some.inj (present.symm.trans isSame)
  obtain ⟨was, there, _, platform⟩ := placed.opened
  obtain rfl := Option.some.inj (present.symm.trans there)
  have compiler := placed.uses now present
  -- What is registered is a file, and it is not empty, so it is known where it comes from.
  obtain ⟨content, bound⟩ : ∃ content,
      UnitContent.bind now.platform session.files output = .ok content := by
    rcases session.register_cases tenancy.id (Path.unitName output) output none with
      ⟨error, failed⟩ | ⟨other, size, content, isOther, _, bound, _⟩
    · cases (Prod.mk.inj (failed.symm.trans registered)).2
    · obtain rfl := Option.some.inj (present.symm.trans isOther)
      exact ⟨content, bound⟩
  obtain ⟨location, bytes, modified, shown⟩ := UnitContent.shown_of_bind bound
  have nonempty : bytes ≠ [] := by
    rintro rfl
    rw [outputSize_eq] at filled
    exact filled (by rw [shownLength, shown]; rfl)
  have isBytes := read_of_shown shown
  obtain ⟨first, found, digest, compiled⟩ :=
    sourced sighting.message bytes (isOutput ▸ isBytes) nonempty
  have isContent := discerned.content (List.mem_append_left _ found) (by simp) digest
  rw [isContent, ← compiler] at compiled
  have serves := ready.register_serves placed.wired present isOutput isBytes nonempty compiled
    registered
  exact ⟨_, _, path, isRead, serves.of_settings compiler platform⟩

/-- A load that finds no artifact compiles one. -/
theorem Placed.recompile {now : Resolver} (present : session.resolvers.get? tenancy.id = some now)
    {sighting : Sighting} (isRead : session.files.read container = .ok sighting.content)
    {output : String} (path : tenancy.resolver.staging.durablePath container session.files = .ok output)
    (isOutput : output = durable tenancy.resolver sighting.message)
    (empty : session.outputSize output = 0) {result : Except LoadError Nat}
    (compiled : session.compileContainer tenancy.id now thread container output
      (Path.unitName output) = (after, result)) :
    Served tenancy session (seen ++ [sighting]) container after result := by
  have ready := placed.ready
  obtain ⟨was, there, staging, platform⟩ := placed.opened
  obtain rfl := Option.some.inj (present.symm.trans there)
  have compiler := placed.uses now present
  rw [← compiler] at faithful
  have uses := placed.uses.compileContainer present thread container output (Path.unitName output)
  have wired := wired_persistent.lasting.compileContainer placed.wired tenancy.id now thread container output
    (Path.unitName output)
  rw [compiled] at uses wired
  rw [outputSize_eq] at empty
  subst isOutput
  rcases result with error | number
  · obtain ⟨onward, beside, nothing⟩ :=
      ready.compileContainer_fails present faithful staging empty compiled
    exact ⟨onward, placed.onward onward wired uses, sourced.removed beside nothing _,
      fun _ impossible => by cases impossible⟩
  · obtain ⟨onward, beside, source, isSource, serves⟩ :=
      ready.compileContainer_serves present faithful staging placed.wired compiled
    obtain rfl := Except.ok.inj (isRead.symm.trans isSource)
    have serves := serves.of_settings compiler platform
    obtain ⟨bytes, own, nonempty, made⟩ := serves.artifact
    refine ⟨onward, placed.onward onward wired uses, ?_, ?_⟩
    · exact sourced.compiled placed.housed tenancy.layout tenancy.direct sighting beside own made
    · rintro other isNumber discerned same isSame
      obtain rfl := Option.some.inj (present.symm.trans isSame)
      obtain rfl := Except.ok.inj isNumber
      exact ⟨_, _, path, isRead, serves⟩

/-- Whatever a load comes to, it stays known where artifacts come from, and a load that succeeds
serves what the container holds. -/
theorem Placed.loadContainer {result : Except LoadError Nat}
    (loaded : session.loadContainer tenancy.id thread container = (after, result)) :
    Served tenancy session (seen ++ session.sightings container) container after result := by
  obtain ⟨now, present, staging, _⟩ := placed.opened
  unfold Session.loadContainer at loaded
  rw [present] at loaded
  dsimp only at loaded
  by_cases isFile : session.files.isFile container = true
  · obtain ⟨sighting, isSighting, isRead, path⟩ := sightings_of_file isFile
    rw [isSighting]
    rw [staging, isFile, path tenancy.resolver] at loaded
    simp only [Bool.not_true, Bool.false_eq_true, ↓reduceIte, compileOrReuse] at loaded
    split at loaded
    · next empty =>
      exact placed.recompile faithful sourced present isRead (path _) rfl empty loaded
    · next filled => exact placed.reuse sourced present isRead (path _) rfl filled loaded
  · rw [Bool.not_eq_true] at isFile
    rw [isFile] at loaded
    simp only [Bool.not_false, ↓reduceIte] at loaded
    obtain ⟨rfl, rfl⟩ := Prod.mk.inj loaded
    exact ⟨Onward.refl _, placed, sourced.spared (Spares.refl _) _,
      fun _ impossible => by cases impossible⟩

end

/-- Every run keeps the resolver placed, and it stays known where artifacts come from. -/
theorem Loading.sourced (run : Loading tenancy session seen)
    (faithful : Faithful tenancy.resolver.compiler) :
    Placed tenancy session ∧ Sourced tenancy.resolver seen session.files := by
  induction run with
  | begun placed bare =>
    exact ⟨placed, fun text artifact isRead nonempty => absurd (bare text artifact isRead) nonempty⟩
  | @rewritten session seen run files inside placed inductionHypothesis =>
    obtain ⟨before, sourced⟩ := inductionHypothesis
    refine ⟨placed, fun text artifact isRead nonempty => ?_⟩
    obtain ⟨location, modified, shown⟩ := shown_of_read isRead
    have same := (durable_fixed tenancy.layout tenancy.direct text).shown before.housed placed.housed
      inside
    exact sourced text artifact (read_of_shown (same.symm.trans shown)) nonempty
  | loaded run thread container inductionHypothesis =>
    obtain ⟨placed, sourced⟩ := inductionHypothesis
    have served : Served tenancy _ _ container _ _ :=
      @Placed.loadContainer _ _ _ _ thread container placed faithful sourced _ rfl
    exact ⟨served.placed, served.sourced⟩

/-- A load that succeeds registers, as the most recent unit, one that is bound to an artifact
compiled from the content that the container has then. Before it, any loads and changes of files may
have come, as long as paths and times tell the contents that all these loads saw. Every artifact
that stands has a source among them, by induction on the run, and `Discerned` leaves only one for
the artifact of this load. -/
theorem loadContainer_serves (run : Loading tenancy session seen)
    (faithful : Faithful tenancy.resolver.compiler) {number : Nat}
    (loaded : session.loadContainer tenancy.id thread container = (after, .ok number))
    (discerned : Discerned (seen ++ session.sightings container)) {now : Resolver}
    (present : session.resolvers.get? tenancy.id = some now) :
    ∃ output source,
      tenancy.resolver.staging.durablePath container session.files = .ok output ∧
        session.files.read container = .ok source ∧
          Serves after tenancy.id tenancy.holder tenancy.resolver now.registry output source
            number := by
  obtain ⟨placed, sourced⟩ := run.sourced faithful
  exact (placed.loadContainer faithful sourced loaded).current number rfl discerned now present

/-! ### A container that is rewritten -/

/-- Between operations in which no artifact was compiled for good, the resolver is placed. -/
theorem Kept.placed {ledger : Ledger} (kept : Kept tenancy ledger session)
    (uses : Uses session tenancy.id tenancy.resolver.compiler) (temporaries : session.temporaries = []) :
    Placed tenancy session where
  housed := kept.tended.filled.housed
  wired := kept.tended.wired
  held := kept.tended.held
  opened := kept.tended.opened
  uses := uses
  temporaries := fun entry listed => by rw [temporaries] at listed; cases listed

/-- Where no artifact is accounted for, none stands. -/
theorem Kept.bare {ledger : Ledger} (kept : Kept tenancy ledger session)
    (vacant : ledger.compiled = []) (text : String) (artifact : Bytes) :
    session.files.read (durable tenancy.resolver text) ≠ .ok artifact := by
  intro isRead
  have housed := kept.tended.filled.housed
  obtain ⟨location, modified, shown⟩ := shown_of_read isRead
  obtain ⟨place, node⟩ := stands_of_shown shown
  obtain ⟨first, rfl, _⟩ := durable_place housed tenancy.layout tenancy.direct place
  have inside : Inside tenancy.home.place (tenancy.home.place ++ [first]) :=
    inside_append tenancy.home.place (by simp)
  have noDirectory : session.files.bone? (tenancy.home.place ++ [first]) ≠ some .directory := by
    rw [bone?, node]
    simp [boneOf?]
  have bones := housed.bones _ inside
  rcases kept.tended.filled.only _ inside (by rw [node]; simp) with
    isStaging | isLibraries | ⟨path, impossible | compiled | ⟨id, temporary, counts, rfl⟩, leads⟩
  · exact noDirectory (by rw [bones, if_pos (.inl isStaging)])
  · exact noDirectory (by rw [bones, if_pos (.inr isLibraries)])
  · cases impossible
  · rw [vacant] at compiled
    cases compiled
  · obtain ⟨number, _, staged⟩ := kept.tended.own id temporary counts.present
      (Nat.le_trans kept.tended.since.1 counts.since)
    obtain ⟨name, isStaged⟩ := staged.place tenancy.layout housed (place_of_target leads)
    have lengths := congrArg List.length isStaged
    simp [Home.stagingPlace] at lengths

/-- A file outside the directory can be rewritten. -/
theorem Loading.rewrite (run : Loading tenancy session seen)
    (faithful : Faithful tenancy.resolver.compiler) {path : String} {files : Files}
    (aloof : Aloof tenancy.home session.files path) (through : Through path session.files files) :
    Loading tenancy { session with files } seen := by
  obtain ⟨placed, _⟩ := run.sourced faithful
  have touches := through.touches aloof.plain
  refine run.rewritten (fun location inside => touches.elsewhere location fun target =>
    aloof.outside location target inside) ?_
  exact placed.onward (Onward.files session touches.skeleton)
    (placed.wired.keeps ⟨rfl, Nat.le_refl _⟩) (placed.uses.same rfl)

/-- A file outside the directory can be rewritten before a load and after it, and what comes of that
is a run of one load. -/
theorem Loading.rewriteTwice (run : Loading tenancy session seen)
    (faithful : Faithful tenancy.resolver.compiler) {path : String}
    (aloof : Aloof tenancy.home session.files path) {change later : Files → Files}
    (through : ∀ files, Through path files (change files))
    (laterThrough : ∀ files, Through path files (later files)) {written loaded : Session}
    (isWritten : written = { session with files := change session.files })
    (isLoaded : loaded = (written.loadContainer tenancy.id thread container).1) :
    Loading tenancy { loaded with files := later loaded.files }
      (seen ++ written.sightings container) := by
  subst isWritten isLoaded
  have first := run.rewrite faithful aloof (through session.files)
  obtain ⟨placed, sourced⟩ := first.sourced faithful
  have served : Served tenancy _ _ container _ _ :=
    @Placed.loadContainer _ _ _ _ thread container placed faithful sourced _ rfl
  have skeleton := ((through session.files).touches aloof.plain).skeleton.trans served.onward.skeleton
  exact (first.loaded thread container).rewrite faithful (aloof.of_skeleton skeleton) (laterThrough _)

/-- The container with one symbol, as it is written at some time. -/
def putVersion (files : Files) (time : Int) (body : Bytes) : Files :=
  (({ files with clock := time }.write "a.zip" (Zip.write [("A.class", body)])).toOption).getD
    { files with clock := time }

/-- Writing a version of the container changes no file but `a.zip`. -/
theorem putVersion_through (files : Files) (time : Int) (body : Bytes) :
    Through "a.zip" files (putVersion files time body) := by
  have untouched : Through "a.zip" files files := .nothing files
  have clocked := untouched.clock time
  unfold putVersion
  cases written : ({ files with clock := time } : Files).write "a.zip" (Zip.write [("A.class", body)]) with
  | error error => exact clocked
  | ok after => exact clocked.write written

/-- A resolver that copies is opened, and a container is written. -/
def firstVersion (time : Int) : Session :=
  let opened := besideNothing.perform (.openResolver "loader" {} copying .archive none)
  { opened with files := putVersion opened.files time [1] }

/-- The container is loaded and then written again. -/
def secondVersion (time later : Int) : Session :=
  let loaded := ((firstVersion time).loadContainer 1 "main" "a.zip").1
  { loaded with files := putVersion loaded.files later [2] }

/-- The container is outside of the directory of the resolver. -/
theorem container_aloof :
    Aloof copierHome (besideNothing.perform (.openResolver "loader" {} copying .archive none)).files
      "a.zip" where
  plain := by
    intro location target linked
    have found : (besideNothing.perform
      (.openResolver "loader" {} copying .archive none)).files.locate false "a.zip" =
        .ok (.taken ["tmp", "work", "a.zip"] (.file (Zip.write []) 1000)) := by rfl
    cases found.symm.trans linked
  outside := by
    intro location target inside
    have found : (besideNothing.perform
      (.openResolver "loader" {} copying .archive none)).files.target? "a.zip" =
        some ["tmp", "work", "a.zip"] := by decide +kernel
    obtain rfl := Option.some.inj (found.symm.trans target)
    exact absurd inside.1 (by decide)

/-- What leads to the second version is a run with one load, which saw the first. -/
theorem secondVersion_loading (time later : Int) :
    Loading copierTenancy (secondVersion time later)
      ([] ++ (firstVersion time).sightings "a.zip") := by
  have kept := copierTenancy_opening.kept
  have compiler : (besideNothing.perform (.openResolver "loader" {} copying .archive none)).resolvers =
    [(1, copier)] := rfl
  have uses : Uses (besideNothing.perform (.openResolver "loader" {} copying .archive none)) 1
      copying := by
    intro resolver present
    rw [compiler] at present
    obtain rfl := Option.some.inj present
    rfl
  have begun : Loading copierTenancy _ [] := .begun (kept.placed uses rfl) fun text artifact isRead =>
    absurd isRead (kept.bare rfl text artifact)
  exact begun.rewriteTwice copying_through container_aloof
    (fun files => putVersion_through files time [1])
    (fun files => putVersion_through files later [2]) rfl rfl

/-- A container is written, loaded and written again, at two times from 1970 on. The load after that
serves the second version. -/
theorem loadContainer_serves_rewritten : ∃ after number registry output,
    (secondVersion 1000 2000).loadContainer 1 "main" "a.zip" = (after, .ok number) ∧
      Serves after 1 "loader" copier registry output (Zip.write [("A.class", [2])]) number := by
  have succeeded : ((secondVersion 1000 2000).loadContainer 1 "main" "a.zip").2.toOption = some 5 ∧
      (secondVersion 1000 2000).sightings "a.zip" =
        [⟨"a.zip", 2000, Zip.write [("A.class", [2])]⟩] := by
    decide +kernel
  obtain ⟨after, loaded⟩ : ∃ after,
      (secondVersion 1000 2000).loadContainer 1 "main" "a.zip" = (after, .ok 5) := by
    have number := succeeded.1
    generalize (secondVersion 1000 2000).loadContainer 1 "main" "a.zip" = result at number
    obtain ⟨after, error | number⟩ := result
    · cases number
    · exact ⟨after, by rw [Option.some.inj number]⟩
  have early : (firstVersion 1000).sightings "a.zip" =
      [⟨"a.zip", 1000, Zip.write [("A.class", [1])]⟩] := by decide +kernel
  have digests : Staging.digest (Staging.durableMessage "a.zip" 1000) ≠
      Staging.digest (Staging.durableMessage "a.zip" 2000) := by decide +kernel
  have discerned : Discerned (([] ++ (firstVersion 1000).sightings "a.zip") ++
      (secondVersion 1000 2000).sightings "a.zip") := by
    rw [early, succeeded.2]
    constructor
    · simp [Sighting.message, digests, digests.symm]
    · simp
  have run := secondVersion_loading 1000 2000
  obtain ⟨now, present, _⟩ := (run.sourced copying_through).1.opened
  obtain ⟨output, source, _, isRead, serves⟩ :=
    loadContainer_serves run copying_through loaded discerned present
  have sighted : ⟨"a.zip", 2000, Zip.write [("A.class", [2])]⟩ ∈
      (secondVersion 1000 2000).sightings "a.zip" := by
    rw [succeeded.2]
    exact List.mem_singleton_self _
  have isSource := read_of_sighting sighted
  obtain rfl := Except.ok.inj (isSource.symm.trans isRead)
  exact ⟨after, 5, now.registry, output, loaded, serves⟩

/-- The container is written at two times before 1970. Both loads succeed, and the second one serves
the first version. -/
theorem loadContainer_outdated :
    (firstVersion (-1000)).files.modified "a.zip" = .ok (-1000) ∧
    (secondVersion (-1000) (-2000)).files.modified "a.zip" = .ok (-2000) ∧
    ((firstVersion (-1000)).loadContainer 1 "main" "a.zip").2.toOption = some 3 ∧
    ((secondVersion (-1000) (-2000)).loadContainer 1 "main" "a.zip").2.toOption = some 4 ∧
    (((secondVersion (-1000) (-2000)).loadContainer 1 "main" "a.zip").1.find (.unit 4) "A").2 =
      .found ⟨"A", Path.unitName (durable copier (Staging.durableMessage "a.zip" (-2000))),
        .bytecode [1], 5⟩ := by
  decide +kernel

end Session

end Hotload
