import Hotload.Proofs.LoadArtifacts
import Hotload.Proofs.Purging

/-!
# What stands in the cache directory

The paths of staged files and of lasting artifacts claim places in the cache directory. `Filled`
says that nothing stands there but the two subdirectories and what is claimed: a change through a
path that is claimed keeps it so, and removing what is at a path gives the claim up. `Remains` says
the other way round that something stands at the place of a path; a change through another path
keeps it, because paths of files that were staged with different tokens lead to different places,
and neither leads to that of a lasting artifact.
-/

namespace Hotload

open Files

/-- At most a file stands at the place of the path, wherever the directory is housed. -/
def Storable (home : Home) (path : String) : Prop :=
  ∀ files, Housed home files → Slot files path

/-- Nothing stands in the directory but its subdirectories and what is at the places of the paths
with a claim. -/
structure Filled (home : Home) (files : Files) (claims : String → Prop) : Prop where
  housed : Housed home files
  only : ∀ location, Inside home.place location → files.node? location ≠ none →
    location = home.stagingPlace ∨ location = home.librariesPlace ∨
      ∃ path, claims path ∧ files.target? path = some location

/-- Something stands at the place of the path, and the path names a file. -/
def Remains (files : Files) (path : String) : Prop :=
  ∃ location, files.target? path = some location ∧ files.node? location ≠ none

variable {home : Home} {files after : Files} {claims : String → Prop} {path : String}

/-- A vacant directory is filled with nothing. -/
theorem Vacant.filled (vacant : Vacant home files) : Filled home files claims where
  housed := vacant.housed
  only := by
    intro location inside stands
    rcases vacant.alone location inside stands with isStaging | isLibraries
    · exact .inl isStaging
    · exact .inr (.inl isLibraries)

/-- More paths may have a claim. -/
theorem Filled.mono (filled : Filled home files claims) {wider : String → Prop}
    (wide : ∀ path, claims path → wider path) : Filled home files wider where
  housed := filled.housed
  only := by
    intro location inside stands
    rcases filled.only location inside stands with isStaging | isLibraries | ⟨path, claimed, leads⟩
    · exact .inl isStaging
    · exact .inr (.inl isLibraries)
    · exact .inr (.inr ⟨path, wide path claimed, leads⟩)

/-- A change through a path with a claim brings nothing else into the directory. -/
theorem Filled.touched (filled : Filled home files claims) (claimed : claims path)
    (touches : Touches path files after) : Filled home after claims where
  housed := filled.housed.of_skeleton touches.skeleton
  only := by
    intro location inside stands
    by_cases target : files.target? path = some location
    · exact .inr (.inr ⟨path, claimed, (touches.skeleton.target path).trans target⟩)
    · rw [touches.elsewhere location target] at stands
      rcases filled.only location inside stands with
        isStaging | isLibraries | ⟨other, otherClaimed, leads⟩
      · exact .inl isStaging
      · exact .inr (.inl isLibraries)
      · exact .inr (.inr ⟨other, otherClaimed, (touches.skeleton.target other).trans leads⟩)

/-- A change outside of the directory brings nothing into it. -/
theorem Filled.aloof (filled : Filled home files claims) (aloof : Session.Aloof home files path)
    (touches : Touches path files after) : Filled home after claims where
  housed := filled.housed.of_skeleton touches.skeleton
  only := by
    intro location inside stands
    have elsewhere : files.target? path ≠ some location :=
      fun target => aloof.outside location target inside
    rw [touches.elsewhere location elsewhere] at stands
    rcases filled.only location inside stands with
      isStaging | isLibraries | ⟨other, claimed, leads⟩
    · exact .inl isStaging
    · exact .inr (.inl isLibraries)
    · exact .inr (.inr ⟨other, claimed, (touches.skeleton.target other).trans leads⟩)

/-- A path at which everything was removed has no claim any more. -/
theorem Filled.removed (storable : Storable home path)
    (filled : Filled home files fun other => claims other ∨ other = path) :
    Filled home (files.removeIfExists path).1 claims := by
  have slot := storable files filled.housed
  have touches := removeIfExists_touches slot.plain
  have still := filled.touched (.inr rfl) touches
  refine ⟨still.housed, ?_⟩
  intro location inside stands
  rcases still.only location inside stands with
    isStaging | isLibraries | ⟨other, claimed | rfl, leads⟩
  · exact .inl isStaging
  · exact .inr (.inl isLibraries)
  · exact .inr (.inr ⟨other, claimed, leads⟩)
  · rw [touches.skeleton.target] at leads
    exact absurd (slot.removed leads) stands

/-- Where at most a file can be, what remains is a file. -/
theorem Remains.isFile (remains : Remains files path) (slot : Slot files path) :
    files.isFile path = true := by
  obtain ⟨location, target, stands⟩ := remains
  have place := target
  unfold target? at place
  split at place
  · cases place
  · next named =>
    unfold place? at place
    unfold Files.isFile status
    rcases slot with nowhere | ⟨directory, name, bare, leads⟩
    · obtain ⟨error, refused⟩ := nowhere true
      rw [refused] at place
      cases place
    · rw [leads] at place ⊢
      rcases node?_of_bare bare with empty | ⟨content, modified, there⟩
      · unfold spotIn at place
        rw [empty] at place
        obtain rfl := Option.some.inj place
        exact absurd empty stands
      · simp [spotIn, there, named]

/-- Wherever the directory is housed, the path is refused, or it leads to one and the same name in
it. -/
def Fixed (home : Home) (path : String) : Prop :=
  (∀ files, Housed home files → ∀ follow, ∃ error, files.locate follow path = .error error) ∨
    ∃ directory name, Inside home.place (directory ++ [name]) ∧
      ∀ files, Housed home files → ∀ follow,
        files.locate follow path = .ok (files.spotIn directory name)

/-- A fixed path leads to one place. -/
theorem Fixed.target {other : Files} (fixed : Fixed home path) (housed : Housed home files)
    (otherHoused : Housed home other) : other.target? path = files.target? path := by
  suffices other.place? true path = files.place? true path by
    unfold target?
    rw [this]
  unfold place?
  rcases fixed with refused | ⟨directory, name, _, leads⟩
  · obtain ⟨error, here⟩ := refused files housed true
    obtain ⟨otherError, there⟩ := refused other otherHoused true
    rw [here, there]
    rfl
  · rw [leads files housed, leads other otherHoused]
    unfold spotIn
    cases files.node? (directory ++ [name]) <;> cases other.node? (directory ++ [name]) <;> rfl

/-- A fixed path shows what is in the directory. -/
theorem Fixed.shown {other : Files} (fixed : Fixed home path) (housed : Housed home files)
    (otherHoused : Housed home other)
    (same : ∀ location, Inside home.place location → other.node? location = files.node? location) :
    other.shown? path = files.shown? path := by
  unfold shown? status
  rcases fixed with refused | ⟨directory, name, inside, leads⟩
  · obtain ⟨error, here⟩ := refused files housed true
    obtain ⟨otherError, there⟩ := refused other otherHoused true
    rw [here, there]
    rfl
  · rw [leads files housed, leads other otherHoused]
    unfold spotIn
    rw [same _ inside]

/-- The place of a path at which a file can be removed is the one it leads to. -/
theorem place_of_target {location : Location} (target : files.target? path = some location) :
    files.place? true path = some location := by
  unfold target? at target
  split at target
  · cases target
  · exact target

/-- A change through a path whose target is elsewhere leaves what is there. -/
theorem Remains.touched {other : String} (remains : Remains files other)
    (touches : Touches path files after) (apart : Apart files path other) : Remains after other := by
  obtain ⟨location, target, stands⟩ := remains
  refine ⟨location, (touches.skeleton.target other).trans target, ?_⟩
  rw [touches.elsewhere location fun same => apart location same (place_of_target target)]
  exact stands

/-- What a path shows remains. -/
theorem remains_of_shown {location : Location} {content : Bytes} {modified : Int}
    (shown : files.shown? path = some (location, .file content modified)) :
    Remains files path := by
  obtain ⟨place, stands⟩ := stands_of_shown shown
  refine ⟨location, ?_, by rw [stands]; simp⟩
  unfold target?
  rw [named_of_shown shown]
  exact place

namespace Session

variable {resolver : Resolver}

/-- The path was staged with the token of a number. -/
def StagedAs (resolver : Resolver) (number : Nat) (path : String) : Prop :=
  ∃ key extension, path = resolver.staging.pathFor key extension (tokenText number)

/-- Where a staged file goes by its first part. -/
theorem StagedAs.parts {number : Nat} (layout : resolver.layout = home.layout)
    (staged : StagedAs resolver number path) :
    ∃ key extension first rest,
      path = Path.join home.layout.staging (Staging.withExtension (stagedStem key number) extension) ∧
        Path.isAbsolute (Staging.withExtension (stagedStem key number) extension) = false ∧
        Path.parts (Staging.withExtension (stagedStem key number) extension) = first :: rest ∧
          first ≠ "." ∧ first ≠ ".." := by
  obtain ⟨key, extension, rfl⟩ := staged
  obtain ⟨relative, first, rest, parts, notHere, notUp⟩ := staged_parts key number extension
  refine ⟨key, extension, first, rest, ?_, relative, parts, notHere, notUp⟩
  rw [pathFor_eq, ← layout]
  rfl

/-- A staged path can be stored at. -/
theorem StagedAs.storable {number : Nat} (layout : resolver.layout = home.layout)
    (staged : StagedAs resolver number path) : Storable home path := by
  obtain ⟨key, extension, first, rest, rfl, relative, parts, notHere, notUp⟩ :=
    staged.parts layout
  exact fun files housed => housed.staged_slot relative parts notHere notUp

/-- A staged path is fixed. -/
theorem StagedAs.fixed {number : Nat} (layout : resolver.layout = home.layout)
    (staged : StagedAs resolver number path) : Fixed home path := by
  obtain ⟨key, extension, first, rest, rfl, relative, parts, notHere, notUp⟩ :=
    staged.parts layout
  generalize Staging.withExtension (stagedStem key number) extension = child at relative parts
  cases rest with
  | cons second rest =>
    exact .inl fun files housed follow => locate_blocked housed.stagingReached relative parts notHere
      notUp (housed.staging_bare first) follow
  | nil =>
    have single : Path.Single child first := ⟨relative, parts, notHere, notUp⟩
    rcases Classical.em (Usable home.layout.staging child first) with usable | unusable
    · refine .inr ⟨home.stagingPlace, first, ?_, fun files housed follow =>
        locate_usable housed.stagingReached single usable follow
          fun _ => noLink_of_bone (.inl (housed.staging_bare first))⟩
      rw [Home.stagingPlace, List.append_assoc]
      exact inside_append home.place (by simp)
    · refine .inl fun files housed follow => ?_
      obtain ⟨error, refused, _⟩ :=
        locate_unusable housed.stagingReached single unusable follow
      exact ⟨error, refused⟩

/-- The path of a lasting artifact is fixed. -/
theorem durable_fixed (layout : resolver.layout = home.layout) (direct : Direct home resolver)
    (text : String) : Fixed home (durable resolver text) := by
  obtain ⟨relative, first, rest, parts, notHere, notUp⟩ :=
    Staging.durable_parts text resolver.staging.artifactExtension
  have several := direct text first rest parts
  unfold durable
  rw [layout]
  generalize Staging.withExtension (Staging.digest text) resolver.staging.artifactExtension = child
    at relative parts
  cases rest with
  | cons second rest =>
    obtain ⟨notStaging, notLibraries⟩ := several (by simp)
    exact .inl fun files housed follow => locate_blocked housed.reached relative parts notHere
      notUp (housed.bare notStaging notLibraries) follow
  | nil =>
    have single : Path.Single child first := ⟨relative, parts, notHere, notUp⟩
    rcases Classical.em (Usable home.root child first) with usable | unusable
    · exact .inr ⟨home.place, first, inside_append home.place (by simp),
        fun files housed follow =>
          locate_usable housed.reached single usable follow fun _ => housed.noLink first⟩
    · refine .inl fun files housed follow => ?_
      obtain ⟨error, refused, _⟩ := locate_unusable housed.reached single unusable follow
      exact ⟨error, refused⟩

/-- A staged file is among staged files, if it is anywhere. -/
theorem StagedAs.place {number : Nat} (layout : resolver.layout = home.layout)
    (staged : StagedAs resolver number path) (housed : Housed home files) {location : Location}
    (leads : files.place? true path = some location) :
    ∃ name, location = home.stagingPlace ++ [name] := by
  obtain ⟨key, extension, first, rest, rfl, relative, parts, notHere, notUp⟩ :=
    staged.parts layout
  exact ⟨first, housed.staged_place relative parts notHere notUp leads⟩

/-- Files staged with different tokens have different places. -/
theorem StagedAs.apart {number other : Nat} {second : String}
    (layout : resolver.layout = home.layout) (staged : StagedAs resolver number path)
    (otherStaged : StagedAs resolver other second) (different : number ≠ other)
    (housed : Housed home files) : Apart files path second := by
  obtain ⟨key, extension, first, rest, rfl, relative, parts, notHere, notUp⟩ :=
    staged.parts layout
  obtain ⟨otherKey, otherExtension, otherFirst, otherRest, rfl, otherRelative, otherParts,
    otherNotHere, otherNotUp⟩ := otherStaged.parts layout
  intro location target place
  have here := housed.staged_place relative parts notHere notUp (place_of_target target)
  have there := housed.staged_place otherRelative otherParts otherNotHere otherNotUp place
  rw [here] at there
  have names : first = otherFirst := by simpa using there
  subst names
  exact different (staged_number parts otherParts)

variable (housed : Housed home files) (layout : resolver.layout = home.layout)
  (direct : Direct home resolver)

include housed layout direct

/-- A staged file is not where a lasting artifact goes. -/
theorem StagedAs.apart_durable {number : Nat} (staged : StagedAs resolver number path)
    (text : String) : Apart files path (durable resolver text) := by
  intro location target place
  obtain ⟨name, here⟩ := staged.place layout housed (place_of_target target)
  obtain ⟨first, there, _⟩ := durable_place housed layout direct place
  rw [here] at there
  have lengths := congrArg List.length there
  simp [Home.stagingPlace] at lengths

/-- A lasting artifact is not where a staged file goes. -/
theorem StagedAs.durable_apart {number : Nat} (staged : StagedAs resolver number path)
    (text : String) : Apart files (durable resolver text) path := by
  intro location target place
  obtain ⟨name, here⟩ := staged.place layout housed place
  obtain ⟨first, there, _⟩ := durable_place housed layout direct (place_of_target target)
  rw [here] at there
  have lengths := congrArg List.length there
  simp [Home.stagingPlace] at lengths

/-- A path that puts no file into the directory leads to none in it. -/
theorem Aloof.apart_durable (aloof : Aloof home files path) (text : String) :
    Apart files path (durable resolver text) :=
  (aloof.spare housed layout direct).apart text

omit direct in
/-- A path that puts no file into the directory leads to no staged file. -/
theorem Aloof.apart_staged {number : Nat} {other : String} (aloof : Aloof home files path)
    (staged : StagedAs resolver number other) : Apart files path other := by
  intro location target place
  obtain ⟨name, rfl⟩ := staged.place layout housed place
  refine aloof.outside _ target ?_
  rw [Home.stagingPlace, List.append_assoc]
  exact inside_append home.place (by simp)

/-- Where no artifact stands, at most a file is at the place for it. -/
theorem storable_of_empty {text : String}
    (empty : files.shownLength (durable resolver text) = 0) :
    Storable home (durable resolver text) := by
  obtain ⟨relative, first, rest, parts, notHere, notUp⟩ :=
    Staging.durable_parts text resolver.staging.artifactExtension
  have several := direct text first rest parts
  unfold durable at empty ⊢
  rw [layout] at empty ⊢
  generalize Staging.withExtension (Staging.digest text) resolver.staging.artifactExtension = child
    at relative parts empty
  rcases Classical.em (first ≠ home.staging ∧ first ≠ home.libraries) with apart | subdirectory
  · exact fun other otherHoused =>
      otherHoused.direct_slot relative parts notHere notUp apart.1 apart.2
  · -- The path leads to a subdirectory, which is not empty, or it leads nowhere.
    obtain rfl : rest = [] := Classical.byContradiction fun more => subdirectory (several more)
    have single : Path.Single child first := ⟨relative, parts, notHere, notUp⟩
    have bone : files.bone? (home.place ++ [first]) = some .directory := by
      rw [housed.bones _ (inside_append home.place (by simp)), if_pos]
      by_cases isStaging : first = home.staging
      · exact .inl (by rw [isStaging]; rfl)
      · have isLibraries : first = home.libraries :=
          Classical.byContradiction fun other => subdirectory ⟨isStaging, other⟩
        exact .inr (by rw [isLibraries]; rfl)
    have unusable : ¬ Usable home.root child first := by
      intro usable
      have led := locate_usable housed.reached single usable true
        fun _ => noLink_of_bone (.inr bone)
      unfold shownLength shown? status at empty
      rw [show home.layout.root = home.root from rfl, led, spotIn, node?_of_bone bone] at empty
      simp [Except.toOption] at empty
    intro other otherHoused
    refine .inl fun follow => ?_
    obtain ⟨error, refused, _⟩ := locate_unusable otherHoused.reached single unusable follow
    exact ⟨error, refused⟩

end Session

end Hotload
