import Hotload.Cache.Layout
import Hotload.Proofs.CacheNames

/-!
# The cache directory in the tree

A resolver's directory stands at a place of the tree, and its two subdirectories are the only
directories in it; no links are. `Housed` says so. It hangs on the skeleton of the tree, so nothing
that a compile or a removal does can change it. From it follows where the paths of the resolver lead:
those of staged files into the one subdirectory, those of lasting artifacts into the directory
itself, each to a name where at most a file stands.
-/

namespace Hotload

namespace Files

/-- Strictly below a place. -/
def Inside (place location : Location) : Prop :=
  place <+: location ∧ location ≠ place

theorem inside_append (place : Location) {rest : Location} (below : rest ≠ []) :
    Inside place (place ++ rest) := by
  refine ⟨List.prefix_append place rest, ?_⟩
  intro same
  exact below (List.append_right_eq_self.mp same)

/-- The path leads to the directory at a place, whatever is in that directory. -/
def Anchored (files : Files) (path : String) (place : Location) : Prop :=
  ∀ other : Files, (∀ location, ¬ Inside place location →
    other.bone? location = files.bone? location) →
      other.locate true path = .ok (.taken place .directory)

/-- Whether a path is anchored hangs on the skeleton outside the place. -/
theorem Anchored.of_outside {files other : Files} {path : String} {place : Location}
    (anchored : Anchored files path place)
    (same : ∀ location, ¬ Inside place location → other.bone? location = files.bone? location) :
    Anchored other path place :=
  fun third agrees => anchored third fun location outside =>
    (agrees location outside).trans (same location outside)

/-- A walk through directories leads to the last of them. -/
theorem walkTo_directories {files : Files} {leap : Location → String → List String →
      Except FileError Spot} {names : List String} {current : Location}
    (proper : ∀ name ∈ names, name ≠ "." ∧ name ≠ ".." ∧ isOverlong name = false)
    (directories : ∀ front, front <+: names → front ≠ [] →
      files.node? (current ++ front) = some .directory) :
    walkTo files true leap current names = .ok (.taken (current ++ names) .directory) := by
  induction names generalizing current with
  | nil => rw [List.append_nil]; rfl
  | cons name rest inductionHypothesis =>
    obtain ⟨notHere, notUp, fits⟩ := proper name List.mem_cons_self
    have here : files.node? (current ++ [name]) = some .directory :=
      directories [name] (List.prefix_append [name] rest) (by simp)
    rw [walkTo_name files true leap current notHere notUp, fits, here]
    simp only [Bool.false_eq_true, ↓reduceIte]
    rw [inductionHypothesis (fun other member => proper other (List.mem_cons_of_mem _ member))]
    · simp
    · intro front begins present
      have longer := directories (name :: front) ((List.prefix_cons_inj name).mpr begins) (by simp)
      simpa using longer

/-- What means a directory to paths is one. -/
theorem node?_of_bone {files : Files} {location : Location}
    (bone : files.bone? location = some .directory) : files.node? location = some .directory := by
  unfold bone? at bone
  rcases stands : files.node? location with _ | ⟨content, modified⟩ | _ | target
  · rw [stands] at bone
    cases bone
  · rw [stands] at bone
    cases bone
  · rfl
  · rw [stands] at bone
    cases bone

/-- Where paths pass nothing stands but perhaps a file. -/
theorem node?_of_bare {files : Files} {location : Location} (bare : files.bone? location = none) :
    files.node? location = none ∨
      ∃ content modified, files.node? location = some (.file content modified) := by
  unfold bone? at bare
  rcases stands : files.node? location with _ | ⟨content, modified⟩ | _ | target
  all_goals rw [stands] at bare
  · exact .inl rfl
  · exact .inr ⟨content, modified, rfl⟩
  · cases bare
  · cases bare

/-- No link stands where a path passes a directory or nothing. -/
theorem noLink_of_bone {files : Files} {location : Location}
    (bone : files.bone? location = none ∨ files.bone? location = some .directory)
    (target : String) : files.node? location ≠ some (.link target) := by
  intro stands
  unfold bone? at bone
  rw [stands] at bone
  rcases bone with impossible | impossible <;> cases impossible

/-- An absolute path through directories, without links, is anchored. -/
theorem anchored_straight {files : Files} {path : String} (askable : Askable path)
    (absolute : Path.isAbsolute path = true)
    (proper : ∀ name ∈ Path.parts path, name ≠ "." ∧ name ≠ ".." ∧ isOverlong name = false)
    (directories : ∀ front, front <+: Path.parts path → front ≠ [] →
      files.bone? front = some .directory) : Anchored files path (Path.parts path) := by
  intro other same
  have walked : ∀ leap, walkTo other true leap [] (Path.parts path) =
      .ok (.taken (Path.parts path) .directory) := by
    intro leap
    refine walkTo_directories proper ?_
    intro front begins present
    have outside : ¬ Inside (Path.parts path) front :=
      fun inside => inside.2 (begins.eq_of_length_le inside.1.length_le)
    rw [List.nil_append]
    exact node?_of_bone ((same front outside).trans (directories front begins present))
  rw [locate_of_askable other true askable, absolute]
  exact walked _

/-- An absolute path to a directory in a directory at the top, without links, is anchored. -/
theorem anchored_pair {files : Files} {path outer inner : String} (askable : Askable path)
    (absolute : Path.isAbsolute path = true) (parts : Path.parts path = [outer, inner])
    (proper : ∀ name ∈ [outer, inner], name ≠ "." ∧ name ≠ ".." ∧ isOverlong name = false)
    (top : files.bone? [outer] = some .directory)
    (there : files.bone? [outer, inner] = some .directory) : Anchored files path [outer, inner] := by
  rw [← parts] at proper ⊢
  refine anchored_straight askable absolute proper ?_
  rw [parts]
  intro front begins present
  rcases front with _ | ⟨first, _ | ⟨second, rest⟩⟩
  · exact absurd rfl present
  · obtain ⟨rfl, _⟩ := List.cons_prefix_cons.mp begins
    exact top
  · obtain ⟨rfl, later⟩ := List.cons_prefix_cons.mp begins
    obtain ⟨rfl, last⟩ := List.cons_prefix_cons.mp later
    obtain rfl := List.prefix_nil.mp last
    exact there

/-! ## Slots -/

/-- The path leads to a name in a directory where at most a file stands, or it leads nowhere. -/
def Slot (files : Files) (path : String) : Prop :=
  (∀ follow, ∃ error, files.locate follow path = .error error) ∨
    ∃ directory name, files.bone? (directory ++ [name]) = none ∧
      ∀ follow, files.locate follow path = .ok (files.spotIn directory name)

/-- A path by a single name is a slot where at most a file stands. -/
theorem slot_single {files : Files} {base child name : String} {directory : Location}
    (reached : files.locate true base = .ok (.taken directory .directory))
    (single : Path.Single child name) (bare : files.bone? (directory ++ [name]) = none) :
    Slot files (Path.join base child) := by
  have noLink := noLink_of_bone (.inl bare)
  rcases Classical.em (Usable base child name) with usable | unusable
  · exact .inr ⟨directory, name, bare, fun follow =>
      locate_usable reached single usable follow fun _ => noLink⟩
  · refine .inl fun follow => ?_
    obtain ⟨error, refused, _⟩ := locate_unusable reached single unusable follow
    exact ⟨error, refused⟩

/-- A path through something that bars it is a slot. -/
theorem slot_blocked {files : Files} {base child : String} {directory : Location}
    (reached : files.locate true base = .ok (.taken directory .directory))
    (relative : Path.isAbsolute child = false) {first second : String} {rest : List String}
    (parts : Path.parts child = first :: second :: rest) (notHere : first ≠ ".")
    (notUp : first ≠ "..") (bare : files.bone? (directory ++ [first]) = none) :
    Slot files (Path.join base child) :=
  .inl fun follow => locate_blocked reached relative parts notHere notUp bare follow

variable {files : Files} {path : String}

/-- A slot does not end at a link. -/
theorem Slot.plain (slot : Slot files path) : Plain files path := by
  intro location target found
  have truthful := files.locate_truthful false path
  rw [found] at truthful
  rcases slot with nowhere | ⟨directory, name, bare, leads⟩
  · obtain ⟨error, refused⟩ := nowhere false
    rw [refused] at found
    cases found
  · rw [leads] at found
    unfold spotIn at found
    split at found
    · cases found
    · cases found
      exact noLink_of_bone (.inl bare) target truthful.2

/-- What stands at the target of a slot is gone when it is removed. -/
theorem Slot.removed (slot : Slot files path) {location : Location}
    (target : files.target? path = some location) :
    (files.removeIfExists path).1.node? location = none := by
  unfold target? at target
  split at target
  · cases target
  · next named =>
    unfold place? at target
    rcases slot with nowhere | ⟨directory, name, bare, leads⟩
    · obtain ⟨error, refused⟩ := nowhere true
      rw [refused] at target
      cases target
    · rw [leads] at target
      unfold removeIfExists unlink
      rw [leads]
      unfold spotIn at target ⊢
      rcases node?_of_bare bare with empty | ⟨content, modified, stands⟩
      · rw [empty] at target ⊢
        obtain rfl := Option.some.inj target
        exact empty
      · rw [stands] at target ⊢
        obtain rfl := Option.some.inj target
        simp only [if_neg named]
        rw [node?_erase files (inside_of_bare bare), if_pos rfl]

end Files

open Files

/-- Where a resolver's directory stands, and what its subdirectories are called. -/
structure Home where
  root : String
  place : Location
  staging : String
  libraries : String

namespace Home

/-- The paths of the directory. -/
def layout (home : Home) : Layout :=
  ⟨home.root, Path.join home.root home.staging, Path.join home.root home.libraries⟩

/-- Where staged files stand. -/
def stagingPlace (home : Home) : Location :=
  home.place ++ [home.staging]

/-- Where native libraries stand. -/
def librariesPlace (home : Home) : Location :=
  home.place ++ [home.libraries]

end Home

/-- The directory stands at its place with its two subdirectories and no other, and without
links. -/
structure Housed (home : Home) (files : Files) : Prop where
  anchored : files.Anchored home.root home.place
  staging : Path.Single home.staging home.staging
  libraries : Path.Single home.libraries home.libraries
  distinct : home.staging ≠ home.libraries
  usable : Files.Usable home.root home.staging home.staging
  bones : ∀ location, Inside home.place location → files.bone? location =
    if location = home.stagingPlace ∨ location = home.librariesPlace then some .directory else none

namespace Housed

variable {home : Home} {files other : Files}

/-- Whether a directory is housed hangs on the skeleton. -/
theorem of_skeleton (housed : Housed home files) (same : SameSkeleton files other) :
    Housed home other where
  anchored := housed.anchored.of_outside fun location _ => same location
  staging := housed.staging
  libraries := housed.libraries
  distinct := housed.distinct
  usable := housed.usable
  bones := fun location inside => (same location).trans (housed.bones location inside)

/-- The path of the directory leads to it. -/
theorem reached (housed : Housed home files) :
    files.locate true home.root = .ok (.taken home.place .directory) :=
  housed.anchored files fun _ _ => rfl

theorem staging_bone (housed : Housed home files) :
    files.bone? home.stagingPlace = some .directory := by
  rw [housed.bones home.stagingPlace (inside_append home.place (by simp)), if_pos (.inl rfl)]

/-- The path for staged files leads to the subdirectory for them. -/
theorem stagingReached (housed : Housed home files) :
    files.locate true home.layout.staging = .ok (.taken home.stagingPlace .directory) := by
  have bone := housed.staging_bone
  have led := locate_usable housed.reached housed.staging housed.usable true
    fun _ => noLink_of_bone (.inr bone)
  refine led.trans ?_
  unfold spotIn
  rw [show home.place ++ [home.staging] = home.stagingPlace from rfl, node?_of_bone bone]

/-- Nothing bars a path in the subdirectory for staged files. -/
theorem staging_bare (housed : Housed home files) (name : String) :
    files.bone? (home.stagingPlace ++ [name]) = none := by
  have long : (home.stagingPlace ++ [name]).length = home.place.length + 2 := by
    simp [Home.stagingPlace]
  have inside : Inside home.place (home.stagingPlace ++ [name]) := by
    rw [Home.stagingPlace, List.append_assoc]
    exact inside_append home.place (by simp)
  rw [housed.bones _ inside, if_neg]
  rintro (same | same)
  · have lengths := congrArg List.length same
    simp [Home.stagingPlace] at lengths
  · have lengths := congrArg List.length same
    simp [Home.stagingPlace, Home.librariesPlace] at lengths

/-- Nothing in the directory bars a path but its subdirectories. -/
theorem bare (housed : Housed home files) {name : String} (notStaging : name ≠ home.staging)
    (notLibraries : name ≠ home.libraries) : files.bone? (home.place ++ [name]) = none := by
  rw [housed.bones _ (inside_append home.place (by simp)), if_neg]
  rintro (same | same)
  · exact notStaging (by simpa [Home.stagingPlace] using same)
  · exact notLibraries (by simpa [Home.librariesPlace] using same)

/-- No link stands in the directory. -/
theorem noLink (housed : Housed home files) (name target : String) :
    files.node? (home.place ++ [name]) ≠ some (.link target) := by
  apply noLink_of_bone
  rw [housed.bones _ (inside_append home.place (by simp))]
  split
  · exact .inr rfl
  · exact .inl rfl

variable {child first : String} {rest : List String}

/-- The path of a staged file is a slot. -/
theorem staged_slot (housed : Housed home files) (relative : Path.isAbsolute child = false)
    (parts : Path.parts child = first :: rest) (notHere : first ≠ ".") (notUp : first ≠ "..") :
    Slot files (Path.join home.layout.staging child) := by
  have bare := housed.staging_bare first
  cases rest with
  | nil => exact slot_single housed.stagingReached ⟨relative, parts, notHere, notUp⟩ bare
  | cons second rest =>
    exact slot_blocked housed.stagingReached relative parts notHere notUp bare

/-- The path of a staged file leads to its name among staged files, if it leads anywhere. -/
theorem staged_place (housed : Housed home files) (relative : Path.isAbsolute child = false)
    (parts : Path.parts child = first :: rest) (notHere : first ≠ ".") (notUp : first ≠ "..")
    {location : Location}
    (place : files.place? true (Path.join home.layout.staging child) = some location) :
    location = home.stagingPlace ++ [first] := by
  have bare := housed.staging_bare first
  have single := single_of_place housed.stagingReached relative parts notHere notUp (fun _ => bare)
    place
  exact place_single housed.stagingReached single (noLink_of_bone (.inl bare)) place

/-- What is joined to the path of the directory and leads anywhere is a single name, unless it leads
through a subdirectory. -/
theorem direct_single (housed : Housed home files) (relative : Path.isAbsolute child = false)
    (parts : Path.parts child = first :: rest) (notHere : first ≠ ".") (notUp : first ≠ "..")
    (direct : rest ≠ [] → first ≠ home.staging ∧ first ≠ home.libraries) {location : Location}
    (place : files.place? true (Path.join home.root child) = some location) :
    Path.Single child first :=
  single_of_place housed.reached relative parts notHere notUp
    (fun more => housed.bare (direct more).1 (direct more).2) place

/-- The path of something in the directory leads to its first part there, if it leads anywhere,
given that it does not lead through a subdirectory. -/
theorem direct_place (housed : Housed home files) (relative : Path.isAbsolute child = false)
    (parts : Path.parts child = first :: rest) (notHere : first ≠ ".") (notUp : first ≠ "..")
    (direct : rest ≠ [] → first ≠ home.staging ∧ first ≠ home.libraries) {location : Location}
    (place : files.place? true (Path.join home.root child) = some location) :
    location = home.place ++ [first] :=
  place_single housed.reached
    (housed.direct_single relative parts notHere notUp direct place) (housed.noLink first) place

/-- The path of something in the directory does not end at a link, given that it does not lead
through a subdirectory. -/
theorem direct_plain (housed : Housed home files) (relative : Path.isAbsolute child = false)
    (parts : Path.parts child = first :: rest) (notHere : first ≠ ".") (notUp : first ≠ "..")
    (direct : rest ≠ [] → first ≠ home.staging ∧ first ≠ home.libraries) :
    Plain files (Path.join home.root child) := by
  cases rest with
  | nil =>
    exact plain_single housed.reached ⟨relative, parts, notHere, notUp⟩ (housed.noLink first)
  | cons second rest =>
    obtain ⟨notStaging, notLibraries⟩ := direct (by simp)
    exact (slot_blocked housed.reached relative parts notHere notUp
      (housed.bare notStaging notLibraries)).plain

/-- The path of something in the directory is a slot, unless it leads to a subdirectory. -/
theorem direct_slot (housed : Housed home files) (relative : Path.isAbsolute child = false)
    (parts : Path.parts child = first :: rest) (notHere : first ≠ ".") (notUp : first ≠ "..")
    (notStaging : first ≠ home.staging) (notLibraries : first ≠ home.libraries) :
    Slot files (Path.join home.root child) := by
  have bare := housed.bare notStaging notLibraries
  cases rest with
  | nil => exact slot_single housed.reached ⟨relative, parts, notHere, notUp⟩ bare
  | cons second rest => exact slot_blocked housed.reached relative parts notHere notUp bare

end Housed

end Hotload
