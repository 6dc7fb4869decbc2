import Hotload.Proofs.CacheDirectory

/-!
# Emptying the cache directory

When the directory is emptied with success, nothing is left strictly below its place but the two
subdirectories, which are empty, and nothing else in the tree has changed. This needs that the path
of the directory does not lead through the directory itself, because then it would lead nowhere once
the entries on its way are gone.
-/

namespace Hotload

namespace Files

/-- The trees are the same but for what is strictly below a place. -/
def SameOutside (place : Location) (files other : Files) : Prop :=
  ∀ location, ¬ Inside place location → other.node? location = files.node? location

theorem SameOutside.trans {place : Location} {first second third : Files}
    (left : SameOutside place first second) (right : SameOutside place second third) :
    SameOutside place first third :=
  fun location outside => (right location outside).trans (left location outside)

/-- The path of a directory leads to it whatever happens in it. -/
theorem Anchored.of_sameOutside {files other : Files} {path : String} {place : Location}
    (anchored : Anchored files path place) (same : SameOutside place files other) :
    Anchored other path place :=
  anchored.of_outside fun location outside => by unfold bone?; rw [same location outside]

theorem Anchored.reached {files : Files} {path : String} {place : Location}
    (anchored : Anchored files path place) :
    files.locate true path = .ok (.taken place .directory) :=
  anchored files fun _ _ => rfl

/-- The entries of a directory have proper names, and what is below an entry is in a directory. -/
structure Regular (place : Location) (files : Files) : Prop where
  names : ∀ name, files.node? (place ++ [name]) ≠ none → Path.Single name name
  below : ∀ name rest, rest ≠ [] → files.node? (place ++ name :: rest) ≠ none →
    files.node? (place ++ [name]) = some .directory

/-- Away from the root, something stands just where an entry says so. -/
theorem node?_ne_none_iff {files : Files} {location : Location} (present : location ≠ []) :
    files.node? location ≠ none ↔ ∃ entry ∈ files.entries, entry.1 = location := by
  unfold node?
  rw [if_neg present, ← Option.isSome_iff_ne_none, List.lookup_isSome_iff]
  constructor
  · rintro ⟨entry, member, key⟩
    exact ⟨entry, member, (beq_iff_eq.mp key).symm⟩
  · rintro ⟨entry, member, key⟩
    exact ⟨entry, member, beq_iff_eq.mpr key.symm⟩

/-- Whether a directory is regular can be told from the entries in it. -/
theorem Regular.of_entries {files : Files} {place : Location}
    (listed : ∀ entry ∈ files.entries, ∀ name rest, entry.1 = place ++ name :: rest →
      Path.Single name name ∧ (rest = [] ∨ files.node? (place ++ [name]) = some .directory)) :
    Regular place files where
  names := by
    intro name stands
    obtain ⟨entry, member, key⟩ := (node?_ne_none_iff (by simp)).mp stands
    exact (listed entry member name [] key).1
  below := by
    intro name rest deeper stands
    obtain ⟨entry, member, key⟩ := (node?_ne_none_iff (by simp)).mp stands
    exact (listed entry member name rest key).2.resolve_left deeper

/-- Nothing is below a name that is not that of a directory. -/
theorem Regular.bare {files : Files} {place : Location} {name : String}
    (regular : Regular place files) (noDirectory : files.node? (place ++ [name]) ≠ some .directory)
    {rest : Location} (deeper : rest ≠ []) : files.node? (place ++ name :: rest) = none :=
  Classical.byContradiction fun stands => noDirectory (regular.below name rest deeper stands)

/-- Nothing is at or below a free name. -/
theorem Regular.free {files : Files} {place : Location} {name : String}
    (regular : Regular place files) (nothing : files.node? (place ++ [name]) = none)
    (rest : Location) : files.node? (place ++ name :: rest) = none := by
  by_cases here : rest = []
  · rw [here, nothing]
  · exact regular.bare (by rw [nothing]; simp) here

/-- The names in a directory are those under which something stands. -/
theorem mem_childNames {files : Files} {place : Location} {name : String} :
    name ∈ files.childNames place ↔ files.node? (place ++ [name]) ≠ none := by
  rw [node?_ne_none_iff (by simp)]
  unfold childNames
  rw [List.mem_filterMap]
  constructor
  · rintro ⟨entry, member, found⟩
    split at found
    · next child =>
      refine ⟨entry, member, ?_⟩
      obtain ⟨front, split⟩ := List.getLast?_eq_some_iff.mp found
      rw [← child.2, split, List.dropLast_concat]
    · cases found
  · rintro ⟨entry, member, key⟩
    exact ⟨entry, member, by simp [key]⟩

/-- Everything under the given names of a place is gone, and nothing else has changed. -/
structure Emptied (place : Location) (names : List String) (files after : Files) : Prop where
  outside : SameOutside place files after
  gone : ∀ name ∈ names, ∀ rest, after.node? (place ++ name :: rest) = none
  kept : ∀ name, name ∉ names → ∀ rest,
    after.node? (place ++ name :: rest) = files.node? (place ++ name :: rest)

theorem Emptied.refl (place : Location) (files : Files) : Emptied place [] files files where
  outside := fun _ _ => rfl
  gone := fun _ impossible => by cases impossible
  kept := fun _ _ _ => rfl

/-- Names can be emptied one after the other. -/
theorem Emptied.cons {place : Location} {name : String} {names : List String}
    {files between after : Files} (first : Emptied place [name] files between)
    (others : Emptied place names between after) : Emptied place (name :: names) files after where
  outside := first.outside.trans others.outside
  gone := by
    intro other member rest
    by_cases again : other ∈ names
    · exact others.gone other again rest
    · rw [others.kept other again]
      have same : other = name := (List.mem_cons.mp member).resolve_right again
      exact first.gone other (by simp [same]) rest
  kept := by
    intro other away rest
    have notFirst : other ≠ name := fun same => away (by simp [same])
    have notLater : other ∉ names := fun member => away (by simp [member])
    rw [others.kept other notLater, first.kept other (by simpa using notFirst)]

/-- What is left after emptying is regular if it was before. -/
theorem Emptied.regular {place : Location} {names : List String} {files after : Files}
    (emptied : Emptied place names files after) (regular : Regular place files) :
    Regular place after where
  names := by
    intro name stands
    by_cases member : name ∈ names
    · exact absurd (emptied.gone name member []) stands
    · rw [emptied.kept name member] at stands
      exact regular.names name stands
  below := by
    intro name rest deeper stands
    by_cases member : name ∈ names
    · exact absurd (emptied.gone name member rest) stands
    · rw [emptied.kept name member] at stands ⊢
      exact regular.below name rest deeper stands

/-- Two locations below a place by different names. -/
theorem cons_ne {place : Location} {name other : String} (away : other ≠ name)
    (rest later : Location) : place ++ other :: rest ≠ place ++ name :: later := by
  intro same
  exact away (List.cons.inj (List.append_cancel_left same)).1

variable {files after : Files} {root name : String} {place : Location}

/-- Erasing the node at a name empties the name, given that nothing stands below it. -/
theorem emptied_erase (bare : ∀ rest, rest ≠ [] → files.node? (place ++ name :: rest) = none) :
    Emptied place [name] files (files.erase (place ++ [name])) := by
  have present : place ++ [name] ≠ [] := by simp
  constructor
  · intro location outside
    rw [node?_erase files present, if_neg]
    rintro rfl
    exact outside (inside_append place (by simp))
  · intro other member rest
    obtain rfl := List.mem_singleton.mp member
    rw [node?_erase files present]
    cases rest with
    | nil => rw [if_pos rfl]
    | cons first later =>
      rw [bare (first :: later) (by simp)]
      split <;> rfl
  · intro other away rest
    rw [node?_erase files present, if_neg (cons_ne (by simpa using away) rest [])]

/-- Erasing the tree at a name empties the name. -/
theorem emptied_eraseTree : Emptied place [name] files (files.eraseTree (place ++ [name])) := by
  have present : place ++ [name] ≠ [] := by simp
  constructor
  · intro location outside
    rw [node?_eraseTree files present, if_neg]
    rintro ⟨rest, rfl⟩
    rw [List.append_assoc] at outside
    exact outside (inside_append place (by simp))
  · intro other member rest
    obtain rfl := List.mem_singleton.mp member
    rw [node?_eraseTree files present, if_pos]
    exact ⟨rest, by simp⟩
  · intro other away rest
    rw [node?_eraseTree files present, if_neg]
    rintro ⟨later, same⟩
    rw [List.append_assoc] at same
    exact cons_ne (by simpa using away) rest later same.symm

/-- A name under which nothing stands is empty as it is. -/
theorem emptied_nothing (nothing : files.node? (place ++ [name]) = none)
    (bare : ∀ rest, rest ≠ [] → files.node? (place ++ name :: rest) = none) :
    Emptied place [name] files files where
  outside := fun _ _ => rfl
  gone := by
    intro other member rest
    obtain rfl := List.mem_singleton.mp member
    cases rest with
    | nil => exact nothing
    | cons first later => exact bare (first :: later) (by simp)
  kept := fun _ _ _ => rfl

/-- A path that is not usable leads to no directory. -/
theorem not_isDirectory_of_unusable
    (reached : files.locate true root = .ok (.taken place .directory))
    (single : Path.Single name name) (unusable : ¬Usable root name name) :
    files.isDirectory (Path.join root name) = false := by
  obtain ⟨error, away, _⟩ := locate_unusable reached single unusable true
  unfold isDirectory status
  rw [away]

/-- Removing an entry with success empties its name. -/
theorem removeEntry_emptied (reached : files.locate true root = .ok (.taken place .directory))
    (single : Path.Single name name) (regular : Regular place files)
    (removed : Layout.removeEntry (Path.join root name) files = (after, .ok ())) :
    Emptied place [name] files after := by
  have named : Path.endsInSeparator (Path.join root name) = false := single.join_named root
  have bare : files.node? (place ++ [name]) ≠ some .directory →
      ∀ rest, rest ≠ [] → files.node? (place ++ name :: rest) = none :=
    fun noDirectory _ deeper => regular.bare noDirectory deeper
  generalize spelled : Path.join root name = path at named removed
  unfold Layout.removeEntry removeTree removeIfExists unlink at removed
  rcases Classical.em (Usable root name name) with usable | unusable
  · have found := locate_usable reached single usable
    rw [spelled] at found
    have here := found false fun impossible => by cases impossible
    simp only [here, named, Bool.false_eq_true, ↓reduceIte] at removed
    rcases stands : files.node? (place ++ [name]) with _ | ⟨content, modified⟩ | _ | target
    · have noDirectory : files.isDirectory path = false := by
        unfold isDirectory status
        rw [found true (by simp [stands])]
        simp [spotIn, stands]
      simp only [spotIn, stands, noDirectory, Bool.false_eq_true, ↓reduceIte] at removed
      obtain rfl := (Prod.mk.inj removed).1
      exact emptied_nothing stands (bare (by simp [stands]))
    · have noDirectory : files.isDirectory path = false := by
        unfold isDirectory status
        rw [found true (by simp [stands])]
        simp [spotIn, stands, named]
      simp only [spotIn, stands, noDirectory, Bool.false_eq_true, ↓reduceIte] at removed
      obtain rfl := (Prod.mk.inj removed).1
      exact emptied_erase (bare (by simp [stands]))
    · have isDirectory : files.isDirectory path = true := by
        unfold isDirectory status
        rw [found true (by simp [stands])]
        simp [spotIn, stands]
      simp only [spotIn, stands, isDirectory, ↓reduceIte] at removed
      rw [if_neg (by simp)] at removed
      split at removed
      · next heard =>
        split at heard
        · cases heard
        · obtain rfl := Except.ok.inj heard
          obtain rfl := (Prod.mk.inj removed).1
          exact emptied_eraseTree
      · simp at removed
    · simp only [spotIn, stands] at removed
      -- A link is removed itself, whether it leads to a directory or not.
      have erased : after = files.erase (place ++ [name]) := by
        split at removed <;> exact (Prod.mk.inj removed).1.symm
      rw [erased]
      exact emptied_erase (bare (by simp [stands]))
  · have noDirectory := not_isDirectory_of_unusable reached single unusable
    obtain ⟨error, away, other⟩ := locate_unusable reached single unusable false
    rw [spelled] at noDirectory away
    rw [noDirectory, away] at removed
    cases error with
    | notFound => exact absurd rfl other
    | _ => simp at removed

/-- Nothing stands strictly below a place. -/
def Cleared (place : Location) (files : Files) : Prop :=
  ∀ location, Inside place location → files.node? location = none

/-- What is strictly below a place is below one of the names in it. -/
theorem Inside.split {location : Location} (inside : Inside place location) :
    ∃ name rest, location = place ++ name :: rest := by
  obtain ⟨⟨below, rfl⟩, away⟩ := inside
  cases below with
  | nil => exact absurd (List.append_nil place) away
  | cons name rest => exact ⟨name, rest, rfl⟩

/-- Removing entries without a refusal empties their names. -/
theorem removeAll_emptied {names : List String} (anchored : Anchored files root place)
    (proper : ∀ name ∈ names, Path.Single name name) (regular : Regular place files)
    (removed : Layout.removeAll Layout.removeEntry (names.map (Path.join root)) files =
      (after, [])) : Emptied place names files after := by
  induction names generalizing files with
  | nil =>
    obtain rfl := (Prod.mk.inj removed).1
    exact Emptied.refl place files
  | cons name rest inductionHypothesis =>
    rw [List.map_cons, Layout.removeAll] at removed
    rcases first : Layout.removeEntry (Path.join root name) files with ⟨between, error | ⟨⟩⟩
    · simp [first] at removed
    · rw [first] at removed
      have emptied := removeEntry_emptied anchored.reached (proper name List.mem_cons_self)
        regular first
      exact emptied.cons (inductionHypothesis (anchored.of_sameOutside emptied.outside)
        (fun other member => proper other (List.mem_cons_of_mem _ member))
        (emptied.regular regular) removed)

/-- A directory of which all names are emptied is cleared. -/
theorem Emptied.cleared (emptied : Emptied place (files.childNames place) files after)
    (regular : Regular place files) : Cleared place after := by
  intro location inside
  obtain ⟨name, rest, rfl⟩ := inside.split
  by_cases member : name ∈ files.childNames place
  · exact emptied.gone name member rest
  · rw [emptied.kept name member]
    rw [mem_childNames, Classical.not_not] at member
    exact regular.free member rest

/-! ## Making directories -/

/-- Making a directory that is there changes nothing. -/
theorem makeDirectories_there {path : String} {location : Location}
    (reached : files.locate true path = .ok (.taken location .directory)) :
    files.makeDirectories path = (files, .ok ()) := by
  have present : path ≠ "" := (askable_of_locate reached).2.1
  have refused : files.makeDirectory path = .error .alreadyExists := by
    unfold makeDirectory
    rcases files.locate_stopsOrAgrees path with ⟨end_, target, stopped⟩ | same
    · rw [stopped]
    · rw [← same, reached]
  have isDirectory : files.isDirectory path = true := by
    unfold isDirectory status
    rw [reached]
  simp [makeDirectories, makeUpwards, present, refused, isDirectory, makeEach]

/-- Once a name was refused for another reason than a missing parent, nothing else is tried. -/
theorem makeDirectories_refused {error : FileError} (single : Path.Single name name)
    (failed : files.makeDirectory (Path.join root name) = .error error) (other : error ≠ .notFound) :
    files.makeDirectories (Path.join root name) =
      if error = .alreadyExists && files.isDirectory (Path.join root name) then (files, .ok ())
      else (files, .error error) := by
  have present := single.join_ne_empty root
  cases error with
  | notFound => exact absurd rfl other
  | _ => simp [makeDirectories, makeUpwards, present, failed, makeEach]

variable (reached : files.locate true root = .ok (.taken place .directory))
  (single : Path.Single name name)

include reached single

/-- A directory can be made under a usable name where nothing stands. -/
theorem makeDirectories_usable (usable : Usable root name name)
    (free : files.node? (place ++ [name]) = none) :
    files.makeDirectories (Path.join root name) =
      (files.put (place ++ [name]) .directory, .ok ()) := by
  have present : Path.join root name ≠ "" := usable.1.2.1
  have found := locate_usable reached single usable false fun impossible => by cases impossible
  have made : files.makeDirectory (Path.join root name) =
      .ok (files.put (place ++ [name]) .directory) := by
    unfold makeDirectory
    rw [found, spotIn, free]
  simp [makeDirectories, makeUpwards, present, made, makeEach]

/-- Under a name that is not usable, no directory can be made. -/
theorem makeDirectories_unusable (unusable : ¬Usable root name name) :
    ∃ error, files.makeDirectories (Path.join root name) = (files, .error error) := by
  obtain ⟨error, away, other⟩ := locate_unusable reached single unusable false
  have failed : files.makeDirectory (Path.join root name) = .error error := by
    unfold makeDirectory
    rw [away]
  refine ⟨error, ?_⟩
  rw [makeDirectories_refused single failed other,
    not_isDirectory_of_unusable reached single unusable, Bool.and_false]
  rfl

/-- A name under which a directory was made is usable. -/
theorem usable_of_makeDirectories
    (made : files.makeDirectories (Path.join root name) = (after, .ok ())) :
    Usable root name name := by
  refine Classical.byContradiction fun unusable => ?_
  obtain ⟨error, failed⟩ := makeDirectories_unusable reached single unusable
  rw [failed] at made
  cases made

end Files

open Files

/-! ## The emptied directory -/

/-- The subdirectories have proper names, and directories can be made under them. -/
structure Home.Proper (home : Home) : Prop where
  staging : Path.Single home.staging home.staging
  libraries : Path.Single home.libraries home.libraries
  distinct : home.staging ≠ home.libraries
  stagingUsable : Usable home.root home.staging home.staging
  librariesUsable : Usable home.root home.libraries home.libraries

/-- The directory is housed and there is nothing in it but its subdirectories. -/
structure Vacant (home : Home) (files : Files) : Prop where
  housed : Housed home files
  alone : ∀ location, Inside home.place location → files.node? location ≠ none →
    location = home.stagingPlace ∨ location = home.librariesPlace

namespace Home

variable {home : Home} {files after : Files}

/-- The tree with the two subdirectories made in it. -/
def furnish (home : Home) (files : Files) : Files :=
  (files.put home.stagingPlace .directory).put home.librariesPlace .directory

/-- What stands after the subdirectories were made. -/
theorem node?_furnish (home : Home) (files : Files) (location : Location) :
    (home.furnish files).node? location =
      if location = home.librariesPlace then some .directory
      else if location = home.stagingPlace then some .directory else files.node? location := by
  have staging : home.stagingPlace ≠ [] := by simp [stagingPlace]
  have libraries : home.librariesPlace ≠ [] := by simp [librariesPlace]
  rw [furnish, node?_put _ libraries, node?_put _ staging]

theorem stagingPlace_inside (home : Home) : Inside home.place home.stagingPlace :=
  inside_append home.place (by simp)

theorem librariesPlace_inside (home : Home) : Inside home.place home.librariesPlace :=
  inside_append home.place (by simp)

/-- Making the subdirectories changes nothing outside of the directory. -/
theorem furnish_outside (home : Home) (files : Files) :
    SameOutside home.place files (home.furnish files) := by
  intro location outside
  rw [node?_furnish, if_neg, if_neg]
  · rintro rfl
    exact outside home.stagingPlace_inside
  · rintro rfl
    exact outside home.librariesPlace_inside

/-- The layout of a cleared directory is made by making the subdirectories. -/
theorem create_cleared (home : Home) (anchored : Anchored files home.root home.place)
    (cleared : Cleared home.place files) (staging : Path.Single home.staging home.staging)
    (libraries : Path.Single home.libraries home.libraries)
    (distinct : home.staging ≠ home.libraries) :
    (home.Proper → home.layout.create files = (home.furnish files, .ok ())) ∧
      ((home.layout.create files).2 = .ok () → home.Proper) := by
  have free : files.node? (home.place ++ [home.staging]) = none :=
    cleared _ home.stagingPlace_inside
  have between : SameOutside home.place files (files.put home.stagingPlace .directory) := by
    intro location outside
    rw [node?_put _ (by simp [stagingPlace]), if_neg]
    rintro rfl
    exact outside home.stagingPlace_inside
  have later := (anchored.of_sameOutside between).reached
  have stillFree : (files.put home.stagingPlace .directory).node?
      (home.place ++ [home.libraries]) = none := by
    rw [node?_put _ (by simp [stagingPlace]), if_neg (by simp [stagingPlace, distinct.symm])]
    exact cleared _ home.librariesPlace_inside
  have root : files.makeDirectories home.layout.root = (files, .ok ()) :=
    makeDirectories_there anchored.reached
  have create_eq : home.layout.create files = Layout.makeAll
      [Path.join home.root home.staging, Path.join home.root home.libraries] files := by
    unfold Layout.create
    rw [Layout.makeAll, root]
    rfl
  rw [create_eq]
  constructor
  · intro proper
    rw [Layout.makeAll, makeDirectories_usable anchored.reached staging proper.stagingUsable free]
    dsimp only
    rw [Layout.makeAll, show home.place ++ [home.staging] = home.stagingPlace from rfl,
      makeDirectories_usable later libraries proper.librariesUsable stillFree]
    rfl
  · intro created
    rw [Layout.makeAll] at created
    rcases first : files.makeDirectories (Path.join home.root home.staging) with
      ⟨made, error | ⟨⟩⟩
    · simp [first] at created
    · have stagingUsable := usable_of_makeDirectories anchored.reached staging first
      rw [makeDirectories_usable anchored.reached staging stagingUsable free] at created
      dsimp only at created
      rw [Layout.makeAll] at created
      rcases second : (files.put (home.place ++ [home.staging]) .directory).makeDirectories
        (Path.join home.root home.libraries) with ⟨last, error | ⟨⟩⟩
      · simp [second] at created
      · exact ⟨staging, libraries, distinct, stagingUsable,
          usable_of_makeDirectories later libraries second⟩

/-- A cleared directory in which the subdirectories were made is vacant. -/
theorem furnish_vacant (proper : home.Proper) (anchored : Anchored files home.root home.place)
    (cleared : Cleared home.place files) : Vacant home (home.furnish files) where
  housed :=
    { anchored := anchored.of_sameOutside (home.furnish_outside files)
      staging := proper.staging
      libraries := proper.libraries
      distinct := proper.distinct
      usable := proper.stagingUsable
      bones := by
        intro location inside
        unfold bone?
        rw [node?_furnish, cleared location inside]
        by_cases isLibraries : location = home.librariesPlace
        · rw [if_pos isLibraries, if_pos (.inr isLibraries)]
          rfl
        · by_cases isStaging : location = home.stagingPlace
          · rw [if_neg isLibraries, if_pos isStaging, if_pos (.inl isStaging)]
            rfl
          · rw [if_neg isLibraries, if_neg isStaging, if_neg (by simp [isLibraries, isStaging])]
            rfl }
  alone := by
    intro location inside stands
    rw [node?_furnish, cleared location inside] at stands
    by_cases isLibraries : location = home.librariesPlace
    · exact .inr isLibraries
    · rw [if_neg isLibraries] at stands
      by_cases isStaging : location = home.stagingPlace
      · exact .inl isStaging
      · rw [if_neg isStaging] at stands
        exact absurd rfl stands

/-- What emptying an anchored directory comes to, if every entry can be removed. -/
theorem purge_eq (anchored : Anchored files home.root home.place)
    (regular : Regular home.place files) (removed : (home.layout.purge files).refusals = []) :
    ∃ between, Emptied home.place (files.childNames home.place) files between ∧
      home.layout.purge files =
        ⟨(home.layout.create between).1, [], (home.layout.create between).2⟩ := by
  have listed : files.list home.layout.root = .ok (files.childNames home.place) := by
    unfold list status
    rw [show home.layout.root = home.root from rfl, anchored.reached]
  unfold Layout.purge Layout.purgeWith at removed ⊢
  rw [listed] at removed ⊢
  dsimp only at removed ⊢
  rcases all : Layout.removeAll Layout.removeEntry
    ((files.childNames home.place).map (Path.join home.layout.root)) files with
      ⟨between, refusals⟩
  rw [all] at removed
  obtain rfl : refusals = [] := removed
  have emptied := removeAll_emptied anchored
    (fun name member => regular.names name (mem_childNames.mp member)) regular all
  exact ⟨between, emptied, rfl⟩

/-- An emptied directory in which the subdirectories can be made is vacant, and nothing has changed
outside of it. -/
theorem purge_vacant (proper : home.Proper) (anchored : Anchored files home.root home.place)
    (regular : Regular home.place files) (removed : (home.layout.purge files).refusals = []) :
    Vacant home (home.layout.purge files).files ∧
      SameOutside home.place files (home.layout.purge files).files ∧
        (home.layout.purge files).result = .ok () := by
  obtain ⟨between, emptied, purged⟩ := home.purge_eq anchored regular removed
  have still := anchored.of_sameOutside emptied.outside
  have cleared := emptied.cleared regular
  have created := (home.create_cleared still cleared proper.staging proper.libraries
    proper.distinct).1 proper
  rw [purged, created]
  exact ⟨furnish_vacant proper still cleared,
    emptied.outside.trans (home.furnish_outside between), rfl⟩

/-- Subdirectories that were made when the directory was emptied can be made. -/
theorem proper_of_purge (staging : Path.Single home.staging home.staging)
    (libraries : Path.Single home.libraries home.libraries)
    (distinct : home.staging ≠ home.libraries) (anchored : Anchored files home.root home.place)
    (regular : Regular home.place files) (done : (home.layout.purge files).result = .ok ()) :
    home.Proper ∧ (home.layout.purge files).refusals = [] := by
  have removed : (home.layout.purge files).refusals = [] := by
    unfold Layout.purge Layout.purgeWith at done ⊢
    split
    · next names listed =>
      rw [listed] at done
      dsimp only at done ⊢
      split at done
      · next none_ => exact none_
      · cases done
    · rfl
  obtain ⟨between, emptied, purged⟩ := home.purge_eq anchored regular removed
  rw [purged] at done
  exact ⟨(home.create_cleared (anchored.of_sameOutside emptied.outside)
    (emptied.cleared regular) staging libraries distinct).2 done, removed⟩

/-- A directory that was emptied with success is vacant, and nothing has changed outside of it. -/
theorem vacant_of_purge (staging : Path.Single home.staging home.staging)
    (libraries : Path.Single home.libraries home.libraries)
    (distinct : home.staging ≠ home.libraries) (anchored : Anchored files home.root home.place)
    (regular : Regular home.place files) (done : (home.layout.purge files).result = .ok ()) :
    home.Proper ∧ Vacant home (home.layout.purge files).files ∧
      SameOutside home.place files (home.layout.purge files).files := by
  obtain ⟨proper, removed⟩ := proper_of_purge staging libraries distinct anchored regular done
  obtain ⟨vacant, same, _⟩ := purge_vacant proper anchored regular removed
  exact ⟨proper, vacant, same⟩

end Home

end Hotload
