import Hotload.Proofs.CacheLayouts

/-!
# Entries that cannot be removed

A cache directory is emptied by a call for each of its entries, and a call may be refused. A refusal
stops neither the calls for the other entries nor the subdirectories from being made again, and the
first one is what is reported. So the entries of which the removal was refused are what is left next
to the subdirectories. But of these the staging directory is made first, and one that cannot be made
ends the making: then the directory for libraries is not made again, although its name is free.

Calls are observed one by one, each on the tree that the one before it left (`Calls`). What a call
does is told for the removers that take away the entry or fail (`Faithful`); the law of one call is
followed by that of all calls, and then by that of making the two subdirectories.
-/

namespace Hotload

open Files

namespace Layout

/-! ## The calls of a remover -/

/-- Calls of a remover for names in a directory, one after the other, each with its result. -/
inductive Calls (remove : Remover) (root : String) :
    Files → List (String × Except FileError Unit) → Files → Prop where
  | nil {files : Files} : Calls remove root files [] files
  | cons {files between after : Files} {name : String} {result : Except FileError Unit}
      {rest : List (String × Except FileError Unit)}
      (call : remove (Path.join root name) files = (between, result))
      (later : Calls remove root between rest after) :
      Calls remove root files ((name, result) :: rest) after

/-- The errors of calls, in their order. -/
def refusals (calls : List (String × Except FileError Unit)) : List FileError :=
  calls.filterMap fun call =>
    match call.2 with
    | .ok () => none
    | .error error => some error

/-- The call for a name failed. -/
def Refused (calls : List (String × Except FileError Unit)) (name : String) : Prop :=
  ∃ error, (name, .error error) ∈ calls

/-- No call failed exactly if all succeeded. -/
theorem refusals_eq_nil_iff (calls : List (String × Except FileError Unit)) :
    refusals calls = [] ↔ ∀ call ∈ calls, call.2 = .ok () := by
  unfold refusals
  rw [List.filterMap_eq_nil_iff]
  refine forall₂_congr fun call _ => ?_
  obtain ⟨name, error | ⟨⟩⟩ := call <;> simp

/-- Removing entries is a call for each name, whatever the earlier calls came to. -/
theorem removeAll_calls (remove : Remover) (root : String) (names : List String) (files : Files) :
    ∃ calls, calls.map (·.1) = names ∧
      Calls remove root files calls (removeAll remove (names.map (Path.join root)) files).1 ∧
        (removeAll remove (names.map (Path.join root)) files).2 = refusals calls := by
  induction names generalizing files with
  | nil => exact ⟨[], rfl, .nil, rfl⟩
  | cons name rest inductionHypothesis =>
    rcases call : remove (Path.join root name) files with ⟨between, result⟩
    obtain ⟨calls, named, later, errors⟩ := inductionHypothesis between
    refine ⟨(name, result) :: calls, by rw [List.map_cons, named], ?_⟩
    rw [List.map_cons, removeAll, call]
    cases result with
    | ok => exact ⟨.cons call later, errors⟩
    | error => exact ⟨.cons call later, congrArg (_ :: ·) errors⟩

/-! ## What calls leave -/

/-- The entry of a name is left, perhaps with less in it, and nothing else has changed. -/
structure Spared (place : Location) (name : String) (files after : Files) : Prop where
  outside : SameOutside place files after
  kept : ∀ other, other ≠ name → ∀ rest,
    after.node? (place ++ other :: rest) = files.node? (place ++ other :: rest)
  stands : after.node? (place ++ [name]) = files.node? (place ++ [name])
  fewer : Survives after files

/-- The entry of a name is removed, or the removal fails. -/
inductive Handled (place : Location) (name : String) (files after : Files) :
    Except FileError Unit → Prop where
  | removed (emptied : Emptied place [name] files after) : Handled place name files after (.ok ())
  | refused {error : FileError} (spared : Spared place name files after) :
      Handled place name files after (.error error)

/-- A remover that handles the entry it is called for, in every tree in which the path of the
directory leads to its place. -/
def Faithful (remove : Remover) (root : String) (place : Location) : Prop :=
  ∀ {files : Files} {name : String}, Anchored files root place → Regular place files →
    Path.Single name name →
      Handled place name files (remove (Path.join root name) files).1
        (remove (Path.join root name) files).2

/-- What calls for names leave of a directory: nothing of an entry that was removed, an entry of
which the removal was refused, and all others as they were. -/
structure Left (place : Location) (calls : List (String × Except FileError Unit))
    (files after : Files) : Prop where
  outside : SameOutside place files after
  kept : ∀ name, name ∉ calls.map (·.1) → ∀ rest,
    after.node? (place ++ name :: rest) = files.node? (place ++ name :: rest)
  gone : ∀ name, (name, .ok ()) ∈ calls → ∀ rest, after.node? (place ++ name :: rest) = none
  stands : ∀ name, Refused calls name →
    after.node? (place ++ [name]) = files.node? (place ++ [name])
  fewer : Survives after files

section Calls

variable {remove : Remover} {root name : String} {place : Location} {files after : Files}
  {result : Except FileError Unit} {calls : List (String × Except FileError Unit)}

theorem Spared.refl (place : Location) (name : String) (files : Files) :
    Spared place name files files :=
  ⟨fun _ _ => rfl, fun _ _ _ => rfl, rfl, Survives.refl files⟩

/-- The removal of entries is faithful. -/
theorem removeEntry_faithful (root : String) (place : Location) :
    Faithful removeEntry root place := by
  intro files name anchored regular single
  rcases called : removeEntry (Path.join root name) files with ⟨after, error | ⟨⟩⟩
  · rw [removeEntry_error called]
    exact .refused (.refl place name files)
  · exact .removed (removeEntry_emptied anchored.reached single regular called)

/-- A call leaves everything outside of the directory. -/
theorem Handled.outside (handled : Handled place name files after result) :
    SameOutside place files after := by
  cases handled with
  | removed emptied => exact emptied.outside
  | refused spared => exact spared.outside

/-- A call leaves the entries of other names. -/
theorem Handled.kept (handled : Handled place name files after result) {other : String}
    (away : other ≠ name) (rest : Location) :
    after.node? (place ++ other :: rest) = files.node? (place ++ other :: rest) := by
  cases handled with
  | removed emptied => exact emptied.kept other (by simpa using away) rest
  | refused spared => exact spared.kept other away rest

/-- A call adds nothing. -/
theorem Handled.fewer (handled : Handled place name files after result) :
    Survives after files := by
  cases handled with
  | removed emptied => exact emptied.fewer
  | refused spared => exact spared.fewer

/-- A call leaves a directory regular. -/
theorem Handled.regular (handled : Handled place name files after result)
    (regular : Regular place files) : Regular place after := by
  cases handled with
  | removed emptied => exact emptied.regular regular
  | refused spared =>
    have before {location : Location} (stands : after.node? location ≠ none) :
        files.node? location ≠ none := by
      obtain ⟨node, there⟩ := Option.ne_none_iff_exists'.mp stands
      rw [spared.fewer location node there]
      simp
    refine ⟨fun other stands => regular.names other (before stands), ?_⟩
    intro other rest deeper stands
    have directory := regular.below other rest deeper (before stands)
    by_cases same : other = name
    · rw [same] at directory ⊢
      rw [spared.stands, directory]
    · rw [spared.kept other same, directory]

/-- What calls for different names leave. The induction is on the calls: a later call is for another
name, so it leaves what the first one came to. -/
theorem Calls.left (run : Calls remove root files calls after)
    (faithful : Faithful remove root place) (anchored : Anchored files root place)
    (regular : Regular place files) (proper : ∀ name ∈ calls.map (·.1), Path.Single name name)
    (once : (calls.map (·.1)).Nodup) : Left place calls files after := by
  induction run with
  | nil =>
    exact ⟨fun _ _ => rfl, fun _ _ _ => rfl, fun _ impossible => (by cases impossible),
      fun _ _ => rfl, Survives.refl _⟩
  | @cons files between after name result rest call later inductionHypothesis =>
    rw [List.map_cons, List.nodup_cons] at once
    have handled : Handled place name files between result := by
      have handled := faithful anchored regular (proper name List.mem_cons_self)
      rwa [call] at handled
    have left := inductionHypothesis (anchored.of_sameOutside handled.outside)
      (handled.regular regular) (fun other listed => proper other (List.mem_cons_of_mem _ listed))
      once.2
    have later {other : String} {end_ : Except FileError Unit} (listed : (other, end_) ∈ rest) :
        other ≠ name := by
      rintro rfl
      exact once.1 (List.mem_map.mpr ⟨_, listed, rfl⟩)
    constructor
    · exact handled.outside.trans left.outside
    · intro other away within
      rw [List.map_cons, List.mem_cons, not_or] at away
      rw [left.kept other away.2 within, handled.kept away.1 within]
    · intro other listed within
      rcases List.mem_cons.mp listed with first | listed
      · obtain ⟨rfl, rfl⟩ := Prod.mk.inj first
        rw [left.kept other once.1 within]
        cases handled with
        | removed emptied => exact emptied.gone other List.mem_cons_self within
      · exact left.gone other listed within
    · rintro other ⟨error, listed⟩
      rcases List.mem_cons.mp listed with first | listed
      · obtain ⟨rfl, rfl⟩ := Prod.mk.inj first
        rw [left.kept other once.1 []]
        cases handled with
        | refused spared => exact spared.stands
      · rw [left.stands other ⟨error, listed⟩, handled.kept (later listed) []]
    · exact left.fewer.trans handled.fewer

end Calls

/-! ## Making an entry -/

/-- What making a directory under a name of another directory comes to. -/
inductive EntryMade (root : String) (place : Location) (name : String) (files : Files) :
    Files → Except FileError Unit → Prop where
  | there (isDirectory : files.isDirectory (Path.join root name)) :
      EntryMade root place name files files (.ok ())
  | made (usable : Usable root name name) (free : files.node? (place ++ [name]) = none) :
      EntryMade root place name files (files.put (place ++ [name]) .directory) (.ok ())
  | refused {error : FileError} (noDirectory : files.isDirectory (Path.join root name) = false)
      (blocked : files.node? (place ++ [name]) = none → ¬Usable root name name) :
      EntryMade root place name files files (.error error)

/-- The path of a directory in another one leads to it if it is usable. -/
theorem isDirectory_iff_usable {files : Files} {root name : String} {place : Location}
    (reached : files.locate true root = .ok (.taken place .directory))
    (single : Path.Single name name) (stands : files.node? (place ++ [name]) = some .directory) :
    files.isDirectory (Path.join root name) ↔ Usable root name name := by
  refine ⟨fun isDirectory => Classical.byContradiction fun unusable => ?_, fun usable => ?_⟩
  · exact absurd ((not_isDirectory_of_unusable reached single unusable).symm.trans isDirectory)
      (by decide)
  · unfold isDirectory status
    rw [locate_usable reached single usable true (by simp [stands]), spotIn, stands]

/-- Making a directory under a name where one may be already, or something else. -/
theorem makeDirectories_entry {files : Files} {root name : String} {place : Location}
    (reached : files.locate true root = .ok (.taken place .directory))
    (single : Path.Single name name) :
    EntryMade root place name files (files.makeDirectories (Path.join root name)).1
      (files.makeDirectories (Path.join root name)).2 := by
  rcases Classical.em (Usable root name name) with usable | unusable
  · cases stands : files.node? (place ++ [name]) with
    | none =>
      rw [makeDirectories_usable reached single usable stands]
      exact .made usable stands
    | some node =>
      have found := locate_usable reached single usable false fun impossible => by cases impossible
      have failed : files.makeDirectory (Path.join root name) = .error .alreadyExists := by
        unfold makeDirectory
        rw [found, spotIn, stands]
      rw [makeDirectories_refused single failed (by simp)]
      cases isDirectory : files.isDirectory (Path.join root name) with
      | true => exact .there isDirectory
      | false => exact .refused isDirectory fun free => absurd (free.symm.trans stands) (by simp)
  · obtain ⟨error, failed⟩ := makeDirectories_unusable reached single unusable
    rw [failed]
    exact .refused (not_isDirectory_of_unusable reached single unusable) fun _ => unusable

section EntryMade

variable {root name : String} {place : Location} {files after : Files}
  {result : Except FileError Unit}

/-- Making an entry takes nothing away. -/
theorem EntryMade.survives (entry : EntryMade root place name files after result) :
    Survives files after := by
  cases entry with
  | there | refused => exact Survives.refl files
  | made usable free =>
    intro location node stands
    rw [node?_put files (by simp), if_neg, stands]
    rintro rfl
    exact absurd (free.symm.trans stands) (by simp)

/-- Making an entry changes nothing else. -/
theorem EntryMade.elsewhere (entry : EntryMade root place name files after result)
    {location : Location} (away : location ≠ place ++ [name]) :
    after.node? location = files.node? location := by
  cases entry with
  | there | refused => rfl
  | made => rw [node?_put files (by simp), if_neg away]

/-- The path of an entry that is made leads to a directory, however it was before. -/
theorem EntryMade.ok_iff (entry : EntryMade root place name files after result)
    (reached : after.locate true root = .ok (.taken place .directory))
    (single : Path.Single name name) :
    result = .ok () ↔ after.isDirectory (Path.join root name) := by
  cases entry with
  | there isDirectory => simp [isDirectory]
  | made usable free =>
    have stands : (files.put (place ++ [name]) .directory).node? (place ++ [name]) =
        some .directory := by
      rw [node?_put files (by simp), if_pos rfl]
    simp [(isDirectory_iff_usable reached single stands).mpr usable]
  | refused noDirectory => simp [noDirectory]

/-- Under a free name, an entry is made just if the name is usable. -/
theorem EntryMade.ok_iff_usable (entry : EntryMade root place name files after result)
    (reached : files.locate true root = .ok (.taken place .directory))
    (single : Path.Single name name) (free : files.node? (place ++ [name]) = none) :
    result = .ok () ↔ Usable root name name := by
  cases entry with
  | there isDirectory => exact absurd free (stands_of_isDirectory reached single isDirectory)
  | made usable => simp [usable]
  | refused _ blocked => simp [blocked free]

end EntryMade

end Layout

open Layout

/-! ## The directory afterwards -/

/-- The directory stands at its place, to which its path leads whatever is in it, with one entry for
each name; the names of the subdirectories are proper and differ. -/
structure Standing (home : Home) (files : Files) : Prop where
  anchored : Anchored files home.root home.place
  regular : Regular home.place files
  once : (files.childNames home.place).Nodup
  staging : Path.Single home.staging home.staging
  libraries : Path.Single home.libraries home.libraries
  distinct : home.staging ≠ home.libraries

/-- What making the subdirectories comes to. Under a free name, the staging directory is made if the
name is usable, and that for libraries if the staging directory is there besides. -/
structure Furnished (home : Home) (files after : Files) (created : Except FileError Unit) :
    Prop where
  survives : Survives files after
  elsewhere : ∀ location, location ≠ home.stagingPlace → location ≠ home.librariesPlace →
    after.node? location = files.node? location
  staging : files.node? home.stagingPlace = none →
    (after.isDirectory home.layout.staging ↔ Usable home.root home.staging home.staging)
  libraries : files.node? home.librariesPlace = none →
    (after.isDirectory home.layout.libraries ↔
      Usable home.root home.libraries home.libraries ∧ after.isDirectory home.layout.staging)
  created : created = .ok () ↔
    after.isDirectory home.layout.staging ∧ after.isDirectory home.layout.libraries

/-- What stands in the directory after the calls of a remover and the making of its subdirectories:
the entries for which a call failed, as they were. A subdirectory is there as well if its name is
usable, unless a call failed for something else under its name. But the directory for libraries, if
it was not left, is there only if the staging directory is. -/
structure Rebuilt (home : Home) (files : Files) (calls : List (String × Except FileError Unit))
    (created : Except FileError Unit) (after : Files) : Prop where
  outside : SameOutside home.place files after
  survivors : ∀ name, name ≠ home.staging → name ≠ home.libraries →
    (after.node? (home.place ++ [name]) ≠ none ↔ Refused calls name)
  refused : ∀ name, Refused calls name →
    after.node? (home.place ++ [name]) = files.node? (home.place ++ [name])
  emptied : ∀ name, ¬Refused calls name → ∀ rest, rest ≠ [] →
    after.node? (home.place ++ name :: rest) = none
  nothingNew : ∀ location, after.node? location ≠ none → files.node? location ≠ none ∨
    location = home.stagingPlace ∨ location = home.librariesPlace
  staging : (Refused calls home.staging → files.node? home.stagingPlace = some .directory) →
    (after.isDirectory home.layout.staging ↔ Usable home.root home.staging home.staging)
  libraries : (Refused calls home.libraries → files.node? home.librariesPlace = some .directory) →
    (after.isDirectory home.layout.libraries ↔
      Usable home.root home.libraries home.libraries ∧
        (Refused calls home.libraries ∨ after.isDirectory home.layout.staging))
  created : created = .ok () ↔
    after.isDirectory home.layout.staging ∧ after.isDirectory home.layout.libraries

namespace Home

variable {home : Home} {files removed after : Files} {created : Except FileError Unit}
  {calls : List (String × Except FileError Unit)}

/-- The staging directory is made, and then that for libraries unless the first was refused. -/
theorem create_entries (standing : Standing home files)
    (anchored : Anchored removed home.root home.place) :
    ∃ between first, EntryMade home.root home.place home.staging removed between first ∧
      ((∃ error, first = .error error ∧ home.layout.create removed = (between, .error error)) ∨
        first = .ok () ∧ EntryMade home.root home.place home.libraries between
          (home.layout.create removed).1 (home.layout.create removed).2) := by
  have staging := makeDirectories_entry anchored.reached standing.staging
  have create_eq : home.layout.create removed =
      makeAll [home.layout.staging, home.layout.libraries] removed := by
    unfold create
    rw [makeAll, show home.layout.root = home.root from rfl,
      makeDirectories_there anchored.reached]
  rw [create_eq, makeAll]
  rcases made : removed.makeDirectories home.layout.staging with ⟨between, error | ⟨⟩⟩
  all_goals
    rw [show Path.join home.root home.staging = home.layout.staging from rfl, made] at staging
  · exact ⟨between, .error error, staging, .inl ⟨error, rfl, rfl⟩⟩
  · have same : SameOutside home.place removed between := fun location outside =>
      staging.elsewhere fun within => outside (within ▸ home.stagingPlace_inside)
    have libraries :=
      makeDirectories_entry (anchored.of_sameOutside same).reached standing.libraries
    refine ⟨between, .ok (), staging, .inr ⟨rfl, ?_⟩⟩
    rw [show Path.join home.root home.libraries = home.layout.libraries from rfl] at libraries
    dsimp only
    rw [makeAll]
    rcases more : between.makeDirectories home.layout.libraries with ⟨last, error | ⟨⟩⟩
    all_goals rwa [more] at libraries

/-- What making the subdirectories comes to, from what making each of them does. -/
theorem create_furnished (standing : Standing home files)
    (anchored : Anchored removed home.root home.place) :
    Furnished home removed (home.layout.create removed).1 (home.layout.create removed).2 := by
  obtain ⟨between, first, staging, ⟨error, rfl, stopped⟩ | ⟨rfl, libraries⟩⟩ :=
    create_entries standing anchored
  · rw [stopped]
    cases staging with
    | refused noDirectory blocked =>
      have away : removed.isDirectory home.layout.staging = false := noDirectory
      refine ⟨Survives.refl removed, fun _ _ _ => rfl, fun free => ?_, fun free => ?_, ?_⟩
      · simp [away, blocked free]
      · have alsoAway : ¬removed.isDirectory home.layout.libraries := fun isDirectory =>
          stands_of_isDirectory anchored.reached standing.libraries isDirectory free
        simp [away, alsoAway]
      · simp [away]
  · generalize (home.layout.create removed).1 = after,
      (home.layout.create removed).2 = created at libraries
    have sameBetween : SameOutside home.place removed between := fun location outside =>
      staging.elsewhere fun within => outside (within ▸ home.stagingPlace_inside)
    have sameAfter : SameOutside home.place between after := fun location outside =>
      libraries.elsewhere fun within => outside (within ▸ home.librariesPlace_inside)
    have anchoredBetween := anchored.of_sameOutside sameBetween
    have reached := (anchoredBetween.of_sameOutside sameAfter).reached
    have isStaging : after.isDirectory home.layout.staging := libraries.survives.isDirectory
      ((staging.ok_iff anchoredBetween.reached standing.staging).mp rfl)
    have isLibraries := libraries.ok_iff reached standing.libraries
    refine ⟨staging.survives.trans libraries.survives, ?_, fun free => ?_, fun free => ?_, ?_⟩
    · intro location notStaging notLibraries
      rw [libraries.elsewhere notLibraries, staging.elsewhere notStaging]
    · have usable := (staging.ok_iff_usable anchored.reached standing.staging free).mp rfl
      simp [isStaging, usable]
    · have apart : home.librariesPlace ≠ home.stagingPlace := by
        simp [librariesPlace, stagingPlace, standing.distinct.symm]
      have stillFree : between.node? home.librariesPlace = none :=
        (staging.elsewhere apart).trans free
      have usable := libraries.ok_iff_usable anchoredBetween.reached standing.libraries stillFree
      rw [and_iff_left isStaging, ← usable]
      exact isLibraries.symm
    · rw [and_iff_right isStaging]
      exact isLibraries

/-- What the calls left and the making of the subdirectories come to together. -/
theorem rebuilt_of_left (standing : Standing home files)
    (left : Left home.place calls files removed)
    (named : calls.map (·.1) = files.childNames home.place) :
    Rebuilt home files calls (home.layout.create removed).2 (home.layout.create removed).1 := by
  have anchored := standing.anchored.of_sameOutside left.outside
  have furnished := create_furnished standing anchored
  generalize (home.layout.create removed).1 = after, (home.layout.create removed).2 = created
    at furnished
  -- A name for which no call failed had its entry removed, or had none.
  have bare {name : String} (granted : ¬Refused calls name) (rest : Location) :
      removed.node? (home.place ++ name :: rest) = none := by
    by_cases listed : name ∈ calls.map (·.1)
    · obtain ⟨⟨_, error | ⟨⟩⟩, called, rfl⟩ := List.mem_map.mp listed
      · exact absurd ⟨error, called⟩ granted
      · exact left.gone _ called rest
    · rw [left.kept name listed]
      rw [named, mem_childNames, Classical.not_not] at listed
      exact standing.regular.free listed rest
  have stands {name : String} (refused : Refused calls name) :
      files.node? (home.place ++ [name]) ≠ none := by
    obtain ⟨error, called⟩ := refused
    rw [← mem_childNames, ← named]
    exact List.mem_map.mpr ⟨_, called, rfl⟩
  have same {name : String} (refused : Refused calls name) :
      after.node? (home.place ++ [name]) = files.node? (home.place ++ [name]) := by
    obtain ⟨node, there⟩ := Option.ne_none_iff_exists'.mp (stands refused)
    rw [there]
    exact furnished.survives _ node ((left.stands name refused).trans there)
  have sameAfter : SameOutside home.place removed after := fun location outside =>
    furnished.elsewhere location (fun here => outside (here ▸ home.stagingPlace_inside))
      (fun here => outside (here ▸ home.librariesPlace_inside))
  have reached := (anchored.of_sameOutside sameAfter).reached
  have elsewhere {name : String} {rest : Location} (apart : rest ≠ [] ∨
      name ≠ home.staging ∧ name ≠ home.libraries) :
      after.node? (home.place ++ name :: rest) = removed.node? (home.place ++ name :: rest) := by
    apply furnished.elsewhere
    all_goals
      intro same
      have split := List.cons.inj (List.append_cancel_left same)
      rcases apart with deeper | apart
      · exact deeper split.2
    · exact apart.1 split.1
    · exact apart.2 split.1
  refine
    { outside := left.outside.trans fun location outside => ?_
      survivors := fun name notStaging notLibraries => ?_
      refused := fun name refused => ?_
      emptied := fun name granted rest deeper => ?_
      nothingNew := fun location present => ?_
      staging := fun clear => ?_
      libraries := fun clear => ?_
      created := furnished.created }
  · exact sameAfter location outside
  · rw [elsewhere (.inr ⟨notStaging, notLibraries⟩)]
    refine ⟨fun present => ?_, fun refused => ?_⟩
    · exact Classical.byContradiction fun granted => present (bare granted [])
    · rw [left.stands name refused]
      exact stands refused
  · exact same refused
  · rw [elsewhere (.inl deeper), bare granted]
  · by_cases new : location = home.stagingPlace ∨ location = home.librariesPlace
    · exact .inr new
    · rw [not_or] at new
      rw [furnished.elsewhere location new.1 new.2] at present
      obtain ⟨node, there⟩ := Option.ne_none_iff_exists'.mp present
      exact .inl (by rw [left.fewer location node there]; simp)
  · rcases Classical.em (Refused calls home.staging) with refused | granted
    · exact isDirectory_iff_usable reached standing.staging ((same refused).trans (clear refused))
    · exact furnished.staging (bare granted [])
  · rcases Classical.em (Refused calls home.libraries) with refused | granted
    · rw [and_iff_left (.inl refused)]
      exact isDirectory_iff_usable reached standing.libraries ((same refused).trans (clear refused))
    · rw [or_iff_right granted]
      exact furnished.libraries (bare granted [])

end Home

namespace Layout

variable {layout : Layout} {files : Files} {names : List String}

/-- Emptying a directory by any remover calls it for every entry, makes the subdirectories in the
tree that the calls left, and reports the first error of all that. -/
theorem purgeWith_calls (remove : Remover) (listed : files.list layout.root = .ok names) :
    ∃ calls removed, Calls remove layout.root files calls removed ∧ calls.map (·.1) = names ∧
      layout.purgeWith remove files = ⟨(layout.create removed).1, refusals calls,
        (refusals calls).head?.elim (layout.create removed).2 .error⟩ := by
  obtain ⟨calls, named, run, errors⟩ := removeAll_calls remove layout.root names files
  refine ⟨calls, _, run, named, ?_⟩
  rw [← errors]
  simp only [purgeWith, listed]
  cases (removeAll remove (names.map (Path.join layout.root)) files).2 with
  | nil => rfl
  | cons => rfl

/-- A directory that can be listed is emptied by calling the remover once for each of its entries,
in their order and whatever the other calls come to. The emptying succeeds just if all calls and the
making of the subdirectories do; else it reports the first error of a call, or that of the making if
no call failed. What stands in the directory afterwards is told by the calls. The remover is any
that does nothing but remove the entry it is called for, or part of it; the calls are taken one by
one, and what they leave is rebuilt from their results. -/
theorem purgeWith_rebuilds (remove : Remover) (listed : files.list layout.root = .ok names) :
    ∃ calls removed, Calls remove layout.root files calls removed ∧ calls.map (·.1) = names ∧
      (layout.purgeWith remove files).files = (layout.create removed).1 ∧
      ((layout.purgeWith remove files).result = .ok () ↔
        (∀ call ∈ calls, call.2 = .ok ()) ∧ (layout.create removed).2 = .ok ()) ∧
      (∀ error, (layout.purgeWith remove files).result = .error error ↔
        (refusals calls).head? = some error ∨
          (∀ call ∈ calls, call.2 = .ok ()) ∧ (layout.create removed).2 = .error error) ∧
      ∀ home : Home, home.layout = layout → Standing home files →
        Faithful remove home.root home.place →
          Rebuilt home files calls (layout.create removed).2
            (layout.purgeWith remove files).files := by
  obtain ⟨calls, removed, run, named, purged⟩ := purgeWith_calls remove listed
  rw [purged]
  refine ⟨calls, removed, run, named, rfl, ?_, fun error => ?_, ?_⟩
  · rw [← refusals_eq_nil_iff]
    cases refusals calls with
    | nil => simp
    | cons => simp
  · rw [← refusals_eq_nil_iff]
    cases refusals calls with
    | nil => simp
    | cons => simp
  · rintro home rfl standing faithful
    obtain ⟨place, reached, rfl⟩ := locate_of_list listed
    obtain rfl : home.place = place := by
      have there := standing.anchored.reached
      simpa [show home.layout.root = home.root from rfl, there] using reached
    have left := run.left faithful standing.anchored standing.regular
      (fun name member => standing.regular.names name (mem_childNames.mp (named ▸ member)))
      (named ▸ standing.once)
    exact Home.rebuilt_of_left standing left named

/-- Removes entries but for one path, for which it has no permission. -/
def sparing (spared : String) : Remover :=
  fun path files =>
    if path = spared then (files, .error .permissionDenied) else removeEntry path files

theorem sparing_faithful (spared root : String) (place : Location) :
    Faithful (sparing spared) root place := by
  intro files name anchored regular single
  unfold sparing
  split
  · exact .refused (.refl place name files)
  · exact removeEntry_faithful root place anchored regular single

/-- The path of a directory with separators at its end, which lead nowhere but make it longer. -/
def slashed : Nat → String
  | 0 => "/tmp/kiln-cache"
  | count + 1 => slashed count ++ "/"

/-- A cache directory that is called so. -/
def slashedHome (count : Nat) : Home :=
  ⟨slashed count, ["tmp", "kiln-cache"], "staging", "libs"⟩

theorem slashed_size (count : Nat) : (slashed count).utf8ByteSize = 15 + count := by
  induction count with
  | zero => decide
  | succ count inductionHypothesis =>
    rw [slashed, String.utf8ByteSize_append, inductionHypothesis]
    rfl

theorem slashed_parts (count : Nat) : Path.parts (slashed count) = ["tmp", "kiln-cache"] := by
  induction count with
  | zero => decide
  | succ count inductionHypothesis =>
    have between := Path.parts_between (slashed count) ""
    rw [String.append_empty] at between
    rw [slashed, between, inductionHypothesis]
    decide

theorem slashed_whole (count : Nat) :
    Path.isAbsolute (slashed count) = true ∧ '\x00' ∉ (slashed count).toList := by
  induction count with
  | zero => decide
  | succ count inductionHypothesis =>
    obtain ⟨absolute, whole⟩ := inductionHypothesis
    rw [Path.isAbsolute_eq] at absolute ⊢
    rw [slashed, String.toList_append, List.head?_append]
    simp_all

/-- The path leads to the directory as long as it can be asked for. -/
theorem slashedHome_anchored {files : Files} {count : Nat} (short : count ≤ 4080)
    (top : files.bone? ["tmp"] = some .directory)
    (there : files.bone? ["tmp", "kiln-cache"] = some .directory) :
    Anchored files (slashedHome count).root (slashedHome count).place := by
  have askable : Askable (slashed count) := by
    refine ⟨(slashed_whole count).2, fun empty => ?_, by rw [slashed_size]; omega⟩
    have size := slashed_size count
    rw [empty] at size
    simp at size
    omega
  exact anchored_pair askable (slashed_whole count).1 (slashed_parts count) (by decide) top there

/-- The directory stands there, with what is in it. -/
theorem slashedHome_standing {files : Files} {count : Nat} (short : count ≤ 4080)
    (top : files.bone? ["tmp"] = some .directory)
    (there : files.bone? ["tmp", "kiln-cache"] = some .directory)
    (regular : Regular ["tmp", "kiln-cache"] files)
    (once : (files.childNames ["tmp", "kiln-cache"]).Nodup) :
    Standing (slashedHome count) files where
  anchored := slashedHome_anchored short top there
  regular := regular
  once := once
  staging :=
    have name : Path.Single "staging" "staging" := Session.single_of_isOneName (by decide)
    name
  libraries :=
    have name : Path.Single "libs" "libs" := Session.single_of_isOneName (by decide)
    name
  distinct :=
    have different : "staging" ≠ "libs" := by decide
    different

/-- A cache directory with two files. -/
def besideStuck : Files :=
  ⟨[(["tmp"], .directory), (["tmp", "kiln-cache"], .directory),
    (["tmp", "kiln-cache", "stuck"], .file [120] 0),
    (["tmp", "kiln-cache", "loose"], .file [120] 0)], 0⟩

theorem besideStuck_standing : Standing (slashedHome 0) besideStuck := by
  refine slashedHome_standing (by decide) rfl rfl (.of_entries fun entry listed name rest key => ?_)
    (by decide +kernel)
  simp only [besideStuck, List.mem_cons, List.not_mem_nil, or_false] at listed
  rcases listed with rfl | rfl | rfl | rfl <;> simp at key
  all_goals
    obtain ⟨rfl, rfl⟩ := key
    exact ⟨Session.single_of_isOneName (by decide), .inl rfl⟩

/-- What emptying it comes to when one of the files cannot be removed. -/
def stuckPurged : Purged :=
  (slashedHome 0).layout.purgeWith (sparing "/tmp/kiln-cache/stuck") besideStuck

/-- A directory with two files is emptied by a remover that may not remove one of them. The refusal
is reported; the file is left and stands next to the two subdirectories, and the other file is gone.
-/
theorem purgeWith_stuck :
    stuckPurged.refusals = [.permissionDenied] ∧
      (stuckPurged.files.list "/tmp/kiln-cache").toOption = some ["stuck", "staging", "libs"] ∧
        ∃ calls created, calls.map (·.1) = ["stuck", "loose"] ∧
          Rebuilt (slashedHome 0) besideStuck calls created stuckPurged.files := by
  have listed : besideStuck.list (slashedHome 0).layout.root = .ok ["stuck", "loose"] :=
    Session.ok_of_toOption (by decide +kernel)
  obtain ⟨calls, removed, -, named, -, -, -, rebuilds⟩ :=
    purgeWith_rebuilds (sparing "/tmp/kiln-cache/stuck") listed
  exact ⟨by decide +kernel, by decide +kernel, calls, _, named,
    rebuilds (slashedHome 0) rfl besideStuck_standing (sparing_faithful _ _ _)⟩

/-- A cache directory with a staging directory only. -/
def besideStaging : Files :=
  ⟨[(["tmp"], .directory), (["tmp", "kiln-cache"], .directory),
    (["tmp", "kiln-cache", "staging"], .directory)], 0⟩

theorem besideStaging_standing {count : Nat} (short : count ≤ 4080) :
    Standing (slashedHome count) besideStaging := by
  refine slashedHome_standing short rfl rfl (.of_entries fun entry listed name rest key => ?_)
    (by decide +kernel)
  simp only [besideStaging, List.mem_cons, List.not_mem_nil, or_false] at listed
  rcases listed with rfl | rfl | rfl <;> simp at key
  obtain ⟨rfl, rfl⟩ := key
  exact ⟨Session.single_of_isOneName (by decide), .inl rfl⟩

/-- What is joined to the path follows it at once. -/
theorem join_slashed (count : Nat) {name : String} (relative : Path.isAbsolute name = false) :
    Path.join (slashed (count + 1)) name = slashed (count + 1) ++ name := by
  have ends : Path.endsInSeparator (slashed (count + 1)) = true := by
    simp [slashed, Path.endsInSeparator_eq]
  simp [Path.join, relative, ends]

/-- A path that is just too long for the staging directory, which can then neither be removed nor be
made, is not too long for the libraries. Their name is free, and yet no directory is made there. -/
theorem purge_slashed {count : Nat} (long : 4073 ≤ count) (short : count ≤ 4075) :
    besideStaging.list (slashed (count + 1)) = .ok ["staging"] ∧
      Usable (slashed (count + 1)) "libs" "libs" ∧
        ((slashedHome (count + 1)).layout.purge besideStaging).files.isDirectory
          (slashedHome (count + 1)).layout.libraries = false := by
  have standing : Standing (slashedHome (count + 1)) besideStaging :=
    besideStaging_standing (by omega)
  have listed : besideStaging.list (slashedHome (count + 1)).layout.root = .ok ["staging"] := by
    unfold Files.list status
    rw [show (slashedHome (count + 1)).layout.root = (slashedHome (count + 1)).root from rfl,
      standing.anchored.reached]
    rfl
  have unusable : ¬Usable (slashed (count + 1)) "staging" "staging" := by
    intro usable
    have size := usable.1.2.2
    rw [join_slashed count (by decide), String.utf8ByteSize_append, slashed_size] at size
    have name : "staging".utf8ByteSize = 7 := by decide
    omega
  have usable : Usable (slashed (count + 1)) "libs" "libs" := by
    have name : "libs".utf8ByteSize = 4 := by decide
    refine ⟨⟨?_, Path.join_ne_empty _ (by decide), ?_⟩, by decide⟩
    · rw [join_slashed count (by decide), String.toList_append, List.mem_append, not_or]
      exact ⟨(slashed_whole (count + 1)).2, by decide⟩
    · rw [join_slashed count (by decide), String.utf8ByteSize_append, slashed_size]
      omega
  refine ⟨listed, usable, ?_⟩
  obtain ⟨calls, removed, run, named, purged⟩ := purgeWith_calls removeEntry listed
  have rebuilt : Rebuilt (slashedHome (count + 1)) besideStaging calls _ _ :=
    Home.rebuilt_of_left standing (run.left (removeEntry_faithful _ _) standing.anchored
      standing.regular (fun name member => by
        rw [named, List.mem_singleton] at member
        exact member ▸ standing.staging) (by rw [named]; exact standing.once)) named
  have granted : ¬Refused calls "libs" := by
    rintro ⟨error, called⟩
    have listed : "libs" ∈ calls.map (·.1) := List.mem_map.mpr ⟨_, called, rfl⟩
    rw [named] at listed
    exact absurd listed (by decide)
  have noStaging := not_isDirectory_of_unusable
    (standing.anchored.of_sameOutside rebuilt.outside).reached standing.staging unusable
  have law := rebuilt.libraries fun refused => absurd refused granted
  unfold purge
  rw [purged]
  dsimp only
  rw [← Bool.not_eq_true, law]
  rintro ⟨-, refused | isStaging⟩
  · exact granted refused
  · exact absurd (noStaging.symm.trans isStaging) (by decide)

/-- A path of some 4000 characters leads to a cache directory that holds a staging directory only.
It is just too long for the staging directory to be removed or made, so an emptying leaves no
directory for libraries, though its name is free and usable. -/
theorem purge_overlong :
    besideStaging.list (slashed 4075) = .ok ["staging"] ∧ Usable (slashed 4075) "libs" "libs" ∧
      ((slashedHome 4075).layout.purge besideStaging).files.isDirectory
        (slashedHome 4075).layout.libraries = false :=
  purge_slashed (by decide) (by decide)

end Layout

end Hotload
