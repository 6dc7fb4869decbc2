import Hotload.Files.Change
import Mathlib.Logic.Relation

/-!
# Places

Where a path leads hangs on the directories and the links of a tree, not on its files. They are the
skeleton of the tree, and two trees with one skeleton lead every path to the same place. Writing a
file and removing one, unless it is a link, leaves the skeleton alone and changes the tree at the
target of the path only; what stands at every other place can be read as before.
-/

namespace Hotload

namespace Files

/-! ## Single changes of the tree -/

/-- Replacing the values under a key shows under that key only. -/
theorem lookup_replace {α β : Type} [BEq α] [LawfulBEq α] [DecidableEq α]
    (entries : List (α × β)) (key : α) (value : β) (other : α) :
    (entries.map fun entry => if entry.1 = key then (key, value) else entry).lookup other =
      if other = key then (entries.lookup other).map fun _ => value else entries.lookup other := by
  induction entries with
  | nil => simp
  | cons first rest inductionHypothesis =>
    obtain ⟨name, old⟩ := first
    rw [List.map_cons]
    by_cases here : name = key
    · by_cases asked : other = key
      · simp [here, asked]
      · have away : (other == key) = false := beq_eq_false_iff_ne.mpr asked
        rw [if_neg asked] at inductionHypothesis ⊢
        simp only [here, ↓reduceIte, List.lookup_cons, away, inductionHypothesis]
    · rw [if_neg here]
      cases found : other == name with
      | true =>
        have same : other = name := eq_of_beq found
        simp [same, here]
      | false => simp only [List.lookup_cons, found, inductionHypothesis]

/-- Putting a value under a key, in place of an old one or else at the end, shows under that key
only. -/
theorem lookup_put {α β : Type} [BEq α] [LawfulBEq α] [DecidableEq α] (entries : List (α × β))
    (key : α) (value : β) (other : α) :
    (if entries.any (·.1 = key) then
        entries.map fun entry => if entry.1 = key then (key, value) else entry
      else entries ++ [(key, value)]).lookup other =
      if other = key then some value else entries.lookup other := by
  split
  case isTrue listed =>
    rw [lookup_replace]
    by_cases asked : other = key
    · obtain ⟨entry, member, same⟩ := List.any_eq_true.mp listed
      have found : (entries.lookup key).isSome :=
        List.lookup_isSome_iff.mpr ⟨entry, member, beq_iff_eq.mpr (of_decide_eq_true same).symm⟩
      obtain ⟨old, stood⟩ := Option.isSome_iff_exists.mp found
      simp [asked, stood]
    · simp [asked]
  case isFalse unlisted =>
    rw [List.lookup_append]
    by_cases asked : other = key
    · have absent : entries.lookup key = none := by
        rw [List.lookup_eq_none_iff]
        intro entry member
        have other : entry.1 ≠ key := by
          intro same
          exact unlisted (List.any_eq_true.mpr ⟨entry, member, by simpa using same⟩)
        simpa using other.symm
      simp [asked, absent]
    · simp [asked, List.lookup_cons, beq_eq_false_iff_ne.mpr asked]

/-- Dropping keys drops what is found under them, and nothing else. -/
theorem lookup_filter {α β : Type} [BEq α] [LawfulBEq α] [DecidableEq α]
    (entries : List (α × β)) (keep : α → Bool) (other : α) :
    (entries.filter fun entry => keep entry.1).lookup other =
      if keep other then entries.lookup other else none := by
  induction entries with
  | nil => simp
  | cons first rest inductionHypothesis =>
    obtain ⟨key, value⟩ := first
    cases kept : keep key with
    | false =>
      rw [List.filter_cons_of_neg (by simp [kept]), inductionHypothesis]
      by_cases asked : other = key
      · simp [asked, kept]
      · simp only [List.lookup_cons, beq_eq_false_iff_ne.mpr asked]
    | true =>
      rw [List.filter_cons_of_pos (by simpa using kept)]
      by_cases asked : other = key
      · simp [asked, kept]
      · simp only [List.lookup_cons, beq_eq_false_iff_ne.mpr asked, inductionHypothesis]

/-- Putting a node changes what stands at its location, and nothing else. -/
theorem node?_put (files : Files) {location : Location} (inside : location ≠ []) (node : Node)
    (other : Location) :
    (files.put location node).node? other =
      if other = location then some node else files.node? other := by
  by_cases root : other = []
  · subst root
    simp [node?, inside.symm]
  · have entries : (files.put location node).entries =
        if files.entries.any (·.1 = location) then
          files.entries.map fun entry => if entry.1 = location then (location, node) else entry
        else files.entries ++ [(location, node)] := by
      unfold put
      split <;> rfl
    simp only [node?, if_neg root, entries, lookup_put]

/-- Erasing a node leaves nothing at its location and changes nothing else. -/
theorem node?_erase (files : Files) {location : Location} (inside : location ≠ [])
    (other : Location) :
    (files.erase location).node? other =
      if other = location then none else files.node? other := by
  by_cases root : other = []
  · subst root
    simp [node?, inside.symm]
  · have kept := lookup_filter files.entries (fun found => decide (found ≠ location)) other
    simp only [node?, if_neg root, erase, kept]
    by_cases asked : other = location <;> simp [asked]

/-- Erasing a node with everything below it leaves nothing there and changes nothing else. -/
theorem node?_eraseTree (files : Files) {location : Location} (inside : location ≠ [])
    (other : Location) :
    (files.eraseTree location).node? other =
      if location <+: other then none else files.node? other := by
  by_cases root : other = []
  · subst root
    simp [node?, inside]
  · have kept := lookup_filter files.entries (fun found => !location.isPrefixOf found) other
    simp only [node?, if_neg root, eraseTree, kept, ← List.isPrefixOf_iff_prefix]
    cases location.isPrefixOf other <;> rfl

/-! ## Skeletons -/

/-- What a node means to the paths that come by. -/
inductive Bone where
  | directory
  | link (target : String)

/-- A file bars every path, just as nothing does. -/
def boneOf? : Node → Option Bone
  | .file _ _ => none
  | .directory => some .directory
  | .link target => some (.link target)

/-- What a location means to the paths that come by. -/
def bone? (files : Files) (location : Location) : Option Bone :=
  (files.node? location).bind boneOf?

/-- The trees have the same directories and the same links. -/
def SameSkeleton (files other : Files) : Prop :=
  ∀ location, other.bone? location = files.bone? location

/-- Any tree has its own skeleton. -/
theorem SameSkeleton.refl (files : Files) : SameSkeleton files files :=
  fun _ => rfl

/-- Having one skeleton goes on from tree to tree. -/
theorem SameSkeleton.trans {first second third : Files} (left : SameSkeleton first second)
    (right : SameSkeleton second third) : SameSkeleton first third :=
  fun location => (right location).trans (left location)

/-- Having one skeleton holds both ways. -/
theorem SameSkeleton.symm {files other : Files} (same : SameSkeleton files other) :
    SameSkeleton other files :=
  fun location => (same location).symm

/-- The location that a walk comes to, whether something stands there or not. -/
def spotLocation? : Except FileError Spot → Option Location
  | .ok (.taken location _) => some location
  | .ok (.free directory name) => some (directory ++ [name])
  | .error _ => none

/-- Where a path leads, whether something stands there or not. -/
def place? (files : Files) (follow : Bool) (path : String) : Option Location :=
  spotLocation? (files.locate follow path)

/-- The second walk comes to the same location as the first, and finds the same there if the two
trees have the same there. -/
def Agrees (files other : Files) (first second : Except FileError Spot) : Prop :=
  spotLocation? second = spotLocation? first ∧
    ∀ location, spotLocation? first = some location →
      other.node? location = files.node? location → second = first

/-- Two walks that are refused come to no location. -/
theorem agrees_error (files other : Files) (first second : FileError) :
    Agrees files other (.error first) (.error second) :=
  ⟨rfl, fun _ impossible => by cases impossible⟩

/-- A step to a proper name. -/
theorem walkTo_name (files : Files) (follow : Bool)
    (leap : Location → String → List String → Except FileError Spot) (current : Location)
    {name : String} (notHere : name ≠ ".") (notUp : name ≠ "..") (rest : List String) :
    walkTo files follow leap current (name :: rest) =
      if isOverlong name then .error .invalidFilename
      else
        match files.node? (current ++ [name]) with
        | none => if rest.isEmpty then .ok (.free current name) else .error .notFound
        | some .directory => walkTo files follow leap (current ++ [name]) rest
        | some (.file content modified) =>
          if rest.isEmpty then .ok (.taken (current ++ [name]) (.file content modified))
          else .error .notADirectory
        | some (.link target) =>
          if rest.isEmpty && !follow then .ok (.taken (current ++ [name]) (.link target))
          else leap current target rest :=
  walkTo.eq_4 files follow leap current name rest notHere notUp

/-- The steps up to the first link to follow hang on the skeleton. -/
theorem walkTo_agrees {files other : Files} (same : SameSkeleton files other) (follow : Bool)
    {leap leapOther : Location → String → List String → Except FileError Spot}
    (leaps : ∀ current target rest,
      Agrees files other (leap current target rest) (leapOther current target rest))
    (names : List String) (current : Location) :
    Agrees files other (walkTo files follow leap current names)
      (walkTo other follow leapOther current names) := by
  induction names generalizing current with
  | nil => exact ⟨rfl, fun _ _ _ => rfl⟩
  | cons name rest inductionHypothesis =>
    by_cases here : name = "."
    · subst here
      exact inductionHypothesis current
    by_cases up : name = ".."
    · subst up
      exact inductionHypothesis current.dropLast
    rw [walkTo_name files follow leap current here up,
      walkTo_name other follow leapOther current here up]
    by_cases overlong : isOverlong name = true
    · simp only [overlong, ↓reduceIte]
      exact agrees_error files other _ _
    simp only [overlong, Bool.false_eq_true, ↓reduceIte]
    have bones := same (current ++ [name])
    unfold bone? at bones
    rcases early : files.node? (current ++ [name]) with _ | ⟨content, modified⟩ | _ | target <;>
      rcases late : other.node? (current ++ [name]) with _ | ⟨contents, time⟩ | _ | goal <;>
      simp [early, late, boneOf?] at bones
    -- Nothing and files are alike to a path: it ends there, or it is refused.
    · cases rest with
      | nil => exact ⟨rfl, fun _ _ _ => rfl⟩
      | cons => exact agrees_error files other _ _
    · cases rest with
      | nil =>
        refine ⟨rfl, fun location led kept => ?_⟩
        obtain rfl := Option.some.inj led
        rw [early, late] at kept
        cases kept
      | cons => exact agrees_error files other _ _
    · cases rest with
      | nil =>
        refine ⟨rfl, fun location led kept => ?_⟩
        obtain rfl := Option.some.inj led
        rw [early, late] at kept
        cases kept
      | cons => exact agrees_error files other _ _
    · cases rest with
      | nil =>
        refine ⟨rfl, fun location led kept => ?_⟩
        obtain rfl := Option.some.inj led
        rw [early, late] at kept
        cases kept
        rfl
      | cons => exact agrees_error files other _ _
    · exact inductionHypothesis _
    · subst bones
      dsimp only
      split
      · exact ⟨rfl, fun _ _ _ => rfl⟩
      · exact leaps current goal rest

/-- Every walk hangs on the skeleton. -/
theorem walk_agrees {files other : Files} (same : SameSkeleton files other) (follow : Bool)
    (budget : Nat) (current : Location) (names : List String) :
    Agrees files other (walk files follow budget current names)
      (walk other follow budget current names) := by
  induction budget generalizing current names with
  | zero =>
    exact walkTo_agrees same follow (fun _ _ _ => agrees_error files other _ _) names current
  | succ fewer inductionHypothesis =>
    refine walkTo_agrees same follow (fun directory target rest => ?_) names current
    split
    · exact agrees_error files other _ _
    · exact inductionHypothesis _ _

/-- Where a path leads hangs on the skeleton, and what it finds there on what stands there. -/
theorem locate_agrees {files other : Files} (same : SameSkeleton files other) (follow : Bool)
    (path : String) : Agrees files other (files.locate follow path) (other.locate follow path) := by
  unfold locate
  split
  · exact agrees_error files other _ _
  · split
    · exact agrees_error files other _ _
    · split
      · exact agrees_error files other _ _
      · exact walk_agrees same follow 40 _ _

/-- Trees with one skeleton lead every path to the same place. -/
theorem SameSkeleton.place {files other : Files} (same : SameSkeleton files other) (follow : Bool)
    (path : String) : other.place? follow path = files.place? follow path :=
  (locate_agrees same follow path).1

/-- Trees with one skeleton that have the same at the place of a path show the same there. -/
theorem SameSkeleton.locate {files other : Files} (same : SameSkeleton files other)
    {follow : Bool} {path : String} {location : Location}
    (place : files.place? follow path = some location)
    (kept : other.node? location = files.node? location) :
    other.locate follow path = files.locate follow path :=
  (locate_agrees same follow path).2 location place kept

/-! ## What a walk finds -/

/-- What a walk reports is what stands at the location it came to; a directory may be reported
where the walk began or turned back. A link is reported only when links at the end stay. -/
def Truthful (files : Files) (follow : Bool) : Except FileError Spot → Prop
  | .ok (.taken location (.file content modified)) =>
    files.node? location = some (.file content modified)
  | .ok (.taken location (.link target)) =>
    follow = false ∧ files.node? location = some (.link target)
  | .ok (.taken _ .directory) => True
  | .ok (.free directory name) => files.node? (directory ++ [name]) = none
  | .error _ => True

theorem walkTo_truthful (files : Files) (follow : Bool)
    {leap : Location → String → List String → Except FileError Spot}
    (leaps : ∀ current target rest, Truthful files follow (leap current target rest))
    (names : List String) (current : Location) :
    Truthful files follow (walkTo files follow leap current names) := by
  induction names generalizing current with
  | nil => trivial
  | cons name rest inductionHypothesis =>
    by_cases here : name = "."
    · subst here
      exact inductionHypothesis current
    by_cases up : name = ".."
    · subst up
      exact inductionHypothesis current.dropLast
    rw [walkTo_name files follow leap current here up]
    split
    · trivial
    · rcases stands : files.node? (current ++ [name]) with _ | ⟨content, modified⟩ | _ | target
      · cases rest with
        | nil => exact stands
        | cons => trivial
      · cases rest with
        | nil => exact stands
        | cons => trivial
      · exact inductionHypothesis _
      · dsimp only
        split
        · next last =>
          have last : rest.isEmpty = true ∧ follow = false := by simpa using last
          exact ⟨last.2, stands⟩
        · exact leaps current target rest

theorem walk_truthful (files : Files) (follow : Bool) (budget : Nat) (current : Location)
    (names : List String) : Truthful files follow (walk files follow budget current names) := by
  induction budget generalizing current names with
  | zero =>
    refine walkTo_truthful files follow ?_ names current
    exact fun _ _ _ => trivial
  | succ fewer inductionHypothesis =>
    refine walkTo_truthful files follow (fun directory target rest => ?_) names current
    split
    · trivial
    · exact inductionHypothesis _ _

/-- What is found at the end of a path is what stands there. -/
theorem locate_truthful (files : Files) (follow : Bool) (path : String) :
    Truthful files follow (files.locate follow path) := by
  unfold locate
  split
  · trivial
  · split
    · trivial
    · split
      · trivial
      · exact walk_truthful files follow 40 _ _

/-! ## Links at the end -/

/-- The first walk, which leaves links at the end alone, stopped at one, or the second walk, which
follows them, comes to the same. -/
def StopsOrAgrees (first second : Except FileError Spot) : Prop :=
  (∃ location target, first = .ok (.taken location (.link target))) ∨ second = first

theorem walkTo_stopsOrAgrees (files : Files)
    {leap leapOther : Location → String → List String → Except FileError Spot}
    (leaps : ∀ current target rest, StopsOrAgrees (leap current target rest)
      (leapOther current target rest)) (names : List String) (current : Location) :
    StopsOrAgrees (walkTo files false leap current names)
      (walkTo files true leapOther current names) := by
  induction names generalizing current with
  | nil => exact .inr rfl
  | cons name rest inductionHypothesis =>
    by_cases here : name = "."
    · subst here
      exact inductionHypothesis current
    by_cases up : name = ".."
    · subst up
      exact inductionHypothesis current.dropLast
    rw [walkTo_name files false leap current here up,
      walkTo_name files true leapOther current here up]
    by_cases overlong : isOverlong name = true
    · simp only [overlong, ↓reduceIte]
      exact .inr rfl
    simp only [overlong, Bool.false_eq_true, ↓reduceIte]
    rcases files.node? (current ++ [name]) with _ | ⟨content, modified⟩ | _ | target
    · exact .inr rfl
    · exact .inr rfl
    · exact inductionHypothesis _
    · cases rest with
      | nil => exact .inl ⟨_, _, rfl⟩
      | cons next others => exact leaps current target (next :: others)

theorem walk_stopsOrAgrees (files : Files) (budget : Nat) (current : Location)
    (names : List String) :
    StopsOrAgrees (walk files false budget current names)
      (walk files true budget current names) := by
  induction budget generalizing current names with
  | zero =>
    refine walkTo_stopsOrAgrees files ?_ names current
    exact fun _ _ _ => .inr rfl
  | succ fewer inductionHypothesis =>
    refine walkTo_stopsOrAgrees files (fun directory target rest => ?_) names current
    split
    · exact .inr rfl
    · exact inductionHypothesis _ _

theorem locate_stopsOrAgrees (files : Files) (path : String) :
    StopsOrAgrees (files.locate false path) (files.locate true path) := by
  unfold locate
  split
  · exact .inr rfl
  · split
    · exact .inr rfl
    · split
      · exact .inr rfl
      · exact walk_stopsOrAgrees files 40 _ _

/-- The path does not end at a link. -/
def Plain (files : Files) (path : String) : Prop :=
  ∀ location target, files.locate false path ≠ .ok (.taken location (.link target))

/-- To a path that does not end at a link, it is all one whether links at the end are followed. -/
theorem Plain.locate {files : Files} {path : String} (plain : Plain files path) :
    files.locate true path = files.locate false path := by
  rcases files.locate_stopsOrAgrees path with ⟨location, target, stopped⟩ | same
  · exact absurd stopped (plain location target)
  · exact same

/-- Whether a path ends at a link hangs on the skeleton. -/
theorem Plain.of_skeleton {files other : Files} {path : String} (plain : Plain files path)
    (same : SameSkeleton files other) : Plain other path := by
  intro location target found
  have truthful := other.locate_truthful false path
  rw [found] at truthful
  have place : files.place? false path = some location := by
    rw [← same.place, place?, found]
    rfl
  have bones := same location
  unfold bone? at bones
  rw [truthful.2] at bones
  cases stands : files.node? location with
  | none => simp [stands, boneOf?] at bones
  | some node =>
    cases node with
    | file content modified => simp [stands, boneOf?] at bones
    | directory => simp [stands, boneOf?] at bones
    | link goal =>
      have kept : other.node? location = files.node? location := by
        rw [truthful.2, stands]
        simpa [stands, boneOf?] using bones
      rw [same.locate place kept] at found
      exact plain location target found

/-! ## Changes at one place -/

/-- Where a file can be put and removed through a path. A separator at the end asks for a directory,
so that no file can. -/
def target? (files : Files) (path : String) : Option Location :=
  if Path.endsInSeparator path then none else files.place? true path

/-- Trees with one skeleton have the same targets. -/
theorem SameSkeleton.target {files other : Files} (same : SameSkeleton files other)
    (path : String) : other.target? path = files.target? path := by
  unfold target?
  rw [same.place]

/-- The trees have one skeleton and differ at most at the target of the path. -/
structure Touches (path : String) (files other : Files) : Prop where
  skeleton : SameSkeleton files other
  elsewhere : ∀ location, files.target? path ≠ some location →
    other.node? location = files.node? location

/-- Leaving a tree as it is. -/
theorem Touches.refl (path : String) (files : Files) : Touches path files files :=
  ⟨SameSkeleton.refl files, fun _ _ => rfl⟩

/-- Changes at one place, one after the other, are a change at that place. -/
theorem Touches.trans {path : String} {first second third : Files}
    (left : Touches path first second) (right : Touches path second third) :
    Touches path first third where
  skeleton := left.skeleton.trans right.skeleton
  elsewhere := by
    intro location away
    have still : second.target? path ≠ some location := by
      rw [left.skeleton.target]
      exact away
    rw [right.elsewhere location still, left.elsewhere location away]

/-- The root of the tree is a directory. -/
theorem inside_of_bare {files : Files} {location : Location}
    (bare : files.bone? location = none) : location ≠ [] := by
  rintro rfl
  cases bare

/-- Putting a file in place of a file or of nothing. -/
theorem put_file_touches {path : String} {files : Files} {location : Location}
    (target : files.target? path = some location) (bare : files.bone? location = none)
    (content : Bytes) (modified : Int) :
    Touches path files (files.put location (.file content modified)) := by
  have inside := inside_of_bare bare
  constructor
  · intro other
    unfold bone?
    rw [node?_put files inside]
    by_cases here : other = location
    · subst here
      rw [if_pos rfl]
      exact bare.symm
    · rw [if_neg here]
  · intro other away
    have elsewhere : other ≠ location := by
      rintro rfl
      exact away target
    rw [node?_put files inside, if_neg elsewhere]

/-- Erasing a file, or nothing. -/
theorem erase_file_touches {path : String} {files : Files} {location : Location}
    (target : files.target? path = some location) (bare : files.bone? location = none) :
    Touches path files (files.erase location) := by
  have inside := inside_of_bare bare
  constructor
  · intro other
    unfold bone?
    rw [node?_erase files inside]
    by_cases here : other = location
    · subst here
      rw [if_pos rfl]
      exact bare.symm
    · rw [if_neg here]
  · intro other away
    have elsewhere : other ≠ location := by
      rintro rfl
      exact away target
    rw [node?_erase files inside, if_neg elsewhere]

/-- A write that succeeds puts a file at the target of its path, where nothing or a file stood. -/
theorem write_ok {files after : Files} {path : String} {content : Bytes}
    (written : files.write path content = .ok after) :
    ∃ location, files.target? path = some location ∧ files.bone? location = none ∧
      after = files.put location (.file content files.clock) := by
  have truthful := files.locate_truthful true path
  unfold write at written
  unfold target? place? bone?
  rcases found : files.locate true path with
    error | (⟨location, ⟨old, time⟩ | _ | target⟩ | ⟨directory, name⟩)
  all_goals rw [found] at written truthful
  · cases written
  · simp only [Truthful] at truthful
    dsimp only at written
    split at written
    · cases written
    · next named =>
      cases written
      exact ⟨location, if_neg named, by rw [truthful]; rfl, rfl⟩
  · cases written
  · exact absurd truthful.1 (by simp)
  · simp only [Truthful] at truthful
    dsimp only at written
    split at written
    · cases written
    · next named =>
      cases written
      exact ⟨directory ++ [name], if_neg named, by rw [truthful]; rfl, rfl⟩

/-- A write changes the tree at the target of its path only. -/
theorem write_touches {files after : Files} {path : String} {content : Bytes}
    (written : files.write path content = .ok after) : Touches path files after := by
  obtain ⟨location, target, bare, rfl⟩ := write_ok written
  exact put_file_touches target bare content files.clock

/-- Removing a file, unless a link stands at the end, erases a file at the target of the path. -/
theorem unlink_ok {files after : Files} {path : String} (plain : Plain files path)
    (removed : files.unlink path = .ok after) :
    ∃ location, files.target? path = some location ∧ files.bone? location = none ∧
      after = files.erase location := by
  have truthful := files.locate_truthful false path
  unfold unlink at removed
  unfold target? place? bone?
  rw [plain.locate]
  rcases found : files.locate false path with
    error | (⟨location, ⟨old, time⟩ | _ | target⟩ | ⟨directory, name⟩)
  all_goals rw [found] at removed truthful
  · cases removed
  · dsimp only at removed
    split at removed
    · cases removed
    · next named =>
      cases removed
      exact ⟨location, if_neg named, by rw [truthful]; rfl, rfl⟩
  · cases removed
  · exact absurd found (plain location target)
  · cases removed

/-- Removing a file changes the tree at the target of its path only. -/
theorem unlink_touches {files after : Files} {path : String} (plain : Plain files path)
    (removed : files.unlink path = .ok after) : Touches path files after := by
  obtain ⟨location, target, bare, rfl⟩ := unlink_ok plain removed
  exact erase_file_touches target bare

/-- Removing a file that may be gone already changes the tree at the target of its path only. -/
theorem removeIfExists_touches {files : Files} {path : String} (plain : Plain files path) :
    Touches path files (files.removeIfExists path).1 := by
  unfold removeIfExists
  split
  · next removed => exact unlink_touches plain removed
  · exact Touches.refl path files
  · exact Touches.refl path files

/-- The target of the first path is not where the second one leads. -/
def Apart (files : Files) (path other : String) : Prop :=
  ∀ location, files.target? path = some location → files.place? true other ≠ some location

/-- Being apart hangs on the skeleton. -/
theorem Apart.of_skeleton {files other : Files} {path second : String}
    (apart : Apart files path second) (same : SameSkeleton files other) :
    Apart other path second := by
  intro location
  rw [same.target, same.place]
  exact apart location

/-- A path that is refused shows nothing. -/
theorem status_of_place_none {files : Files} {path : String}
    (nowhere : files.place? true path = none) : (files.status path).toOption = none := by
  unfold place? at nowhere
  unfold status
  rcases found : files.locate true path with error | (⟨location, node⟩ | ⟨directory, name⟩)
  · rfl
  · rw [found] at nowhere
    cases nowhere
  · rw [found] at nowhere
    cases nowhere

/-- What a path shows stands at its place. -/
theorem place_of_status {files : Files} {path : String} {location : Location} {node : Node}
    (shows : files.status path = .ok (location, node)) :
    files.place? true path = some location := by
  unfold status at shows
  unfold place?
  rcases found : files.locate true path with
    error | (⟨there, ⟨content, modified⟩ | _ | target⟩ | ⟨directory, name⟩)
  all_goals rw [found] at shows
  · cases shows
  · dsimp only at shows
    split at shows
    · cases shows
    · cases shows
      rfl
  · cases shows
    rfl
  · dsimp only at shows
    split at shows
    · cases shows
    · cases shows
      rfl
  · cases shows

/-- Trees with one skeleton that have the same at the place of a path show the same through it. -/
theorem SameSkeleton.status {files other : Files} (same : SameSkeleton files other) {path : String}
    (kept : ∀ location, files.place? true path = some location →
      other.node? location = files.node? location) :
    (other.status path).toOption = (files.status path).toOption := by
  cases place : files.place? true path with
  | none =>
    rw [status_of_place_none place, status_of_place_none (by rw [same.place, place])]
  | some location =>
    unfold Files.status
    rw [same.locate place (kept location place)]

/-- A change at one place leaves what paths show that lead elsewhere. -/
theorem Touches.status {path other : String} {files after : Files}
    (touches : Touches path files after) (apart : Apart files path other) :
    (after.status other).toOption = (files.status other).toOption := by
  apply touches.skeleton.status
  intro location place
  apply touches.elsewhere
  intro same
  exact apart location same place

end Files

end Hotload
