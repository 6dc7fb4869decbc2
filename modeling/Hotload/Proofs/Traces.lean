import Hotload.Proofs.CacheDirectory
import Hotload.Proofs.Outputs

/-!
# Changes without a trace

Two trees that have the same at every location are one tree to everything that paths are used for.
A file that is written through a path where nothing was, and then removed through that path, leaves
no trace: the tree is the same again. Removing a file brings nothing to light either. Whatever a path
shows afterwards, it showed before.
-/

namespace Hotload

namespace Files

/-! ## One tree -/

/-- The trees have the same at every location. -/
def SameTree (files other : Files) : Prop :=
  ∀ location, other.node? location = files.node? location

theorem SameTree.refl (files : Files) : SameTree files files :=
  fun _ => rfl

theorem SameTree.trans {first second third : Files} (left : SameTree first second)
    (right : SameTree second third) : SameTree first third :=
  fun location => (right location).trans (left location)

theorem SameTree.skeleton {files other : Files} (same : SameTree files other) :
    SameSkeleton files other :=
  fun location => by unfold bone?; rw [same location]

/-- The steps of a walk up to a link look at nothing but what stands there. -/
theorem SameTree.walkTo {files other : Files} (same : SameTree files other) (follow : Bool)
    (leap : Location → String → List String → Except FileError Spot) (names : List String)
    (current : Location) :
    walkTo other follow leap current names = walkTo files follow leap current names := by
  induction names generalizing current with
  | nil => rfl
  | cons name rest inductionHypothesis =>
    by_cases here : name = "."
    · subst here
      exact inductionHypothesis current
    by_cases up : name = ".."
    · subst up
      exact inductionHypothesis current.dropLast
    rw [walkTo_name files follow leap current here up, walkTo_name other follow leap current here up,
      same, inductionHypothesis]

/-- All steps of a walk look at nothing but what stands there. -/
theorem SameTree.walk {files other : Files} (same : SameTree files other) (follow : Bool)
    (budget : Nat) (current : Location) (names : List String) :
    walk other follow budget current names = walk files follow budget current names := by
  induction budget generalizing current names with
  | zero => exact same.walkTo follow _ names current
  | succ fewer inductionHypothesis =>
    unfold Files.walk
    simp only [inductionHypothesis]
    exact same.walkTo follow _ names current

/-- In one tree, a path leads to one thing. -/
theorem SameTree.locate {files other : Files} (same : SameTree files other) (follow : Bool)
    (path : String) : other.locate follow path = files.locate follow path := by
  unfold Files.locate
  simp only [same.walk]

theorem SameTree.status {files other : Files} (same : SameTree files other) (path : String) :
    other.status path = files.status path := by
  unfold Files.status
  rw [same.locate]

theorem SameTree.read {files other : Files} (same : SameTree files other) (path : String) :
    other.read path = files.read path := by
  unfold Files.read
  rw [same.status]

theorem SameTree.shownLength {files other : Files} (same : SameTree files other) (path : String) :
    other.shownLength path = files.shownLength path := by
  unfold Files.shownLength shown?
  rw [same.status]

/-- A body is read from one tree as from the other. -/
theorem SameTree.readBody {files other : Files} (same : SameTree files other)
    (artifact entry : String) :
    UnitContent.readBody other artifact entry = UnitContent.readBody files artifact entry := by
  unfold UnitContent.readBody UnitContent.openArtifact Packaging.openContainer
  rw [same.read]

/-! ## Files that come and go -/

variable {files after other : Files} {path : String}

/-- Nothing stands where the path leads, and as long as the directories and links stay, at most a
file will. -/
structure Blank (files : Files) (path : String) : Prop where
  slot : ∀ other, SameSkeleton files other → Slot other path
  empty : ∀ location, files.target? path = some location → files.node? location = none

/-- A blank path does not end at a link. -/
theorem Blank.plain (blank : Blank files path) : Plain files path :=
  (blank.slot files (SameSkeleton.refl files)).plain

/-- What was written through a blank path is gone without a trace once it is removed. -/
theorem Blank.cleared (blank : Blank files path) (touches : Touches path files after) :
    SameTree files (after.removeIfExists path).1 := by
  have slot := blank.slot after touches.skeleton
  have removed := touches.trans (removeIfExists_touches slot.plain)
  intro location
  by_cases aimed : files.target? path = some location
  · have still : after.target? path = some location := by
      rw [touches.skeleton.target, aimed]
    rw [slot.removed still, blank.empty location aimed]
  · exact removed.elsewhere location aimed

/-- Nothing is left of it either if something was written through another path before it was
removed. -/
theorem Blank.cleared_beside {output : String} {packed : Files} (blank : Blank files path)
    (touches : Touches path files packed) (others : Touches output packed after) {location : Location}
    (away : files.target? output ≠ some location) :
    (after.removeIfExists path).1.node? location = files.node? location := by
  have slot := blank.slot after (touches.skeleton.trans others.skeleton)
  have removed := removeIfExists_touches slot.plain
  have target : after.target? path = files.target? path := by
    rw [others.skeleton.target, touches.skeleton.target]
  by_cases aimed : files.target? path = some location
  · rw [slot.removed (target.trans aimed), blank.empty location aimed]
  · have apart : packed.target? output ≠ some location := by
      rw [touches.skeleton.target]
      exact away
    rw [removed.elsewhere location (target ▸ aimed), others.elsewhere location apart,
      touches.elsewhere location aimed]

/-- There is nothing to remove at a blank path. -/
theorem Blank.removed (blank : Blank files path) :
    SameTree files (files.removeIfExists path).1 :=
  blank.cleared (Touches.refl path files)

/-- A path is blank in one tree as in the other. -/
theorem Blank.same (blank : Blank files path) (same : SameTree files other) : Blank other path where
  slot := fun third skeleton => blank.slot third (same.skeleton.trans skeleton)
  empty := by
    intro location aimed
    rw [same.skeleton.target] at aimed
    rw [same, blank.empty location aimed]

/-! ## What removing leaves to be seen -/

/-- After a location was erased, a walk ends as before, or it is refused, or it ends at that
location, where nothing is. -/
def EndsAlike (location : Location) (first second : Except FileError Spot) : Prop :=
  second = first ∨ (∃ error, second = .error error) ∨
    ∃ directory name, second = .ok (.free directory name) ∧ directory ++ [name] = location

theorem walkTo_erase (files : Files) {location : Location} (inside : location ≠ [])
    (follow : Bool) {leap leapOther : Location → String → List String → Except FileError Spot}
    (leaps : ∀ current target rest,
      EndsAlike location (leap current target rest) (leapOther current target rest))
    (names : List String) (current : Location) :
    EndsAlike location (walkTo files follow leap current names)
      (walkTo (files.erase location) follow leapOther current names) := by
  induction names generalizing current with
  | nil => exact .inl rfl
  | cons name rest inductionHypothesis =>
    by_cases here : name = "."
    · subst here
      exact inductionHypothesis current
    by_cases up : name = ".."
    · subst up
      exact inductionHypothesis current.dropLast
    rw [walkTo_name files follow leap current here up,
      walkTo_name (files.erase location) follow leapOther current here up,
      node?_erase files inside]
    by_cases overlong : isOverlong name = true
    · simp only [overlong, ↓reduceIte]
      exact .inl rfl
    simp only [overlong, Bool.false_eq_true, ↓reduceIte]
    by_cases erased : current ++ [name] = location
    · rw [if_pos erased]
      cases rest with
      | nil => exact .inr (.inr ⟨current, name, rfl, erased⟩)
      | cons => exact .inr (.inl ⟨.notFound, rfl⟩)
    · rw [if_neg erased]
      rcases files.node? (current ++ [name]) with _ | ⟨content, modified⟩ | _ | target
      · exact .inl rfl
      · exact .inl rfl
      · exact inductionHypothesis _
      · dsimp only
        split
        · exact .inl rfl
        · exact leaps current target rest

theorem walk_erase (files : Files) {location : Location} (inside : location ≠ []) (follow : Bool)
    (budget : Nat) (current : Location) (names : List String) :
    EndsAlike location (walk files follow budget current names)
      (walk (files.erase location) follow budget current names) := by
  induction budget generalizing current names with
  | zero =>
    refine walkTo_erase files inside follow ?_ names current
    exact fun _ _ _ => .inl rfl
  | succ fewer inductionHypothesis =>
    refine walkTo_erase files inside follow (fun directory target rest => ?_) names current
    split
    · exact .inl rfl
    · exact inductionHypothesis _ _

/-- A path leads where it led, or nowhere, or to what was erased. -/
theorem locate_erase (files : Files) {location : Location} (inside : location ≠ [])
    (follow : Bool) (path : String) :
    EndsAlike location (files.locate follow path)
      ((files.erase location).locate follow path) := by
  unfold Files.locate
  split
  · exact .inl rfl
  · split
    · exact .inl rfl
    · split
      · exact .inl rfl
      · exact walk_erase files inside follow 40 _ _

/-- What a path shows after something was erased, it showed before. -/
theorem shown_erase (files : Files) {location : Location} (inside : location ≠ [])
    (path : String) :
    (files.erase location).shown? path = files.shown? path ∨
      (files.erase location).shown? path = none := by
  unfold shown? Files.status
  rcases files.locate_erase inside true path with same | ⟨error, refused⟩ | ⟨_, _, gone, _⟩
  · exact .inl (by rw [same])
  · exact .inr (by rw [refused]; rfl)
  · exact .inr (by rw [gone]; rfl)

/-- Removing a file or a link erases it where it stands. -/
theorem unlink_erases (removed : files.unlink path = .ok after) :
    ∃ location node, files.locate false path = .ok (.taken location node) ∧
      node ≠ .directory ∧ location ≠ [] ∧ after = files.erase location := by
  have truthful := files.locate_truthful false path
  unfold unlink at removed
  rcases found : files.locate false path with
    error | (⟨location, ⟨old, time⟩ | _ | target⟩ | ⟨directory, name⟩)
  all_goals rw [found] at removed truthful
  · cases removed
  · dsimp only at removed
    split at removed
    · cases removed
    · cases removed
      refine ⟨location, _, rfl, by simp, ?_, rfl⟩
      rintro rfl
      cases truthful
  · cases removed
  · dsimp only at removed
    split at removed
    · cases removed
    · cases removed
      refine ⟨location, _, rfl, by simp, ?_, rfl⟩
      rintro rfl
      cases truthful.2
  · cases removed

/-- What a path shows after a removal, it showed before. -/
theorem shown_removeIfExists (files : Files) (path other : String) :
    (files.removeIfExists path).1.shown? other = files.shown? other ∨
      (files.removeIfExists path).1.shown? other = none := by
  unfold removeIfExists
  split
  · next removed =>
    obtain ⟨location, _, _, _, inside, rfl⟩ := unlink_erases removed
    exact files.shown_erase inside other
  · exact .inl rfl
  · exact .inl rfl

/-- A removal makes nothing longer. -/
theorem shownLength_removeIfExists (files : Files) (path other : String)
    (empty : files.shownLength other = 0) :
    (files.removeIfExists path).1.shownLength other = 0 := by
  unfold shownLength at empty ⊢
  rcases files.shown_removeIfExists path other with same | gone
  · rw [same]
    exact empty
  · rw [gone]

/-- A path that leads to nothing shows nothing. -/
theorem shown_of_nowhere
    (nowhere : ∀ location node, files.locate false path ≠ .ok (.taken location node)) :
    files.shown? path = none := by
  have followed : files.locate true path = files.locate false path := by
    rcases files.locate_stopsOrAgrees path with ⟨location, target, stopped⟩ | same
    · exact absurd stopped (nowhere location _)
    · exact same
  unfold shown? Files.status
  rw [followed]
  rcases found : files.locate false path with error | (⟨location, node⟩ | ⟨directory, name⟩)
  · rfl
  · exact absurd found (nowhere location node)
  · rfl

/-- A path that asks for a directory shows one, or nothing. -/
theorem shown_of_separator (asks : Path.endsInSeparator path = true) :
    files.shown? path = none ∨ ∃ location, files.shown? path = some (location, .directory) := by
  unfold shown? Files.status
  rcases files.locate true path with
    error | (⟨location, ⟨content, modified⟩ | _ | target⟩ | ⟨directory, name⟩)
  · exact .inl rfl
  · exact .inl (by simp only [asks, ↓reduceIte]; rfl)
  · exact .inr ⟨location, rfl⟩
  · exact .inl (by simp only [asks, ↓reduceIte]; rfl)
  · exact .inl rfl

/-- A path that cannot be removed shows nothing, or a directory. -/
theorem shown_of_refused {error : FileError} (refused : files.unlink path = .error error) :
    files.shown? path = none ∨ ∃ location, files.shown? path = some (location, .directory) := by
  unfold unlink at refused
  rcases found : files.locate false path with
    failure | (⟨location, ⟨old, time⟩ | _ | target⟩ | ⟨directory, name⟩)
  all_goals rw [found] at refused
  · exact .inl (shown_of_nowhere (by simp [found]))
  · dsimp only at refused
    split at refused
    · next asks => exact shown_of_separator asks
    · cases refused
  · have plain : Plain files path := fun _ _ link => by rw [found] at link; cases link
    refine .inr ⟨location, ?_⟩
    unfold shown? Files.status
    rw [plain.locate, found]
    rfl
  · dsimp only at refused
    split at refused
    · next asks => exact shown_of_separator asks
    · cases refused
  · exact .inl (shown_of_nowhere (by simp [found]))

/-- A path whose file or link was removed leads to nothing. -/
theorem nowhere_of_unlinked (removed : files.unlink path = .ok after) (location : Location)
    (node : Node) : after.locate false path ≠ .ok (.taken location node) := by
  obtain ⟨place, node, led, notDirectory, inside, rfl⟩ := unlink_erases removed
  intro found
  have truthful := (files.erase place).locate_truthful false path
  rcases files.locate_erase inside false path with same | ⟨error, refused⟩ | ⟨_, _, gone, _⟩
  · rw [same, led] at truthful
    cases node with
    | file content modified => simp [Truthful, node?_erase files inside] at truthful
    | directory => exact notDirectory rfl
    | link target => simp [Truthful, node?_erase files inside] at truthful
  · rw [refused] at found
    cases found
  · rw [gone] at found
    cases found

/-- A path leads to nothing that is clear after a removal, which may have found nothing. -/
theorem nowhere_of_cleared {removed : Bool}
    (cleared : files.removeIfExists path = (after, .ok removed)) (location : Location)
    (node : Node) : after.locate false path ≠ .ok (.taken location node) := by
  unfold removeIfExists at cleared
  split at cleared
  · next gone =>
    obtain ⟨rfl, _⟩ := Prod.mk.inj cleared
    exact nowhere_of_unlinked gone location node
  · next missing =>
    obtain ⟨rfl, _⟩ := Prod.mk.inj cleared
    intro found
    unfold unlink at missing
    rw [found] at missing
    cases node with
    | directory => cases missing
    | file content modified | link target =>
      dsimp only at missing
      split at missing <;> cases missing
  · cases (Prod.mk.inj cleared).2

/-- A path that leads to nothing does not end at a link. -/
theorem plain_of_nowhere
    (nowhere : ∀ location node, files.locate false path ≠ .ok (.taken location node)) :
    Plain files path :=
  fun location target => nowhere location (.link target)

/-- A path whose file or link was removed shows nothing, not even what the link led to. -/
theorem shown_of_unlinked (removed : files.unlink path = .ok after) : after.shown? path = none :=
  shown_of_nowhere (nowhere_of_unlinked removed)

/-- After a removal the path shows nothing, or the directory that it showed before. -/
theorem shown_removeIfExists_own (files : Files) (path : String) :
    (files.removeIfExists path).1.shown? path = none ∨
      ∃ location, files.shown? path = some (location, .directory) ∧
        (files.removeIfExists path).1.shown? path = some (location, .directory) := by
  unfold removeIfExists
  cases removed : files.unlink path with
  | ok after => exact .inl (shown_of_unlinked removed)
  | error error =>
    rcases shown_of_refused removed with dark | ⟨location, directory⟩
    · cases error <;> exact .inl dark
    · cases error <;> exact .inr ⟨location, directory, directory⟩

/-- Where it showed no directory, nothing is left of it. -/
theorem removed_shownLength (files : Files) (path : String)
    (noDirectory : ∀ location, files.shown? path ≠ some (location, .directory)) :
    (files.removeIfExists path).1.shownLength path = 0 := by
  rcases files.shown_removeIfExists_own path with dark | ⟨location, directory, -⟩
  · unfold shownLength
    rw [dark]
  · exact absurd directory (noDirectory location)

/-- The path shows a file with a content. -/
def ShowsContent (files : Files) (path : String) : Prop :=
  ∃ location content modified,
    files.shown? path = some (location, .file content modified) ∧ content ≠ []

/-- A path that shows a file with a content shows something that is not empty. -/
theorem ShowsContent.length (shows : ShowsContent files path) : files.shownLength path ≠ 0 := by
  obtain ⟨location, content, modified, shown, filled⟩ := shows
  unfold shownLength
  rw [shown]
  simpa using filled

/-- A path that shows nothing, or nothing in it, shows no directory. -/
theorem noDirectory_of_empty (empty : files.shownLength path = 0) (location : Location) :
    files.shown? path ≠ some (location, .directory) := by
  intro shown
  unfold shownLength at empty
  rw [shown] at empty
  cases empty

/-! ## Directories are not made by writing -/

/-- The directory that a walk comes to, if it comes to one. -/
def directoryAt? : Except FileError Spot → Option Location
  | .ok (.taken location .directory) => some location
  | _ => none

theorem SameSkeleton.walkTo_directory (same : SameSkeleton files other) (follow : Bool)
    {leap leapOther : Location → String → List String → Except FileError Spot}
    (leaps : ∀ current target rest,
      directoryAt? (leapOther current target rest) = directoryAt? (leap current target rest))
    (names : List String) (current : Location) :
    directoryAt? (Files.walkTo other follow leapOther current names) =
      directoryAt? (Files.walkTo files follow leap current names) := by
  induction names generalizing current with
  | nil => rfl
  | cons name rest inductionHypothesis =>
    by_cases here : name = "."
    · subst here
      exact inductionHypothesis current
    by_cases up : name = ".."
    · subst up
      exact inductionHypothesis current.dropLast
    rw [walkTo_name files follow leap current here up,
      walkTo_name other follow leapOther current here up]
    by_cases overlong : isOverlong name = true
    · simp only [overlong, ↓reduceIte]
    simp only [overlong, Bool.false_eq_true, ↓reduceIte]
    have bones := same (current ++ [name])
    unfold bone? at bones
    rcases early : files.node? (current ++ [name]) with _ | ⟨content, modified⟩ | _ | target <;>
      rcases late : other.node? (current ++ [name]) with _ | ⟨contents, time⟩ | _ | goal <;>
      simp [early, late, boneOf?] at bones
    -- Where nothing or a file stands, no walk comes to a directory.
    · cases rest <;> rfl
    · cases rest <;> rfl
    · cases rest <;> rfl
    · cases rest <;> rfl
    · exact inductionHypothesis _
    · subst bones
      dsimp only
      split
      · rfl
      · exact leaps current goal rest

theorem SameSkeleton.walk_directory (same : SameSkeleton files other) (follow : Bool)
    (budget : Nat) (current : Location) (names : List String) :
    directoryAt? (Files.walk other follow budget current names) =
      directoryAt? (Files.walk files follow budget current names) := by
  induction budget generalizing current names with
  | zero => exact same.walkTo_directory follow (fun _ _ _ => rfl) names current
  | succ fewer inductionHypothesis =>
    refine same.walkTo_directory follow (fun directory target rest => ?_) names current
    split
    · rfl
    · exact inductionHypothesis _ _

/-- Trees with one skeleton show the same directories. -/
theorem SameSkeleton.shows_directory (same : SameSkeleton files other) {location : Location}
    (shown : other.shown? path = some (location, .directory)) :
    files.shown? path = some (location, .directory) := by
  have directory : ∀ tree : Files, tree.shown? path = some (location, .directory) ↔
      directoryAt? (tree.locate true path) = some location := by
    intro tree
    unfold shown? Files.status
    rcases tree.locate true path with
      error | (⟨there, ⟨content, modified⟩ | _ | target⟩ | ⟨front, name⟩)
    · simp [Except.toOption, directoryAt?]
    · by_cases asks : Path.endsInSeparator path = true <;>
        simp [Except.toOption, directoryAt?, asks]
    · simp [Except.toOption, directoryAt?]
    · by_cases asks : Path.endsInSeparator path = true <;>
        simp [Except.toOption, directoryAt?, asks]
    · simp [Except.toOption, directoryAt?]
  rw [directory] at shown ⊢
  rw [← shown]
  unfold Files.locate
  split
  · rfl
  · split
    · rfl
    · split
      · rfl
      · exact (same.walk_directory true 40 _ _).symm

/-- What was written is shown. -/
theorem shown_of_written {content : Bytes} (written : files.write path content = .ok after) :
    ∃ location, after.shown? path = some (location, .file content files.clock) := by
  have touches := write_touches written
  obtain ⟨location, target, bare, isAfter⟩ := write_ok written
  have named : ¬ Path.endsInSeparator path = true := by
    intro asks
    rw [target?, if_pos asks] at target
    cases target
  have place : after.place? true path = some location := by
    rw [touches.skeleton.place]
    rwa [target?, if_neg named] at target
  have stands : after.node? location = some (.file content files.clock) := by
    rw [isAfter, node?_put files (inside_of_bare bare), if_pos rfl]
  have truthful := after.locate_truthful true path
  refine ⟨location, ?_⟩
  unfold place? at place
  rcases found : after.locate true path with
    error | (⟨there, ⟨old, time⟩ | _ | target⟩ | ⟨directory, name⟩)
  all_goals rw [found] at place truthful
  · cases place
  · obtain rfl : there = location := Option.some.inj place
    have same := Option.some.inj (truthful.symm.trans stands)
    simp [shown?, Files.status, found, named, Except.toOption, same]
  · -- A directory at the end would have been there before, and is not written to.
    have shown : after.shown? path = some (there, .directory) := by
      simp [shown?, Files.status, found, Except.toOption]
    have early := status_of_shown (touches.skeleton.shows_directory shown)
    unfold Files.status at early
    unfold write at written
    rcases was : files.locate true path with
      error | (⟨there, ⟨old, time⟩ | _ | target⟩ | ⟨directory, name⟩)
    all_goals rw [was] at early written
    · cases early
    · dsimp only at early
      rw [if_neg named] at early
      cases early
    · cases written
    · dsimp only at early
      rw [if_neg named] at early
      cases early
    · cases early
  · cases truthful.1
  · obtain rfl : directory ++ [name] = location := Option.some.inj place
    rw [show after.node? (directory ++ [name]) = none from truthful] at stands
    cases stands

/-- What goes through a path makes no directory of it. -/
theorem Through.noDirectory (through : Through path files after)
    (noDirectory : ∀ location, files.shown? path ≠ some (location, .directory))
    (location : Location) : after.shown? path ≠ some (location, .directory) := by
  induction through with
  | nothing => exact noDirectory location
  | write _ written inductionHypothesis =>
    exact fun shown => inductionHypothesis
      ((write_touches written).skeleton.shows_directory shown)
  | unlink _ removed inductionHypothesis =>
    rw [shown_of_unlinked removed]
    simp
  | @clock between _ time inductionHypothesis =>
    have same : SameTree between { between with clock := time } := fun _ => rfl
    unfold shown? at inductionHypothesis ⊢
    rw [same.status]
    exact inductionHypothesis

/-- Removing a path goes through it. -/
theorem Through.removeIfExists (through : Through path files after) :
    Through path files (after.removeIfExists path).1 := by
  unfold Files.removeIfExists
  split
  · next removed => exact through.unlink removed
  · exact through
  · exact through

end Files

end Hotload
