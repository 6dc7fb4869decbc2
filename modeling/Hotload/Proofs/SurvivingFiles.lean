import Hotload.Proofs.Purging
import Hotload.Proofs.UndrawnTokens

/-!
# Files that survive

A part of a tree survives in another tree if everything in the part is there as it was. Then a path
that shows something in the part shows the same in the tree. A part survives three kinds of change:
work through a path that leads to nothing of the part, making directories, and emptying a directory
in which there is nothing of the part. None of them makes links, and the directories that
are made are called by parts of the paths that were asked for.
-/

namespace Hotload

namespace Path

/-- The parts that matter for the text are among all parts. -/
theorem components_subset (path : String) : components path ⊆ parts path := by
  intro name member
  unfold components at member
  split at member
  · next rest split =>
    rw [split]
    split at member
    · exact List.mem_cons_of_mem _ (List.mem_filter.mp member).1
    · rcases List.mem_cons.mp member with rfl | later
      · exact List.mem_cons_self
      · exact List.mem_cons_of_mem _ (List.mem_filter.mp later).1
  · exact (List.mem_filter.mp member).1

/-- A part of a path holds no separator. -/
theorem whole_of_mem_parts {path name : String} (member : name ∈ parts path) :
    '/' ∉ name.toList := by
  obtain ⟨piece, inside, rfl⟩ := List.mem_map.mp member
  rw [String.toList_ofList]
  exact splitOn_whole (List.mem_filter.mp inside).1

/-- Names with separators in between are the parts of a path, but for names that are empty. -/
theorem parts_intercalate {names : List String} (whole : ∀ name ∈ names, '/' ∉ name.toList) :
    parts ("/".intercalate names) ⊆ names := by
  intro name member
  cases names with
  | nil => simp [parts] at member
  | cons first rest =>
    rw [parts_eq] at member
    obtain ⟨piece, inside, rfl⟩ := List.mem_map.mp member
    have split : ("/".intercalate (first :: rest)).toList.splitOn '/' =
        (first :: rest).map String.toList := by
      rw [String.toList_intercalate]
      refine List.splitOn_intercalate '/' (fun text listed => ?_) (by simp)
      obtain ⟨part, among, rfl⟩ := List.mem_map.mp listed
      exact whole part among
    rw [split] at inside
    obtain ⟨part, among, rfl⟩ := List.mem_map.mp (List.mem_filter.mp inside).1
    rwa [String.ofList_toList]

/-- The parts of the path above are parts of the path. -/
theorem parts_parent {path parent : String} (above : parent? path = some parent) :
    parts parent ⊆ parts path := by
  unfold parent? at above
  split at above
  · cases above
  · next names split =>
    have whole : ∀ name ∈ (components path).dropLast, '/' ∉ name.toList := fun name member =>
      whole_of_mem_parts (components_subset path (List.dropLast_subset _ member))
    have below : parts ("/".intercalate (components path).dropLast) ⊆ parts path :=
      fun name member => components_subset path
        (List.dropLast_subset _ (parts_intercalate whole member))
    obtain rfl := Option.some.inj above
    split
    · rw [show "/" ++ "/".intercalate (components path).dropLast =
        "" ++ "/" ++ "/".intercalate (components path).dropLast from by simp, parts_between]
      simpa [parts_eq] using below
    · simpa using below

end Path

namespace Files

/-! ## Parts of a tree -/

/-- Everything in the part stands in the tree as it does there. -/
def Survives (part files : Files) : Prop :=
  ∀ location node, part.node? location = some node → files.node? location = some node

theorem Survives.refl (files : Files) : Survives files files :=
  fun _ _ there => there

theorem Survives.trans {first second third : Files} (left : Survives first second)
    (right : Survives second third) : Survives first third :=
  fun location node there => right location node (left location node there)

/-- If the first walk comes to something, then the second comes to it. -/
def Reaches (first second : Except FileError Spot) : Prop :=
  ∀ location node, first = .ok (.taken location node) → second = first

variable {part files after : Files} {path : String}

theorem Survives.walkTo (survives : Survives part files) (follow : Bool)
    {leap leapOther : Location → String → List String → Except FileError Spot}
    (leaps : ∀ current target rest,
      Reaches (leap current target rest) (leapOther current target rest))
    (names : List String) (current : Location) :
    Reaches (walkTo part follow leap current names) (walkTo files follow leapOther current names) := by
  induction names generalizing current with
  | nil => exact fun _ _ _ => rfl
  | cons name rest inductionHypothesis =>
    by_cases here : name = "."
    · subst here
      exact inductionHypothesis current
    by_cases up : name = ".."
    · subst up
      exact inductionHypothesis current.dropLast
    rw [walkTo_name part follow leap current here up,
      walkTo_name files follow leapOther current here up]
    split
    · exact fun _ _ _ => rfl
    · cases there : part.node? (current ++ [name]) with
      | none =>
        intro location node led
        cases rest <;> cases led
      | some node =>
        rw [survives _ _ there]
        cases node with
        | file content modified => exact fun _ _ _ => rfl
        | directory => exact inductionHypothesis _
        | link target =>
          dsimp only
          split
          · exact fun _ _ _ => rfl
          · exact leaps current target rest

theorem Survives.walk (survives : Survives part files) (follow : Bool) (budget : Nat)
    (current : Location) (names : List String) :
    Reaches (walk part follow budget current names) (walk files follow budget current names) := by
  induction budget generalizing current names with
  | zero =>
    refine survives.walkTo follow ?_ names current
    exact fun _ _ _ _ _ led => by cases led
  | succ fewer inductionHypothesis =>
    refine survives.walkTo follow (fun directory target rest => ?_) names current
    split
    · exact fun _ _ led => by cases led
    · exact inductionHypothesis _ _

/-- A path that leads to something in the part leads to it in the tree. -/
theorem Survives.locate (survives : Survives part files) (follow : Bool) (path : String) :
    Reaches (part.locate follow path) (files.locate follow path) := by
  unfold Files.locate
  split
  · exact fun _ _ led => by cases led
  · split
    · exact fun _ _ led => by cases led
    · split
      · exact fun _ _ led => by cases led
      · exact survives.walk follow 40 _ _

/-- What is shown in the part is shown in the tree. -/
theorem Survives.shown (survives : Survives part files) {found : Location × Node}
    (shown : part.shown? path = some found) : files.shown? path = some found := by
  have status := status_of_shown shown
  have led : ∃ location node, part.locate true path = .ok (.taken location node) := by
    unfold Files.status at status
    rcases spot : part.locate true path with error | (⟨location, node⟩ | ⟨directory, name⟩)
    · rw [spot] at status
      cases status
    · exact ⟨location, node, rfl⟩
    · rw [spot] at status
      cases status
  obtain ⟨location, node, led⟩ := led
  rw [← shown]
  unfold shown? Files.status
  rw [survives.locate true path location node led]

/-- A body is read from the tree as from the part that shows the artifact. -/
theorem Survives.readBody (survives : Survives part files) {artifact : String}
    {found : Location × Node} (shown : part.shown? artifact = some found) (entry : String) :
    UnitContent.readBody files artifact entry = UnitContent.readBody part artifact entry := by
  have same : files.read artifact = part.read artifact := by
    unfold Files.read
    rw [status_of_shown shown, status_of_shown (survives.shown shown)]
  unfold UnitContent.readBody UnitContent.openArtifact Packaging.openContainer
  rw [same]

/-! ## Work through a path -/

/-- The path leads to nothing of the part, and not to a link. -/
structure Loose (part files : Files) (path : String) : Prop where
  plain : Plain files path
  empty : ∀ location, files.target? path = some location → part.node? location = none

theorem Loose.of_skeleton (loose : Loose part files path) (same : SameSkeleton files after) :
    Loose part after path where
  plain := loose.plain.of_skeleton same
  empty := by
    intro location aimed
    rw [same.target] at aimed
    exact loose.empty location aimed

/-- Work through such a path leaves the part as it is. -/
theorem Survives.touched (survives : Survives part files) (loose : Loose part files path)
    (touches : Touches path files after) : Survives part after := by
  intro location node there
  rw [touches.elsewhere, survives location node there]
  intro aimed
  rw [loose.empty location aimed] at there
  cases there

/-- A path that shows nothing, or nothing in it, leads to nothing of the part, unless to a file of
the part that is empty itself. -/
theorem Survives.loose (survives : Survives part files) (plain : Plain files path)
    (empty : files.shownLength path = 0)
    (filled : ∀ location modified, files.target? path = some location →
      part.node? location ≠ some (.file [] modified)) : Loose part files path where
  plain := plain
  empty := by
    intro location aimed
    refine Classical.byContradiction fun there => ?_
    obtain ⟨node, there⟩ := Option.ne_none_iff_exists'.mp there
    have stand := survives location node there
    unfold target? at aimed
    split at aimed
    · cases aimed
    · next named =>
      have truthful := files.locate_truthful true path
      unfold place? at aimed
      unfold shownLength shown? Files.status at empty
      rcases found : files.locate true path with
        error | (⟨spot, ⟨old, time⟩ | _ | goal⟩ | ⟨directory, name⟩)
      all_goals rw [found] at aimed truthful empty
      · cases aimed
      · obtain rfl := Option.some.inj aimed
        simp only [named, Bool.false_eq_true, ↓reduceIte, Except.toOption] at empty
        obtain rfl := List.length_eq_zero_iff.mp empty
        rw [show files.node? spot = some (.file [] time) from truthful] at stand
        obtain rfl := Option.some.inj stand
        exact filled spot time (by simp [target?, named, place?, found, spotLocation?]) there
      · simp [Except.toOption] at empty
      · exact absurd truthful.1 (by simp)
      · obtain rfl := Option.some.inj aimed
        rw [show files.node? (directory ++ [name]) = none from truthful] at stand
        cases stand

/-- A path that is staged with a token leads to nothing of the part, if nothing in the part and at
most files in the tree are called by the token. -/
theorem Survives.loose_of_token {number : Nat} (undrawn : Session.UndrawnFrom number part)
    (onlyFiles : ∀ name, Session.Bears number name → OnlyFiles files name) (staging : Staging)
    (key : String) (extension : Option String) :
    Loose part files (staging.pathFor key extension (Session.tokenText number)) := by
  obtain ⟨names, first, rest, parts, bears, notHere, notUp⟩ :=
    Session.pathFor_parts staging key extension number
  refine ⟨(slot_endsBy (onlyFiles first bears) notHere notUp parts).plain, fun location aimed => ?_⟩
  obtain ⟨directory, rfl⟩ := target_endsBy (onlyFiles first bears) notHere notUp parts aimed
  exact undrawn number first (Nat.le_refl _) bears directory

/-! ## Making directories -/

/-- What is new in the tree are directories that are called by the given names. -/
def Adds (names : List String) (files after : Files) : Prop :=
  ∀ location node, after.node? location = some node → files.node? location = some node ∨
    node = .directory ∧ ∃ directory, ∃ name ∈ names, location = directory ++ [name]

theorem Adds.trans {names : List String} {first second third : Files}
    (left : Adds names first second) (right : Adds names second third) : Adds names first third := by
  intro location node there
  rcases right location node there with earlier | made
  · exact left location node earlier
  · exact .inr made

theorem Adds.of_survives {names : List String} (survives : Survives after files) :
    Adds names files after :=
  fun location node there => .inl (survives location node there)

theorem Adds.mono {names more : List String} (adds : Adds names files after)
    (among : names ⊆ more) : Adds more files after := by
  intro location node there
  rcases adds location node there with earlier | ⟨isDirectory, directory, name, member, called⟩
  · exact .inl earlier
  · exact .inr ⟨isDirectory, directory, name, among member, called⟩

/-- A name that nothing new is called by is still a name of files only. -/
theorem Adds.onlyFiles {names : List String} (adds : Adds names files after) {name : String}
    (onlyFiles : OnlyFiles files name) (other : name ∉ names) : OnlyFiles after name := by
  intro directory
  unfold bone?
  cases there : after.node? (directory ++ [name]) with
  | none => rfl
  | some node =>
    rcases adds _ _ there with earlier | ⟨_, above, made, member, called⟩
    · have bare := onlyFiles directory
      unfold bone? at bare
      rwa [earlier] at bare
    · have last := congrArg List.getLast? called
      simp only [List.getLast?_append, List.getLast?_singleton, Option.some_or,
        Option.some.injEq] at last
      exact absurd (last ▸ member) other

/-- A walk that does not follow a link at the end and comes to a free name comes to the last one. -/
theorem walkTo_free (files : Files)
    {leap : Location → String → List String → Except FileError Spot}
    (leaps : ∀ current target rest directory name, rest ≠ [] →
      leap current target rest = .ok (.free directory name) → rest.getLast? = some name)
    (names : List String) (current directory : Location) (name : String)
    (led : walkTo files false leap current names = .ok (.free directory name)) :
    names.getLast? = some name := by
  induction names generalizing current with
  | nil => cases led
  | cons first rest inductionHypothesis =>
    have later {current : Location}
        (led : walkTo files false leap current rest = .ok (.free directory name)) :
        (first :: rest).getLast? = some name := by
      have last := inductionHypothesis current led
      cases rest with
      | nil => cases last
      | cons => rwa [List.getLast?_cons_cons]
    by_cases here : first = "."
    · subst here
      exact later led
    by_cases up : first = ".."
    · subst up
      exact later led
    rw [walkTo_name files false leap current here up] at led
    split at led
    · cases led
    · rcases there : files.node? (current ++ [first]) with _ | ⟨content, modified⟩ | _ | target
      all_goals simp only [there] at led
      · cases rest with
        | nil =>
          cases led
          rfl
        | cons => cases led
      · cases rest <;> cases led
      · exact later led
      · cases rest with
        | nil => cases led
        | cons second others =>
          rw [List.getLast?_cons_cons]
          exact leaps current target _ directory name (by simp) led

theorem walk_free (files : Files) (budget : Nat) (current directory : Location)
    (names : List String) (name : String)
    (led : walk files false budget current names = .ok (.free directory name)) :
    names.getLast? = some name := by
  induction budget generalizing current names directory name with
  | zero =>
    refine walkTo_free files ?_ names current directory name led
    exact fun _ _ _ _ _ _ led => by cases led
  | succ fewer inductionHypothesis =>
    refine walkTo_free files (fun here target rest above free going led => ?_) names current
      directory name led
    split at led
    · cases led
    · have last := inductionHypothesis _ _ _ _ led
      rw [List.getLast?_append, List.getLast?_eq_some_getLast going, Option.some_or] at last
      rw [List.getLast?_eq_some_getLast going, last]

/-- A directory is made where nothing was, and is called by a part of its path. -/
theorem makeDirectory_adds (made : files.makeDirectory path = .ok after) :
    Survives files after ∧ Adds (Path.parts path) files after := by
  unfold makeDirectory at made
  have truthful := files.locate_truthful false path
  rcases led : files.locate false path with error | (⟨location, node⟩ | ⟨directory, name⟩)
  all_goals rw [led] at made truthful
  · cases made
  · cases made
  · obtain rfl := Except.ok.inj made
    have put := node?_put files (show directory ++ [name] ≠ [] by simp) .directory
    have member : name ∈ Path.parts path := by
      refine List.mem_of_getLast? ?_
      unfold locate at led
      split at led
      · cases led
      · split at led
        · cases led
        · split at led
          · cases led
          · exact walk_free files _ _ _ _ _ led
    constructor
    · intro location node there
      rw [put, if_neg ?_]
      · exact there
      · rintro rfl
        rw [show files.node? (directory ++ [name]) = none from truthful] at there
        cases there
    · intro location node there
      rw [put] at there
      split at there
      · next here => exact .inr ⟨(Option.some.inj there).symm, directory, name, member, here⟩
      · exact .inl there

/-- Making directories one after the other. -/
theorem makeEach_adds {names paths : List String} (among : ∀ path ∈ paths, Path.parts path ⊆ names) :
    Survives files (files.makeEach paths).1 ∧ Adds names files (files.makeEach paths).1 := by
  induction paths generalizing files with
  | nil => exact ⟨Survives.refl files, Adds.of_survives (Survives.refl files)⟩
  | cons path rest inductionHypothesis =>
    have others := fun other member => among other (List.mem_cons_of_mem path member)
    unfold makeEach
    split
    · next after made =>
      obtain ⟨survives, adds⟩ := makeDirectory_adds made
      obtain ⟨later, more⟩ := @inductionHypothesis after others
      exact ⟨survives.trans later, (adds.mono (among path List.mem_cons_self)).trans more⟩
    · split
      · exact inductionHypothesis others
      · exact ⟨Survives.refl files, Adds.of_survives (Survives.refl files)⟩

theorem makeUpwards_adds {names : List String} (fuel : Nat) (pending : List String) (path : String)
    (among : ∀ path ∈ pending, Path.parts path ⊆ names) (here : Path.parts path ⊆ names) :
    Survives files (files.makeUpwards fuel pending path).1 ∧
      Adds names files (files.makeUpwards fuel pending path).1 := by
  induction fuel generalizing pending path with
  | zero => exact ⟨Survives.refl files, Adds.of_survives (Survives.refl files)⟩
  | succ fuel inductionHypothesis =>
    have more : ∀ other ∈ path :: pending, Path.parts other ⊆ names := by
      intro other member
      rcases List.mem_cons.mp member with rfl | earlier
      · exact here
      · exact among other earlier
    unfold makeUpwards
    split
    · exact makeEach_adds among
    · split
      · next after made =>
        obtain ⟨survives, adds⟩ := makeDirectory_adds made
        obtain ⟨later, others⟩ : Survives after (after.makeEach pending).1 ∧
            Adds names after (after.makeEach pending).1 := makeEach_adds among
        exact ⟨survives.trans later, (adds.mono here).trans others⟩
      · split
        · next parent above =>
          exact inductionHypothesis _ _ more fun name member =>
            here (Path.parts_parent above member)
        · exact makeEach_adds more
      · split
        · exact makeEach_adds among
        · exact ⟨Survives.refl files, Adds.of_survives (Survives.refl files)⟩

/-- Making a directory with those above it takes nothing away, and the directories made are called by
parts of the path. -/
theorem makeDirectories_adds (files : Files) (path : String) :
    Survives files (files.makeDirectories path).1 ∧
      Adds (Path.parts path) files (files.makeDirectories path).1 :=
  makeUpwards_adds _ [] path (fun _ member => by cases member) (List.Subset.refl _)

end Files

open Files

namespace Layout

/-- The names by which the directories of a layout are called, and those above them. -/
def names (layout : Layout) : List String :=
  Path.parts layout.root ++ Path.parts layout.staging ++ Path.parts layout.libraries

variable {part files after : Files}

theorem makeAll_adds {names paths : List String} (among : ∀ path ∈ paths, Path.parts path ⊆ names) :
    Survives files (makeAll paths files).1 ∧ Adds names files (makeAll paths files).1 := by
  induction paths generalizing files with
  | nil => exact ⟨Survives.refl files, Adds.of_survives (Survives.refl files)⟩
  | cons path rest inductionHypothesis =>
    have first := makeDirectories_adds files path
    unfold makeAll
    rcases made : files.makeDirectories path with ⟨after, error | done⟩
    all_goals rw [made] at first
    · exact ⟨first.1, first.2.mono (among path List.mem_cons_self)⟩
    · obtain ⟨later, more⟩ := @inductionHypothesis after
        fun other member => among other (List.mem_cons_of_mem path member)
      exact ⟨first.1.trans later, (first.2.mono (among path List.mem_cons_self)).trans more⟩

/-- Making the directories of a layout takes nothing away. -/
theorem create_adds (layout : Layout) (files : Files) :
    Survives files (layout.create files).1 ∧ Adds layout.names files (layout.create files).1 := by
  refine makeAll_adds fun path member => ?_
  intro name inside
  simp only [List.mem_cons, List.not_mem_nil, or_false] at member
  simp only [names, List.mem_append]
  rcases member with rfl | rfl | rfl
  · exact .inl (.inl inside)
  · exact .inl (.inr inside)
  · exact .inr inside

/-! ## Emptying the directory -/

/-- An entry that cannot be removed is left. -/
theorem removeEntry_error {path : String} {error : FileError}
    (refused : removeEntry path files = (after, .error error)) : after = files := by
  unfold removeEntry at refused
  split at refused
  · split at refused
    · cases refused
    · exact (Prod.mk.inj refused).1.symm
  · rcases tried : files.removeIfExists path with ⟨other, reason | done⟩
    all_goals rw [tried] at refused
    · obtain rfl := (Prod.mk.inj refused).1
      unfold removeIfExists at tried
      split at tried
      · cases tried
      · cases tried
      · exact (Prod.mk.inj tried).1.symm
    · cases refused

end Layout

namespace Files

variable {part files after : Files} {place : Location} {root : String}

/-- Emptying takes away and adds nothing. -/
theorem Emptied.fewer {names : List String} (emptied : Emptied place names files after) :
    Survives after files := by
  intro location node there
  by_cases inside : Inside place location
  · obtain ⟨name, rest, rfl⟩ := inside.split
    by_cases member : name ∈ names
    · rw [emptied.gone name member rest] at there
      cases there
    · rwa [emptied.kept name member rest] at there
  · rwa [emptied.outside location inside] at there

/-- Removing the entries of a directory changes nothing outside of it, whatever is refused. -/
theorem removeAll_outside {names : List String} (anchored : Anchored files root place)
    (proper : ∀ name ∈ names, Path.Single name name) (regular : Regular place files) :
    SameOutside place files
        (Layout.removeAll Layout.removeEntry (names.map (Path.join root)) files).1 ∧
      Survives (Layout.removeAll Layout.removeEntry (names.map (Path.join root)) files).1 files := by
  induction names generalizing files with
  | nil => exact ⟨fun _ _ => rfl, Survives.refl files⟩
  | cons name rest inductionHypothesis =>
    have others := fun other member => proper other (List.mem_cons_of_mem name member)
    rw [List.map_cons, Layout.removeAll]
    rcases first : Layout.removeEntry (Path.join root name) files with ⟨between, error | done⟩
    · obtain rfl := Layout.removeEntry_error first
      exact inductionHypothesis anchored others regular
    · have emptied := removeEntry_emptied anchored.reached (proper name List.mem_cons_self)
        regular first
      obtain ⟨outside, fewer⟩ := inductionHypothesis
        (anchored.of_sameOutside emptied.outside) others (emptied.regular regular)
      exact ⟨emptied.outside.trans outside, fewer.trans emptied.fewer⟩

/-- A directory that is emptied without touching the part: its path does not lead through itself, it
is a regular one, and nothing of the part is in it. -/
def Sheltered (part : Files) (root : String) (files : Files) : Prop :=
  ∀ place, files.locate true root = .ok (.taken place .directory) →
    Anchored files root place ∧ Regular place files ∧
      ∀ location, Inside place location → part.node? location = none

/-- What the path of a directory that can be listed leads to. -/
theorem locate_of_list {path : String} {names : List String}
    (listed : files.list path = .ok names) :
    ∃ location, files.locate true path = .ok (.taken location .directory) ∧
      names = files.childNames location := by
  unfold Files.list Files.status at listed
  rcases led : files.locate true path with error | (⟨location, node⟩ | ⟨directory, name⟩)
  all_goals rw [led] at listed
  · cases listed
  · cases node with
    | directory => exact ⟨location, rfl, (Except.ok.inj listed).symm⟩
    | file content modified => cases asks : Path.endsInSeparator path <;> simp [asks] at listed
    | link target => cases asks : Path.endsInSeparator path <;> simp [asks] at listed
  · cases listed

/-- Emptying a directory in which there is nothing of the part leaves the part as it is, and adds no
more than the directories of the layout. -/
theorem Survives.purge (survives : Survives part files) {layout : Layout}
    (sheltered : Sheltered part layout.root files) :
    Survives part (layout.purge files).files ∧ Adds layout.names files (layout.purge files).files := by
  unfold Layout.purge Layout.purgeWith
  cases listed : files.list layout.root with
  | error reason =>
    obtain ⟨kept, adds⟩ := layout.create_adds files
    exact ⟨survives.trans kept, adds⟩
  | ok entries =>
    obtain ⟨place, led, rfl⟩ := locate_of_list listed
    obtain ⟨anchored, regular, apart⟩ := sheltered place led
    obtain ⟨outside, fewer⟩ := removeAll_outside anchored
      (fun name member => regular.names name (mem_childNames.mp member)) regular
    obtain ⟨kept, adds⟩ := layout.create_adds (Layout.removeAll Layout.removeEntry
      ((files.childNames place).map (Path.join layout.root)) files).1
    refine ⟨Survives.trans (fun location node there => ?_) kept, (Adds.of_survives fewer).trans adds⟩
    rw [outside location, survives location node there]
    intro inside
    rw [apart location inside] at there
    cases there

end Files

end Hotload
