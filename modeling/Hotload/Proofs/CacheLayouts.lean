import Hotload.Compiler.External
import Hotload.Proofs.CacheRuns
import Hotload.Proofs.SurvivingFiles

/-!
# Where a resolver keeps its files

Opening a resolver makes its cache directory with two subdirectories, or finds them there. Then their
paths lead to directories, whatever the file tree was like: what was just made is there, and what is
made later takes nothing away. The names of the subdirectories are checked to be single names, so both
are entries of the cache directory. The path of the cache directory itself is not checked, and the
empty path, which stands for the working directory when others are joined to it, leads nowhere alone.
Nor are the extensions checked. A staged path is one of the staging directory, and a lasting artifact
one of the cache directory, just if the extension has nothing after a separator but single dots.
-/

namespace Hotload

namespace Path

variable {base child stem : String}

/-- A path of an entry of a directory, by a proper name. -/
def IsChild (directory path : String) : Prop :=
  isAbsolute path = isAbsolute directory ∧
    ∃ name, Single name name ∧ components path = components directory ++ [name]

/-- Whatever is joined to a directory, the components of the directory come first. -/
theorem components_join {first : String} {rest : List String} (relative : isAbsolute child = false)
    (parted : parts child = first :: rest) (notHere : first ≠ ".") :
    components (join base child) = components base ++ first :: rest.filter (· ≠ ".") := by
  by_cases empty : base = ""
  · subst empty
    have alone : join "" child = child := by simp [join, relative]
    rw [alone, components, parted]
    simp [notHere, components, parts_eq]
  · unfold components
    rw [isAbsolute_join empty relative, parts_join empty relative, parted]
    cases above : parts base with
    | nil => simp [notHere]
    | cons head others =>
      by_cases here : head = "."
      · subst here
        cases isAbsolute base <;> simp [notHere]
      · simp [notHere, here]

/-- A joined path is one of the directory just if nothing but single dots follow the first part. -/
theorem isChild_join_iff {first : String} {rest : List String} (relative : isAbsolute child = false)
    (parted : parts child = first :: rest) (notHere : first ≠ ".") (notUp : first ≠ "..") :
    IsChild base (join base child) ↔ ∀ part ∈ rest, part = "." := by
  have absolute : isAbsolute (join base child) = isAbsolute base := by
    by_cases empty : base = ""
    · subst empty
      have alone : join "" child = child := by simp [join, relative]
      rw [alone, relative]
      rfl
    · exact isAbsolute_join empty relative
  have only : rest.filter (· ≠ ".") = [] ↔ ∀ part ∈ rest, part = "." := by
    simp [List.filter_eq_nil_iff]
  unfold IsChild
  rw [components_join relative parted notHere, ← only]
  constructor
  · rintro ⟨-, name, -, same⟩
    exact (List.cons_eq_cons.mp (List.append_cancel_left same)).2
  · intro nothing
    exact ⟨absolute, first, single_of_parts parted notHere notUp, by rw [nothing]⟩

/-- A single name leads to an entry. -/
theorem isChild_join {name : String} (single : Single name name) (base : String) :
    IsChild base (join base name) :=
  (isChild_join_iff single.relative single.parts single.notHere single.notUp).mpr nofun

/-- The parts of a text that follow its first separator. -/
def laterParts (text : String) : List String :=
  ((text.toList.splitOn '/').tail.filter (· ≠ [])).map String.ofList

/-- A text that begins with something proper has a proper first part, and those that follow a
separator of the rest. -/
theorem parts_append_later {character : Char} (inside : character ∈ stem.toList)
    (proper : character ≠ '.') (whole : '/' ∉ stem.toList) (tail : String) :
    ∃ first, parts (stem ++ tail) = first :: laterParts tail ∧ first ≠ "." ∧ first ≠ ".." := by
  obtain ⟨head, rest, parted, -, notHere, notUp⟩ := exists_parts inside proper whole tail
  obtain ⟨first, others, split, -⟩ := splitOn_head tail.toList
  refine ⟨_, ?_, notHere, notUp⟩
  rw [parted]
  have filled : stem.toList ++ first ≠ [] := by
    intro empty
    rw [(List.append_eq_nil_iff.mp empty).1] at inside
    cases inside
  have again : parts (stem ++ tail) = String.ofList (stem.toList ++ first) :: laterParts tail := by
    simp [parts_eq, laterParts, splitOn_append _ _ whole, split, filled]
  rw [parted] at again
  rw [(List.cons.inj again).2]

end Path

namespace Staging

open Hotload.Path

/-- An extension that leads no further: after a separator there is nothing but single dots. -/
def Stays (extension : Option String) : Prop :=
  ∀ text ∈ extension, ∀ part ∈ laterParts text, part = "."

instance (extension : Option String) : Decidable (Stays extension) :=
  inferInstanceAs (Decidable (∀ text ∈ extension, ∀ part ∈ laterParts text, part = "."))

/-- An extension without separators leads no further. -/
theorem stays_of_whole {extension : Option String} (whole : ∀ text ∈ extension, '/' ∉ text.toList) :
    Stays extension := by
  intro text among part listed
  rw [laterParts, List.splitOn_eq_singleton (whole text among)] at listed
  cases listed

/-- A name with an extension stays in a directory just if the extension leads no further. -/
theorem isChild_withExtension_iff {stem : String} {character : Char}
    (inside : character ∈ stem.toList) (proper : character ≠ '.') (whole : '/' ∉ stem.toList)
    (base : String) (extension : Option String) :
    IsChild base (join base (withExtension stem extension)) ↔ Stays extension := by
  obtain ⟨first, parted, notHere, notUp⟩ :=
    parts_append_later inside proper whole (extensionTail extension)
  have relative := relative_of_stem inside whole (extensionTail extension)
  rw [withExtension_eq, isChild_join_iff relative parted notHere notUp]
  cases extension with
  | none => simp [Stays, extensionTail, laterParts]
  | some text =>
    -- The dot of an extension is no separator.
    have dot : laterParts ("." ++ text) = laterParts text := by
      have split := splitOn_append ['.'] text.toList (by simp)
      obtain ⟨head, others, pieces, -⟩ := splitOn_head text.toList
      simp_all [laterParts]
    simp [Stays, extensionTail, dot]

/-- Every path that is staged is one of the staging directory, unless the extension leads further. -/
theorem isChild_of_stage {staging : Staging} {key : String} {extension : Option String}
    {create : Bool} {number : Nat} {before after : Files} {path : String}
    (staged : staging.stage key extension create (Session.tokenText number) before =
      (after, .ok path)) :
    IsChild staging.layout.staging path ↔ Stays extension := by
  have isPath : path = staging.pathFor key extension (Session.tokenText number) := by
    unfold stage at staged
    dsimp only at staged
    split at staged
    · split at staged
      · exact (Except.ok.inj (Prod.mk.inj staged).2).symm
      · split at staged
        · exact (Except.ok.inj (Prod.mk.inj staged).2).symm
        · cases (Prod.mk.inj staged).2
    · split at staged
      · exact (Except.ok.inj (Prod.mk.inj staged).2).symm
      · cases (Prod.mk.inj staged).2
  have underscore : '_' ∈ (Session.stagedStem key number).toList := by
    rw [Session.stagedStem_toList]
    simp
  rw [isPath, Session.pathFor_eq]
  exact isChild_withExtension_iff underscore (by decide) (Session.stagedStem_whole key number) _ _

/-- Every path of a lasting artifact is one of the cache directory, under the same condition. -/
theorem isChild_of_durablePath {staging : Staging} {container path : String} {files : Files}
    (lasting : staging.durablePath container files = .ok path) :
    IsChild staging.layout.root path ↔ Stays staging.artifactExtension := by
  unfold durablePath at lasting
  cases modified : files.modified container with
  | error error => simp [modified] at lasting
  | ok time =>
    rw [modified] at lasting
    obtain rfl := Except.ok.inj lasting
    obtain ⟨character, inside⟩ := Bytes.hex_present
      (Digest.Sha256.hash_present (Text.utf8 (durableMessage container time)))
    exact isChild_withExtension_iff inside (Bytes.hex_proper inside).2.1
      (fun member => (Bytes.hex_proper member).1 rfl) _ _

end Staging

/-! ## Directories that were made -/

namespace Files

variable {files after : Files} {path : String}

/-- A path that leads to a directory still does when nothing was taken away. -/
theorem Survives.isDirectory (survives : Survives files after) (there : files.isDirectory path) :
    after.isDirectory path := by
  unfold Files.isDirectory at there ⊢
  cases shown : files.status path with
  | error error => simp [shown] at there
  | ok found =>
    have same : files.shown? path = some found := by simp [shown?, shown, Except.toOption]
    rw [status_of_shown (survives.shown same)]
    rwa [shown] at there

section Walks

variable {directory : Location} {name : String} {node : Node}

/-- A walk to a free name comes to what is put there, unless that is a link. -/
theorem walkTo_made (survives : Survives files after)
    (made : after.node? (directory ++ [name]) = some node) (noLink : ∀ target, node ≠ .link target)
    (follow : Bool) {leap leapOther : Location → String → List String → Except FileError Spot}
    (leaps : ∀ current target rest, leap current target rest = .ok (.free directory name) →
      leapOther current target rest = .ok (.taken (directory ++ [name]) node))
    (names : List String) (current : Location)
    (led : walkTo files false leap current names = .ok (.free directory name)) :
    walkTo after follow leapOther current names = .ok (.taken (directory ++ [name]) node) := by
  induction names generalizing current with
  | nil => cases led
  | cons first rest inductionHypothesis =>
    by_cases here : first = "."
    · subst here
      exact inductionHypothesis current led
    by_cases up : first = ".."
    · subst up
      exact inductionHypothesis current.dropLast led
    rw [walkTo_name files false leap current here up] at led
    rw [walkTo_name after follow leapOther current here up]
    split at led
    · cases led
    · next short =>
      rw [if_neg short]
      rcases there : files.node? (current ++ [first]) with _ | ⟨content, modified⟩ | _ | target
      all_goals simp only [there] at led
      · cases rest with
        | nil =>
          obtain ⟨rfl, rfl⟩ := Spot.free.inj (Except.ok.inj led)
          rw [made]
          cases node with
          | file content modified => rfl
          | directory => rfl
          | link target => exact absurd rfl (noLink target)
        | cons => cases led
      · cases rest <;> cases led
      · rw [survives _ _ there]
        exact inductionHypothesis _ led
      · rw [survives _ _ there]
        cases rest with
        | nil => cases led
        | cons second others => exact leaps current target _ led

theorem walk_made (survives : Survives files after)
    (made : after.node? (directory ++ [name]) = some node) (noLink : ∀ target, node ≠ .link target)
    (follow : Bool) (budget : Nat) (current : Location) (names : List String)
    (led : walk files false budget current names = .ok (.free directory name)) :
    walk after follow budget current names = .ok (.taken (directory ++ [name]) node) := by
  induction budget generalizing current names with
  | zero =>
    refine walkTo_made survives made noLink follow (fun _ _ _ impossible => ?_) _ _ led
    cases impossible
  | succ fewer inductionHypothesis =>
    refine walkTo_made survives made noLink follow (fun here target rest led => ?_) _ _ led
    split at led
    · cases led
    · next present =>
      rw [if_neg present]
      exact inductionHypothesis _ _ led

/-- A path to a free name leads to what is put there, unless that is a link. -/
theorem locate_made (survives : Survives files after)
    (made : after.node? (directory ++ [name]) = some node) (noLink : ∀ target, node ≠ .link target)
    (follow : Bool) (led : files.locate false path = .ok (.free directory name)) :
    after.locate follow path = .ok (.taken (directory ++ [name]) node) := by
  have askable := askable_of_locate led
  rw [locate_of_askable files false askable] at led
  rw [locate_of_askable after follow askable, walk_made survives made noLink follow _ _ _ led]

end Walks

/-- What was made is a directory. -/
theorem isDirectory_of_makeDirectory (made : files.makeDirectory path = .ok after) :
    after.isDirectory path := by
  have survives := (makeDirectory_adds made).1
  unfold makeDirectory at made
  rcases led : files.locate false path with error | (⟨location, node⟩ | ⟨directory, name⟩)
  all_goals rw [led] at made
  · cases made
  · cases made
  · obtain rfl := Except.ok.inj made
    have there : (files.put (directory ++ [name]) .directory).node? (directory ++ [name]) =
        some .directory := by
      rw [node?_put files (by simp), if_pos rfl]
    unfold isDirectory status
    rw [locate_made survives there (fun _ => nofun) true led]

/-- Making directories one after the other takes nothing away. -/
theorem makeEach_survives (files : Files) (paths : List String) :
    Survives files (files.makeEach paths).1 :=
  (makeEach_adds fun path listed _ inside => List.mem_flatMap.mpr ⟨path, listed, inside⟩).1

/-- Directories made one after the other are all there in the end. -/
theorem isDirectory_of_makeEach {paths : List String}
    (made : files.makeEach paths = (after, .ok ())) : ∀ path ∈ paths, after.isDirectory path := by
  induction paths generalizing files with
  | nil => exact nofun
  | cons first rest inductionHypothesis =>
    have kept (between : Files) (later : between.makeEach rest = (after, .ok ()))
        (there : between.isDirectory first) : after.isDirectory first := by
      have survives := makeEach_survives between rest
      rw [later] at survives
      exact survives.isDirectory there
    unfold makeEach at made
    split at made
    · next between isMade =>
      rintro path (_ | ⟨_, later⟩)
      · exact kept between made (isDirectory_of_makeDirectory isMade)
      · exact inductionHypothesis made path later
    · split at made
      · next there =>
        rintro path (_ | ⟨_, later⟩)
        · exact kept files made (Bool.and_eq_true_iff.mp there).2
        · exact inductionHypothesis made path later
      · cases made

/-- A directory that is made with those above it is there in the end, and so are those that wait for
it. -/
theorem isDirectory_of_makeUpwards {fuel : Nat} {pending : List String}
    (made : files.makeUpwards fuel pending path = (after, .ok ())) :
    (path ≠ "" → after.isDirectory path) ∧ ∀ other ∈ pending, after.isDirectory other := by
  induction fuel generalizing pending path with
  | zero => cases made
  | succ fuel inductionHypothesis =>
    have kept (between : Files) (later : between.makeEach pending = (after, .ok ()))
        (there : between.isDirectory path) : after.isDirectory path := by
      have survives := makeEach_survives between pending
      rw [later] at survives
      exact survives.isDirectory there
    unfold makeUpwards at made
    split at made
    · next empty => exact ⟨fun present => absurd empty present, isDirectory_of_makeEach made⟩
    · split at made
      · next between isMade =>
        exact ⟨fun _ => kept between made (isDirectory_of_makeDirectory isMade),
          isDirectory_of_makeEach made⟩
      · split at made
        · obtain ⟨-, all⟩ := inductionHypothesis made
          exact ⟨fun _ => all path List.mem_cons_self,
            fun other listed => all other (List.mem_cons_of_mem _ listed)⟩
        · have all := isDirectory_of_makeEach made
          exact ⟨fun _ => all path List.mem_cons_self,
            fun other listed => all other (List.mem_cons_of_mem _ listed)⟩
      · split at made
        · next there =>
          exact ⟨fun _ => kept files made (Bool.and_eq_true_iff.mp there).2,
            isDirectory_of_makeEach made⟩
        · cases made

/-- A directory that is made with those above it is there in the end, unless its path is empty. -/
theorem isDirectory_of_makeDirectories (made : files.makeDirectories path = (after, .ok ()))
    (present : path ≠ "") : after.isDirectory path :=
  (isDirectory_of_makeUpwards made).1 present

/-- Nothing is at the empty path. -/
theorem not_isDirectory_empty (files : Files) : files.isDirectory "" = false := by
  simp [isDirectory, status, locate]

/-- An entry through which a path leads to a directory is there, be it the directory or a link. -/
theorem stands_of_isDirectory {base name : String} {directory : Location}
    (reached : files.locate true base = .ok (.taken directory .directory))
    (single : Path.Single name name) (there : files.isDirectory (Path.join base name)) :
    files.node? (directory ++ [name]) ≠ none := by
  intro bare
  have noLink : ∀ target, files.node? (directory ++ [name]) ≠ some (.link target) := by
    rw [bare]
    exact nofun
  rcases Classical.em (Usable base name name) with usable | unusable
  · unfold isDirectory status at there
    rw [locate_usable reached single usable true fun _ => noLink, spotIn, bare] at there
    cases there
  · rw [not_isDirectory_of_unusable reached single unusable] at there
    cases there

end Files

open Files

namespace Layout

variable {files after : Files}

theorem makeAll_survives (files : Files) (paths : List String) :
    Survives files (makeAll paths files).1 :=
  (makeAll_adds fun path listed _ inside => List.mem_flatMap.mpr ⟨path, listed, inside⟩).1

theorem isDirectory_of_makeAll {paths : List String} (made : makeAll paths files = (after, .ok ())) :
    ∀ path ∈ paths, path ≠ "" → after.isDirectory path := by
  induction paths generalizing files with
  | nil => exact nofun
  | cons first rest inductionHypothesis =>
    unfold makeAll at made
    split at made
    · next between isMade =>
      have survives := makeAll_survives between rest
      rw [made] at survives
      rintro path (_ | ⟨_, later⟩) present
      · exact survives.isDirectory (isDirectory_of_makeDirectories isMade present)
      · exact inductionHypothesis made path later present
    · cases made

/-- An emptied directory was made again last of all. -/
theorem create_of_purge {layout : Layout} (emptied : (layout.purge files).result = .ok ()) :
    ∃ before, layout.create before = ((layout.purge files).files, .ok ()) := by
  unfold purge purgeWith at emptied ⊢
  split at emptied
  · next names _ =>
    refine ⟨(removeAll removeEntry (names.map (Path.join layout.root)) files).1, ?_⟩
    rcases removed : removeAll removeEntry (names.map (Path.join layout.root)) files with
      ⟨between, _ | ⟨refusal, others⟩⟩
    all_goals simp only [removed] at emptied ⊢
    · rw [← emptied]
    · cases emptied
  · next error _ =>
    refine ⟨files, ?_⟩
    dsimp only at emptied ⊢
    split at emptied
    · rw [← emptied]
    · cases emptied

end Layout

namespace Session

open Hotload.Path Staging

/-! ## Opening a resolver -/

/-- A prepared directory was made last of all. -/
theorem create_of_prepare {session prepared : Session} {layout : Layout} {parent : Option Loader}
    (prepares : session.prepare layout parent = (prepared, .ok ())) :
    ∃ before, layout.create before = (prepared.files, .ok ()) := by
  unfold prepare at prepares
  split at prepares
  · obtain ⟨rfl, emptied⟩ := Prod.mk.inj prepares
    exact Layout.create_of_purge emptied
  · obtain ⟨rfl, created⟩ := Prod.mk.inj prepares
    exact ⟨session.files, Prod.ext rfl created⟩

/-- Where a resolver with a configuration keeps its files in a file tree, and where its paths lead in
any. -/
structure LaidOut (config : Config) (files : Files) : Prop where
  root : files.isDirectory config.cacheDirectory ↔ config.cacheDirectory ≠ ""
  staging : files.isDirectory (Layout.ofConfig config).staging
  libraries : files.isDirectory (Layout.ofConfig config).libraries
  stagingChild : IsChild config.cacheDirectory (Layout.ofConfig config).staging
  librariesChild : IsChild config.cacheDirectory (Layout.ofConfig config).libraries
  apart : components (Layout.ofConfig config).staging ≠ components (Layout.ofConfig config).libraries
  /-- Both subdirectories are entries of the directory that the path of the cache directory leads to,
  under different names. -/
  entries : config.stagingDirectory ≠ config.librariesDirectory ∧
    ∀ place, files.locate true config.cacheDirectory = .ok (.taken place .directory) →
      files.node? (place ++ [config.stagingDirectory]) ≠ none ∧
        files.node? (place ++ [config.librariesDirectory]) ≠ none
  staged : ∀ key extension create number before after path,
    (Staging.ofConfig config).stage key extension create (tokenText number) before =
        (after, .ok path) →
      (IsChild (Layout.ofConfig config).staging path ↔ Stays extension)
  archives : ∀ key number before after path,
    (Staging.ofConfig config).stageArchive key (tokenText number) before = (after, .ok path) →
      (IsChild (Layout.ofConfig config).staging path ↔ Stays (some config.archiveExtension))
  outputs : ∀ key number before after path,
    (Staging.ofConfig config).stageOutput key (tokenText number) before = (after, .ok path) →
      (IsChild (Layout.ofConfig config).staging path ↔ Stays config.artifactExtension)
  lasting : ∀ container before path,
    (Staging.ofConfig config).durablePath container before = .ok path →
      (IsChild config.cacheDirectory path ↔ Stays config.artifactExtension)

/-- The resolver has the layout and the extensions of its configuration. -/
theorem openResolver_staging {session after : Session} {config : Config} {compiler : Compiler}
    {platform : Platform} {parent : Option Loader} {id : Nat}
    (opened : session.openResolver config compiler platform parent = (after, .ok id)) :
    ∃ resolver, (id, resolver) ∈ after.resolvers ∧ resolver.staging = Staging.ofConfig config := by
  unfold openResolver at opened
  split at opened
  · cases opened
  · dsimp only at opened
    split at opened
    · cases opened
    · obtain ⟨rfl, isNumber⟩ := Prod.mk.inj opened
      obtain rfl := Except.ok.inj isNumber
      exact ⟨_, List.mem_append_right _ List.mem_cons_self, rfl⟩

/-- The components of an entry end in its name. -/
theorem components_child {name : String} (single : Single name name) (base : String) :
    components (join base name) = components base ++ [name] := by
  simpa using components_join single.relative single.parts single.notHere

/-- Once a resolver is open, its directories are there, and the paths of its files are paths of
them, unless an extension leads further. Only the empty path of a cache directory is that of none.
The configuration was accepted, so that the names of the subdirectories are single and differ, and
the opening made every directory that was missing; the rest is how such names join. -/
theorem openResolver_laidOut {session after : Session} {config : Config} {compiler : Compiler}
    {platform : Platform} {parent : Option Loader} {id : Nat}
    (opened : session.openResolver config compiler platform parent = (after, .ok id)) :
    LaidOut config after.files ∧
      ∃ resolver, (id, resolver) ∈ after.resolvers ∧
        resolver.staging = Staging.ofConfig config := by
  refine ⟨?_, openResolver_staging opened⟩
  obtain ⟨sound, prepared, prepares, files, -⟩ := openResolver_ok opened
  obtain ⟨before, created⟩ := create_of_prepare prepares
  rw [← files] at created
  have made := Layout.isDirectory_of_makeAll created
  obtain ⟨staging, libraries, distinct⟩ := names_of_config sound
  have filled {name : String} (single : Single name name) : join config.cacheDirectory name ≠ "" := by
    refine join_ne_empty _ ?_
    rintro rfl
    have parts := single.parts
    simp [Path.parts_eq] at parts
  have stagingThere : after.files.isDirectory (Layout.ofConfig config).staging :=
    made _ (List.mem_cons_of_mem _ List.mem_cons_self) (filled staging)
  have librariesThere : after.files.isDirectory (Layout.ofConfig config).libraries :=
    made _ (List.mem_cons_of_mem _ (List.mem_cons_of_mem _ List.mem_cons_self)) (filled libraries)
  exact {
    root := by
      refine ⟨fun there empty => ?_, made _ List.mem_cons_self⟩
      rw [empty, not_isDirectory_empty] at there
      cases there
    staging := stagingThere
    libraries := librariesThere
    stagingChild := isChild_join staging _
    librariesChild := isChild_join libraries _
    apart := by
      intro same
      have both : components config.cacheDirectory ++ [config.stagingDirectory] =
          components config.cacheDirectory ++ [config.librariesDirectory] := by
        rw [← components_child staging, ← components_child libraries]
        exact same
      exact distinct (List.singleton_inj.mp (List.append_cancel_left both))
    entries := by
      refine ⟨distinct, fun place reached => ⟨?_, ?_⟩⟩
      · exact stands_of_isDirectory reached staging stagingThere
      · exact stands_of_isDirectory reached libraries librariesThere
    staged := by
      intro key extension create number before later path staged
      have child := isChild_of_stage staged
      exact child
    archives := by
      intro key number before later path staged
      have child := isChild_of_stage (show Staging.stage _ _ _ _ _ _ = _ from staged)
      exact child
    outputs := by
      intro key number before later path staged
      have child := isChild_of_stage (show Staging.stage _ _ _ _ _ _ = _ from staged)
      exact child
    lasting := by
      intro container before path lasting
      have child := isChild_of_durablePath lasting
      exact child }

/-- A container in the working directory. -/
def besideLayout : Session where
  files := ⟨[(["tmp"], .directory), (["tmp", "work"], .directory),
    (["tmp", "work", "a.zip"], .file [] 1000)], 0⟩

/-- A resolver is opened over a directory that is still to be made, and then its directories are
laid out. -/
theorem openResolver_laidOut_made : ∃ after,
    besideLayout.openResolver { cacheDirectory := "cache" } Compiler.passthrough .archive none =
        (after, .ok 1) ∧
      LaidOut { cacheDirectory := "cache" } after.files ∧
      ∃ resolver, (1, resolver) ∈ after.resolvers ∧
        resolver.staging = Staging.ofConfig { cacheDirectory := "cache" } := by
  have number : (besideLayout.openResolver { cacheDirectory := "cache" } Compiler.passthrough .archive
      none).2.toOption = some 1 := by decide +kernel
  have opened : besideLayout.openResolver { cacheDirectory := "cache" } Compiler.passthrough .archive
      none = (_, .ok 1) := Prod.ext rfl (ok_of_toOption number)
  exact ⟨_, opened, openResolver_laidOut opened⟩

/-- Extensions that lead further are accepted, and then an archive is not staged in the staging
directory, and an artifact does not last in the cache directory. An empty path of a cache directory is
accepted as well, and then that path does not lead to a directory. -/
theorem openResolver_astray :
    (besideLayout.openResolver
        { cacheDirectory := "cache", archiveExtension := "x/y", artifactExtension := some "x/left" }
        Compiler.passthrough .archive none).2.toOption = some 1 ∧
      (∃ after path, (Staging.ofConfig
          { cacheDirectory := "cache", archiveExtension := "x/y" }).stageArchive "A" (tokenText 0)
            besideLayout.files = (after, .ok path) ∧ ¬ IsChild "cache/staging" path) ∧
      (∃ path, (Staging.ofConfig
          { cacheDirectory := "cache", artifactExtension := some "x/left" }).durablePath "a.zip"
            besideLayout.files = .ok path ∧ ¬ IsChild "cache" path) ∧
      (besideLayout.openResolver { cacheDirectory := "" } Compiler.passthrough .archive
        none).2.toOption = some 1 ∧
      (besideLayout.openResolver { cacheDirectory := "" } Compiler.passthrough .archive
        none).1.files.isDirectory "" = false := by
  refine ⟨by decide +kernel, ?_, ?_, by decide +kernel, by decide +kernel⟩
  · have staged : ((Staging.ofConfig
        { cacheDirectory := "cache", archiveExtension := "x/y" }).stageArchive "A" (tokenText 0)
          besideLayout.files).2.toOption.isSome := by decide +kernel
    rcases heard : (Staging.ofConfig
        { cacheDirectory := "cache", archiveExtension := "x/y" }).stageArchive "A" (tokenText 0)
          besideLayout.files with ⟨after, error | path⟩
    · rw [heard] at staged
      cases staged
    · refine ⟨after, path, rfl, ?_⟩
      have child := isChild_of_stage (show Staging.stage _ _ _ _ _ _ = _ from heard)
      have leads : ¬ Stays (some "x/y") := by decide +kernel
      exact fun isChild => leads (child.mp isChild)
  · have lasting : ((Staging.ofConfig
        { cacheDirectory := "cache", artifactExtension := some "x/left" }).durablePath "a.zip"
          besideLayout.files).toOption.isSome := by decide +kernel
    rcases heard : (Staging.ofConfig
        { cacheDirectory := "cache", artifactExtension := some "x/left" }).durablePath "a.zip"
          besideLayout.files with error | path
    · rw [heard] at lasting
      cases lasting
    · refine ⟨path, rfl, ?_⟩
      have child := isChild_of_durablePath heard
      have leads : ¬ Stays (some "x/left") := by decide +kernel
      exact fun isChild => leads (child.mp isChild)

end Session

end Hotload
