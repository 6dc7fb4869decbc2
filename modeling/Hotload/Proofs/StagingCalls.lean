import Hotload.Proofs.CacheLayouts

/-!
# Calls that stage a path

A call that stages a path draws a token and then makes one change to the file tree, which happens at
once. So what threads do at the same time comes one after the other in some order, and what holds of
every order of calls and other changes holds of every interleaving.

A path is staged in two ways. To clear a path is to remove the file or the link that stands there;
after it nothing stands there. To create a path is to create an empty file where nothing stands; but
a call that finds something there is content with it, and hands out a path that it did not create.
-/

namespace Hotload

namespace Files

variable {files after : Files} {path : String}

/-- Something stands at the path; a link is not followed. -/
def Shows (files : Files) (path : String) : Prop :=
  ∃ location node, files.locate false path = .ok (.taken location node)

instance (files : Files) (path : String) : Decidable (files.Shows path) := by
  unfold Shows
  cases files.locate false path with
  | error error => exact .isFalse (by simp)
  | ok spot =>
    cases spot with
    | taken location node => exact .isTrue ⟨location, node, rfl⟩
    | free directory name => exact .isFalse (by simp)

/-! ## Clearing a path -/

/-- After a removal nothing stands at the path, and one file or link fewer stands in the tree. -/
theorem unlink_clears (removed : files.unlink path = .ok after) :
    ¬ after.Shows path ∧ ∃ location, after = files.erase location := by
  have truthful := files.locate_truthful false path
  unfold unlink at removed
  rcases found : files.locate false path with error | (⟨location, node⟩ | ⟨directory, name⟩)
  all_goals simp only [found] at removed truthful
  · cases removed
  · have stood : files.node? location = some node ∧ node ≠ .directory := by
      cases node with
      | file content modified => exact ⟨truthful, nofun⟩
      | link target => exact ⟨truthful.2, nofun⟩
      | directory => cases removed
    have erased : after = files.erase location := by
      cases node with
      | directory => exact absurd rfl stood.2
      | file content modified =>
        dsimp only at removed
        split at removed <;> cases removed
        rfl
      | link target =>
        dsimp only at removed
        split at removed <;> cases removed
        rfl
    have inside : location ≠ [] := by
      rintro rfl
      exact stood.2 (Option.some.inj stood.1).symm
    have fewer : Survives after files := by
      intro other kept there
      rw [erased, node?_erase files inside] at there
      split at there
      · cases there
      · exact there
    refine ⟨fun ⟨there, kept, led⟩ => ?_, location, erased⟩
    -- What is left was there before, so the path would lead to what was removed.
    have same := fewer.locate false path there kept led
    rw [led, found] at same
    obtain ⟨rfl, rfl⟩ := Spot.taken.inj (Except.ok.inj same)
    have gone : after.node? location = none := by rw [erased, node?_erase files inside, if_pos rfl]
    have left := after.locate_truthful false path
    rw [led] at left
    cases node with
    | file content modified => simp [Truthful, gone] at left
    | link target => simp [Truthful, gone] at left
    | directory => exact stood.2 rfl
  · cases removed

/-- Once a path is cleared, nothing stands there; a refusal changes nothing. -/
theorem removeIfExists_clears (files : Files) (path : String) :
    (∀ there, (files.removeIfExists path).2 = .ok there →
        ¬ (files.removeIfExists path).1.Shows path ∧
          ((files.removeIfExists path).1 = files ∨
            ∃ location, (files.removeIfExists path).1 = files.erase location)) ∧
      ∀ error, (files.removeIfExists path).2 = .error error →
        (files.removeIfExists path).1 = files := by
  unfold removeIfExists
  split
  · next after removed =>
    obtain ⟨gone, erased⟩ := unlink_clears removed
    exact ⟨fun _ _ => ⟨gone, .inr erased⟩, fun _ => nofun⟩
  · next missing =>
    refine ⟨fun _ _ => ⟨?_, .inl rfl⟩, fun _ => nofun⟩
    rintro ⟨location, node, led⟩
    unfold unlink at missing
    cases node <;> simp only [led] at missing
    · split at missing <;> cases missing
    · cases missing
    · split at missing <;> cases missing
  · exact ⟨fun _ => nofun, fun _ _ => rfl⟩

/-! ## Creating a path -/

/-- A walk is never refused because something is there. -/
theorem walkTo_ne_alreadyExists (files : Files) (follow : Bool)
    {leap : Location → String → List String → Except FileError Spot}
    (leaps : ∀ current target rest, leap current target rest ≠ .error .alreadyExists)
    (names : List String) (current : Location) :
    walkTo files follow leap current names ≠ .error .alreadyExists := by
  induction names generalizing current with
  | nil => exact nofun
  | cons name rest inductionHypothesis =>
    by_cases here : name = "."
    · subst here
      exact inductionHypothesis current
    by_cases up : name = ".."
    · subst up
      exact inductionHypothesis current.dropLast
    rw [walkTo_name files follow leap current here up]
    split
    · exact nofun
    · rcases files.node? (current ++ [name]) with _ | ⟨content, modified⟩ | _ | target
      · cases rest <;> exact nofun
      · cases rest <;> exact nofun
      · exact inductionHypothesis _
      · dsimp only
        split
        · exact nofun
        · exact leaps current target rest

theorem walk_ne_alreadyExists (files : Files) (follow : Bool) (budget : Nat) (current : Location)
    (names : List String) : walk files follow budget current names ≠ .error .alreadyExists := by
  induction budget generalizing current names with
  | zero =>
    refine walkTo_ne_alreadyExists files follow ?_ names current
    exact fun _ _ _ impossible => by cases impossible
  | succ fewer inductionHypothesis =>
    refine walkTo_ne_alreadyExists files follow (fun directory target rest => ?_) names current
    split
    · exact nofun
    · exact inductionHypothesis _ _

/-- A path is never refused because something is there. -/
theorem locate_ne_alreadyExists (files : Files) (follow : Bool) (path : String) :
    files.locate follow path ≠ .error .alreadyExists := by
  unfold locate
  split
  · exact nofun
  · split
    · exact nofun
    · split
      · exact nofun
      · exact walk_ne_alreadyExists files follow 40 _ _

/-- A creation is refused as `alreadyExists` only where something stands. -/
theorem shows_of_alreadyExists (refused : files.createNew path = .error .alreadyExists) :
    files.Shows path := by
  unfold createNew at refused
  rcases found : files.locate false path with error | (⟨location, node⟩ | ⟨directory, name⟩)
  all_goals simp only [found] at refused
  · cases refused
    exact absurd found (files.locate_ne_alreadyExists false path)
  · exact ⟨location, node, found⟩
  · split at refused <;> cases refused

/-- A creation puts an empty file where nothing stood, and that is what the path leads to then. -/
theorem createNew_creates (created : files.createNew path = .ok after) :
    ¬ files.Shows path ∧ after.Shows path ∧ after.read path = .ok [] ∧
      ∃ location, files.node? location = none ∧
        after = files.put location (.file [] files.clock) := by
  have truthful := files.locate_truthful false path
  unfold createNew at created
  rcases found : files.locate false path with error | (⟨location, node⟩ | ⟨directory, name⟩)
  all_goals simp only [found] at created truthful
  · cases created
  · split at created <;> cases created
  · split at created
    · cases created
    · next noDirectory =>
      obtain rfl := Except.ok.inj created
      have made : (files.put (directory ++ [name]) (.file [] files.clock)).node?
          (directory ++ [name]) = some (.file [] files.clock) := by
        rw [node?_put files (by simp), if_pos rfl]
      have more : Survives files (files.put (directory ++ [name]) (.file [] files.clock)) := by
        intro other kept there
        rw [node?_put files (by simp), if_neg ?_]
        · exact there
        · rintro rfl
          rw [show files.node? (directory ++ [name]) = none from truthful] at there
          cases there
      have leads (follow : Bool) := locate_made more made (fun _ => nofun) follow found
      refine ⟨?_, ⟨_, _, leads false⟩, ?_, directory ++ [name], truthful, rfl⟩
      · rintro ⟨location, node, led⟩
        cases found.symm.trans led
      · unfold read status
        rw [leads true]
        simp [noDirectory]

end Files

/-! ## One call -/

/-- A call that stages a path, with the token that it draws. -/
structure StagingCall where
  staging : Staging
  key : String
  extension : Option String
  create : Bool
  token : String

namespace StagingCall

variable {call : StagingCall} {files : Files} {handed : String}

/-- The path that the call is about. -/
def path (call : StagingCall) : String :=
  call.staging.pathFor call.key call.extension call.token

/-- The call on a tree. -/
def run (call : StagingCall) (files : Files) : Files × Except StagingError String :=
  call.staging.stage call.key call.extension call.create call.token files

theorem run_creating (creating : call.create = true) (files : Files) :
    call.run files =
      match files.createNew call.path with
      | .ok after => (after, .ok call.path)
      | .error error =>
        (files, if error = .alreadyExists then .ok call.path else .error ⟨call.path, error⟩) := by
  unfold run Staging.stage
  rw [creating]
  rfl

theorem run_clearing (clearing : call.create = false) (files : Files) :
    call.run files =
      match files.removeIfExists call.path with
      | (after, .ok _) => (after, .ok call.path)
      | (after, .error error) => (after, .error ⟨call.path, error⟩) := by
  unfold run Staging.stage
  rw [clearing]
  rfl

/-- A call hands out its own path only. -/
theorem handed_eq (result : (call.run files).2 = .ok handed) : handed = call.path := by
  cases mode : call.create with
  | true =>
    rw [run_creating mode] at result
    cases outcome : files.createNew call.path with
    | ok after =>
      rw [outcome] at result
      exact (Except.ok.inj result).symm
    | error error =>
      rw [outcome] at result
      dsimp only at result
      split at result
      · exact (Except.ok.inj result).symm
      · cases result
  | false =>
    rw [run_clearing mode] at result
    split at result
    · exact (Except.ok.inj result).symm
    · cases result

/-- A call that is refused leaves the tree as it was. -/
theorem refused {error : StagingError} (result : (call.run files).2 = .error error) :
    (call.run files).1 = files := by
  cases mode : call.create with
  | true =>
    rw [run_creating mode] at result ⊢
    cases outcome : files.createNew call.path with
    | ok after =>
      rw [outcome] at result
      cases result
    | error error => rfl
  | false =>
    have unchanged := (files.removeIfExists_clears call.path).2
    rw [run_clearing mode] at result ⊢
    rcases outcome : files.removeIfExists call.path with ⟨after, error | there⟩
    · rw [outcome] at unchanged
      exact unchanged error rfl
    · rw [outcome] at result
      cases result

/-- A call that clears its path hands it out with nothing there, and takes away at most what stood
there. -/
theorem clears (clearing : call.create = false) (result : (call.run files).2 = .ok handed) :
    ¬ (call.run files).1.Shows handed ∧
      ((call.run files).1 = files ∨ ∃ location, (call.run files).1 = files.erase location) := by
  obtain rfl := handed_eq result
  have cleared := (files.removeIfExists_clears call.path).1
  rw [run_clearing clearing] at result ⊢
  rcases outcome : files.removeIfExists call.path with ⟨after, error | there⟩
  · rw [outcome] at result
    cases result
  · rw [outcome] at cleared
    exact cleared there rfl

/-- A call that creates its path hands it out either with a new empty file, where nothing stood, or
as it found it, with what stood there. -/
theorem creates (creating : call.create = true) (result : (call.run files).2 = .ok handed) :
    files.Shows handed ∧ (call.run files).1 = files ∨
      ¬ files.Shows handed ∧ (call.run files).1.Shows handed ∧
        (call.run files).1.read handed = .ok [] ∧
          ∃ location, files.node? location = none ∧
            (call.run files).1 = files.put location (.file [] files.clock) := by
  obtain rfl := handed_eq result
  rw [run_creating creating] at result ⊢
  cases outcome : files.createNew call.path with
  | ok after => exact .inr (Files.createNew_creates outcome)
  | error error =>
    rw [outcome] at result
    dsimp only at result
    split at result
    · next there => exact .inl ⟨Files.shows_of_alreadyExists (there ▸ outcome), rfl⟩
    · cases result

end StagingCall

/-! ## Calls among each other -/

namespace StagingCall

/-- What happens to the tree next: some thread's call stages a path, or something else changes it.
-/
inductive Moment where
  | staged (call : StagingCall)
  | changed (change : Files → Files)

/-- The tree after a moment. -/
def Moment.after (files : Files) : Moment → Files
  | .staged call => (call.run files).1
  | .changed change => change files

/-- The tree after so many of the moments, in the order in which they came. -/
def treeAt (files : Files) (moments : List Moment) (count : Nat) : Files :=
  (moments.take count).foldl Moment.after files

variable {files : Files} {moments : List Moment} {handed : String}

theorem treeAt_succ {count : Nat} {moment : Moment} (comes : moments[count]? = some moment) :
    treeAt files moments (count + 1) = moment.after (treeAt files moments count) := by
  unfold treeAt
  rw [List.take_add_one, comes, List.foldl_append]
  rfl

/-- Between a tree that has something at a path and a later one that does not, it was taken away. -/
theorem exists_removal {early late : Nat} (order : early ≤ late)
    (there : (treeAt files moments early).Shows handed)
    (gone : ¬ (treeAt files moments late).Shows handed) :
    ∃ between, early ≤ between ∧ between < late ∧ (treeAt files moments between).Shows handed ∧
      ¬ (treeAt files moments (between + 1)).Shows handed := by
  induction order with
  | refl => exact absurd there gone
  | @step late order inductionHypothesis =>
    by_cases still : (treeAt files moments late).Shows handed
    · exact ⟨late, order, Nat.lt_succ_self late, still, gone⟩
    · obtain ⟨between, since, before, stands, leaves⟩ := inductionHypothesis still
      exact ⟨between, since, Nat.lt_succ_of_lt before, stands, leaves⟩

/-- At that moment a call that creates its path handed it out. -/
def Creates (files : Files) (moments : List Moment) (count : Nat) (handed : String) : Prop :=
  ∃ call, moments[count]? = some (.staged call) ∧ call.create = true ∧
    (call.run (treeAt files moments count)).2 = .ok handed

/-- A path that was handed out as created has something there. -/
theorem Creates.shows {count : Nat} (created : Creates files moments count handed) :
    (treeAt files moments (count + 1)).Shows handed := by
  obtain ⟨call, comes, creating, result⟩ := created
  rw [treeAt_succ comes]
  rcases creates creating result with ⟨found, unchanged⟩ | ⟨_, shows, _⟩
  · change ((call.run (treeAt files moments count)).1).Shows handed
    rwa [unchanged]
  · exact shows

/-- What a call does, whatever calls and other changes came before it, in any order. It hands out
its own path. If it is to create the path, then either something stood there, and it leaves the tree
as it is; or nothing stood there, and it alone creates the file, an empty one, and between it and
every earlier call that handed the same path out as created the file was taken away. If it is to
clear the path, then nothing stands there. A call that is refused leaves the tree as it was. Each
call is one moment of the tree, so the order of moments stands for every interleaving of threads. -/
theorem hands_out (files : Files) {moments : List Moment} {count : Nat} {call : StagingCall}
    (comes : moments[count]? = some (.staged call)) :
    (∀ handed, (call.run (treeAt files moments count)).2 = .ok handed →
      handed = call.path ∧
      (call.create = true →
        (treeAt files moments count).Shows handed ∧
            treeAt files moments (count + 1) = treeAt files moments count ∨
          ¬ (treeAt files moments count).Shows handed ∧
            (treeAt files moments (count + 1)).Shows handed ∧
            (treeAt files moments (count + 1)).read handed = .ok [] ∧
            (∃ location, (treeAt files moments count).node? location = none ∧
              treeAt files moments (count + 1) = (treeAt files moments count).put location
                (.file [] (treeAt files moments count).clock)) ∧
            ∀ earlier < count, Creates files moments earlier handed →
              ∃ between, earlier < between ∧ between < count ∧
                (treeAt files moments between).Shows handed ∧
                  ¬ (treeAt files moments (between + 1)).Shows handed) ∧
      (call.create = false → ¬ (treeAt files moments (count + 1)).Shows handed)) ∧
    ∀ error, (call.run (treeAt files moments count)).2 = .error error →
      treeAt files moments (count + 1) = treeAt files moments count := by
  have next : treeAt files moments (count + 1) = (call.run (treeAt files moments count)).1 :=
    treeAt_succ comes
  rw [next]
  refine ⟨fun handed result => ⟨handed_eq result, fun creating => ?_, fun clearing => ?_⟩,
    fun error result => refused result⟩
  · rcases creates creating result with found | ⟨free, shows, empty, placed⟩
    · exact .inl found
    · refine .inr ⟨free, shows, empty, placed, fun earlier before created => ?_⟩
      exact exists_removal before created.shows free
  · exact (clears clearing result).1

/-- A cache directory with a directory for staged files in it. -/
def cacheTree : Files :=
  ⟨[(["tmp"], .directory), (["tmp", "work"], .directory), (["tmp", "work", "cache"], .directory),
    (["tmp", "work", "cache", "staging"], .directory)], 0⟩

/-- A call that creates a path in the directory for staged files. -/
def creatingCall : StagingCall where
  staging := .ofConfig { cacheDirectory := "cache" }
  key := "unit"
  extension := none
  create := true
  token := Session.tokenText 1

/-- The call comes twice, and between the two the file is taken away. -/
def creatingTwice : List Moment :=
  [.staged creatingCall, .changed fun files => (files.removeIfExists creatingCall.path).1,
    .staged creatingCall]

/-- A call to create a path comes twice, and in between the file is taken away. The second call
creates the file anew, and the moment can be named at which the first one's was gone. -/
theorem hands_out_twice :
    (treeAt cacheTree creatingTwice 3).read creatingCall.path = .ok [] ∧
      ∃ between, 0 < between ∧ between < 2 ∧
        (treeAt cacheTree creatingTwice between).Shows creatingCall.path ∧
          ¬ (treeAt cacheTree creatingTwice (between + 1)).Shows creatingCall.path := by
  have comes : creatingTwice[2]? = some (.staged creatingCall) := rfl
  have first : Creates cacheTree creatingTwice 0 creatingCall.path :=
    ⟨creatingCall, rfl, rfl, Session.ok_of_toOption (by decide +kernel)⟩
  have free : ¬ (treeAt cacheTree creatingTwice 2).Shows creatingCall.path := by decide +kernel
  obtain ⟨_, created, _⟩ := (hands_out cacheTree comes).1 creatingCall.path
    (Session.ok_of_toOption (by decide +kernel))
  rcases created rfl with ⟨found, _⟩ | ⟨_, _, empty, _, apart⟩
  · exact absurd found free
  · exact ⟨empty, apart 0 (by decide) first⟩

/-- The tree with a file of someone else where the call is to create one. -/
def foreignTree : Files :=
  { cacheTree with
    entries := cacheTree.entries ++
      [(["tmp", "work", "cache", "staging",
        Staging.shortDigest "unit" ++ "_" ++ Session.tokenText 1], .file [0x78] 0)] }

/-- A call is to create a path at which there is a file of someone else. It hands out the path as if
it had created it, and what is there is not empty. -/
theorem creatingCall_foreign :
    foreignTree.read creatingCall.path = .ok [0x78] ∧ creatingCall.create = true ∧
      (creatingCall.run foreignTree).2 = .ok creatingCall.path ∧
        (creatingCall.run foreignTree).1.read creatingCall.path = .ok [0x78] ∧
          (creatingCall.run foreignTree).1.entries = foreignTree.entries :=
  ⟨Session.ok_of_toOption (by decide +kernel), rfl, Session.ok_of_toOption (by decide +kernel),
    Session.ok_of_toOption (by decide +kernel), by decide +kernel⟩

end StagingCall

end Hotload
