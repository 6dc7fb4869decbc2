import Hotload.Proofs.HostRuns

/-!
# What emptying a cache directory spares

A resolver without another resolver as its parent is opened over a directory that is there, or a
resolver is unloaded: the directory is emptied down to its two subdirectories, whatever tree stood in
it. Links are removed and not followed, so nothing outside of the directory changes. An unload lets go
of all registered units as well. What was referred to through them only is gone then, and of the files
of passing use among it those are deleted that were not released, wherever they stand. Everything that
is still referred to stays as it was.

Both need that the path of the directory does not lead through the directory itself. The
configuration of a resolver is not checked for that.
-/

namespace Hotload

open Files

/-- The directory that a configuration asks for, at a place of the tree. -/
def Config.home (config : Config) (place : Location) : Home :=
  ⟨config.cacheDirectory, place, config.stagingDirectory, config.librariesDirectory⟩

/-! ## Trees that lose nodes -/

/-- The directory holds its two subdirectories and nothing else, and outside of it nodes may be gone
but none has changed. -/
structure Thinned (home : Home) (files after : Files) : Prop where
  within : ∀ location, Inside home.place location → after.node? location =
    if location = home.stagingPlace ∨ location = home.librariesPlace then some .directory else none
  outside : ∀ location, ¬ Inside home.place location →
    after.node? location = files.node? location ∨ after.node? location = none

/-- A vacant directory is thinned, if nothing outside of it has changed. -/
theorem Vacant.thinned {home : Home} {files after : Files} (vacant : Vacant home after)
    (same : SameOutside home.place files after) : Thinned home files after where
  within := by
    intro location inside
    have bones := vacant.housed.bones location inside
    split
    · next isSubdirectory =>
      rw [if_pos isSubdirectory] at bones
      exact node?_of_bone bones
    · next other =>
      refine Classical.byContradiction fun stands => ?_
      exact other (vacant.alone location inside stands)
  outside := fun location outside => .inl (same location outside)

/-- Removing what a path names takes away one file or link, if anything. -/
theorem Files.removeIfExists_cases (files : Files) (path : String) :
    (files.removeIfExists path).1 = files ∨ ∃ location node,
      files.locate false path = .ok (.taken location node) ∧ node ≠ .directory ∧
        files.node? location = some node ∧
          (files.removeIfExists path).1 = files.erase location := by
  have truthful := files.locate_truthful false path
  unfold removeIfExists unlink
  rcases found : files.locate false path with
    error | (⟨location, ⟨content, modified⟩ | _ | target⟩ | ⟨directory, name⟩)
  all_goals rw [found] at truthful
  · cases error <;> exact .inl rfl
  · by_cases separated : Path.endsInSeparator path = true
    · exact .inl (by simp [separated])
    · exact .inr ⟨location, _, rfl, by simp, truthful, by simp [separated]⟩
  · exact .inl rfl
  · by_cases separated : Path.endsInSeparator path = true
    · exact .inl (by simp [separated])
    · exact .inr ⟨location, _, rfl, by simp, truthful.2, by simp [separated]⟩
  · exact .inl rfl

/-- What stands outside of a thinned directory stood there before. -/
theorem Thinned.before {home : Home} {files after : Files} (thinned : Thinned home files after)
    {location : Location} (outside : ¬ Inside home.place location) {node : Node}
    (stands : after.node? location = some node) : files.node? location = some node := by
  rcases thinned.outside location outside with same | gone
  · exact same.symm.trans stands
  · exact absurd (gone.symm.trans stands) (by simp)

/-- There are only directories in a thinned directory. -/
theorem Thinned.not_inside {home : Home} {files after : Files} (thinned : Thinned home files after)
    {location : Location} {node : Node} (stands : after.node? location = some node)
    (other : node ≠ .directory) : ¬ Inside home.place location := by
  intro inside
  rw [thinned.within location inside] at stands
  split at stands
  · exact other (Option.some.inj stands).symm
  · cases stands

/-- Taking away a file or a link leaves a thinned directory thinned. -/
theorem Thinned.erase {home : Home} {files after : Files} (thinned : Thinned home files after)
    {location : Location} {node : Node} (stands : after.node? location = some node)
    (other : node ≠ .directory) : Thinned home files (after.erase location) := by
  have apart := thinned.not_inside stands other
  have present : location ≠ [] := by
    rintro rfl
    exact other (Option.some.inj stands).symm
  constructor
  · intro inner inside
    rw [node?_erase after present, if_neg, thinned.within inner inside]
    rintro rfl
    exact apart inside
  · intro outer outside
    rw [node?_erase after present]
    split
    · exact .inr rfl
    · exact thinned.outside outer outside

namespace Session

variable {session before after : Session} {id : Nat} {resolver : Resolver} {home : Home}

/-! ## What letting go leaves -/

/-- Of the units, letting go leaves those that are referred to, as they were. -/
theorem settle_units_get? (session : Session) (unit : Nat) :
    session.settle.units.get? unit =
      if .loader (.unit unit) ∈ session.settle.targets then session.units.get? unit else none := by
  split
  · next referred =>
    rw [session.settle_keepsLinks.targets] at referred
    rw [session.settle_loaders.1, session.keptLoaders_pruned.unit referred]
  · next unreferred =>
    rw [← Option.not_isSome_iff_eq_none]
    exact fun present => unreferred ((tidy_settle session).units unit present)

/-- Of the resolvers, letting go leaves those that are referred to, as they were. -/
theorem settle_resolvers_get? (session : Session) (id : Nat) :
    session.settle.resolvers.get? id =
      if .loader (.resolver id) ∈ session.settle.targets then session.resolvers.get? id
      else none := by
  split
  · next referred =>
    rw [session.settle_keepsLinks.targets] at referred
    rw [session.settle_loaders.2, session.keptLoaders_pruned.resolver referred]
  · next unreferred =>
    rw [← Option.not_isSome_iff_eq_none]
    exact fun present => unreferred ((tidy_settle session).resolvers id present)

/-- Of the files of passing use, letting go leaves those that are referred to, as they were. -/
theorem settle_temporaries_get? (session : Session) (temporary : Nat) :
    session.settle.temporaries.get? temporary =
      if .temporary temporary ∈ session.settle.targets then
        session.temporaries.get? temporary else none := by
  split
  · next referred =>
    rw [session.settle_keepsLinks.targets] at referred
    have alive : temporary ∉ session.keptLoaders.deadTemporaries := fun dead => by
      simpa [referred] using (List.mem_filter.mp dead).2
    rw [settle_eq, dropTemporaries_get?, if_neg alive, session.keptLoaders_pruned.rest]
  · next unreferred =>
    refine Option.eq_none_iff_forall_ne_some.mpr fun left present => ?_
    exact unreferred (settle_referred present)

/-! ## Configurations of resolvers -/

/-- Every resolver stages as a configuration without flaws asks for. -/
def Configured (session : Session) : Prop :=
  ∀ id resolver, session.resolvers.get? id = some resolver →
    ∃ config : Config, config.flaw? = none ∧ resolver.staging = Staging.ofConfig config

/-- Steps keep resolvers configured that leave no others, and their staging as it was. -/
theorem Configured.of_stagings (configured : Configured before)
    (same : ∀ id later, after.resolvers.get? id = some later →
      ∃ earlier, before.resolvers.get? id = some earlier ∧ earlier.staging = later.staging) :
    Configured after := by
  intro id later present
  obtain ⟨earlier, early, staging⟩ := same id later present
  rw [← staging]
  exact configured id earlier early

theorem Configured.keeps (configured : Configured before) (kept : KeepsLinks before after) :
    Configured after := by
  refine configured.of_stagings fun id later present => ?_
  obtain ⟨earlier, early, staging, _⟩ := opened_of_links (kept.resolver id).symm later present
  exact ⟨earlier, early, staging⟩

theorem Configured.settle (configured : Configured session) : Configured session.settle := by
  refine configured.of_stagings fun id later present => ?_
  rw [settle_resolvers_get?] at present
  split at present
  · exact ⟨later, present, rfl⟩
  · cases present

theorem Configured.updateResolver (configured : Configured session) (id : Nat)
    (change : Resolver → Resolver)
    (staging : ∀ resolver, (change resolver).staging = resolver.staging) :
    Configured (session.updateResolver id change) := by
  refine configured.of_stagings fun other later present => ?_
  rw [Session.updateResolver, Table.get?_update] at present
  split at present
  · obtain ⟨earlier, early, rfl⟩ := Option.map_eq_some_iff.mp present
    exact ⟨earlier, early, (staging earlier).symm⟩
  · exact ⟨later, present, rfl⟩

/-- A configuration with a flaw opens no resolver. -/
theorem Configured.openResolver (configured : Configured session) (config : Config)
    (compiler : Compiler) (platform : Platform) (parent : Option Loader) :
    Configured (session.openResolver config compiler platform parent).1 := by
  have prepared := configured.keeps
    (prepare_keepsLinks session (Staging.ofConfig config).layout parent)
  unfold Session.openResolver
  split
  · exact configured
  · next sound =>
    dsimp only
    split
    · next heard =>
      rw [heard] at prepared
      exact prepared
    · next after heard =>
      rw [heard] at prepared
      intro id resolver present
      simp only [number, Table.get?_add] at present
      rcases Option.or_eq_some_iff.mp present with early | ⟨_, new⟩
      · exact prepared id resolver early
      · split at new
        · obtain rfl := Option.some.inj new
          exact ⟨config, sound, rfl⟩
        · cases new

theorem Configured.unload (configured : Configured session) (id : Nat) :
    Configured (session.unload id).1 := by
  unfold Session.unload
  split
  · exact configured
  · next resolver _ =>
    have purged : Configured (session.purge resolver.layout).1 := configured
    refine Configured.settle (Configured.updateResolver purged id _ ?_)
    exact fun _ => rfl

/-- Resolvers stay configured. -/
theorem configured_persistent : Persistent Configured where
  keeps := fun configured left => configured.keeps left.toKeepsLinks
  find := fun configured loader name =>
    configured.keeps (quiet_follows.find _ loader name).toKeepsLinks
  findRegistered := fun configured id name =>
    configured.keeps (quiet_follows.findRegistered _ id name).toKeepsLinks
  settle := Configured.settle
  hold := fun configured _ => configured
  addUnit := fun configured _ _ => configured
  register := by
    intro session configured id name artifact temporary
    rcases session.register_cases id name artifact temporary with
      ⟨error, failed⟩ | ⟨resolver, size, content, _, _, _, succeeded⟩
    · rw [failed]
      exact configured
    · rw [succeeded, enlist_eq]
      have added : Configured (session.addUnit (unitOf resolver name artifact temporary
        content)).1 := configured
      refine Configured.settle (Configured.updateResolver added id _ ?_)
      exact fun _ => rfl
  setLocal := by
    intro session configured id loader
    refine Configured.settle (Configured.updateResolver configured id _ ?_)
    exact fun _ => rfl
  openResolver := Configured.openResolver

/-- In every session that operations lead to, resolvers are configured. -/
theorem Reachable.configured (reached : Reachable session) : Configured session :=
  configured_persistent.reachable Configured.unload (fun _ _ _ present => by cases present) reached

/-! ## Unloading -/

/-- The session in which a directory was emptied and a registry as well, before anything is let go
of. -/
def unlisted (session : Session) (id : Nat) (layout : Layout) : Session :=
  (session.purge layout).1.updateResolver id fun resolver => { resolver with registry := [] }

/-- An unload empties both and then lets go of what is no longer needed. -/
theorem unload_eq (present : session.resolvers.get? id = some resolver) :
    session.unload id = ((session.unlisted id resolver.layout).settle,
      (resolver.layout.purge session.files).result) := by
  unfold unload
  rw [present]
  rfl

/-- What is referred to after an unload is what it was, the emptied registry apart, and everything
else is gone. -/
structure Unloaded (session after : Session) (id : Nat) (resolver : Resolver) : Prop where
  held : after.held = session.held
  reapers : after.reapers = session.reapers
  unlisted : after.resolvers.get? id =
    if .loader (.resolver id) ∈ after.targets then some { resolver with registry := [] } else none
  others : ∀ other, other ≠ id → after.resolvers.get? other =
    if .loader (.resolver other) ∈ after.targets then session.resolvers.get? other else none
  units : ∀ unit, after.units.get? unit =
    if .loader (.unit unit) ∈ after.targets then session.units.get? unit else none
  temporaries : ∀ temporary, after.temporaries.get? temporary =
    if .temporary temporary ∈ after.targets then session.temporaries.get? temporary else none

/-- An unload leaves that, whether it succeeds or not. -/
theorem unload_unloaded (present : session.resolvers.get? id = some resolver) :
    Unloaded session (session.unload id).1 id resolver := by
  rw [unload_eq present]
  have updated : ∀ other, (session.unlisted id resolver.layout).resolvers.get? other =
      if other = id then (session.resolvers.get? other).map fun now => { now with registry := [] }
      else session.resolvers.get? other :=
    fun other => Table.get?_update session.resolvers id other fun now =>
      { now with registry := [] }
  refine ⟨settle_held _, ?_, ?_, fun other away => ?_, settle_units_get? _,
    settle_temporaries_get? _⟩
  · rw [settle_rest]
    rfl
  · rw [settle_resolvers_get?, updated, if_pos rfl, present]
    rfl
  · rw [settle_resolvers_get?, updated, if_neg away]

/-- A file of passing use that was not released and has lost its last reference. -/
structure Forsaken (session after : Session) (id : Nat) (temporary : TemporaryFile) : Prop where
  present : session.temporaries.get? id = some temporary
  unreleased : temporary.isReleased = false
  referred : .temporary id ∈ session.targets
  unreferred : .temporary id ∉ after.targets

/-- At a location stands, once the directory is emptied, what the path of a forsaken file names, and it
is no directory. -/
def LostAt (home : Home) (session after : Session) (location : Location) : Prop :=
  ∃ id temporary, Forsaken session after id temporary ∧
    ∃ between node, Thinned home session.files between ∧ node ≠ .directory ∧
      between.locate false temporary.path = .ok (.taken location node)

/-- A tree in which the directory was emptied, and outside of it only forsaken files are gone. -/
structure Swept (home : Home) (session after : Session) (files : Files) : Prop where
  thinned : Thinned home session.files files
  lost : ∀ location, ¬ Inside home.place location →
    files.node? location ≠ session.files.node? location → LostAt home session after location

/-- Letting go sweeps what forsaken files leave. -/
theorem Swept.settle {later : Session} (settled : Settled session)
    (temporaries : later.temporaries = session.temporaries)
    (swept : Swept home session later.settle later.files) :
    Swept home session later.settle later.settle.files := by
  refine settle_files (Swept home session later.settle) swept ?_
  intro files id temporary now present unreleased unreferred
  rcases files.removeIfExists_cases temporary.path with
    same | ⟨location, node, found, other, stands, removed⟩
  · rw [same]
    exact now
  · rw [removed]
    have early : session.temporaries.get? id = some temporary := temporaries ▸ present
    refine ⟨now.thinned.erase stands other, fun place outside changed => ?_⟩
    by_cases here : place = location
    · exact here ▸ ⟨id, temporary,
        ⟨early, unreleased, settled id temporary early, unreferred⟩, files, node, now.thinned,
        other, found⟩
    · refine now.lost place outside fun same => changed ?_
      have inside : location ≠ [] := by
        rintro rfl
        exact other (Option.some.inj stands).symm
      rw [node?_erase files inside, if_neg here, same]

/-- The path of the directory still leads to it, unless a link on its way was a forsaken file. -/
theorem Swept.anchored {files : Files} (swept : Swept home session after files)
    (anchored : Anchored session.files home.root home.place)
    (links : ∀ location target, ¬ Inside home.place location →
      session.files.node? location = some (.link target) → files.node? location ≠ none) :
    Anchored files home.root home.place := by
  refine anchored.of_outside fun location outside => ?_
  unfold bone?
  rcases swept.thinned.outside location outside with same | gone
  · rw [same]
  · by_cases changed : files.node? location = session.files.node? location
    · rw [changed]
    obtain ⟨id, temporary, _, between, node, thinned, other, found⟩ :=
      swept.lost location outside changed
    have truthful := between.locate_truthful false temporary.path
    rw [found] at truthful
    -- What is gone was a file, and files bar every path.
    cases node with
    | directory => exact absurd rfl other
    | link target => exact absurd gone (links location target outside (thinned.before outside truthful.2))
    | file content modified => rw [gone, thinned.before outside truthful]; rfl

/-- An unload that succeeds empties the directory and sweeps what its forsaken files leave. -/
theorem unload_swept (settled : Settled session)
    (present : session.resolvers.get? id = some resolver)
    {config : Config} (sound : config.flaw? = none)
    (configured : resolver.staging = Staging.ofConfig config) {place : Location}
    (anchored : Anchored session.files config.cacheDirectory place)
    (regular : Regular place session.files) (done : (session.unload id).2 = .ok ()) :
    Swept (config.home place) session (session.unload id).1 (session.unload id).1.files := by
  obtain ⟨staging, libraries, distinct⟩ := names_of_config sound
  have layout : resolver.layout = (config.home place).layout := by
    unfold Resolver.layout
    rw [configured]
    rfl
  rw [unload_eq present] at done ⊢
  rw [layout] at done ⊢
  have standing : Anchored session.files (config.home place).root (config.home place).place :=
    anchored
  obtain ⟨_, vacant, same⟩ :=
    Home.vacant_of_purge staging libraries distinct standing regular done
  refine Swept.settle settled rfl ⟨vacant.thinned same, fun location outside changed => ?_⟩
  exact absurd (same location outside) changed

/-! ## Opening -/

/-- An opening without a resolver as the parent that succeeds over a directory leaves the directory
vacant, and nothing outside of it has changed. -/
theorem openResolver_vacant {config : Config} {compiler : Compiler} {platform : Platform}
    {parent : Option Loader} {place : Location}
    (opens : session.openResolver config compiler platform parent = (after, .ok id))
    (noResolver : parent.any isResolver = false)
    (anchored : Anchored session.files config.cacheDirectory place)
    (regular : Regular place session.files) :
    Vacant (config.home place) after.files ∧ SameOutside place session.files after.files := by
  obtain ⟨sound, prepared, prepares, files, _⟩ := openResolver_ok opens
  obtain ⟨staging, libraries, distinct⟩ := names_of_config sound
  have standing : Anchored session.files (config.home place).root (config.home place).place :=
    anchored
  obtain ⟨rfl, done⟩ := Prod.mk.inj ((prepare_standing standing noResolver).symm.trans prepares)
  rw [files]
  exact (Home.vacant_of_purge staging libraries distinct standing regular done).2

/-! ## Both together -/

/-- Whatever a careful host did before. An opening without a resolver as its parent that succeeds
over a directory leaves nothing in it but its two subdirectories, which are empty, and changes
nothing outside of it. An unload empties the registry and leaves everything else as it was that is
still referred to; and if it succeeds, there is again nothing in the directory but its two
subdirectories, and outside of it nothing is gone but files of passing use that had their last
reference through the registry.

The path of the directory has to lead there whatever is in it. Both emptyings are one purge, whose
law is that of the walk through the tree; what an unload lets go of is told by what was referred to
before. -/
theorem emptied_of_hosted (hosted : Hosted session) :
    (∀ {config compiler platform parent place after id}, parent.any isResolver = false →
      Anchored session.files config.cacheDirectory place → Regular place session.files →
        session.openResolver config compiler platform parent = (after, .ok id) →
          Vacant (config.home place) after.files ∧
            SameOutside place session.files after.files) ∧
    ∀ {id resolver}, session.resolvers.get? id = some resolver →
      Unloaded session (session.unload id).1 id resolver ∧
        ∃ config : Config, config.flaw? = none ∧ resolver.staging = Staging.ofConfig config ∧
          ∀ {place}, Anchored session.files config.cacheDirectory place →
            Regular place session.files → (session.unload id).2 = .ok () →
              Swept (config.home place) session (session.unload id).1
                (session.unload id).1.files ∧
              ((∀ location target, ¬ Inside place location →
                  session.files.node? location = some (.link target) →
                    (session.unload id).1.files.node? location ≠ none) →
                Anchored (session.unload id).1.files config.cacheDirectory place) := by
  constructor
  · intro config compiler platform parent place after id noResolver anchored regular opens
    exact openResolver_vacant opens noResolver anchored regular
  · intro id resolver present
    obtain ⟨config, sound, configured⟩ := hosted.reachable.configured id resolver present
    refine ⟨unload_unloaded present, config, sound, configured, fun anchored regular done => ?_⟩
    have swept := unload_swept hosted.clean.settled present sound configured anchored regular done
    exact ⟨swept, swept.anchored anchored⟩

/-- A directory with a tree in it and a link out of it, next to two archives without entries. -/
def besideTree : Session :=
  { files := ⟨[(["tmp"], .directory), (["tmp", "work"], .directory),
      (["tmp", "work", "kept.zip"], .file (Zip.write []) 0),
      (["tmp", "work", "spare.zip"], .file (Zip.write []) 0),
      (["tmp", "kiln-cache"], .directory), (["tmp", "kiln-cache", "old"], .directory),
      (["tmp", "kiln-cache", "old", "deep"], .file [1] 0),
      (["tmp", "kiln-cache", "out"], .link "/tmp/work")], 0⟩ }

/-- A resolver is opened over the directory, and the link is made again. -/
def treeOpened : Session :=
  (besideTree.perform (.openResolver "loader" {} copying .archive none)).perform
    (.changeFiles fun files => files.put ["tmp", "kiln-cache", "out"] (.link "/tmp/work"))

/-- One of the archives is tracked as a file of passing use and registered, and then only the registry
refers to it. -/
def treeRegistered : Session :=
  ((treeOpened.trackHeld "spare" 0 "/tmp/work/spare.zip").perform
    (.register 1 "spare" "/tmp/work/spare.zip" (some 2))).perform (.letGo "spare")

theorem treeRegistered_hosted : Hosted treeRegistered := by
  have opened : Hosted (besideTree.perform (.openResolver "loader" {} copying .archive none)) :=
    .perform (.start besideTree.files) trivial
  have linked : Hosted treeOpened := .perform opened trivial
  have registered : Hosted ((treeOpened.trackHeld "spare" 0 "/tmp/work/spare.zip").perform
      (.register 1 "spare" "/tmp/work/spare.zip" (some 2))) := by
    refine .perform (.trackHeld linked "spare" 0 "/tmp/work/spare.zip") fun id listed => ?_
    obtain rfl := Option.mem_some_iff.mp listed
    decide +kernel
  exact .perform registered trivial

/-- The tree before the unload: the link leads out of the directory. -/
theorem treeRegistered_entries : treeRegistered.files.entries =
    [(["tmp"], .directory), (["tmp", "work"], .directory),
      (["tmp", "work", "kept.zip"], .file (Zip.write []) 0),
      (["tmp", "work", "spare.zip"], .file (Zip.write []) 0),
      (["tmp", "kiln-cache"], .directory), (["tmp", "kiln-cache", "staging"], .directory),
      (["tmp", "kiln-cache", "libs"], .directory),
      (["tmp", "kiln-cache", "out"], .link "/tmp/work")] := by
  decide +kernel

/-- The names in the directory are proper, and so are those of the tree that stood there first. -/
theorem besideTree_regular : Regular ["tmp", "kiln-cache"] besideTree.files ∧
    Regular ["tmp", "kiln-cache"] treeRegistered.files := by
  constructor
  · refine .of_entries fun entry listed name rest key => ?_
    simp only [besideTree, List.mem_cons, List.not_mem_nil, or_false] at listed
    rcases listed with rfl | rfl | rfl | rfl | rfl | rfl | rfl | rfl <;> simp at key
    all_goals
      obtain ⟨rfl, rfl⟩ := key
      exact ⟨single_of_isOneName (by decide), by decide⟩
  · refine .of_entries fun entry listed name rest key => ?_
    rw [treeRegistered_entries] at listed
    simp only [List.mem_cons, List.not_mem_nil, or_false] at listed
    rcases listed with rfl | rfl | rfl | rfl | rfl | rfl | rfl | rfl <;> simp at key
    all_goals
      obtain ⟨rfl, rfl⟩ := key
      exact ⟨single_of_isOneName (by decide), .inl rfl⟩

/-- A directory holds a tree and a link out of it. The tree is cleared away when a resolver is
opened over the directory, and a file that was tracked outside goes when the resolver is unloaded.
What the link leads to stays. -/
theorem emptied_of_hosted_linked :
    (Vacant copierHome (besideTree.openResolver {} copying .archive none).1.files ∧
      SameOutside copierHome.place besideTree.files
        (besideTree.openResolver {} copying .archive none).1.files) ∧
    (treeRegistered.unload 1).2 = .ok () ∧
    (treeRegistered.unload 1).1.files.node? ["tmp", "work", "spare.zip"] = none ∧
    ∃ resolver, treeRegistered.resolvers.get? 1 = some resolver ∧
      Unloaded treeRegistered (treeRegistered.unload 1).1 1 resolver ∧
      ∃ config : Config, resolver.staging = Staging.ofConfig config ∧
        Swept (config.home copierHome.place) treeRegistered (treeRegistered.unload 1).1
          (treeRegistered.unload 1).1.files ∧
        Anchored (treeRegistered.unload 1).1.files config.cacheDirectory copierHome.place := by
  have opened : Vacant copierHome (besideTree.openResolver {} copying .archive none).1.files ∧
      SameOutside copierHome.place besideTree.files
        (besideTree.openResolver {} copying .archive none).1.files := by
    have start : Hosted besideTree := .start besideTree.files
    have anchored : Anchored besideTree.files ({} : Config).cacheDirectory copierHome.place :=
      copierHome_anchored rfl rfl
    have succeeds : (besideTree.openResolver {} copying .archive none).2 = .ok 1 :=
      ok_of_toOption (by decide +kernel)
    rcases opens : besideTree.openResolver {} copying .archive none with ⟨after, result⟩
    rw [opens] at succeeds
    obtain rfl : result = .ok 1 := succeeds
    exact (emptied_of_hosted start).1 rfl anchored besideTree_regular.1 opens
  have unloads : (treeRegistered.unload 1).2 = .ok () := ok_of_toOption (by decide +kernel)
  have gone : (treeRegistered.unload 1).1.files.node? ["tmp", "work", "spare.zip"] = none := by
    decide +kernel
  obtain ⟨resolver, present, staging⟩ : ∃ resolver, treeRegistered.resolvers.get? 1 = some resolver ∧
      resolver.staging = Staging.ofConfig {} := by
    have known : (treeRegistered.resolvers.get? 1).map (·.staging) = some (Staging.ofConfig {}) := by
      decide +kernel
    exact Option.map_eq_some_iff.mp known
  have there : ∀ location ∈ [["tmp"], ["tmp", "kiln-cache"]],
      treeRegistered.files.node? location = some .directory := by decide +kernel
  have anchored : Anchored treeRegistered.files copierHome.root copierHome.place := by
    refine copierHome_anchored ?_ ?_
    all_goals
      unfold bone?
      rw [there _ (by decide)]
      rfl
  obtain ⟨unloaded, config, _, configured, swept⟩ :=
    (emptied_of_hosted treeRegistered_hosted).2 present
  have root : config.cacheDirectory = copierHome.root :=
    congrArg (·.layout.root) (configured.symm.trans staging)
  obtain ⟨isSwept, leads⟩ := swept (root ▸ anchored) besideTree_regular.2 unloads
  refine ⟨opened, unloads, gone, resolver, present, unloaded, config, configured, isSwept, leads ?_⟩
  -- The only link stands in the directory.
  intro location target outside link
  have below : location ≠ [] := by
    rintro rfl
    cases link
  unfold node? at link
  rw [if_neg below, treeRegistered_entries] at link
  obtain ⟨front, back, split, _⟩ := List.lookup_eq_some_iff.mp link
  have listed : (location, Node.link target) ∈ front ++ (location, Node.link target) :: back :=
    List.mem_append_right front List.mem_cons_self
  rw [← split] at listed
  simp only [List.mem_cons, Prod.mk.injEq, reduceCtorEq, and_false, List.not_mem_nil, or_false,
    false_or] at listed
  obtain ⟨rfl, _⟩ := listed
  exact absurd (inside_append copierHome.place (by simp)) outside

/-- A directory with a subdirectory. -/
def besideCrossing : Session :=
  { files := ⟨[(["tmp"], .directory), (["tmp", "work"], .directory),
      (["tmp", "work", "cache"], .directory), (["tmp", "work", "cache", "x"], .directory)], 0⟩ }

/-- A resolver that is opened over it by a path that leads through the subdirectory. -/
def crossingOpened : Session :=
  besideCrossing.perform
    (.openResolver "loader" { cacheDirectory := "cache/x/.." } copying .archive none)

/-- A path leads to the directory through a subdirectory of it, before and after. Both the opening
and an unload succeed, and yet the subdirectory is still there. -/
theorem crossing_keeps :
    (besideCrossing.files.place? true "cache/x/.." = some ["tmp", "work", "cache"] ∧
      crossingOpened.files.place? true "cache/x/.." = some ["tmp", "work", "cache"]) ∧
    crossingOpened.held.map (·.2) = [.loader (.resolver 1)] ∧
    (crossingOpened.files.list "cache").toOption = some ["x", "staging", "libs"] ∧
    (crossingOpened.unload 1).2.toOption = some () ∧
    ((crossingOpened.unload 1).1.files.list "cache").toOption = some ["staging", "libs", "x"] := by
  decide +kernel

end Session

end Hotload
