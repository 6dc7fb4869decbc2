import Hotload.Proofs.CacheDirectory
import Hotload.Proofs.LoadLock
import Hotload.Proofs.Wiring

/-!
# Loads and the files they leave alone

A load changes the file tree at two places, that of its archive and that of its artifact. Archives
have names of their own, and a load has its artifact to itself from the check under the lock that
found it missing to the end of its compile. Therefore an artifact that was compiled and registered
stands as it was, whatever loads follow.

`Ready` is what this needs to begin with: the resolver is held; no path of an artifact ends at a
link; and what is removed or written under names of its own, archives that are still to be staged
and files of passing use, is not where an artifact goes. Loads keep it so. A resolver whose
directory is housed is ready, unless the extension of its artifacts leads them into a subdirectory.
-/

namespace Hotload

open Files (SameSkeleton Plain Apart Touches Inside)

namespace Session

/-- Where the artifact goes whose name is the digest of a text. -/
def durable (resolver : Resolver) (text : String) : String :=
  Path.join resolver.layout.root
    (Staging.withExtension (Staging.digest text) resolver.staging.artifactExtension)

/-- The archive staged for a key when the token with a number is drawn. -/
def archiveFor (resolver : Resolver) (key : String) (number : Nat) : String :=
  resolver.staging.pathFor key (some resolver.staging.archiveExtension) (tokenText number)

/-- A path through which no artifact is changed. -/
structure Spare (resolver : Resolver) (files : Files) (path : String) : Prop where
  plain : Plain files path
  apart : ∀ text, Apart files path (durable resolver text)

/-- Loads with a resolver can begin. The host holds the resolver, whose settings are known; and
neither the archives that it is going to stage nor a file of passing use that is still to be removed
is in the way of an artifact, whatever its name. -/
structure Ready (session : Session) (id : Nat) (holder : String) (resolver : Resolver) : Prop where
  held : (holder, .loader (.resolver id)) ∈ session.held
  opened : ∃ now, session.resolvers.get? id = some now ∧ now.staging = resolver.staging ∧
    now.platform = resolver.platform
  plain : ∀ text, Plain session.files (durable resolver text)
  archives : ∀ key number, session.fresh ≤ number →
    Spare resolver session.files (archiveFor resolver key number)
  temporaries : ∀ entry ∈ session.temporaries, entry.2.isReleased = false →
    Spare resolver session.files entry.2.path

variable {id : Nat} {holder : String} {resolver : Resolver}

/-- Whether a path is spare hangs on the skeleton. -/
theorem Spare.of_skeleton {files other : Files} {path : String}
    (spare : Spare resolver files path) (same : SameSkeleton files other) :
    Spare resolver other path :=
  ⟨spare.plain.of_skeleton same, fun text => (spare.apart text).of_skeleton same⟩

/-! ## A housed directory -/

/-- No artifact goes into a subdirectory: where the extension makes the name of an artifact a path
of several parts, the first of them is not the name of a subdirectory. -/
def Direct (home : Home) (resolver : Resolver) : Prop :=
  ∀ text first rest, Path.parts (Staging.withExtension (Staging.digest text)
    resolver.staging.artifactExtension) = first :: rest → rest ≠ [] →
      first ≠ home.staging ∧ first ≠ home.libraries

/-- An extension without separators leads no artifact into a subdirectory. -/
theorem direct_of_whole {home : Home} (whole : ∀ extension,
    resolver.staging.artifactExtension = some extension → '/' ∉ extension.toList) :
    Direct home resolver := by
  intro text first rest parts several
  refine absurd (Path.parts_whole ?_ parts) several
  have digest : '/' ∉ (Staging.digest text).toList :=
    fun member => (Bytes.hex_proper member).1 rfl
  cases named : resolver.staging.artifactExtension with
  | none => exact digest
  | some extension => simp [Staging.withExtension, digest, whole extension named]

/-- No file is put or removed in the directory through the path. -/
structure Aloof (home : Home) (files : Files) (path : String) : Prop where
  plain : Plain files path
  outside : ∀ location, files.target? path = some location → ¬ Inside home.place location

/-- Whether a path is aloof hangs on the skeleton. -/
theorem Aloof.of_skeleton {home : Home} {files other : Files} {path : String}
    (aloof : Aloof home files path) (same : SameSkeleton files other) : Aloof home other path :=
  ⟨aloof.plain.of_skeleton same, fun location target => aloof.outside location
    ((same.target path).symm.trans target)⟩

/-- The path of a file that the resolver stages. -/
def IsStaged (resolver : Resolver) (path : String) : Prop :=
  ∃ key extension number, path = resolver.staging.pathFor key extension (tokenText number)

section

variable {home : Home} {files : Files}

/-- An artifact is at most where its first part names. -/
theorem durable_place (housed : Housed home files) (layout : resolver.layout = home.layout)
    (direct : Direct home resolver) {text : String} {location : Location}
    (place : files.place? true (durable resolver text) = some location) :
    ∃ first, location = home.place ++ [first] ∧ Path.Single first first := by
  obtain ⟨relative, first, rest, parts, notHere, notUp⟩ :=
    Staging.durable_parts text resolver.staging.artifactExtension
  unfold durable at place
  rw [layout] at place
  exact ⟨first, housed.direct_place relative parts notHere notUp (direct text first rest parts)
    place, Path.single_of_parts parts notHere notUp⟩

/-- No artifact goes to a link. -/
theorem durable_plain (housed : Housed home files) (layout : resolver.layout = home.layout)
    (direct : Direct home resolver) (text : String) : Plain files (durable resolver text) := by
  obtain ⟨relative, first, rest, parts, notHere, notUp⟩ :=
    Staging.durable_parts text resolver.staging.artifactExtension
  unfold durable
  rw [layout]
  exact housed.direct_plain relative parts notHere notUp (direct text first rest parts)

/-- The path of a staged file is spare. -/
theorem IsStaged.spare (housed : Housed home files) (layout : resolver.layout = home.layout)
    (direct : Direct home resolver) {path : String} (staged : IsStaged resolver path) :
    Spare resolver files path := by
  obtain ⟨key, extension, number, rfl⟩ := staged
  obtain ⟨relative, first, rest, parts, notHere, notUp⟩ := staged_parts key number extension
  have path_eq : resolver.staging.pathFor key extension (tokenText number) =
      Path.join home.layout.staging (Staging.withExtension (stagedStem key number) extension) := by
    rw [pathFor_eq, ← layout]
    rfl
  rw [path_eq]
  refine ⟨(housed.staged_slot relative parts notHere notUp).plain, ?_⟩
  intro text location target place
  unfold Files.target? at target
  split at target
  · cases target
  · -- Staged files are one directory further down than artifacts.
    have staged := housed.staged_place relative parts notHere notUp target
    obtain ⟨name, durable, _⟩ := durable_place housed layout direct place
    rw [staged] at durable
    have lengths := congrArg List.length durable
    simp [Home.stagingPlace] at lengths

/-- A path that is aloof is spare. -/
theorem Aloof.spare (housed : Housed home files) (layout : resolver.layout = home.layout)
    (direct : Direct home resolver) {path : String} (aloof : Aloof home files path) :
    Spare resolver files path := by
  refine ⟨aloof.plain, ?_⟩
  intro text location target place
  obtain ⟨name, rfl, _⟩ := durable_place housed layout direct place
  exact aloof.outside _ target (Files.inside_append home.place (by simp))

end

/-- Loads with a resolver that is held can begin where its directory is housed, no artifact goes
into a subdirectory, and every file of passing use is staged there or aloof. -/
theorem Ready.of_housed {session : Session} {home : Home} (housed : Housed home session.files)
    (layout : resolver.layout = home.layout) (direct : Direct home resolver)
    (held : (holder, .loader (.resolver id)) ∈ session.held)
    (opened : ∃ now, session.resolvers.get? id = some now ∧ now.staging = resolver.staging ∧
      now.platform = resolver.platform)
    (temporaries : ∀ entry ∈ session.temporaries, entry.2.isReleased = false →
      IsStaged resolver entry.2.path ∨ Aloof home session.files entry.2.path) :
    Ready session id holder resolver where
  held := held
  opened := opened
  plain := durable_plain housed layout direct
  archives := fun key number _ => IsStaged.spare housed layout direct ⟨key, _, number, rfl⟩
  temporaries := by
    intro entry listed unreleased
    rcases temporaries entry listed unreleased with staged | aloof
    · exact staged.spare housed layout direct
    · exact aloof.spare housed layout direct

/-! ## What loads keep -/

/-- The path computed for an artifact is where one goes. -/
theorem durable_of_path {container output : String} {files : Files}
    (found : resolver.staging.durablePath container files = .ok output) :
    ∃ text, output = durable resolver text := by
  unfold Staging.durablePath at found
  split at found
  · cases found
  · next modified _ =>
    cases found
    exact ⟨Staging.durableMessage container modified, rfl⟩

/-- The trees have one skeleton, and every artifact is shown as before. -/
structure Spares (resolver : Resolver) (files other : Files) : Prop where
  skeleton : SameSkeleton files other
  shown : ∀ text, other.shown? (durable resolver text) = files.shown? (durable resolver text)

theorem Spares.refl (files : Files) : Spares resolver files files :=
  ⟨SameSkeleton.refl files, fun _ => rfl⟩

theorem Spares.trans {first second third : Files} (left : Spares resolver first second)
    (right : Spares resolver second third) : Spares resolver first third :=
  ⟨left.skeleton.trans right.skeleton, fun text => (right.shown text).trans (left.shown text)⟩

/-- A change at the target of a spare path spares all artifacts. -/
theorem Spare.spares {files other : Files} {path : String} (spare : Spare resolver files path)
    (touches : Touches path files other) : Spares resolver files other :=
  ⟨touches.skeleton, fun text => touches.status (spare.apart text)⟩

/-- Letting go spares all artifacts. -/
theorem Ready.settle_spares {session : Session} (ready : Ready session id holder resolver) :
    Spares resolver session.files session.settle.files := by
  refine settle_files (Spares resolver session.files) (Spares.refl _) ?_
  intro files id temporary spared present unreleased _
  have spare := (ready.temporaries (id, temporary) (Table.mem_of_get? present)
    unreleased).of_skeleton spared.skeleton
  exact spared.trans (spare.spares (Files.removeIfExists_touches spare.plain))

/-- A later session in which everything stands that loads need. -/
structure Onward (before after : Session) (id : Nat) : Prop where
  held : after.held = before.held
  opened : ∀ now, before.resolvers.get? id = some now →
    ∃ later, after.resolvers.get? id = some later ∧ later.staging = now.staging ∧
      later.platform = now.platform
  skeleton : SameSkeleton before.files after.files
  fresh : before.fresh ≤ after.fresh
  temporaries : ∀ entry ∈ after.temporaries, entry ∈ before.temporaries

theorem Onward.refl (session : Session) : Onward session session id :=
  ⟨rfl, fun now there => ⟨now, there, rfl, rfl⟩, SameSkeleton.refl _, Nat.le_refl _,
    fun _ listed => listed⟩

theorem Onward.trans {first second third : Session} (left : Onward first second id)
    (right : Onward second third id) : Onward first third id where
  held := right.held.trans left.held
  opened := by
    intro now there
    obtain ⟨later, atSecond, staging, platform⟩ := left.opened now there
    obtain ⟨last, atThird, lastStaging, lastPlatform⟩ := right.opened later atSecond
    exact ⟨last, atThird, lastStaging.trans staging, lastPlatform.trans platform⟩
  skeleton := left.skeleton.trans right.skeleton
  fresh := Nat.le_trans left.fresh right.fresh
  temporaries := fun entry listed => left.temporaries entry (right.temporaries entry listed)

/-- Resolvers with the same links were opened alike. -/
theorem opened_of_links {before after : Session}
    (same : (after.resolvers.get? id).map Resolver.links =
      (before.resolvers.get? id).map Resolver.links) (now : Resolver)
    (there : before.resolvers.get? id = some now) :
    ∃ later, after.resolvers.get? id = some later ∧ later.staging = now.staging ∧
      later.platform = now.platform := by
  rw [there, Option.map_some] at same
  obtain ⟨later, stands, linked⟩ := Option.map_eq_some_iff.mp same
  exact ⟨later, stands, congrArg ResolverLinks.staging linked,
    congrArg ResolverLinks.platform linked⟩

/-- Steps that keep the links and the skeleton lead onward. -/
theorem KeepsLinks.onward {before after : Session} (kept : KeepsLinks before after)
    (skeleton : SameSkeleton before.files after.files)
    (temporaries : after.temporaries = before.temporaries) : Onward before after id where
  held := congrArg Links.held kept.links
  opened := opened_of_links (kept.resolver id)
  skeleton := skeleton
  fresh := kept.fresh
  temporaries := fun _ listed => temporaries ▸ listed

/-- What lies onward is ready for loads. -/
theorem Ready.onward {before after : Session} (ready : Ready before id holder resolver)
    (onward : Onward before after id) : Ready after id holder resolver where
  held := onward.held ▸ ready.held
  opened := by
    obtain ⟨now, there, staging, platform⟩ := ready.opened
    obtain ⟨later, stands, laterStaging, laterPlatform⟩ := onward.opened now there
    exact ⟨later, stands, laterStaging.trans staging, laterPlatform.trans platform⟩
  plain := fun text => (ready.plain text).of_skeleton onward.skeleton
  archives := fun key number undrawn =>
    (ready.archives key number (Nat.le_trans onward.fresh undrawn)).of_skeleton onward.skeleton
  temporaries := fun entry listed unreleased =>
    (ready.temporaries entry (onward.temporaries entry listed) unreleased).of_skeleton
      onward.skeleton

/-- Letting go leads onward. -/
theorem Ready.settle_onward {session : Session} (ready : Ready session id holder resolver) :
    Onward session session.settle id where
  held := settle_held session
  opened := by
    have held : (holder, .loader (.resolver id)) ∈ session.settle.held := by
      rw [settle_held]
      exact ready.held
    exact opened_of_links (session.settle_resolver (held_mem_targets held))
  skeleton := ready.settle_spares.skeleton
  fresh := settle_fresh session
  temporaries := fun _ listed => settle_mem listed

/-- Putting a unit into a registry leads onward. -/
theorem enlisted_onward (session : Session) (id : Nat) (unit : LoadedUnit) :
    Onward session (session.enlisted id unit) id := by
  refine ⟨rfl, ?_, SameSkeleton.refl _, Nat.le_succ _, fun _ listed => listed⟩
  intro was present
  have added : (session.addUnit unit).1.resolvers.get? id = some was := present
  refine ⟨{ was with registry := Registry.register was.registry unit.name session.fresh }, ?_,
    rfl, rfl⟩
  simp only [Session.enlisted, updateResolver, Table.get?_update, ↓reduceIte, added,
    Option.map_some]

/-- Registering leads onward and spares all artifacts. -/
theorem Ready.register {session : Session} (ready : Ready session id holder resolver)
    (name artifact : String) (temporary : Option Nat) :
    Onward session (session.register id name artifact temporary).1 id ∧
      Spares resolver session.files (session.register id name artifact temporary).1.files := by
  rcases session.register_cases id name artifact temporary with
    ⟨error, failed⟩ | ⟨now, size, content, there, _, _, succeeded⟩
  · rw [failed]
    exact ⟨Onward.refl session, Spares.refl _⟩
  · rw [succeeded, enlist_eq]
    generalize unitOf now name artifact temporary content = unit
    have enlisted := session.enlisted_onward id unit
    have now := ready.onward enlisted
    exact ⟨enlisted.trans now.settle_onward, now.settle_spares⟩

/-- Staging an archive draws a token and clears the path of whatever file is there. -/
theorem stage_archive (session : Session) (staging : Staging) (key : String)
    (extension : Option String) {path : String}
    (named : staging.pathFor key extension (tokenText session.fresh) = path) :
    session.stage staging key extension false =
      ({ session.number.1 with files := (session.files.removeIfExists path).1 },
        match (session.files.removeIfExists path).2 with
        | .ok _ => .ok path
        | .error error => .error (.staging ⟨path, error⟩)) := by
  unfold Session.stage token Staging.stage
  simp only [number, Bool.false_eq_true, ↓reduceIte, named]
  rcases session.files.removeIfExists path with ⟨after, error | isRemoved⟩ <;> rfl

/-- Staging an archive leads onward and spares all artifacts, and the archive is spare. -/
theorem Ready.stage {session : Session} (ready : Ready session id holder resolver) (key : String)
    {after : Session} {result : Except LoadError String}
    (staged : session.stage resolver.staging key (some resolver.staging.archiveExtension) false =
      (after, result)) :
    Onward session after id ∧ Spares resolver session.files after.files ∧
      ∀ archive, result = .ok archive → Spare resolver after.files archive := by
  have spare := ready.archives key session.fresh (Nat.le_refl _)
  generalize named : archiveFor resolver key session.fresh = path at spare
  have touches := Files.removeIfExists_touches spare.plain
  rw [session.stage_archive resolver.staging key _ named] at staged
  cases staged
  refine ⟨⟨rfl, fun now there => ⟨now, there, rfl, rfl⟩, touches.skeleton, Nat.le_succ _,
    fun _ listed => listed⟩, spare.spares touches, ?_⟩
  intro archive isOk
  have same : archive = path := by
    split at isOk
    · exact (Except.ok.inj isOk).symm
    · cases isOk
  rw [same]
  exact spare.of_skeleton touches.skeleton

end Session

end Hotload
